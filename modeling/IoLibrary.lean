import IoLibrary.Effects.Exec
import IoLibrary.Socket.Datagram
import IoLibrary.Socket.SendStream
import IoLibrary.Capacity
import IoLibrary.Gate
import IoLibrary.Containment
import IoLibrary.SendDiscipline
import IoLibrary.Spi.Framing
import IoLibrary.Spi.Detection
import IoLibrary.Spi.Refinement
import IoLibrary.TimeSource
import IoLibrary.Readiness
import IoLibrary.Base128
import IoLibrary.BufferMemory
import IoLibrary.TimeoutFloor
import IoLibrary.Publication
import IoLibrary.PollBound
import IoLibrary.Expiry
import IoLibrary.Dns.RoundTrip
import IoLibrary.Dns.Retransmission
import IoLibrary.Dns.Answers
import IoLibrary.Dhcp.Grants
import IoLibrary.Dhcp.Foreign
import IoLibrary.Dhcp.LeaseData
import IoLibrary.Ipv6.Modes
import IoLibrary.Ipv6.Splitting
import IoLibrary.Snmp.Authenticity
import IoLibrary.Snmp.Lengths
import IoLibrary.Dhcp6.Leases
import IoLibrary.Tftp.Transfer
import IoLibrary.Tftp.Foreign
import IoLibrary.Http.Bodies
import IoLibrary.Closing
import IoLibrary.Socket.Accounting
import IoLibrary.ConfigFaults
import IoLibrary.Rejections
import IoLibrary.Identity
import IoLibrary.Overlap
import IoLibrary.Mqtt.Buffers
import IoLibrary.Mqtt.Client
import IoLibrary.Mqtt.Malformed
import IoLibrary.Mqtt.History
import IoLibrary.Mqtt.Packet
import IoLibrary.Mqtt.Reading
import IoLibrary.Mqtt.Requests
import IoLibrary.Mqtt.RoundTrips
import IoLibrary.Mqtt.Sending
import IoLibrary.Mqtt.Session
import IoLibrary.Mqtt.Topics
import IoLibrary.Loopback
import IoLibrary.Nonblocking
import IoLibrary.Completion
import IoLibrary.Delivery
import IoLibrary.Callbacks.Outside
import IoLibrary.W5300.Closing
import IoLibrary.SizeReads
import IoLibrary.Peek
import IoLibrary.W6100.Transfers
import IoLibrary.W6300.Queues
import IoLibrary.Rings.Buffers
import IoLibrary.Macraw
import IoLibrary.Phy
import IoLibrary.W5300.Assembly
import IoLibrary.Layout.Served
import IoLibrary.Dhcp.Options
import IoLibrary.Dhcp.Reading
import IoLibrary.Dhcp.Request
import IoLibrary.Dhcp.Waiting
import IoLibrary.Dns.Names
import IoLibrary.Dns.Records
import IoLibrary.Dns.Reading
import IoLibrary.Successor
import IoLibrary.Snmp.Walk
import IoLibrary.Ports
import IoLibrary.ArpErratum
import IoLibrary.PeerClose
import IoLibrary.Tftp.Sending
import IoLibrary.Freshness
import IoLibrary.FalseSuccess.Honest
import IoLibrary.Settings
import IoLibrary.Sntp.Conversion
import IoLibrary.Sntp.Run
import IoLibrary.Percent
import IoLibrary.Http.Unescape
import IoLibrary.Http.Params
import IoLibrary.Http.Requests
import IoLibrary.WideTlv
import IoLibrary.Dhcp6.Sending
import IoLibrary.Tftp.Replay
import IoLibrary.Dhcp6.Bounds
import IoLibrary.Snmp.Reporting
import IoLibrary.Ber.Signed
import IoLibrary.Snmp.SetGet
import IoLibrary.Snmp.Trap
import IoLibrary.AddressAutoConfig
