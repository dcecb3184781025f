import IoLibrary.MessageBuffer

/-! The messages of dhcp.c: what the client sends and how it reads the options of a reply. -/
namespace IoLibrary.Dhcp

abbrev Mac := Vector Byte 6

inductive State
  | init
  | discover
  | request
  | leased
  | rerequest
  | release
  | stop
  deriving DecidableEq

def dhcpFlagsbroadcast : ℕ := 0x8000
def dhcpFlagsunicast : ℕ := 0x0000

def dhcpDiscover : Byte := 1
def dhcpOffer : Byte := 2
def dhcpRequest : Byte := 3
def dhcpAck : Byte := 5
def dhcpNak : Byte := 6

def dhcpBootrequest : Byte := 1
def dhcpBootreply : Byte := 2
def dhcpHtype10mb : Byte := 1
def dhcpHlenethernet : Byte := 6
def dhcpHops : Byte := 0

def infiniteLeasetime : ℕ := 0xFFFFFFFF
def optSize : ℕ := 312
def magicCookie : ℕ := 0x63825363
def dhcpServerPort : ℕ := 67
def maxDhcpRetry : ℕ := 2
def dhcpWaitTime : ℕ := 10

def padOption : Byte := 0
def subnetMask : Byte := 1
def routersOnSubnet : Byte := 3
def dns : Byte := 6
def hostName : Byte := 12
def domainName : Byte := 15
def performRouterDiscovery : Byte := 31
def staticRoute : Byte := 33
def dhcpRequestedIPaddr : Byte := 50
def dhcpIPaddrLeaseTime : Byte := 51
def dhcpMessageType : Byte := 53
def dhcpServerIdentifier : Byte := 54
def dhcpParamRequest : Byte := 55
def dhcpT1value : Byte := 58
def dhcpT2value : Byte := 59
def dhcpClientIdentifier : Byte := 61
def endOption : Byte := 255

def zeroIp : Ip := #v[0, 0, 0, 0]
def broadcastIp : Ip := #v[255, 255, 255, 255]

/-- What the options of a reply say: the DHCP_allocated globals, the lease time and the server,
by its identifier and by the address its reply came from. -/
structure LeaseData where
  sn : Ip
  gw : Ip
  dns : Ip
  leaseTime : ℕ
  sip : Ip
  realSip : Ip
  deriving DecidableEq

/-- No server is chosen. -/
def LeaseData.forget (data : LeaseData) : LeaseData :=
  { data with sip := zeroIp, realSip := zeroIp }

/-- The globals of dhcp.c. -/
structure Client where
  msg : Mem
  state : State
  data : LeaseData
  ip : Ip
  oldIp : Ip
  retry : ℕ
  tick : ℕ
  tickNext : ℕ
  xid : ℕ
  chaddr : Mac

def bytes32 (v : ℕ) : List Byte :=
  [BitVec.ofNat 8 (v / 2 ^ 24), BitVec.ofNat 8 (v / 2 ^ 16), BitVec.ofNat 8 (v / 2 ^ 8),
    BitVec.ofNat 8 v]

def zeros (n : ℕ) : List Byte := List.replicate n 0

/-- makeDHCPMSG, with the flags and ciaddr that the senders set after it. -/
def makeDhcpMsg (c : Client) (flags : ℕ) (ciaddr : Ip) : List Byte :=
  [dhcpBootrequest, dhcpHtype10mb, dhcpHlenethernet, dhcpHops] ++ bytes32 c.xid ++ zeros 2 ++
    bytes16 flags ++ ciaddr.toList ++ zeros 12 ++ c.chaddr.toList ++ zeros (10 + 64 + 128) ++
    bytes32 magicCookie

def nibbleToHex (nibble : ℕ) : Byte :=
  let nibble := nibble &&& 0x0F
  BitVec.ofNat 8 (if nibble ≤ 9 then nibble + '0'.toNat else nibble + ('A'.toNat - 0x0A))

def hostNameBytes : List Byte := "WIZnet".toList.map fun ch => BitVec.ofNat 8 ch.toNat

/-- The host name option: the name and the last three octets of the hardware address. -/
lemma three_lt_six : 3 < 6 := by decide
lemma four_lt_six : 4 < 6 := by decide
lemma five_lt_six : 5 < 6 := by decide

def hostNameOption (chaddr : Mac) : List Byte :=
  let name := hostNameBytes ++ [chaddr[3], chaddr[4], chaddr[5]].flatMap fun b =>
    [nibbleToHex (b.toNat / 16), nibbleToHex b.toNat]
  hostName :: BitVec.ofNat 8 name.length :: name

def clientIdentifier (chaddr : Mac) : List Byte :=
  [dhcpClientIdentifier, 0x07, 0x01] ++ chaddr.toList

def addressOption (code : Byte) (ip : Ip) : List Byte := [code, 0x04] ++ ip.toList

/-- A message with its options, filled up to the size of RIP_MSG. -/
def ripMsg (head options : List Byte) : List Byte :=
  head ++ options ++ zeros (optSize - (4 + options.length))

def discoverMsg (c : Client) : List Byte :=
  ripMsg (makeDhcpMsg c dhcpFlagsbroadcast zeroIp)
    ([dhcpMessageType, 0x01, dhcpDiscover] ++ clientIdentifier c.chaddr ++
      hostNameOption c.chaddr ++
      [dhcpParamRequest, 0x06, subnetMask, routersOnSubnet, dns, domainName, dhcpT1value,
        dhcpT2value, endOption])

/-- The REQUEST and where it is sent: to the server for the address that is leased, else to all
servers for the address that is offered. -/
def requestMsg (c : Client) : List Byte × Ip :=
  let renews := c.state = .leased ∨ c.state = .rerequest
  let ip := if renews then c.data.sip else broadcastIp
  let head := if renews then makeDhcpMsg c dhcpFlagsunicast c.ip
    else makeDhcpMsg c dhcpFlagsbroadcast zeroIp
  let selects := if getElem ip 3 three_lt_four = 255 then
      addressOption dhcpRequestedIPaddr c.ip ++ addressOption dhcpServerIdentifier c.data.sip
    else []
  (ripMsg head ([dhcpMessageType, 0x01, dhcpRequest] ++ clientIdentifier c.chaddr ++ selects ++
    hostNameOption c.chaddr ++
    [dhcpParamRequest, 0x08, subnetMask, routersOnSubnet, dns, domainName, dhcpT1value,
      dhcpT2value, performRouterDiscovery, staticRoute, endOption]), ip)

structure Datagram where
  bytes : List Byte
  addr : Ip
  port : ℕ

/-- The message of a server that answers the client: its type, yiaddr and further options. -/
def serverMsg (c : Client) (type : Byte) (yiaddr : Ip) (options : List Byte) : List Byte :=
  [dhcpBootreply, dhcpHtype10mb, dhcpHlenethernet, dhcpHops] ++ bytes32 c.xid ++ zeros 8 ++
    yiaddr.toList ++ zeros 8 ++ c.chaddr.toList ++ zeros (10 + 64 + 128) ++
    bytes32 magicCookie ++ [dhcpMessageType, 0x01, type] ++ options ++ [endOption]

def word32 (m : Mem) (p : ℕ) : ℕ :=
  ((m p).toNat * 256 + (m (p + 1)).toNat) * 256 * 256 + (m (p + 2)).toNat * 256 +
    (m (p + 3)).toNat

/-- The place after the option at `p`. -/
def optionEnd (msg : Mem) (p : ℕ) : ℕ :=
  if msg p = padOption then p + 1
  else if msg p = dhcpMessageType then p + 3
  else if msg p = subnetMask ∨ msg p = dhcpIPaddrLeaseTime ∨ msg p = dhcpServerIdentifier then p + 6
  else p + 2 + (msg (p + 1)).toNat

/-- What the option at `p` changes, in a message from `svrAddr`. -/
def optionData (msg : Mem) (svrAddr : Ip) (p : ℕ) (data : LeaseData) : LeaseData :=
  if msg p = subnetMask then { data with sn := ipAt msg (p + 2) }
  else if msg p = routersOnSubnet then { data with gw := ipAt msg (p + 2) }
  else if msg p = dns then { data with dns := ipAt msg (p + 2) }
  else if msg p = dhcpIPaddrLeaseTime then { data with leaseTime := word32 msg (p + 2) }
  else if msg p = dhcpServerIdentifier then
    { data with sip := ipAt msg (p + 2), realSip := svrAddr }
  else data

def optionType (msg : Mem) (p : ℕ) (type : Byte) : Byte :=
  if msg p = dhcpMessageType then msg (p + 2) else type

lemma lt_optionEnd (msg : Mem) (p : ℕ) : p < optionEnd msg p := by
  simp only [optionEnd]
  split_ifs <;> omega

/-- The loop over the options from `p` on, up to `e`. -/
def parseOptions (msg : Mem) (svrAddr : Ip) (p e : ℕ) (data : LeaseData) (type : Byte) :
    LeaseData × Byte :=
  if p < e then
    if msg p = endOption then (data, type)
    else
      parseOptions msg svrAddr (optionEnd msg p) e (optionData msg svrAddr p data)
        (optionType msg p type)
  else (data, type)
termination_by e - p
decreasing_by
  have := lt_optionEnd msg p
  omega

end IoLibrary.Dhcp
