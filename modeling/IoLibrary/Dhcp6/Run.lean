import IoLibrary.Dhcp6.Message
import IoLibrary.Effects.Machine

/-! DHCP6_run, DHCP6_run2, DHCP6_init and DHCP6_stop. dhcp.c is linked with them: DHCP6_run calls
its parseDHCPMSG and its send_DHCP_REQUEST, on its own globals and its own socket. -/
namespace IoLibrary.Dhcp6
open Dhcp (Mac)
open Effects

inductive State
  | init
  | solicit
  | request
  | leased
  | rerequest
  | release
  | stop
  deriving DecidableEq

def dhcp6Running : Byte := 1
def dhcp6IpLeased : Byte := 4
def dhcp6Stopped : Byte := 5

/-- The globals of dhcpv6.c, and those of dhcp.c. -/
structure Client where
  msg : Mem
  state : State
  options : Options
  allocatedIp : Ip6
  xid : ℕ
  chaddr : Mac
  dhcp : Dhcp.Client

inductive Action
  | hopLimit
  | socket
  | sendto (bytes : List Byte) (ip : Ip6)
  | dhcp (action : Dhcp.Action)

/-- What a call finds: whether its socket is a UDP one, and the datagram that recvfrom gives to
parseDHCPMSG. send_DHCP_REQUEST is a void function: `left` is what its caller takes for the
result. -/
structure Input where
  udp : Bool
  received : Option Dhcp.Datagram
  left : Byte

/-- A message that parseDHCP6MSG has read, with the state and DHCP6_XID at that time. -/
structure Parsed where
  state : State
  xid : ℕ
  bytes : List Byte

/-- The result of a call, the address it writes to netinfo->gua, and what it has parsed. -/
structure Outcome where
  ret : Byte
  actions : List Action
  gua : Option Ip6
  parsed : Option Parsed

def Outcome.empty : Outcome := ⟨dhcp6Running, [], none, none⟩

def opening (udp : Bool) : List Action := if udp then [] else [.hopLimit, .socket]

def zeroIp6 : Ip6 := Vector.replicate 16 0

def sendDhcp6Solicit (c : Client) : Client × List Action :=
  ({ c with msg := c.msg.fill (solicitMsg c.chaddr c.xid) },
    [.sendto (solicitMsg c.chaddr c.xid) serversIp])

/-- The message is 28 bytes long and 30 are sent. -/
def sendDhcpInforeq (c : Client) : Client × List Action :=
  let msg := c.msg.fill (infoRequestMsg c.chaddr c.xid)
  ({ c with msg := msg }, [.sendto (msg.slice 0 30) serversIp])

/-- send_DHCP_REQUEST of dhcp.c. -/
def sendDhcpRequest (c : Client) : Client × List Action :=
  let (dhcp, actions) := Dhcp.sendDhcpRequest c.dhcp
  ({ c with dhcp := dhcp }, actions.map .dhcp)

/-- DHCP6_run from its switch on. -/
def dhcp6Switch (c : Client) (type left : Byte) : Client × Outcome :=
  match c.state with
  | .init =>
    let (sent, actions) := sendDhcp6Solicit { c with allocatedIp := zeroIp6 }
    ({ sent with state := .solicit }, { Outcome.empty with actions := actions })
  | .solicit =>
    if type = dhcp6Advertise then
      let (sent, actions) := sendDhcpRequest { c with allocatedIp := c.options.recvIp }
      if left = 9 then (sent, { Outcome.empty with ret := 0, actions := actions })
      else
        ({ sent with state := .request }, { Outcome.empty with ret := left, actions := actions })
    else (c, .empty)
  | .request => (c, { Outcome.empty with ret := dhcp6IpLeased, gua := some c.options.recvIp })
  | _ => (c, .empty)

def dhcp6Run (c : Client) (i : Input) : Client × Outcome :=
  if c.state = .stop then (c, { Outcome.empty with ret := dhcp6Stopped })
  else
    let (dhcp, type) := Dhcp.parseDhcpMsg c.dhcp i.received
    let (c, out) := dhcp6Switch { c with dhcp := dhcp } type i.left
    (c, { out with actions := opening i.udp ++ out.actions })

/-- parseDHCP6MSG: the client after it. -/
def parseDhcp6Msg (c : Client) : Option (List Byte) → Client
  | none => c
  | some bytes =>
    let msg := c.msg.fill bytes
    if msg 0 = dhcp6Advertise ∨ msg 0 = dhcp6Reply then
      { c with msg := msg, options := parseOptions msg 4 bytes.length c.options }
    else { c with msg := msg }

/-- DHCP6_run2, which asks for information and no address. -/
def dhcp6Run2 (c : Client) (udp : Bool) (received : Option (List Byte)) : Client × Outcome :=
  if c.state = .stop then (c, { Outcome.empty with ret := dhcp6Stopped })
  else
    let c := parseDhcp6Msg c received
    let out : Outcome :=
      { Outcome.empty with
        actions := opening udp
        parsed := received.map fun bytes => ⟨c.state, c.xid, bytes⟩ }
    match c.state with
    | .init =>
      let (sent, actions) := sendDhcpInforeq c
      ({ sent with state := .release }, { out with actions := out.actions ++ actions })
    | .release => (c, { out with ret := dhcp6IpLeased })
    | _ => (c, out)

/-- DHCP6_init: `shar` is the chip's hardware address and `buf` what the buffer holds. Only as many
bytes of it are cleared as a pointer has, and the timeout that is reset is the one of dhcp.c. -/
def dhcp6Init (shar : Mac) (buf : Mem) (c : Client) : Client :=
  { c with
    msg := fun i => if i < 4 then 0 else buf i
    state := .init
    xid := 0x515789
    chaddr := if shar = .replicate 6 0 then #[0x00, 0x08, 0xdc, 0, 0, 0].toVector else shar
    dhcp := Dhcp.resetDhcpTimeout c.dhcp }

def dhcp6Stop (c : Client) : Client := { c with state := .stop }

inductive Op
  | run (i : Input)
  | run2 (udp : Bool) (received : Option (List Byte))
  | init (shar : Mac) (buf : Mem)
  | stop
  | dhcp (op : Dhcp.Op)

/-- The client as a machine on the calls that the program makes. -/
def client : Machine Client Op Outcome := fun c op =>
  match op with
  | .run i => dhcp6Run c i
  | .run2 udp received => dhcp6Run2 c udp received
  | .init shar buf => (dhcp6Init shar buf c, .empty)
  | .stop => (dhcp6Stop c, .empty)
  | .dhcp op => ({ c with dhcp := c.dhcp.step op }, .empty)

/-- The globals as the program starts. -/
def boot : Client where
  msg := fun _ => 0
  state := .init
  options := ⟨0, 0, 0, 0, 0, .replicate 4 0, .replicate 6 0, 0, .replicate 4 0,
    .replicate 4 0, .replicate 4 0, 0, zeroIp6, 0, 0, 0, 0, 0, zeroIp6⟩
  allocatedIp := zeroIp6
  xid := 0
  chaddr := .replicate 6 0
  dhcp := Dhcp.boot

end IoLibrary.Dhcp6
