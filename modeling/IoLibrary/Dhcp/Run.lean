import IoLibrary.Dhcp.Message

/-! DHCP_run, DHCP_init, DHCP_stop and the timer handler. A call reads the status of its socket
and at most one datagram; the handler runs between the calls, since a call looks at the ticks
only once. -/
namespace IoLibrary.Dhcp

inductive Ret
  | failed
  | running
  | ipAssign
  | ipChanged
  | ipLeased
  | stopped
  deriving DecidableEq

/-- What a call does to its socket and with the callbacks, which install the address, the subnet
mask and the gateway. -/
inductive Action
  | socket
  | sendto (bytes : List Byte) (ip : Ip)
  | ipAssign (ip sn gw : Ip)
  | ipUpdate (ip sn gw : Ip)
  | ipConflict

/-- Whether the socket is a UDP one, and the datagram that is there. -/
structure Input where
  udp : Bool
  received : Option Datagram

structure Outcome where
  ret : Ret
  client : Client
  actions : List Action

/-- The hardware address in chaddr. -/
def chaddrAt (msg : Mem) : Mac :=
  #v[msg 28, msg 29, msg 30, msg 31, msg 32, msg 33]

def yiaddrAt (msg : Mem) : Ip := ipAt msg 16

/-- The checks of parseDHCPMSG on the message that recvfrom has stored. -/
def passes (c : Client) (d : Datagram) : Prop :=
  d.port = dhcpServerPort ∧ chaddrAt (c.msg.fill d.bytes) = c.chaddr ∧
    (c.data.sip = zeroIp ∨ d.addr = c.data.sip ∨ d.addr = c.data.realSip)

instance (c : Client) (d : Datagram) : Decidable (passes c d) :=
  inferInstanceAs (Decidable (_ ∧ _ ∧ _))

/-- The options of the message: what is left of the lease data, and the message type. -/
def parsed (c : Client) (d : Datagram) : LeaseData × Byte :=
  parseOptions (c.msg.fill d.bytes) d.addr 240 d.bytes.length c.data 0

/-- parseDHCPMSG: the client after it and the message type. -/
def parseDhcpMsg (c : Client) : Option Datagram → Client × Byte
  | none => (c, 0)
  | some d =>
    if passes c d then
      ({ c with msg := c.msg.fill d.bytes, data := (parsed c d).1 }, (parsed c d).2)
    else ({ c with msg := c.msg.fill d.bytes }, 0)

def sendDhcpDiscover (c : Client) : Client × List Action :=
  ({ c with
      msg := c.msg.fill (discoverMsg c)
      data := c.data.forget },
    [.sendto (discoverMsg c) broadcastIp])

def sendDhcpRequest (c : Client) : Client × List Action :=
  ({ c with msg := c.msg.fill (requestMsg c).1 }, [.sendto (requestMsg c).1 (requestMsg c).2])

def resetDhcpTimeout (c : Client) : Client :=
  { c with tick := 0, tickNext := dhcpWaitTime, retry := 0 }

def checkDhcpTimeout (c : Client) : Outcome :=
  if c.retry < maxDhcpRetry then
    if c.tickNext < c.tick then
      let (sent, actions) := match c.state with
        | .discover => sendDhcpDiscover c
        | .request => sendDhcpRequest c
        | .rerequest => sendDhcpRequest c
        | _ => (c, [])
      ⟨.running, { sent with tick := 0, tickNext := dhcpWaitTime, retry := c.retry + 1 }, actions⟩
    else ⟨.running, c, []⟩
  else
    match c.state with
    | .discover => ⟨.failed, resetDhcpTimeout { c with state := .init }, []⟩
    | .request | .rerequest =>
      let (sent, actions) := sendDhcpDiscover c
      ⟨.running, resetDhcpTimeout { sent with state := .discover }, actions⟩
    | _ => ⟨.running, resetDhcpTimeout c, []⟩

def checkDhcpLeasedIp : Bool := true

/-- DHCP_run from its switch on. -/
def dhcpSwitch (c : Client) (type : Byte) : Outcome :=
  match c.state with
  | .init =>
    let (sent, actions) := sendDhcpDiscover { c with ip := zeroIp }
    ⟨.running, { sent with state := .discover }, actions⟩
  | .discover =>
    if type = dhcpOffer then
      let (sent, actions) := sendDhcpRequest { c with ip := yiaddrAt c.msg }
      ⟨.running, { sent with state := .request }, actions⟩
    else checkDhcpTimeout c
  | .request =>
    if type = dhcpAck then
      if checkDhcpLeasedIp then
        ⟨.running, resetDhcpTimeout { c with state := .leased },
          [.ipAssign c.ip c.data.sn c.data.gw]⟩
      else ⟨.running, resetDhcpTimeout { c with state := .init }, [.ipConflict]⟩
    else if type = dhcpNak then ⟨.running, resetDhcpTimeout { c with state := .discover }, []⟩
    else checkDhcpTimeout c
  | .leased =>
    if c.data.leaseTime ≠ infiniteLeasetime ∧ c.data.leaseTime / 2 < c.tick then
      let (sent, actions) := sendDhcpRequest { c with oldIp := c.ip, xid := (c.xid + 1) % 2 ^ 32 }
      ⟨.ipLeased, resetDhcpTimeout { sent with state := .rerequest }, actions⟩
    else ⟨.ipLeased, c, []⟩
  | .rerequest =>
    if type = dhcpAck then
      let leased := resetDhcpTimeout { c with state := .leased }
      if c.oldIp ≠ c.ip then ⟨.ipChanged, leased, [.ipUpdate c.ip c.data.sn c.data.gw]⟩
      else ⟨.ipLeased, leased, []⟩
    else if type = dhcpNak then ⟨.ipLeased, resetDhcpTimeout { c with state := .discover }, []⟩
    else checkDhcpTimeout c
  | .release | .stop => ⟨.running, c, []⟩

def dhcpRun (c : Client) (i : Input) : Outcome :=
  if c.state = .stop then ⟨.stopped, c, []⟩
  else
    let (c, type) := parseDhcpMsg c i.received
    let out := dhcpSwitch c type
    { out with actions := (if i.udp then [] else [.socket]) ++ out.actions }

/-- DHCP_init: `shar` is the chip's hardware address and `buf` what the buffer holds. -/
def dhcpInit (shar : Mac) (buf : Mem) (c : Client) : Client :=
  let chaddr : Mac := if shar = #v[0, 0, 0, 0, 0, 0] then #v[0x00, 0x08, 0xDC, 0, 0, 0] else shar
  let c₃ := getElem chaddr 3 three_lt_six
  let c₄ := getElem chaddr 4 four_lt_six
  let c₅ := getElem chaddr 5 five_lt_six
  let xid := 0x12345678 + c₃.toNat + c₄.toNat + c₅.toNat + (c₃ ^^^ c₄ ^^^ c₅).toNat
  resetDhcpTimeout { c with msg := buf, chaddr := chaddr, xid := xid, state := .init }

def dhcpStop (c : Client) : Client := { c with state := .stop }

def dhcpTimeHandler (c : Client) : Client := { c with tick := (c.tick + 1) % 2 ^ 32 }

inductive Op
  | run (i : Input)
  | tick
  | init (shar : Mac) (buf : Mem)
  | stop

def Client.step (c : Client) : Op → Client
  | .run i => (dhcpRun c i).client
  | .tick => dhcpTimeHandler c
  | .init shar buf => dhcpInit shar buf c
  | .stop => dhcpStop c

/-- The client after the operations `ops`. -/
def Client.after (c : Client) (ops : List Op) : Client := ops.foldl Client.step c

/-- The globals as the program starts. -/
def boot : Client where
  msg := fun _ => 0
  state := .init
  data := ⟨zeroIp, zeroIp, zeroIp, infiniteLeasetime, zeroIp, zeroIp⟩
  ip := zeroIp
  oldIp := zeroIp
  retry := 0
  tick := 0
  tickNext := dhcpWaitTime
  xid := 0
  chaddr := #v[0, 0, 0, 0, 0, 0]

/-- An invariant of the operations holds after any number of them. -/
lemma Client.after_rule {P : Client → Prop} {c : Client} (h : P c)
    (step : ∀ c op, P c → P (c.step op)) (ops : List Op) : P (c.after ops) := by
  induction ops generalizing c with
  | nil => exact h
  | cons op ops ih => exact ih (step c op h)

/-- `P` of the calls of a run that read a datagram: of the client before the call, the input and
the datagram. -/
def EachRead (start : Client) (ops : List Op) (P : Client → Input → Datagram → Prop) : Prop :=
  ∀ before i after d, ops = before ++ .run i :: after → i.received = some d →
    P (start.after before) i d

lemma EachRead.congr {start : Client} {ops : List Op} {P Q : Client → Input → Datagram → Prop}
    (I : Client → Prop) (hstart : I start) (step : ∀ c op, I c → I (c.step op))
    (h : ∀ c i d, I c → i.received = some d → (P c i d ↔ Q c i d)) :
    EachRead start ops P ↔ EachRead start ops Q := by
  have hinv (before : List Op) : I (start.after before) := Client.after_rule hstart step before
  constructor
  · intro hP before i after d hops hd
    exact (h _ i d (hinv before) hd).1 (hP before i after d hops hd)
  · intro hQ before i after d hops hd
    exact (h _ i d (hinv before) hd).2 (hQ before i after d hops hd)

end IoLibrary.Dhcp
