import IoLibrary.Dhcp.Run

/-! The automaton of the client: what one call does to the state, the address and the lease
data. -/
namespace IoLibrary.Dhcp

/-- What the client holds of its lease. -/
structure Core where
  state : State
  data : LeaseData
  ip : Ip
  oldIp : Ip

def Client.core (c : Client) : Core := ⟨c.state, c.data, c.ip, c.oldIp⟩

/-- The state after the timeout check. -/
def Client.timeoutState (c : Client) : State :=
  if c.retry < maxDhcpRetry then c.state
  else match c.state with
    | .discover => .init
    | .request | .rerequest => .discover
    | state => state

/-- The timeout check sends a DISCOVER, which forgets the server. -/
def Client.Restarts (c : Client) : Prop :=
  c.state = .discover ∧ c.retry < maxDhcpRetry ∧ c.tickNext < c.tick ∨
    (c.state = .request ∨ c.state = .rerequest) ∧ maxDhcpRetry ≤ c.retry

instance (c : Client) : Decidable c.Restarts := inferInstanceAs (Decidable (_ ∨ _))

/-- The message type makes the client leave the state it is in. -/
def Client.Acts (c : Client) (type : Byte) : Prop :=
  c.state = .discover ∧ type = dhcpOffer ∨
    (c.state = .request ∨ c.state = .rerequest) ∧ (type = dhcpAck ∨ type = dhcpNak)

instance (c : Client) (type : Byte) : Decidable (c.Acts type) :=
  inferInstanceAs (Decidable (_ ∨ _))

/-- Half of the lease is over. -/
def Client.Renews (c : Client) : Prop :=
  c.data.leaseTime ≠ infiniteLeasetime ∧ c.data.leaseTime / 2 < c.tick

instance (c : Client) : Decidable c.Renews := inferInstanceAs (Decidable (_ ∧ _))

/-- The call sends a DISCOVER. -/
def Client.Discovers (c : Client) (type : Byte) : Prop :=
  c.state = .init ∨ ¬ c.Acts type ∧ c.Restarts

instance (c : Client) (type : Byte) : Decidable (c.Discovers type) :=
  inferInstanceAs (Decidable (_ ∨ _))

def Client.nextState (c : Client) (type : Byte) : State :=
  match c.state with
  | .init => .discover
  | .discover => if type = dhcpOffer then .request else c.timeoutState
  | .request | .rerequest =>
    if type = dhcpAck then .leased else if type = dhcpNak then .discover else c.timeoutState
  | .leased => if c.Renews then .rerequest else .leased
  | .release => .release
  | .stop => .stop

def Client.nextIp (c : Client) (type : Byte) : Ip :=
  match c.state with
  | .init => zeroIp
  | .discover => if type = dhcpOffer then yiaddrAt c.msg else c.ip
  | _ => c.ip

def Client.nextOldIp (c : Client) : Ip := if c.state = .leased ∧ c.Renews then c.ip else c.oldIp

lemma checkDhcpTimeout_core (c : Client) : (checkDhcpTimeout c).client.core =
    ⟨c.timeoutState, if c.Restarts then c.data.forget else c.data, c.ip, c.oldIp⟩ := by
  rw [checkDhcpTimeout, Client.timeoutState]
  by_cases hretry : c.retry < maxDhcpRetry
  · have hle : ¬ maxDhcpRetry ≤ c.retry := Nat.not_le.2 hretry
    by_cases htick : c.tickNext < c.tick
    · cases hstate : c.state <;>
        simp [hretry, hle, htick, hstate, sendDhcpDiscover, sendDhcpRequest, Client.Restarts,
          Client.core]
    · cases hstate : c.state <;>
        simp [hretry, hle, htick, hstate, Client.Restarts, Client.core]
  · have hle : maxDhcpRetry ≤ c.retry := Nat.not_lt.1 hretry
    cases hstate : c.state <;>
      simp [hretry, hle, hstate, sendDhcpDiscover, resetDhcpTimeout, Client.Restarts, Client.core]

lemma nak_ne_ack : dhcpNak ≠ dhcpAck := by decide

lemma dhcpSwitch_core (c : Client) (type : Byte) : (dhcpSwitch c type).client.core =
    ⟨c.nextState type, if c.Discovers type then c.data.forget else c.data, c.nextIp type,
      c.nextOldIp⟩ := by
  rw [dhcpSwitch, Client.nextState, Client.nextIp, Client.nextOldIp]
  cases hstate : c.state with
  | init =>
    simp [hstate, Client.Discovers, Client.core, sendDhcpDiscover]
  | discover =>
    by_cases htype : type = dhcpOffer
    · simp [hstate, htype, Client.Discovers, Client.Acts, Client.core, sendDhcpRequest]
    · simp [hstate, htype, Client.Discovers, Client.Acts, checkDhcpTimeout_core]
  | request =>
    by_cases hack : type = dhcpAck
    · simp [hstate, hack, Client.Discovers, Client.Acts, Client.core, checkDhcpLeasedIp,
        resetDhcpTimeout]
    · by_cases hnak : type = dhcpNak
      · simp [hstate, hnak, nak_ne_ack, Client.Discovers, Client.Acts, Client.core,
          resetDhcpTimeout]
      · simp [hstate, hack, hnak, Client.Discovers, Client.Acts, checkDhcpTimeout_core]
  | rerequest =>
    by_cases hack : type = dhcpAck
    · by_cases hip : c.oldIp = c.ip <;>
        simp [hstate, hack, hip, Client.Discovers, Client.Acts, Client.core, resetDhcpTimeout]
    · by_cases hnak : type = dhcpNak
      · simp [hstate, hnak, nak_ne_ack, Client.Discovers, Client.Acts, Client.core,
          resetDhcpTimeout]
      · simp [hstate, hack, hnak, Client.Discovers, Client.Acts, checkDhcpTimeout_core]
  | leased =>
    by_cases hrenews : c.Renews
    · have h := hrenews
      simp only [Client.Renews] at h
      simp [hstate, h, hrenews, Client.Discovers, Client.Restarts, Client.core, sendDhcpRequest,
        resetDhcpTimeout]
    · have h := hrenews
      simp only [Client.Renews] at h
      simp [hstate, h, hrenews, Client.Discovers, Client.Restarts, Client.core]
  | release => simp [hstate, Client.Discovers, Client.Restarts, Client.core]
  | stop => simp [hstate, Client.Discovers, Client.Restarts, Client.core]

section parser
variable (c : Client) (received : Option Datagram)

/-- The parser writes the message and the lease data only. -/
lemma parseDhcpMsg_frame : ∃ msg data,
    (parseDhcpMsg c received).1 = { c with msg := msg, data := data } := by
  cases received with
  | none => exact ⟨c.msg, c.data, rfl⟩
  | some d =>
    by_cases h : passes c d
    · exact ⟨_, _, by rw [parseDhcpMsg, if_pos h]⟩
    · exact ⟨_, c.data, by rw [parseDhcpMsg, if_neg h]⟩

end parser

/-- A call that is not stopped is the automaton on what the parser has left. -/
lemma dhcpRun_core {c : Client} (i : Input) (h : c.state ≠ .stop) :
    (dhcpRun c i).client.core =
      (dhcpSwitch (parseDhcpMsg c i.received).1 (parseDhcpMsg c i.received).2).client.core := by
  rw [dhcpRun, if_neg h]

lemma dhcpRun_stop {c : Client} (i : Input) (h : c.state = .stop) :
    dhcpRun c i = ⟨.stopped, c, []⟩ := by rw [dhcpRun, if_pos h]

end IoLibrary.Dhcp
