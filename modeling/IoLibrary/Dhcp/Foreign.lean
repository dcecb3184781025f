import IoLibrary.Dhcp.Grants

/-! Datagrams that are no reply to the client: which of them a call tells from a reply. -/
namespace IoLibrary.Dhcp

/-- The bytes of a field of the datagram, fewer where it is shorter. -/
def Datagram.field (d : Datagram) (a n : ℕ) : List Byte := (d.bytes.drop a).take n

/-- The datagram is not a reply to the current exchange. -/
def Foreign (c : Client) (d : Datagram) : Prop :=
  d.field 0 1 ≠ [dhcpBootreply] ∨ d.field 4 4 ≠ bytes32 c.xid ∨ d.field 28 6 ≠ c.chaddr.toList ∨
    d.field 236 4 ≠ bytes32 magicCookie ∨ d.port ≠ dhcpServerPort ∨
    c.data.sip ≠ zeroIp ∧ d.addr ≠ c.data.sip ∧ d.addr ≠ c.data.realSip

/-- The call leaves the state, the address and the lease data as one that receives nothing. -/
def Inert (c : Client) (i : Input) : Prop :=
  let out := (dhcpRun c i).client
  let idle := (dhcpRun c { i with received := none }).client
  out.state = idle.state ∧ out.ip = idle.ip ∧ out.data = idle.data

/-- The options leave the lease data, but for the server where the call sends a DISCOVER. -/
def Client.Keeps (c : Client) (data : LeaseData) : Prop :=
  if c.Discovers 0#8 then data.forget = c.data.forget else data = c.data

/-- The client does nothing with the datagram: it is stopped; the port, the hardware address or
the server is another; or the message asks for nothing in the state the client is in and brings
no new data. A NAK that comes when the retries are over does as little, where it clears the
server like the DISCOVER that is due. -/
def Ignored (c : Client) (d : Datagram) : Prop :=
  c.state = .stop ∨ ¬ passes c d ∨
    ¬ c.Acts (parsed c d).2 ∧ c.Keeps (parsed c d).1 ∨
    c.Acts (parsed c d).2 ∧ (parsed c d).2 = dhcpNak ∧ c.Restarts ∧ (parsed c d).1 = c.data.forget

@[simp] lemma zero_ne_offer : 0#8 ≠ dhcpOffer := by decide
@[simp] lemma zero_ne_ack : 0#8 ≠ dhcpAck := by decide
@[simp] lemma zero_ne_nak : 0#8 ≠ dhcpNak := by decide

lemma not_acts_zero (c : Client) : ¬ c.Acts 0#8 := by simp [Client.Acts]

/-- The parts of the client after the call that are compared. -/
def Core.visible (k : Core) : State × Ip × LeaseData := (k.state, k.ip, k.data)

lemma inert_iff (c : Client) (i : Input) :
    Inert c i ↔ (dhcpRun c i).client.core.visible =
      (dhcpRun c { i with received := none }).client.core.visible := by
  simp [Inert, Core.visible, Client.core]

/-- The automaton after a parser that has left `msg` and `data`. -/
lemma visible_dhcpSwitch (c : Client) (msg : Mem) (data : LeaseData) (type : Byte) :
    (dhcpSwitch { c with msg := msg, data := data } type).client.core.visible =
      (Client.nextState { c with data := data } type, Client.nextIp { c with msg := msg } type,
        if c.Discovers type then data.forget else data) := by
  rw [dhcpSwitch_core]
  rfl

section types
variable {c : Client} {type : Byte}

lemma nextIp_quiet (msg : Mem) (h : ¬ c.Acts type) :
    Client.nextIp { c with msg := msg } type = c.nextIp 0#8 := by
  cases hstate : c.state with
  | discover =>
    have hoffer : type ≠ dhcpOffer := fun htype => h (.inl ⟨hstate, htype⟩)
    simp [Client.nextIp, hstate, hoffer]
  | _ => simp [Client.nextIp, hstate]

lemma nextState_quiet {data : LeaseData} (h : ¬ c.Acts type)
    (hdata : c.state = .leased → data = c.data) :
    Client.nextState { c with data := data } type = c.nextState 0#8 := by
  cases hstate : c.state with
  | discover =>
    have hoffer : type ≠ dhcpOffer := fun htype => h (.inl ⟨hstate, htype⟩)
    simp [Client.nextState, Client.timeoutState, hstate, hoffer]
  | leased =>
    have hsame : { c with data := data } = c := by rw [hdata hstate]
    rw [hstate] at hsame
    rw [hsame]
    simp only [Client.nextState, hstate]
  | request | rerequest =>
    have hack : type ≠ dhcpAck := fun htype => h (.inr ⟨by simp [hstate], .inl htype⟩)
    have hnak : type ≠ dhcpNak := fun htype => h (.inr ⟨by simp [hstate], .inr htype⟩)
    simp [Client.nextState, Client.timeoutState, hstate, hack, hnak]
  | _ => simp [Client.nextState, hstate]

lemma discovers_quiet (h : ¬ c.Acts type) : c.Discovers type ↔ c.Discovers 0#8 := by
  simp [Client.Discovers, h, not_acts_zero]

/-- A message that asks for nothing in this state changes what its options change. -/
lemma visible_quiet (msg : Mem) (data : LeaseData) (h : ¬ c.Acts type) :
    (dhcpSwitch { c with msg := msg, data := data } type).client.core.visible =
      (dhcpSwitch c 0#8).client.core.visible ↔ c.Keeps data := by
  have hidle : (dhcpSwitch c 0#8).client.core.visible =
      (c.nextState 0#8, c.nextIp 0#8, if c.Discovers 0#8 then c.data.forget else c.data) :=
    visible_dhcpSwitch c c.msg c.data 0#8
  rw [visible_dhcpSwitch, hidle, nextIp_quiet msg h, Client.Keeps]
  simp only [discovers_quiet h, Prod.mk.injEq, true_and]
  constructor
  · rintro ⟨-, hdata⟩
    by_cases hd : c.Discovers 0#8
    · simpa [hd] using hdata
    · simpa [hd] using hdata
  · intro hkeeps
    have hdata : (if c.Discovers 0#8 then data.forget else data) =
        if c.Discovers 0#8 then c.data.forget else c.data := by
      by_cases hd : c.Discovers 0#8
      · simpa [hd] using hkeeps
      · simpa [hd] using hkeeps
    refine ⟨nextState_quiet h fun hleased => ?_, hdata⟩
    have hd : ¬ c.Discovers 0#8 := by simp [Client.Discovers, Client.Restarts, hleased]
    simpa [hd] using hkeeps

/-- A message that moves the client on is only like nothing if it is a NAK at the end of the
retries. -/
lemma visible_active (msg : Mem) (data : LeaseData) (h : c.Acts type) :
    (dhcpSwitch { c with msg := msg, data := data } type).client.core.visible =
      (dhcpSwitch c 0#8).client.core.visible ↔
        type = dhcpNak ∧ c.Restarts ∧ data = c.data.forget := by
  have hidle : (dhcpSwitch c 0#8).client.core.visible =
      (c.nextState 0#8, c.nextIp 0#8, if c.Discovers 0#8 then c.data.forget else c.data) :=
    visible_dhcpSwitch c c.msg c.data 0#8
  rw [visible_dhcpSwitch, hidle]
  obtain ⟨hstate, rfl⟩ | ⟨hstate, htype⟩ := h
  · -- the timeout check does not lead to REQUEST
    have hidle : c.nextState 0#8 ≠ .request := by
      simp [Client.nextState, Client.timeoutState, hstate, apply_ite (· = State.request)]
    have hnext : Client.nextState { c with data := data } dhcpOffer = .request := by
      simp [Client.nextState, hstate]
    rw [hnext]
    constructor
    · intro hsame
      exact absurd (Prod.mk.inj hsame).1.symm hidle
    · rintro ⟨hnak, -⟩
      exact absurd hnak (by decide)
  · have hnot : ¬ c.Discovers type := by
      have hinit : c.state ≠ .init := by rcases hstate with h | h <;> simp [h]
      have hacts : c.Acts type := .inr ⟨hstate, htype⟩
      simp [Client.Discovers, hinit, hacts]
    have hrestarts : c.Restarts ↔ maxDhcpRetry ≤ c.retry := by
      rcases hstate with h | h <;> simp [Client.Restarts, h]
    have hidle : c.nextState 0#8 = if c.retry < maxDhcpRetry then c.state else .discover := by
      rcases hstate with h | h <;> simp [Client.nextState, Client.timeoutState, h]
    have hleased : c.state ≠ .leased ∧ c.state ≠ .discover := by
      rcases hstate with h | h <;> simp [h]
    rw [hidle]
    rcases htype with rfl | rfl
    · -- the timeout check does not lead to LEASED
      have hnext : Client.nextState { c with data := data } dhcpAck = .leased := by
        rcases hstate with h | h <;> simp [Client.nextState, h]
      rw [hnext]
      constructor
      · intro hsame
        have hstates := (Prod.mk.inj hsame).1
        split_ifs at hstates
        exact absurd hstates.symm hleased.1
      · rintro ⟨hnak, -⟩
        exact absurd hnak (by decide)
    · have hnext : Client.nextState { c with data := data } dhcpNak = .discover := by
        rcases hstate with h | h <;> simp [Client.nextState, h, nak_ne_ack]
      have hips : Client.nextIp { c with msg := msg } dhcpNak = c.nextIp 0#8 := by
        rcases hstate with h | h <;> simp [Client.nextIp, h]
      rw [hnext, hips, if_neg hnot, Prod.mk.injEq, Prod.mk.injEq]
      by_cases hretry : c.retry < maxDhcpRetry
      · have hgo : ¬ c.Restarts := fun h => absurd (hrestarts.1 h) (Nat.not_le.2 hretry)
        simp [hretry, hgo, hleased.2.symm]
      · have hend : c.Restarts := hrestarts.2 (Nat.not_lt.1 hretry)
        have hdiscovers : c.Discovers 0#8 := .inr ⟨not_acts_zero c, hend⟩
        simp [hretry, hend, hdiscovers]

end types

/-- The datagrams that a call does nothing with are the ignored ones. -/
lemma inert_iff_ignored (c : Client) (i : Input) (d : Datagram) (hd : i.received = some d) :
    Inert c i ↔ Ignored c d := by
  by_cases hstop : c.state = .stop
  · have hinert : Inert c i := by
      rw [inert_iff, dhcpRun_stop i hstop, dhcpRun_stop _ hstop]
    exact ⟨fun _ => .inl hstop, fun _ => hinert⟩
  · rw [inert_iff, dhcpRun_core i hstop, dhcpRun_core _ hstop, hd]
    by_cases hpasses : passes c d
    · have hparse : parseDhcpMsg c (some d) =
          ({ c with msg := c.msg.fill d.bytes, data := (parsed c d).1 }, (parsed c d).2) := by
        rw [parseDhcpMsg, if_pos hpasses]
      rw [hparse]
      by_cases hacts : c.Acts (parsed c d).2
      · refine (visible_active _ _ hacts).trans ?_
        simp [Ignored, hstop, hpasses, hacts]
      · refine (visible_quiet _ _ hacts).trans ?_
        simp [Ignored, hstop, hpasses, hacts]
    · have hparse : parseDhcpMsg c (some d) = ({ c with msg := c.msg.fill d.bytes }, 0#8) := by
        rw [parseDhcpMsg, if_neg hpasses]
        rfl
      rw [hparse]
      have hkeeps : c.Keeps c.data := by simp [Client.Keeps]
      exact ⟨fun _ => .inr (.inl hpasses),
        fun _ => (visible_quiet (c.msg.fill d.bytes) c.data (not_acts_zero c)).2 hkeeps⟩

/-- An ACK for another exchange: its xid is not the client's. -/
def otherExchange : Datagram :=
  ⟨serverMsg { started with xid := 0 } dhcpAck offeredIp [], server, dhcpServerPort⟩

end IoLibrary.Dhcp
