import IoLibrary.Dhcp.Steps

/-! What an ACK installs: the address of the OFFER before it, whatever the ACK grants. -/
namespace IoLibrary.Dhcp

/-- The call processes the datagram as an ACK. -/
def Acked (c : Client) (d : Datagram) : Prop :=
  (c.state = .request ∨ c.state = .rerequest) ∧ (parseDhcpMsg c (some d)).2 = dhcpAck

/-- yiaddr of the datagram that the call reads. -/
def granted (c : Client) (d : Datagram) : Ip := yiaddrAt (c.msg.fill d.bytes)

def Action.installed : Action → Option Ip
  | .ipAssign ip _ _ => some ip
  | .ipUpdate ip _ _ => some ip
  | _ => none

def Action.updates : Action → Bool
  | .ipUpdate _ _ _ => true
  | _ => false

/-- The call installs the address `ip`, and reports and updates it where it is a new one. -/
structure Installs (c : Client) (ip : Ip) (out : Outcome) : Prop where
  allocated : out.client.ip = ip
  installed : ∀ a ∈ out.actions, ∀ given, a.installed = some given → given = ip
  changed : c.state = .rerequest → (out.ret = .ipChanged ↔ ip ≠ c.oldIp)
  updated : c.state = .rerequest → ((∃ a ∈ out.actions, a.updates) ↔ ip ≠ c.oldIp)

/-- While the lease is renewed the address is the one it had before. -/
def Renewing (c : Client) : Prop := c.state = .rerequest → c.oldIp = c.ip

/-- A call enters REREQUEST only from LEASED, where it saves the address. -/
lemma renewing_dhcpSwitch {c : Client} (h : Renewing c) (type : Byte) :
    Renewing (dhcpSwitch c type).client := by
  have hcore := dhcpSwitch_core c type
  have hstate : (dhcpSwitch c type).client.state = c.nextState type := congrArg Core.state hcore
  have hip : (dhcpSwitch c type).client.ip = c.nextIp type := congrArg Core.ip hcore
  have hold : (dhcpSwitch c type).client.oldIp = c.nextOldIp := congrArg Core.oldIp hcore
  rw [Renewing, hstate, hip, hold]
  cases hc : c.state with
  | leased =>
    by_cases hrenews : c.Renews <;> simp [Client.nextState, Client.nextIp, Client.nextOldIp, hc, hrenews]
  | rerequest =>
    intro _
    simpa [Client.nextIp, Client.nextOldIp, hc] using h hc
  | request => simp [Client.nextState, Client.timeoutState, hc, apply_ite (· = State.rerequest)]
  | discover => simp [Client.nextState, Client.timeoutState, hc, apply_ite (· = State.rerequest)]
  | init => simp [Client.nextState, hc]
  | release => simp [Client.nextState, hc]
  | stop => simp [Client.nextState, hc]

lemma renewing_step (c : Client) (op : Op) (h : Renewing c) : Renewing (c.step op) := by
  cases op with
  | run i =>
    rw [Client.step, dhcpRun]
    by_cases hstop : c.state = .stop
    · rw [if_pos hstop]
      exact h
    · rw [if_neg hstop]
      obtain ⟨msg, data, hparse⟩ := parseDhcpMsg_frame c i.received
      apply renewing_dhcpSwitch
      rw [hparse]
      exact h
  | tick => exact h
  | init shar buf => rintro ⟨⟩
  | stop => rintro ⟨⟩

/-- The actions and the result of a call that reads an ACK. -/
lemma dhcpRun_ack {c : Client} {i : Input} {d : Datagram} (hd : i.received = some d)
    (h : Acked c d) (hrenewing : Renewing c) :
    (dhcpRun c i).client.ip = c.ip ∧ (dhcpRun c i).ret ≠ .ipChanged ∧
      ∀ a ∈ (dhcpRun c i).actions, a.updates = false ∧ ∀ ip, a.installed = some ip → ip = c.ip := by
  obtain ⟨hstate, hack⟩ := h
  have hstop : c.state ≠ .stop := by rcases hstate with h | h <;> simp [h]
  obtain ⟨msg, data, hparse⟩ := parseDhcpMsg_frame c (some d)
  rw [dhcpRun, if_neg hstop, hd]
  simp only [hack, hparse]
  rcases hstate with hstate | hstate
  · simp only [dhcpSwitch, hstate, checkDhcpLeasedIp, resetDhcpTimeout, if_true]
    cases i.udp <;> simp [Action.updates, Action.installed]
  · have hold : c.oldIp = c.ip := hrenewing hstate
    simp only [dhcpSwitch, hstate, hold, ne_eq, not_true_eq_false, if_true, if_false,
      resetDhcpTimeout]
    cases i.udp <;> simp [Action.updates, Action.installed]

lemma installs_iff {c : Client} {i : Input} {d : Datagram} (hd : i.received = some d)
    (h : Acked c d) (hrenewing : Renewing c) :
    Installs c (granted c d) (dhcpRun c i) ↔ granted c d = c.ip := by
  obtain ⟨hip, hret, hactions⟩ := dhcpRun_ack hd h hrenewing
  constructor
  · intro hinstalls
    rw [← hinstalls.allocated, hip]
  · intro hsame
    have hold (hstate : c.state = .rerequest) : granted c d = c.oldIp := by
      rw [hsame, hrenewing hstate]
    constructor
    · rw [hip, hsame]
    · intro a ha ip hinstalled
      rw [hsame]
      exact (hactions a ha).2 ip hinstalled
    · intro hstate
      exact ⟨fun hchanged => absurd hchanged hret, fun hne => absurd (hold hstate) hne⟩
    · intro hstate
      constructor
      · rintro ⟨a, ha, hupdates⟩
        exact absurd hupdates (by simp [(hactions a ha).1])
      · exact fun hne => absurd (hold hstate) hne

/-- The ACKs of a run install what they grant exactly where each of them grants the address that
the client holds already. -/
theorem acks_install (shar : Mac) (buf : Mem) (c : Client) (ops : List Op) :
    EachRead (dhcpInit shar buf c) ops
      (fun c i d => Acked c d → Installs c (granted c d) (dhcpRun c i)) ↔
    EachRead (dhcpInit shar buf c) ops (fun c _ d => Acked c d → granted c d = c.ip) := by
  refine EachRead.congr Renewing ?_ renewing_step fun c i d hrenewing hd => ?_
  · exact nofun
  apply forall_congr'
  intro hack
  exact installs_iff hd hack hrenewing

/-- The client of the hardware address 00:08:DC:00:00:01 after DHCP_init. -/
def started : Client := dhcpInit #v[0x00, 0x08, 0xDC, 0x00, 0x00, 0x01] (fun _ => 0) boot

def server : Ip := #v[10, 0, 0, 1]

/-- A call that reads a message of the server. -/
def reading (type : Byte) (yiaddr : Ip) (options : List Byte) : Op :=
  .run ⟨true, some ⟨serverMsg started type yiaddr
    (addressOption dhcpServerIdentifier server ++ options), server, dhcpServerPort⟩⟩

/-- 10.0.0.5 is offered, and the server grants 10.0.0.9. -/
def offeredIp : Ip := #v[10, 0, 0, 5]

def offered : List Op := [.run ⟨true, none⟩, reading dhcpOffer offeredIp []]

theorem ack_installs_offer : ¬ ∀ shar buf c ops, EachRead (dhcpInit shar buf c) ops
    (fun c i d => Acked c d → Installs c (granted c d) (dhcpRun c i)) := by
  intro hall
  have hinstalls := hall #v[0x00, 0x08, 0xDC, 0x00, 0x00, 0x01] (fun _ => 0) boot
    (offered ++ [reading dhcpAck #v[10, 0, 0, 9] []]) offered _ [] _ rfl rfl
    ⟨.inl (by decide +kernel), by decide +kernel⟩
  exact absurd hinstalls.allocated (by decide +kernel)

end IoLibrary.Dhcp
