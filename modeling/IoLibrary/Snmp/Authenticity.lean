import IoLibrary.Snmp.Pdu

/-! Whose requests the agent answers. An error of parseRequest comes to parseCommunity as a size of
-1, and with the size of the community it is an error no more. -/
namespace IoLibrary.Snmp
open Effects

variable {stale : Mem} {datagram : List Byte} {snmpData : List DataEntry}

/-- A datagram is answered, or changes the table, only if it is a request as a whole. -/
def Authentic (stale : Mem) (datagram : List Byte) (snmpData : List DataEntry) : Prop :=
  ∀ turns ret a,
    parseSNMPMessage (inBuffer stale datagram) turns (Agent.start snmpData) = .ok (ret, a) →
      (ret ≠ -1 → Complete datagram) ∧ (¬ Complete datagram → a.snmpData = snmpData)

/-- What a run does with a request depends on its version and community only. -/
lemma run_addressed {m : Request} {turns : ℕ} {ret : ℤ} {a : Agent}
    (run : parseSNMPMessage m turns (Agent.start snmpData) = .ok (ret, a)) :
    (m.Addressed → ret = 0) ∧ (¬ m.Addressed → ret = -1 ∧ a.snmpData = snmpData) := by
  have hreturned : lands (tolerates False) (parseSNMPMessage m turns) (fun _ _ => True)
      (Agent.start snmpData) := by
    rw [lands, run]
    trivial
  have hmessage := (lands_parseSNMPMessage (start_at snmpData)).1 hreturned
  have hlands : lands (tolerates False) (parseSNMPMessage m turns)
      (fun ret a => (m.Addressed → ret = 0) ∧ (¬ m.Addressed → ret = -1 ∧ a.snmpData = snmpData))
      (Agent.start snmpData) := by
    apply (lands_answer (start_at snmpData) _ _).2 hmessage
    · intro hother a' ha'
      exact ⟨fun h => absurd h hother, fun _ => ⟨rfl, ha'⟩⟩
    · intro hown a'
      exact ⟨fun _ => rfl, fun h => absurd hown h⟩
  rw [lands, run] at hlands
  exact hlands

/-- Nothing shorter is a request. -/
lemma Complete.length_ge (h : Complete datagram) : 26 ≤ datagram.length := by
  obtain ⟨msg, hmsg, rfl⟩ := h
  have hsize := Ber.Form.size_pos
  have hid := List.length_pos_iff.2 hmsg.identified
  simp only [Message.bytes, Ber.Element.length_bytes, Message.element, Message.pdu, Message.list,
    List.length_append, hmsg.ownVersion, hmsg.ownCommunity, hmsg.noStatus, hmsg.noIndex, community,
    List.length_cons, List.length_nil]
  have h₁ := hsize msg.form
  have h₂ := hsize msg.version.form
  have h₃ := hsize msg.community.form
  have h₄ := hsize msg.pduForm
  have h₅ := hsize msg.requestId.form
  have h₆ := hsize msg.errorStatus.form
  have h₇ := hsize msg.errorIndex.form
  have h₈ := hsize msg.listForm
  omega

/-- A GetBulk request, which SNMPv1 does not have, with nothing in it. -/
def emptyBulk : List Byte :=
  [0x30, 0x0F, 0x02, 0x01, 0x00, 0x04, 0x06, 0x70, 0x75, 0x62, 0x6C, 0x69, 0x63, 0xA5, 0x00]

end IoLibrary.Snmp
