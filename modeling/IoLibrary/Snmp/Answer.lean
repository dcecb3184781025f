import IoLibrary.Snmp.Binding

/-! When the agent answers a request, and when it stays inside its buffers. -/
namespace IoLibrary.Snmp
open Effects

variable {more : Prop} {m : Request} {a : Agent} {turns : ℕ} {snmpData : List DataEntry} {p : ℤ}

/-- In front of the bindings the agent is at the same place of both messages. -/
def Agent.At (a : Agent) (p : ℤ) (snmpData : List DataEntry) : Prop :=
  a.place = ⟨p, p.toNat, snmpData, false⟩

section front

lemma Agent.At.index (h : a.At p snmpData) : a.index = p := congrArg Place.p h

lemma Agent.At.respIndex (h : a.At p snmpData) : a.respIndex = p.toNat := congrArg Place.q h

/-- A copy goes on to the next place. -/
lemma lands_copyAt (hat : a.At p snmpData) (hp : 0 ≤ p) {seglen : ℤ} {Q : Unit → Agent → Prop}
    {P : Prop} (h : m.Copied (m.tlv p) seglen p.toNat → ∀ a', a'.At (p + seglen) snmpData →
      (Q () a' ↔ P)) :
    lands (tolerates more) (copySegment m (m.tlv p) seglen) Q a ↔
      m.Copied (m.tlv p) seglen p.toNat ∧ P := by
  rw [← hat.respIndex]
  rw [← hat.respIndex] at h
  apply lands_copySegment hat.index.symm (hat.index ▸ hp)
  intro hcopied a' hplace
  apply h hcopied
  have hseglen : 0 ≤ seglen := hcopied.1
  have hboth : p.toNat + seglen.toNat = (p + seglen).toNat := by omega
  rw [Agent.At, hplace, hat, Place.go, hboth]

/-- The TLV that the agent reads, with its tag. -/
lemma lands_readAt (hat : a.At p snmpData) {f : Tlv → Byte → Parser ℤ} {Q : ℤ → Agent → Prop} :
    lands (tolerates more) (do
        let a ← get
        let tlv ← parseTLV m a.index
        let tag ← m.byte tlv.start
        f tlv tag) Q a ↔
      m.Readable p ∧ lands (tolerates more) (f (m.tlv p) (m.tag p)) Q a := by
  rw [lands_bind, lands_get, lands_bind, lands_parseTLV, hat.index]
  apply and_congr_right
  rintro ⟨hp, -, hlast⟩
  rw [lands_bind, lands_byte]
  change (0 ≤ p ∧ p < m.limit) ∧ lands _ (f (m.tlv p) (m.tag p)) Q a ↔ _
  exact and_iff_right ⟨hp, by omega⟩

lemma lands_copyTLV (hat : a.At p snmpData) {Q : Tlv → Agent → Prop} {K : ℤ → Prop}
    (h : m.Readable p → 0 ≤ (m.tlv p).size → ∀ a', a'.At (p + (m.tlv p).size) snmpData →
      (Q (m.tlv p) a' ↔ K (p + (m.tlv p).size))) :
    lands (tolerates more) (copyTLV m) Q a ↔ m.Readable p ∧ m.Whole p K := by
  rw [copyTLV, lands_bind, lands_get, lands_bind, lands_parseTLV, hat.index]
  apply and_congr_right
  intro hread
  rw [lands_bind]
  apply lands_copyAt hat hread.1
  intro hcopied a' hat'
  rw [lands_pure]
  exact h hread hcopied.1 a' hat'

lemma lands_parseSequenceOf {reqType : Byte} (hvalid : ValidRequest reqType) (hat : a.At p snmpData)
    {Q : ℤ → Agent → Prop} {done : Place → Prop} (hreject : Q (-1) a)
    (h : ∀ size a', 0 ≤ size → (Q size a' ↔ done a'.place)) :
    lands (tolerates more) (parseSequenceOf m turns reqType) Q a ↔
      m.Readable p ∧ (m.tag p = snmpdtypeSequence → m.Header p fun first =>
        m.Bindings reqType more done turns ⟨first, first.toNat, snmpData, false⟩) := by
  rw [parseSequenceOf, lands_bind, lands_get, lands_bind, lands_parseTLV, hat.index]
  apply and_congr_right
  intro hread
  have hp : 0 ≤ p := hread.1
  have hlast : p + 2 + m.octets p ≤ m.limit := hread.2.2
  rw [lands_bind, lands_byte]
  change (0 ≤ p ∧ p < m.limit) ∧ lands _ (if m.tag p ≠ _ then _ else _) _ _ ↔ _
  rw [and_iff_right ⟨hp, by omega⟩]
  apply lands_check hreject
  intro htag
  rw [lands_bind]
  apply lands_copyAt hat hp
  intro hcopied a' hat'
  have hfit : (a.respIndex : ℤ) + 2 + m.octets p ≤ maxSnmpmsgLen := by
    rw [hat.respIndex]
    exact hcopied.header_fits
  rw [lands_bind]
  change _ ↔ m.Bindings reqType more done turns _
  rw [← hat']
  apply lands_parseBindings hvalid _ (Int.le_refl 0)
  intro size a'' hsize
  rw [lands_bind]
  apply lands_insertRespLen hread (by omega) hfit
  intro a₃ hplace
  rw [lands_pure, h _ _ hsize, hplace]

/-- The errors go where the values of two copied TLVs begin. -/
lemma lands_putError {t : Tlv} (hvstart : 0 ≤ t.vstart) (b : Byte) {Q : Unit → Agent → Prop} {P : Prop}
    (h : ∀ a', Q () a' ↔ P) :
    lands (tolerates more) (put t.vstart [b]) Q a ↔ t.vstart < maxSnmpmsgLen ∧ P := by
  have hone : [b] ≠ [] := List.cons_ne_nil b []
  rw [lands_put, h, List.length_singleton]
  simp only [hone, false_or, and_iff_right hvstart]
  have hroom : t.vstart + (1 : ℕ) ≤ maxSnmpmsgLen ↔ t.vstart < maxSnmpmsgLen := by omega
  rw [hroom]

lemma tlv_vstart_nonneg (h : m.Readable p) : 0 ≤ (m.tlv p).vstart := by
  have hp : 0 ≤ p := h.1
  change 0 ≤ p + 2 + m.octets p
  omega

lemma lands_parseRequest (hat : a.At p snmpData) {Q : ℤ → Agent → Prop}
    (hQ : ∀ r a', -1 ≤ r → Q r a') :
    lands (tolerates more) (parseRequest m turns) Q a ↔ m.Pdu more turns snmpData p := by
  rw [parseRequest]
  refine (lands_readAt hat).trans ?_
  rw [Request.Pdu]
  apply and_congr_right
  intro hread
  have hp : 0 ≤ p := hread.1
  have hbound := m.bound
  have hlast : p + 2 + m.octets p ≤ m.limit := hread.2.2
  apply lands_check (hQ _ _ (Int.le_refl _))
  intro hvalid
  rw [lands_bind]
  apply lands_copyAt hat hp
  intro hcopied a₁ hat₁
  have hfit : p + 2 + m.octets p ≤ maxSnmpmsgLen := by
    have hroom := hcopied.header_fits
    omega
  have hresponse : 0 ≤ p ∧ p + [getResponse].length ≤ maxSnmpmsgLen := by
    rw [List.length_singleton]
    omega
  rw [lands_bind]
  refine (lands_put p [getResponse]).trans ?_
  have hat₁ : Agent.At { a₁ with response := Mem.put a₁.response p.toNat [getResponse] }
    (p + (m.tlv p).header) snmpData := hat₁
  rw [and_iff_right (.inr hresponse), lands_bind]
  apply lands_copyTLV hat₁
  intro _ hsize₁ a₂ hat₂
  rw [lands_bind]
  apply lands_copyTLV hat₂
  intro hstatus hsize₂ a₃ hat₃
  rw [lands_bind]
  apply lands_copyTLV hat₃
  intro hindex hsize₃ a₄ hat₄
  rw [lands_bind]
  apply lands_parseSequenceOf hvalid hat₄
  · rw [if_pos rfl, lands_pure]
    exact hQ _ _ (Int.le_refl _)
  · intro ret a₅ hret
    have hheader : 0 ≤ (m.tlv p).header := hcopied.1
    rw [if_neg (by omega), lands_bind]
    apply lands_insertRespLen hread hp hfit
    intro a₆ hplace
    rw [lands_bind, lands_get, lands_ite]
    have hfailed : a₅.place.failed = decide (a₆.errorStatus ≠ 0) := congrArg Place.failed hplace.symm
    rw [hfailed, decide_eq_true_iff]
    by_cases herror : a₆.errorStatus ≠ 0
    · rw [if_pos herror, forall_prop_of_true herror]
      simp only [lands_bind]
      apply lands_putError (tlv_vstart_nonneg hstatus)
      intro a₇
      rw [lands_bind]
      refine (lands_putError (P := True) (tlv_vstart_nonneg hindex) _ ?_).trans
        (and_iff_left trivial)
      exact fun a₈ => iff_of_true (hQ _ a₈ (by omega)) trivial
    · rw [if_neg herror]
      exact iff_of_true (hQ _ _ (by omega)) fun h => absurd h herror

/-- A community is no shorter than its content, and the size behind it is not taken for an error. -/
lemma size_community (hread : m.Readable p) (hlen : (m.tlv p).len = community.length)
    (htag : m.tag p = snmpdtypeOctetString) : 8 ≤ (m.tlv p).size := by
  obtain ⟨hp, -, hlast⟩ := hread
  have hbound := m.bound
  rw [maxSnmpmsgLen] at hbound
  have hlen' : m.length p = 6 := hlen
  have hplain : ¬ constructed (m.tag p) := by
    rw [htag]
    decide
  have hnext : (m.tlv p).nstart = p + 2 + m.octets p + 6 := by
    rw [Request.tlv, if_neg hplain, hlen', int32_eq (by omega) (by omega)]
  have hstart : (m.tlv p).start = p := rfl
  rw [Tlv.size, hnext, hstart, int32_eq (by omega) (by omega)]
  omega

lemma lands_parseCommunity (hat : a.At p snmpData) {Q : ℤ → Agent → Prop}
    (hreject : ¬ m.OwnCommunity p → Q (-1) a) (haccept : m.OwnCommunity p → ∀ r a', 0 ≤ r → Q r a') :
    lands (tolerates more) (parseCommunity m turns) Q a ↔ m.Community more turns snmpData p := by
  rw [parseCommunity]
  refine (lands_readAt hat).trans ?_
  rw [Request.Community]
  apply and_congr_right
  intro hread
  have hvstart := tlv_vstart_nonneg hread
  rw [lands_ite]
  by_cases hknown : m.tag p = snmpdtypeOctetString ∧ (m.tlv p).len = community.length
  · rw [if_neg (not_not.2 hknown), forall_prop_of_true hknown]
    have hinside : (community.length = 0 ∨ 0 ≤ (m.tlv p).vstart ∧
        (m.tlv p).vstart + community.length ≤ m.limit) ↔
        (m.tlv p).vstart + community.length ≤ m.limit := by
      rw [and_iff_right hvstart]
      exact or_iff_right (by decide)
    rw [lands_bind, lands_bytes, hinside]
    apply and_congr_right
    intro _
    rw [lands_ite]
    by_cases hsame : m.buffer.slice (m.tlv p).vstart.toNat community.length = community
    · rw [if_pos hsame, forall_prop_of_true hsame, lands_bind]
      apply lands_copyAt hat hread.1
      intro _ a₁ hat₁
      have hsize := size_community hread hknown.2 hknown.1
      rw [lands_bind]
      apply lands_parseRequest hat₁
      intro r a' hr
      rw [lands_pure]
      exact haccept ⟨hknown.1, hknown.2, hsame⟩ _ _ (by omega)
    · rw [if_neg hsame, lands_pure]
      exact iff_of_true (hreject fun h => hsame h.2.2) fun h => absurd h hsame
  · rw [if_pos hknown, lands_pure]
    exact iff_of_true (hreject fun h => hknown ⟨h.1, h.2.1⟩) fun h => absurd h hknown

lemma Agent.At.table_eq (h : a.At p snmpData) : a.snmpData = snmpData := congrArg Place.snmpData h

lemma lands_parseVersion (hat : a.At p snmpData) {Q : ℤ → Agent → Prop}
    (hreject : ¬ m.OwnVersion p → ∀ a', a'.snmpData = snmpData → Q (-1) a')
    (haccept : m.OwnVersion p → ∀ r a', 0 ≤ r → Q r a') :
    lands (tolerates more) (parseVersion m turns) Q a ↔ m.Version more turns snmpData p := by
  rw [parseVersion]
  refine (lands_readAt hat).trans ?_
  rw [Request.Version]
  apply and_congr_right
  intro hread
  rw [lands_ite]
  by_cases htag : m.tag p = snmpdtypeInteger
  · rw [if_neg (not_not.2 htag), forall_prop_of_true htag, lands_bind, lands_byte,
      and_iff_right (tlv_vstart_nonneg hread)]
    apply and_congr_right
    intro _
    rw [lands_ite]
    change (if m.tag (m.tlv p).vstart ≠ _ then _ else _) ↔ _
    by_cases hversion : m.tag (m.tlv p).vstart = snmpV1
    · rw [if_neg (not_not.2 hversion), forall_prop_of_true hversion, lands_bind]
      apply lands_copyAt hat hread.1
      intro hcopied a₁ hat₁
      have hsize : 0 ≤ (m.tlv p).size := hcopied.1
      rw [lands_bind]
      apply lands_parseCommunity hat₁
      · intro hother
        rw [if_pos rfl, lands_pure]
        exact hreject (fun h => hother h.2.2) _ hat₁.table_eq
      · intro hown r a' hr
        rw [if_neg (by omega), lands_pure]
        exact haccept ⟨htag, hversion, hown⟩ _ _ (by omega)
    · rw [if_pos hversion, lands_pure]
      exact iff_of_true (hreject (fun h => hversion h.2.1) _ hat.table_eq) fun h => absurd h hversion
  · rw [if_pos htag, lands_pure]
    exact iff_of_true (hreject (fun h => htag h.1) _ hat.table_eq) fun h => absurd h htag

/-- A message of another version or community is refused as it stands; one of the agent's own is
answered, whatever its PDU. -/
lemma lands_answer (hat : a.At 0 snmpData) {Q : ℤ → Agent → Prop}
    (hreject : ¬ m.Addressed → ∀ a', a'.snmpData = snmpData → Q (-1) a')
    (haccept : m.Addressed → ∀ a', Q 0 a') :
    lands (tolerates more) (parseSNMPMessage m turns) Q a ↔ m.Message more turns snmpData := by
  rw [parseSNMPMessage]
  refine (lands_readAt hat).trans ?_
  rw [Request.Message]
  apply and_congr_right
  intro hread
  rw [lands_ite]
  by_cases htag : m.tag 0 = snmpdtypeSequence
  · rw [if_neg (not_not.2 htag), forall_prop_of_true htag, lands_bind]
    apply lands_copyAt hat (Int.le_refl 0)
    intro hcopied a₁ hat₁
    rw [lands_bind]
    apply lands_parseVersion hat₁
    · intro hother a' ha'
      rw [if_pos rfl, lands_pure]
      exact hreject (fun h => hother h.2) _ ha'
    · intro hown r a' hr
      rw [if_neg (by omega), lands_bind]
      refine (lands_insertRespLen (P := True) hread (Int.le_refl 0) ?_ fun a'' _ => ?_).2 trivial
      · exact hcopied.header_fits
      · rw [lands_pure]
        exact iff_of_true (haccept ⟨htag, hown⟩ _) trivial
  · rw [if_pos htag, lands_pure]
    exact iff_of_true (hreject (fun h => htag h.1) _ hat.table_eq) fun h => absurd h htag

lemma lands_parseSNMPMessage (hat : a.At 0 snmpData) :
    lands (tolerates more) (parseSNMPMessage m turns) (fun _ _ => True) a ↔
      m.Message more turns snmpData :=
  lands_answer hat (fun _ _ _ => trivial) fun _ _ => trivial

end front

/-- request_msg with a datagram in its buffer, of which any byte may be read. -/
def inBuffer (stale : Mem) (datagram : List Byte) : Request where
  buffer := stale.fill datagram
  len := datagram.length
  limit := maxSnmpmsgLen
  bound := Nat.le_refl _

/-- request_msg with a datagram in its buffer, of which the received bytes may be read. -/
def asReceived (stale : Mem) (datagram : List Byte) : Request where
  buffer := stale.fill datagram
  len := datagram.length
  limit := min datagram.length maxSnmpmsgLen
  bound := Nat.min_le_right _ _

/-- snmpd_run with a datagram waiting: the response that it sends, and the table. The length that
recvfrom gets is what the chip has received, which is more than the datagram. -/
def snmpdRun (turns : ℕ) (stale : Mem) (datagram : List Byte) (snmpData : List DataEntry) :
    Except Fault (Option (List Byte) × List DataEntry) :=
  if maxSnmpmsgLen < datagram.length then .error .outside
  else if datagram.length = 0 then .ok (none, snmpData)
  else
    match parseSNMPMessage (asReceived stale datagram) turns (Agent.start snmpData) with
    | .error f => .error f
    | .ok (ret, a) =>
      .ok (if ret ≠ -1 then some (a.response.slice 0 a.respIndex) else none, a.snmpData)

lemma start_at (snmpData : List DataEntry) : (Agent.start snmpData).At 0 snmpData := rfl

/-- A GET request with an empty list of bindings and a NULL behind it. -/
def trailingNull : List Byte :=
  [0x30, 0x1A, 0x02, 0x01, 0x00, 0x04, 0x06, 0x70, 0x75, 0x62, 0x6C, 0x69, 0x63,
    0xA0, 0x0D, 0x02, 0x01, 0x01, 0x02, 0x01, 0x00, 0x02, 0x01, 0x00, 0x30, 0x00, 0x05, 0x00]

/-- The agent stays inside its buffers exactly if the datagram fits, and the TLVs it comes to lie
in the received bytes and their answers in the response. -/
theorem inside_iff (stale : Mem) (datagram : List Byte) (snmpData : List DataEntry) :
    (∀ turns, snmpdRun turns stale datagram snmpData ≠ .error .outside) ↔
      datagram.length ≤ maxSnmpmsgLen ∧ (datagram.length = 0 ∨
        ∀ turns, (asReceived stale datagram).Message True turns snmpData) := by
  by_cases hlong : maxSnmpmsgLen < datagram.length
  · refine iff_of_false (fun h => h 0 ?_) fun h => Nat.not_le.2 hlong h.1
    rw [snmpdRun, if_pos hlong]
  · rw [and_iff_right (Nat.not_lt.1 hlong)]
    by_cases hempty : datagram.length = 0
    · refine iff_of_true (fun turns => ?_) (.inl hempty)
      rw [snmpdRun, if_neg hlong, if_pos hempty]
      simp
    · rw [or_iff_right hempty]
      apply forall_congr'
      intro turns
      rw [← lands_parseSNMPMessage (start_at snmpData), lands_tolerated, snmpdRun, if_neg hlong,
        if_neg hempty]
      cases parseSNMPMessage (asReceived stale datagram) turns (Agent.start snmpData) with
      | ok r => simp
      | error f =>
        cases f with
        | outside => exact iff_of_false (fun h => h rfl) fun h => h _ rfl
        | endless =>
          refine iff_of_true (by simp) fun f h => ?_
          rw [← Except.error.inj h]
          trivial

/-- The length of two bytes with an indefinite length is looked for behind them. -/
theorem indefinite_outside :
    ¬ ∀ stale datagram snmpData turns,
      snmpdRun turns stale datagram snmpData ≠ .error .outside := by
  intro h
  exact h (fun _ => 0) [0x30, 0x80] [] 1 rfl

end IoLibrary.Snmp
