import IoLibrary.Snmp.Reads

/-! What one binding and the loop over the bindings ask of the buffers. -/
namespace IoLibrary.Snmp
open Effects

variable {more : Prop} {m : Request} {a : Agent} {reqType : Byte}

section entries
variable {id : ℕ} {e : DataEntry}

/-- The type, the length and the value of an answer fit if they all do. -/
lemma room_iff {q len : ℕ} {data : List Byte} (hdata : data.length = len) {b₁ b₂ : Byte} {P : Prop} :
    ((data = [] ∨ 0 ≤ (q + 2 : ℤ) ∧ (q + 2 : ℤ) + data.length ≤ maxSnmpmsgLen) ∧
      ([b₁] = [] ∨ 0 ≤ (q : ℤ) ∧ (q : ℤ) + [b₁].length ≤ maxSnmpmsgLen) ∧
      ([b₂] = [] ∨ 0 ≤ (q + 1 : ℤ) ∧ (q + 1 : ℤ) + [b₂].length ≤ maxSnmpmsgLen) ∧ P) ↔
      q + 2 + len ≤ maxSnmpmsgLen ∧ P := by
  have hone (b : Byte) : [b] ≠ [] := List.cons_ne_nil b []
  simp only [hone, false_or, List.length_singleton, hdata]
  constructor
  · rintro ⟨hvalue, -, hlen, hP⟩
    refine ⟨?_, hP⟩
    rcases hvalue with rfl | ⟨-, hvalue⟩
    · rw [List.length_nil] at hdata
      omega
    · omega
  · rintro ⟨hroom, hP⟩
    exact ⟨.inr ⟨by omega, by omega⟩, ⟨by omega, by omega⟩, ⟨by omega, by omega⟩, hP⟩

/-- What a GET does once the entry's type and length are known. -/
def finishEntry (q : ℕ) (size : ℤ) (r : Byte × ℕ) : Parser ℤ := do
  put q [r.1]
  put (q + 1) [BitVec.ofNat 8 r.2]
  modify fun a => { a with respIndex := a.respIndex + (2 + r.2) }
  advance size
  return 2 + r.2

lemma lands_finishEntry (q : ℕ) (size : ℤ) (r : Byte × ℕ) {Q : ℤ → Agent → Prop} :
    lands (tolerates more) (finishEntry q size r) Q a ↔
      ([r.1] = [] ∨ 0 ≤ (q : ℤ) ∧ (q : ℤ) + [r.1].length ≤ maxSnmpmsgLen) ∧
      ([BitVec.ofNat 8 r.2] = [] ∨ 0 ≤ (q + 1 : ℤ) ∧
        (q + 1 : ℤ) + [BitVec.ofNat 8 r.2].length ≤ maxSnmpmsgLen) ∧
      Q (2 + r.2) { a with
        index := int32 (a.index + size)
        response := Mem.put (Mem.put a.response q [r.1]) (q + 1) [BitVec.ofNat 8 r.2]
        respIndex := a.respIndex + (2 + r.2) } := by
  simp only [finishEntry, advance, lands_bind, lands_put, lands_modify, lands_pure]
  rfl

/-- A GET writes the value of an entry if it fits behind the response. -/
lemma lands_getEntry (he : a.snmpData[id]? = some e) {size : ℤ} {Q : ℤ → Agent → Prop}
    {K : ℕ → Value → Prop}
    (h : ∀ (len : ℕ) v a', a'.place = { a.place.setValue id e v with
      p := int32 (a.index + size), q := a.respIndex + (2 + len) } → (Q (2 + len) a' ↔ K len v)) :
    lands (tolerates more)
      (getEntry id (a.respIndex + 2) >>= finishEntry a.respIndex size) Q a ↔
      e.Fits a.respIndex K := by
  have hoctets (v : Value) (n : ℕ) (hn : n ≤ 64) : (v.octetstring.toList.take n).length = n := by
    rw [List.length_take, Vector.length_toList]
    exact Nat.min_eq_left hn
  simp only [getEntry, setValue, lands_bind, lands_get, he]
  rw [lands_ite, DataEntry.Fits]
  by_cases hoctet : e.dataType = snmpdtypeOctetString
  · rw [if_pos (.inl hoctet), if_pos hoctet]
    simp only [lands_bind, lands_need, lands_modify, lands_put, lands_pure, lands_finishEntry,
      if_pos hoctet]
    rw [forall_prop_of_true hoctet]
    apply and_congr_right
    intro hlen
    have hbyte : (BitVec.ofNat 8 e.refreshed.strlen).toNat = e.refreshed.strlen := by
      rw [BitVec.toNat_ofNat]
      omega
    rw [hbyte, and_iff_right (Nat.le_of_lt hlen), room_iff (hoctets _ _ (Nat.le_of_lt hlen))]
    apply and_congr_right
    intro _
    exact h _ _ _ rfl
  · simp only [if_neg hoctet]
    by_cases hobjId : e.dataType = snmpdtypeObjId
    · rw [if_pos (.inr hobjId), if_pos hobjId]
      simp only [lands_bind, lands_need, lands_modify, lands_put, lands_pure, lands_finishEntry,
        if_neg hoctet]
      rw [and_iff_right fun hyes => absurd hyes hoctet]
      apply and_congr_right
      intro hlen
      rw [room_iff (hoctets _ _ hlen)]
      apply and_congr_right
      intro _
      exact h _ _ _ rfl
    · rw [if_neg fun hstring => hstring.elim hoctet hobjId, if_neg hobjId, lands_ite]
      by_cases hinteger : e.isInteger
      · rw [if_pos hinteger, if_pos hinteger]
        simp only [lands_bind, lands_modify, lands_put, lands_pure, lands_finishEntry]
        rw [room_iff (by rw [List.length_map, List.length_range])]
        apply and_congr_right
        intro _
        exact h _ _ _ rfl
      · rw [if_neg hinteger, if_neg hinteger]
        rfl

/-- A SET stores the value of the request in the entry. -/
lemma lands_setEntry (he : a.snmpData[id]? = some e) {t : Tlv} (hvstart : 0 ≤ t.vstart) {index : ℤ}
    {Q : Unit → Agent → Prop} {K : Place → Prop} (h : ∀ a', a'.index = a.index →
      (Q () a' ↔ K a'.place)) :
    lands (tolerates more) (setEntry m id t.vstart t.len (m.tag t.start) index) Q a ↔
      m.Replaced t id a.place K := by
  have hinside : (t.len.toNat = 0 ∨ 0 ≤ t.vstart ∧ t.vstart + t.len.toNat ≤ m.limit) ↔
      (t.len ≤ 0 ∨ t.vstart + t.len ≤ m.limit) := by omega
  have he' : a.place.snmpData[id]? = some e := he
  simp only [setEntry, setValue, lands_bind, lands_get, he, Request.Replaced, he']
  rw [lands_ite]
  by_cases htype : e.dataType ≠ m.tag t.start
  · rw [if_pos htype, if_pos htype, lands_modify]
    exact h _ rfl
  · rw [if_neg htype, if_neg htype, lands_ite]
    by_cases hstring : e.isString
    · rw [if_pos hstring, if_pos hstring]
      simp only [lands_bind, lands_bytes, lands_need, lands_modify, hinside, Mem.length_slice]
      apply and_congr_right
      intro _
      apply and_congr_right
      intro _
      exact h _ rfl
    · rw [if_neg hstring, if_neg hstring, lands_ite]
      by_cases hinteger : e.isInteger
      · rw [if_pos hinteger, if_pos hinteger]
        simp only [lands_bind, lands_bytes, lands_modify, hinside, lands_ite, lands_pure]
        apply and_congr_right
        intro _
        split_ifs
        · exact h _ rfl
        · exact h _ rfl
      · rw [if_neg hinteger, if_neg hinteger, lands_pure]
        exact h _ rfl

end entries

lemma Mem.put_before {r : Mem} {i k : ℕ} {data : List Byte} (h : k < i) : Mem.put r i data k = r k :=
  if_neg fun hk => absurd hk.1 (Nat.not_le.2 h)

lemma Mem.put_self (r : Mem) (i : ℕ) (b : Byte) : Mem.put r i [b] i = b := by
  simp [Mem.put]

lemma find_ge (oid len : ℤ) (snmpData : List DataEntry) {i : ℤ} (hi : -1 ≤ i) :
    -1 ≤ m.find oid len snmpData i := by
  induction snmpData generalizing i with
  | nil => exact Int.le_refl _
  | cons e snmpData ih =>
    rw [Request.find]
    split_ifs
    · exact hi
    · exact ih (by omega)

/-- The OID of the next entry goes behind the tag, and its length is read back from there. -/
lemma lands_writeOID {id : ℕ} {e : DataEntry} (he : a.snmpData[id]? = some e) {size : ℤ}
    {Q : ℤ × ℤ → Agent → Prop} :
    lands (tolerates more) (do
        advance size
        getOID id (a.respIndex + 2) (a.respIndex + 1)
        let a ← get
        let seglen := (a.response (a.respIndex + 1)).toNat + 2
        set { a with respIndex := a.respIndex + seglen }
        return ((id : ℤ), (seglen : ℤ))) Q a ↔
      a.respIndex + 2 + e.oid.length ≤ maxSnmpmsgLen ∧
        Q (id, (e.oid.length + 2 : ℕ)) { a with
          index := int32 (a.index + size)
          response := Mem.put (Mem.put a.response (a.respIndex + 1) [BitVec.ofNat 8 e.oid.length])
            (a.respIndex + 2) e.oid
          respIndex := a.respIndex + (e.oid.length + 2) } := by
  have hshort := e.short
  rw [maxOid] at hshort
  have hback : (Mem.put (Mem.put a.response (a.respIndex + 1) [BitVec.ofNat 8 e.oid.length])
      (a.respIndex + 2) e.oid (a.respIndex + 1)).toNat = e.oid.length := by
    rw [Mem.put_before (by omega), Mem.put_self, BitVec.toNat_ofNat]
    omega
  have hone : (a.respIndex + 1 : ℤ).toNat = a.respIndex + 1 := by omega
  have htwo : (a.respIndex + 2 : ℤ).toNat = a.respIndex + 2 := by omega
  simp only [advance, getOID, lands_bind, lands_modify, lands_get, he, lands_put, lands_set, lands_pure,
    hone, htwo, hback]
  rw [← and_assoc]
  have hroom : (([BitVec.ofNat 8 e.oid.length] = [] ∨ 0 ≤ (a.respIndex + 1 : ℤ) ∧
      (a.respIndex + 1 : ℤ) + [BitVec.ofNat 8 e.oid.length].length ≤ maxSnmpmsgLen) ∧
      (e.oid = [] ∨ 0 ≤ (a.respIndex + 2 : ℤ) ∧ (a.respIndex + 2 : ℤ) + e.oid.length ≤ maxSnmpmsgLen)) ↔
      a.respIndex + 2 + e.oid.length ≤ maxSnmpmsgLen := by
    have hone : [BitVec.ofNat 8 e.oid.length] ≠ [] := List.cons_ne_nil _ _
    simp only [hone, false_or, List.length_singleton]
    constructor
    · rintro ⟨hlen, hoid | ⟨-, hoid⟩⟩
      · rw [hoid, List.length_nil]
        omega
      · omega
    · intro hroom
      exact ⟨⟨by omega, by omega⟩, .inr ⟨by omega, by omega⟩⟩
  rw [hroom]

lemma lands_getOID {id : ℕ} {e : DataEntry} (he : a.snmpData[id]? = some e) {size : ℤ}
    {Q : ℤ × ℤ → Agent → Prop} {P : Prop}
    (h : ∀ a', a'.place = { a.place with
      p := int32 (a.index + size), q := a.respIndex + (e.oid.length + 2) } →
      (Q (id, (e.oid.length + 2 : ℕ)) a' ↔ P)) :
    lands (tolerates more) (do
        advance size
        getOID id (a.respIndex + 2) (a.respIndex + 1)
        let a ← get
        let seglen := (a.response (a.respIndex + 1)).toNat + 2
        set { a with respIndex := a.respIndex + seglen }
        return ((id : ℤ), (seglen : ℤ))) Q a ↔
      a.respIndex + 2 + e.oid.length ≤ maxSnmpmsgLen ∧ P := by
  rw [lands_writeOID he]
  apply and_congr_right
  intro _
  exact h _ rfl

lemma lands_answerName (hvalid : ValidRequest reqType) (hp : 0 ≤ a.index) (hroom : a.index < m.limit)
    {name : Tlv} (hname : name.start = a.index) {id : ℤ} (hid : -1 ≤ id)
    {Q : ℤ × ℤ → Agent → Prop} {K : ℤ → Place → Prop}
    (h : ∀ id size a', 0 ≤ size → (Q (id, size) a' ↔ K id a'.place)) :
    lands (tolerates more) (answerName m reqType name id) Q a ↔ m.Named reqType a.place name id K := by
  have hcopy (id : ℤ) (a : Agent) (hp : 0 ≤ a.index) (hname : name.start = a.index) :
      lands (tolerates more) (do
        copySegment m name name.size
        return (id, name.size)) Q a ↔
      m.Copied name name.size a.respIndex ∧ K id (a.place.go name.size name.size.toNat) := by
    rw [lands_bind]
    apply lands_copySegment hname hp
    intro hcopied a' hplace
    rw [lands_pure, h _ _ _ hcopied.1, hplace]
  rw [answerName, lands_ite, Request.Named]
  by_cases hnext : reqType = getNextRequest
  · have hother : ¬ (reqType = getRequest ∨ reqType = setRequest) := by
      rw [hnext]
      decide
    rw [if_neg hother, lands_ite, if_pos hnext, if_pos hnext]
    simp only [lands_bind, lands_get, lands_byte, lands_put]
    rw [hname, and_iff_right ⟨hp, hroom⟩]
    have htag : ([m.buffer a.index.toNat] = [] ∨ 0 ≤ (a.respIndex : ℤ) ∧
        (a.respIndex : ℤ) + [m.buffer a.index.toNat].length ≤ maxSnmpmsgLen) ↔
        a.respIndex < maxSnmpmsgLen := by
      have hone : [m.buffer a.index.toNat] ≠ [] := List.cons_ne_nil _ _
      simp only [hone, false_or, List.length_singleton]
      omega
    rw [htag]
    apply and_congr_right
    intro _
    rw [lands_ite]
    by_cases hlast : (a.snmpData.length : ℤ) ≤ id + 1
    · rw [if_pos hlast]
      change _ ↔ ite ((a.snmpData.length : ℤ) ≤ id + 1) _ _
      rw [if_pos hlast]
      exact hcopy (-1) _ hp hname
    · obtain ⟨k, hk⟩ : ∃ k : ℕ, id + 1 = k := ⟨(id + 1).toNat, by omega⟩
      have hbound : k < a.snmpData.length := by omega
      have hget : a.snmpData[k]? = some a.snmpData[k] := List.getElem?_eq_getElem hbound
      have hdata : a.place.snmpData = a.snmpData := rfl
      rw [if_neg hlast, hdata, if_neg hlast, hk, Int.toNat_natCast, hget]
      apply lands_getOID
      · exact hget
      · intro a' hplace
        rw [h _ _ _ (by omega), hplace]
        rfl
  · have hother : reqType = getRequest ∨ reqType = setRequest := by
      rcases hvalid with h | h | h
      · exact .inl h
      · exact absurd h hnext
      · exact .inr h
    rw [if_pos hother, if_neg hnext]
    exact hcopy id a hp hname

lemma lands_answerValue (hvalid : ValidRequest reqType) (hread : m.Readable a.index) {index id : ℤ}
    {Q : ℤ → Agent → Prop} {K : Place → Prop} (h : ∀ size a', 0 ≤ size → (Q size a' ↔ K a'.place)) :
    lands (tolerates more) (answerValue m reqType index (m.tlv a.index) id) Q a ↔
      m.Value reqType id a.place K := by
  have hp : 0 ≤ a.index := hread.1
  have hinside : a.index < m.limit := by
    have hlast := hread.2.2
    omega
  have hvstart : 0 ≤ (m.tlv a.index).vstart := by
    change 0 ≤ a.index + 2 + m.octets a.index
    omega
  rw [answerValue, lands_ite, Request.Value]
  change _ ↔ m.Readable a.index ∧ _
  rw [and_iff_right hread]
  by_cases hnone : id = -1
  · rw [if_neg (not_not.2 hnone), if_pos hnone, lands_bind]
    apply lands_copySegment rfl hp
    intro hcopied a' hplace
    change _ ↔ K { a.place.go (m.tlv a.index).size (m.tlv a.index).size.toNat with failed := true }
    rw [lands_bind, lands_modify, lands_pure, h _ _ hcopied.1, ← hplace]
    rfl
  · rw [if_pos hnone, if_neg hnone, lands_ite]
    by_cases hset : reqType = setRequest
    · have hother : ¬ (reqType = getRequest ∨ reqType = getNextRequest) := by
        rw [hset]
        decide
      rw [if_neg hother, if_pos hset, lands_bind, lands_byte]
      change (0 ≤ a.index ∧ a.index < m.limit) ∧ _ ↔ _
      rw [and_iff_right ⟨hp, hinside⟩, lands_bind]
      cases he : a.snmpData[id.toNat]? with
      | none =>
        have he' : a.place.snmpData[id.toNat]? = none := he
        simp only [setEntry, lands_bind, lands_get, he, Request.Replaced, he']
        rfl
      | some e =>
        apply lands_setEntry he hvstart
        intro a' hindex
        rw [lands_bind]
        apply lands_copySegment hindex.symm (hindex ▸ hp)
        intro hcopied a'' hplace
        rw [lands_pure, h _ _ hcopied.1, hplace]
        rfl
    · have hget : reqType = getRequest ∨ reqType = getNextRequest := by
        rcases hvalid with h | h | h
        · exact .inl h
        · exact .inr h
        · exact absurd h hset
      have hdata : a.place.snmpData = a.snmpData := rfl
      rw [if_pos hget, if_neg hset, lands_bind, lands_get, hdata]
      change lands _ (getEntry id.toNat (a.respIndex + 2) >>=
        finishEntry a.respIndex (m.tlv a.index).size) Q a ↔ _
      cases he : a.snmpData[id.toNat]? with
      | none =>
        simp only [getEntry, lands_bind, lands_get, he]
        rfl
      | some e =>
        apply lands_getEntry he
        intro len v a' hplace
        rw [h _ _ (by omega), hplace]
        rfl

/-- A name of another type ends a binding with -1, which insertRespLen still takes for a size. -/
lemma lands_parseVarBind (hvalid : ValidRequest reqType) {index : ℤ} {Q : ℤ → Agent → Prop}
    {K : Place → Prop} (h : ∀ size a', -1 ≤ size → (Q size a' ↔ K a'.place)) :
    lands (tolerates more) (parseVarBind m reqType index) Q a ↔
      m.Readable a.index ∧ (if m.tag a.index ≠ snmpdtypeObjId then K a.place
        else m.Name reqType a.place fun id s => m.Value reqType id s K) := by
  rw [parseVarBind, lands_bind, lands_get, lands_bind, lands_parseTLV]
  apply and_congr_right
  rintro ⟨hp, -, hlast⟩
  have hinside : 0 ≤ a.index ∧ a.index < m.limit := ⟨hp, by omega⟩
  have hvstart : 0 ≤ (m.tlv a.index).vstart := by
    change 0 ≤ a.index + 2 + m.octets a.index
    omega
  rw [lands_bind, lands_byte]
  change (0 ≤ a.index ∧ a.index < m.limit) ∧ lands _ (if m.tag a.index ≠ _ then _ else _) _ _ ↔ _
  rw [and_iff_right hinside, lands_ite]
  by_cases htag : m.tag a.index ≠ snmpdtypeObjId
  · rw [if_pos htag, if_pos htag, lands_pure]
    exact h _ _ (by omega)
  · rw [if_neg htag, if_neg htag, lands_bind, lands_findEntry hvstart]
    apply and_congr_right
    intro _
    have hid := find_ge (m := m) (m.tlv a.index).vstart (m.tlv a.index).len a.snmpData
      (by omega : -1 ≤ (0 : ℤ))
    rw [lands_bind]
    apply lands_answerName hvalid hp hinside.2 rfl hid
    intro id size a' hsize
    dsimp only
    rw [lands_bind, lands_get, lands_bind, lands_parseTLV]
    constructor
    · rintro ⟨hread, hvalue⟩
      rw [lands_bind] at hvalue
      refine (lands_answerValue hvalid hread fun seglen a'' hseglen => ?_).1 hvalue
      rw [lands_pure, h _ _ (by omega)]
    · intro hvalue
      have hread : m.Readable a'.index := hvalue.1
      refine ⟨hread, ?_⟩
      rw [lands_bind]
      refine (lands_answerValue hvalid hread fun seglen a'' hseglen => ?_).2 hvalue
      rw [lands_pure, h _ _ (by omega)]

lemma Request.header_tlv (p : ℤ) : (m.tlv p).header = 2 + m.octets p := by
  change p + 2 + m.octets p - p = 2 + m.octets p
  omega

/-- A copied tag and length leave room for the length that replaces it. -/
lemma Request.Copied.header_fits {p : ℤ} {q : ℕ} (h : m.Copied (m.tlv p) (m.tlv p).header q) :
    (q : ℤ) + 2 + m.octets p ≤ maxSnmpmsgLen := by
  have hroom := h.2.2
  rw [Request.header_tlv] at hroom
  omega

lemma lands_parseSequence (hvalid : ValidRequest reqType) (hread : m.Readable a.index)
    (htag : m.tag a.index = snmpdtypeSequence) {index : ℤ} {Q : ℤ → Agent → Prop} {K : Place → Prop}
    (h : ∀ size a', 0 ≤ size → (Q size a' ↔ K a'.place)) :
    lands (tolerates more) (parseSequence m reqType index) Q a ↔ m.Binding reqType a.place K := by
  have hp : 0 ≤ a.index := hread.1
  have hlast : a.index + 2 + m.octets a.index ≤ m.limit := hread.2.2
  rw [parseSequence, lands_bind, lands_get, lands_bind, lands_parseTLV, and_iff_right hread, lands_bind,
    lands_byte]
  change (0 ≤ a.index ∧ a.index < m.limit) ∧ lands _ (if m.tag a.index ≠ _ then _ else _) _ _ ↔
    m.Copied (m.tlv a.index) (m.tlv a.index).header a.respIndex ∧ _
  rw [and_iff_right ⟨hp, by omega⟩, if_neg (not_not.2 htag), lands_bind]
  apply lands_copySegment rfl hp
  intro hcopied a' hplace
  have hindex : a'.index = a.index + (m.tlv a.index).header := congrArg Place.p hplace
  rw [lands_bind]
  refine (lands_parseVarBind (K := K) hvalid fun size a'' hsize => ?_).trans ?_
  · rw [lands_bind]
    apply lands_insertRespLen hread (by omega) hcopied.header_fits
    intro a₃ hplace
    have hheader : 0 ≤ size + (m.tlv a.index).header := by
      rw [Request.header_tlv]
      omega
    rw [lands_pure, h _ _ hheader, hplace]
  · rw [hplace, hindex]
    rfl

/-- A binding that is no sequence is looked at again and again. -/
lemma lands_parseSequence_stuck (hread : m.Readable a.index) (htag : m.tag a.index ≠ snmpdtypeSequence)
    {index : ℤ} {Q : ℤ → Agent → Prop} :
    lands (tolerates more) (parseSequence m reqType index) Q a ↔ Q (-1) a := by
  have hp : 0 ≤ a.index := hread.1
  have hlast : a.index + 2 + m.octets a.index ≤ m.limit := hread.2.2
  rw [parseSequence, lands_bind, lands_get, lands_bind, lands_parseTLV, and_iff_right hread, lands_bind,
    lands_byte]
  change (0 ≤ a.index ∧ a.index < m.limit) ∧ lands _ (if m.tag a.index ≠ _ then _ else _) _ _ ↔ _
  rw [and_iff_right ⟨hp, by omega⟩, if_pos htag, lands_pure]

lemma lands_parseBindings_stuck (hopen : a.index < m.len) (hread : m.Readable a.index)
    (htag : m.tag a.index ≠ snmpdtypeSequence) {turns : ℕ} {index size : ℤ} {Q : ℤ → Agent → Prop} :
    lands (tolerates more) (parseBindings m reqType turns index size) Q a ↔ more := by
  induction turns generalizing index size with
  | zero => rfl
  | succ turns ih =>
    rw [parseBindings, lands_bind, lands_get, if_pos hopen, lands_bind,
      lands_parseSequence_stuck hread htag, ih]

/-- The loop over the bindings, turn by turn. -/
lemma lands_parseBindings (hvalid : ValidRequest reqType) {Q : ℤ → Agent → Prop} {done : Place → Prop}
    (h : ∀ size a', 0 ≤ size → (Q size a' ↔ done a'.place)) {turns : ℕ} {index size : ℤ}
    (hsize : 0 ≤ size) :
    lands (tolerates more) (parseBindings m reqType turns index size) Q a ↔
      m.Bindings reqType more done turns a.place := by
  induction turns generalizing a index size with
  | zero => rfl
  | succ turns ih =>
    rw [parseBindings, lands_bind, lands_get, lands_ite, Request.Bindings]
    change _ ↔ if a.index < m.len then _ else _
    by_cases hopen : a.index < m.len
    · rw [if_pos hopen, if_pos hopen, lands_bind]
      change _ ↔ m.Readable a.index ∧ (if m.tag a.index ≠ _ then _ else _)
      by_cases hread : m.Readable a.index
      · rw [and_iff_right hread]
        by_cases htag : m.tag a.index ≠ snmpdtypeSequence
        · rw [if_pos htag, lands_parseSequence_stuck hread htag,
            lands_parseBindings_stuck hopen hread htag]
        · rw [if_neg htag]
          apply lands_parseSequence hvalid hread (not_not.1 htag)
          intro ret a' hret
          exact ih (by omega)
      · refine iff_of_false ?_ fun h => hread h.1
        rw [parseSequence, lands_bind, lands_get, lands_bind, lands_parseTLV]
        exact fun h => hread h.1
    · rw [if_neg hopen, if_neg hopen, lands_pure]
      exact h _ _ hsize

end IoLibrary.Snmp
