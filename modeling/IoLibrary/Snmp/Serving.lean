import IoLibrary.Snmp.View

/-! What the agent writes for one binding. -/
namespace IoLibrary.Snmp
open Effects
open Ber (Form Element)

variable {m : Request} {a : Agent} {p : ℕ} {reqType : Byte}

section room
variable (r : Mem) (q : ℕ) (x y : Byte) (data : List Byte)

/-- A tag, a length and a content, written one after the other. -/
lemma slice_put_element :
    (Mem.put (Mem.put (Mem.put r q [x]) (q + 1) [y]) (q + 2) data).slice 0 (q + (data.length + 2)) =
      r.slice 0 q ++ x :: y :: data := by
  have hx : (Mem.put r q [x]).slice 0 (q + 1) = r.slice 0 q ++ [x] := Mem.slice_put_end r [x]
  have hy : (Mem.put (Mem.put r q [x]) (q + 1) [y]).slice 0 (q + 2) =
      (Mem.put r q [x]).slice 0 (q + 1) ++ [y] := Mem.slice_put_end _ [y]
  have hend : q + (data.length + 2) = q + 2 + data.length := by omega
  rw [hend, Mem.slice_put_end, hy, hx]
  simp

/-- The content first, then its tag and its length. -/
lemma slice_put_content :
    (Mem.put (Mem.put (Mem.put r (q + 2) data) q [x]) (q + 1) [y]).slice 0 (q + (2 + data.length)) =
      r.slice 0 q ++ x :: y :: data := by
  have hend : q + (2 + data.length) = q + 2 + data.length := by omega
  have htwo : r.slice 0 (q + 2) = r.slice 0 q ++ [r q] ++ [r (q + 1)] := by
    rw [Mem.slice_add, Mem.slice_succ, Mem.slice_succ, Nat.zero_add]
    simp
  have hcontent : (Mem.put r (q + 2) data).slice 0 (q + 2 + data.length) =
      r.slice 0 q ++ [r q] ++ (r (q + 1) :: data) := by
    rw [Mem.slice_put_end, htwo]
    simp
  have htag : (Mem.put (Mem.put r (q + 2) data) q [x]).slice 0 (q + 2 + data.length) =
      r.slice 0 q ++ [x] ++ (r (q + 1) :: data) :=
    Mem.slice_put _ hcontent (Mem.length_slice _ _ _) rfl
  have hsplit : r.slice 0 q ++ [x] ++ (r (q + 1) :: data) =
      (r.slice 0 q ++ [x]) ++ [r (q + 1)] ++ data := by simp
  have htag := htag.trans hsplit
  have hlen : (Mem.put (Mem.put (Mem.put r (q + 2) data) q [x]) (q + 1) [y]).slice 0
      (q + 2 + data.length) = r.slice 0 q ++ [x] ++ [y] ++ data :=
    Mem.slice_put _ htag (by simp) rfl
  rw [hend, hlen]
  simp

end room

/-- What lies behind the response so far is not part of it. -/
lemma put_view_behind (data : List Byte) :
    Agent.view { a with response := Mem.put a.response a.respIndex data } = a.view := by
  have hslice : (Mem.put a.response a.respIndex data).slice 0 a.respIndex =
      a.response.slice 0 a.respIndex := by
    apply List.map_congr_left
    intro k hk
    rw [List.mem_range'_1] at hk
    exact Mem.put_before (by omega)
  rw [Agent.view, Agent.view, hslice]
  rfl

section name
variable {b : Binding} {oid : Element}

lemma constructed_objId : ¬ constructed snmpdtypeObjId := by decide

/-- The name of the request is its answer's, too. -/
lemma lands_sameName (hhas : m.Has p b.name.bytes) (hheader : m.HasHeader p b.name)
    (htype : b.name.tag = snmpdtypeObjId) (hindex : a.index = p) {id : ℤ}
    {Q : ℤ × ℤ → Agent → Prop} {P : Prop}
    (h : ∀ a', a'.view = a.view.add b.name.bytes.length b.name.bytes →
      (Q (id, (b.name.bytes.length : ℕ)) a' ↔ P)) :
    lands (tolerates False) (do
        copySegment m (m.tlv p) (m.tlv p).size
        return (id, (m.tlv p).size)) Q a ↔
      a.respIndex + b.name.bytes.length ≤ maxSnmpmsgLen ∧ P := by
  have hplain : ¬ constructed b.name.tag := htype ▸ constructed_objId
  rw [lands_bind]
  apply lands_copyElement hhas hheader hplain hindex
  intro _ a' hview
  rw [lands_pure, hheader.size hplain]
  exact h a' hview

/-- The name of the next entry, behind the tag of the name asked for. -/
lemma lands_nextName {id : ℕ} {e : DataEntry} (he : a.snmpData[id]? = some e) {size : ℕ}
    (hindex : a.index = p) (hsize : p + size < 2 ^ 31) {r : Mem} {tag : Byte}
    (hr : a.response = Mem.put r a.respIndex [tag]) {Q : ℤ × ℤ → Agent → Prop} {P : Prop}
    (h : ∀ a', a'.view = View.add ⟨p, r.slice 0 a.respIndex, a.served⟩ size
        (Element.bytes ⟨tag, .short, e.oid⟩) →
      (Q (id, (e.oid.length + 2 : ℕ)) a' ↔ P)) :
    lands (tolerates False) (do
        advance size
        getOID id (a.respIndex + 2) (a.respIndex + 1)
        let a ← get
        let seglen := (a.response (a.respIndex + 1)).toNat + 2
        set { a with respIndex := a.respIndex + seglen }
        return ((id : ℤ), (seglen : ℤ))) Q a ↔
      a.respIndex + 2 + e.oid.length ≤ maxSnmpmsgLen ∧ P := by
  rw [lands_writeOID he]
  apply and_congr_right
  intro _
  apply h
  have hmoved : int32 (a.index + size) = p + size := by
    rw [hindex]
    exact int32_eq (by omega) (by omega)
  simp only [Agent.view, View.add, Agent.served, hmoved, hr, slice_put_element]
  rfl

/-- The number of an entry, or OID_NOT_FOUND. -/
def idOf (id : Option ℕ) : ℤ := id.elim (-1) fun k => (k : ℤ)

lemma idOf_next (snmpData : List DataEntry) (oid : List Byte) :
    idOf (entryNumber snmpData oid) + 1 = nextNumber snmpData oid := by
  rw [idOf, nextNumber]
  cases entryNumber snmpData oid with
  | none => rfl
  | some k => rfl

lemma lands_name (hvalid : ValidRequest reqType) (hhas : m.Has p b.name.bytes)
    (hheader : m.HasHeader p b.name) (htype : b.name.tag = snmpdtypeObjId) (hindex : a.index = p)
    {Q : ℤ × ℤ → Agent → Prop} {P : Prop}
    (h : ∀ a', a'.view = a.view.add b.name.bytes.length (b.answerName reqType a.snmpData).2.bytes →
      (Q (idOf (b.answerName reqType a.snmpData).1,
        ((b.answerName reqType a.snmpData).2.bytes.length : ℕ)) a' ↔ P)) :
    lands (tolerates False) (answerName m reqType (m.tlv p)
        (idOf (entryNumber a.snmpData b.name.content))) Q a ↔
      a.respIndex + (b.answerName reqType a.snmpData).2.bytes.length ≤ maxSnmpmsgLen ∧ P := by
  rw [answerName, lands_ite]
  by_cases hnext : reqType = getNextRequest
  · subst hnext
    have hother : ¬ (getNextRequest = getRequest ∨ getNextRequest = setRequest) := by decide
    have hbound := m.bound
    have hlast := hhas.1
    have hlong := b.name.length_bytes
    rw [maxSnmpmsgLen] at hbound
    have hread : 0 ≤ (m.tlv p).start ∧ (m.tlv p).start < m.limit := by
      have hstart : (m.tlv p).start = p := rfl
      omega
    have htag : m.buffer (m.tlv p).start.toNat = snmpdtypeObjId := hheader.tag.trans htype
    have hone : ([snmpdtypeObjId] = [] ∨ 0 ≤ (a.respIndex : ℤ) ∧
        (a.respIndex : ℤ) + [snmpdtypeObjId].length ≤ maxSnmpmsgLen) ↔
        a.respIndex < maxSnmpmsgLen := by
      have hne : [snmpdtypeObjId] ≠ [] := List.cons_ne_nil _ _
      simp only [hne, false_or, List.length_singleton]
      omega
    have hview := put_view_behind (a := a) [snmpdtypeObjId]
    rw [if_neg hother, lands_ite, if_pos rfl]
    simp only [lands_bind, lands_get, lands_byte, lands_put]
    rw [and_iff_right hread, htag, hone, Int.toNat_natCast, lands_ite, idOf_next]
    cases he : a.snmpData[nextNumber a.snmpData b.name.content]? with
    | none =>
      rw [Binding.answerName_last he] at h ⊢
      have hend : (a.snmpData.length : ℤ) ≤ nextNumber a.snmpData b.name.content := by
        have hle := List.getElem?_eq_none_iff.1 he
        omega
      rw [if_pos hend]
      refine (and_congr_right fun _ => lands_sameName (P := P)
        (a := { a with response := Mem.put a.response a.respIndex [snmpdtypeObjId] })
        hhas hheader htype hindex ?_).trans ?_
      · intro a' hview'
        rw [hview] at hview'
        exact h a' hview'
      · change a.respIndex < _ ∧ a.respIndex + b.name.bytes.length ≤ _ ∧ P ↔
          a.respIndex + b.name.bytes.length ≤ _ ∧ P
        constructor
        · exact fun hboth => hboth.2
        · exact fun hroom => ⟨by omega, hroom⟩
    | some e =>
      rw [Binding.answerName_next he] at h ⊢
      have hend : ¬ (a.snmpData.length : ℤ) ≤ nextNumber a.snmpData b.name.content := by
        have hlt := (List.getElem?_eq_some_iff.1 he).1
        omega
      have hsize := hheader.size (htype ▸ constructed_objId)
      have hlength : (Element.bytes ⟨snmpdtypeObjId, .short, e.oid⟩).length = e.oid.length + 2 := by
        rw [Element.length_bytes]
        change 1 + 1 + e.oid.length = _
        omega
      rw [if_neg hend, hsize]
      rw [hlength]
      refine (and_congr_right fun _ => lands_nextName (P := P)
        (a := { a with response := Mem.put a.response a.respIndex [snmpdtypeObjId] })
        he hindex (by omega) rfl ?_).trans ?_
      · intro a' hview'
        rw [← hlength]
        apply h
        rw [hview', Agent.view, hindex]
        rfl
      · change a.respIndex < _ ∧ a.respIndex + 2 + e.oid.length ≤ _ ∧ P ↔ _
        constructor
        · exact fun hboth => ⟨by omega, hboth.2.2⟩
        · exact fun hroom => ⟨by omega, by omega, hroom.2⟩
  · have hother : reqType = getRequest ∨ reqType = setRequest := by
      rcases hvalid with hget | hget | hset
      · exact .inl hget
      · exact absurd hget hnext
      · exact .inr hset
    rw [if_pos hother]
    rw [Binding.answerName_same hnext] at h ⊢
    exact lands_sameName hhas hheader htype hindex h

end name

section entries
variable {id : ℕ} {e : DataEntry}

/-- A GET writes the octets of a value, and nothing else of the response. -/
lemma lands_getEntry_fetched (he : a.snmpData[id]? = some e) {ptr : ℤ} {Q : Byte × ℕ → Agent → Prop} :
    lands (tolerates False) (getEntry id ptr) Q a ↔
      ∃ r, e.fetched = some r ∧ (r.2 = [] ∨ 0 ≤ ptr ∧ ptr + r.2.length ≤ maxSnmpmsgLen) ∧
        Q (e.dataType, r.2.length) { a with
          snmpData := a.snmpData.set id { e with value := r.1 }
          response := Mem.put a.response ptr.toNat r.2 } := by
  have hoctets (v : Value) {n : ℕ} (hn : n ≤ 64) : (v.octetstring.toList.take n).length = n := by
    rw [List.length_take, Vector.length_toList]
    exact Nat.min_eq_left hn
  simp only [getEntry, setValue, lands_bind, lands_get, he]
  rw [lands_ite, DataEntry.fetched]
  by_cases hoctet : e.dataType = snmpdtypeOctetString
  · rw [if_pos (.inl hoctet), if_pos hoctet]
    simp only [lands_bind, lands_need, lands_modify, lands_put, lands_pure, if_pos hoctet]
    rw [forall_prop_of_true hoctet]
    by_cases hlen : e.refreshed.strlen < 64
    · have hbyte : (BitVec.ofNat 8 e.refreshed.strlen).toNat = e.refreshed.strlen := by
        rw [BitVec.toNat_ofNat]
        omega
      rw [and_iff_right hlen, if_pos hlen, hbyte, and_iff_right (Nat.le_of_lt hlen)]
      simp only [Option.some.injEq, exists_eq_left', hoctets _ (Nat.le_of_lt hlen)]
    · rw [if_neg hlen]
      simp [hlen]
  · simp only [if_neg hoctet]
    by_cases hobjId : e.dataType = snmpdtypeObjId
    · rw [if_pos (.inr hobjId), if_pos hobjId]
      simp only [lands_bind, lands_need, lands_modify, lands_put, lands_pure, if_neg hoctet]
      rw [and_iff_right fun hyes => absurd hyes hoctet]
      by_cases hlen : e.refreshed.dataLen.toNat ≤ 64
      · rw [and_iff_right hlen, if_pos hlen]
        simp only [Option.some.injEq, exists_eq_left', hoctets _ hlen]
      · rw [if_neg hlen]
        simp [hlen]
    · rw [if_neg fun hstring => hstring.elim hoctet hobjId, if_neg hobjId, lands_ite]
      by_cases hinteger : e.isInteger
      · rw [if_pos hinteger, if_pos hinteger]
        simp only [lands_bind, lands_modify, lands_put, lands_pure, Option.some.injEq, exists_eq_left',
          List.length_map, List.length_range]
      · rw [if_neg hinteger, if_neg hinteger]
        simp [tolerates]

/-- The answer to a GET: a value, with its type and its length. -/
lemma lands_fetched (he : a.snmpData[id]? = some e) {size : ℕ} (hindex : a.index = p)
    (hsize : p + size < 2 ^ 31) {Q : ℤ → Agent → Prop} {P : Value × List Byte → Prop}
    (h : ∀ r a', a.respIndex + 2 + r.2.length ≤ maxSnmpmsgLen →
      a'.view = View.add { a.view with served := a.served.setValue id e r.1 } size
        (Element.bytes ⟨e.dataType, .short, r.2⟩) → (Q (2 + r.2.length : ℕ) a' ↔ P r)) :
    lands (tolerates False) (getEntry id (a.respIndex + 2) >>= finishEntry a.respIndex size) Q a ↔
      ∃ r, e.fetched = some r ∧ a.respIndex + 2 + r.2.length ≤ maxSnmpmsgLen ∧ P r := by
  rw [lands_bind, lands_getEntry_fetched he]
  apply exists_congr
  intro r
  apply and_congr_right
  intro _
  rw [lands_finishEntry, room_iff rfl]
  apply and_congr_right
  intro hroom
  have hmoved : int32 ((p : ℤ) + size) = p + size := int32_eq (by omega) (by omega)
  have hptr : (a.respIndex + 2 : ℤ).toNat = a.respIndex + 2 := by omega
  have hvalue := h r { a with
    index := int32 (a.index + size)
    snmpData := a.snmpData.set id { e with value := r.1 }
    response := Mem.put (Mem.put (Mem.put a.response (a.respIndex + 2) r.2) a.respIndex [e.dataType])
      (a.respIndex + 1) [BitVec.ofNat 8 r.2.length]
    respIndex := a.respIndex + (2 + r.2.length) } hroom (by
      simp only [Agent.view, View.add, Agent.served, hmoved, hindex, slice_put_content]
      rfl)
  rw [hptr]
  exact_mod_cast hvalue

/-- A SET changes the entry it names, as far as it is of the entry's type. -/
lemma lands_stored (he : a.snmpData[id]? = some e) {value : Element} (hhas : m.Has p value.bytes)
    (hheader : m.HasHeader p value) {index : ℕ} {Q : Unit → Agent → Prop} {P : Served → Prop}
    (h : ∀ s a', a'.view = { a.view with served := s } → (Q () a' ↔ P s)) :
    lands (tolerates False) (setEntry m id (m.tlv p).vstart (m.tlv p).len value.tag index) Q a ↔
      ∃ s, a.served.store index id e value = some s ∧ P s := by
  rw [Element.bytes, Request.has_append, Element.length_header] at hhas
  obtain ⟨-, hlast, hcontent⟩ := hhas
  have hvstart := hheader.vstart
  have hat : ((p : ℤ) + 1 + value.form.size).toNat = p + (value.form.size + 1) := by omega
  have hinside : (value.content.length = 0 ∨ 0 ≤ (p : ℤ) + 1 + value.form.size ∧
      (p : ℤ) + 1 + value.form.size + value.content.length ≤ m.limit) ↔ True :=
    iff_of_true (.inr (by omega)) trivial
  have hlen : ((value.content.length : ℕ) : ℤ) ≤ 64 ↔ value.content.length ≤ 64 := by omega
  simp only [setEntry, setValue, lands_bind, lands_get, he, hvstart, hheader.len, Int.toNat_natCast,
    BitVec.ofInt_natCast]
  rw [lands_ite, Served.store]
  by_cases htype : e.dataType ≠ value.tag
  · rw [if_pos htype, if_pos htype, lands_modify]
    simp only [Option.some.injEq, exists_eq_left']
    exact h _ _ rfl
  · rw [if_neg htype, if_neg htype, lands_ite]
    by_cases hstring : e.isString
    · rw [if_pos hstring, if_pos hstring]
      simp only [lands_bind, lands_bytes, lands_need, lands_modify, hheader.len, hinside, true_and,
        hat, hcontent, hlen]
      by_cases hshort : value.content.length ≤ 64
      · rw [if_pos hshort, and_iff_right hshort]
        simp only [Option.some.injEq, exists_eq_left']
        exact h _ _ rfl
      · rw [if_neg hshort]
        simp [hshort]
    · rw [if_neg hstring, if_neg hstring, lands_ite]
      by_cases hinteger : e.isInteger
      · rw [if_pos hinteger, if_pos hinteger]
        simp only [lands_bind, lands_bytes, lands_modify, hinside, true_and, hat, hcontent, lands_ite,
          lands_pure, Option.some.injEq, exists_eq_left']
        split_ifs with hcall
        · exact h _ _ rfl
        · exact h _ _ rfl
      · rw [if_neg hinteger, if_neg hinteger, lands_pure]
        simp only [Option.some.injEq, exists_eq_left']
        exact h _ _ rfl

end entries

/-- An element that lies in the request can be held. -/
lemma hasHeader {e : Element} (h : m.Has p e.bytes) (hwf : e.WellFormed) : m.HasHeader p e := by
  have hbound := m.bound
  have hlast := h.1
  rw [Element.length_bytes] at hlast
  rw [Element.bytes, Request.has_append] at h
  exact ⟨h.1, hwf, by omega⟩

lemma valueTypes_plain {tag : Byte} (h : tag ∈ valueTypes) : ¬ constructed tag := by
  have hall : ∀ tag ∈ valueTypes, ¬ constructed tag := by decide
  exact hall tag h

section binding
variable {b : Binding}

lemma length_short (tag : Byte) (content : List Byte) :
    (Element.bytes ⟨tag, .short, content⟩).length = 2 + content.length := by
  rw [Element.length_bytes]
  rfl

lemma idOf_some (id : ℕ) : idOf (some id) ≠ -1 := by
  rw [idOf, Option.elim_some]
  omega

/-- Where the name is not in the table the value is copied, and the error is noSuchName. -/
lemma lands_value_none (hhas : m.Has p b.value.bytes) (hb : b.WellFormed) (hindex : a.index = p) {index : ℕ}
    {Q : ℤ → Agent → Prop} {P : Element × Served → Prop}
    (h : ∀ r a', a.respIndex + r.1.bytes.length ≤ maxSnmpmsgLen →
      a'.view = View.add { a.view with served := r.2 } b.value.bytes.length r.1.bytes →
      (Q (r.1.bytes.length : ℕ) a' ↔ P r)) :
    lands (tolerates False) (answerValue m reqType index (m.tlv p) (idOf none)) Q a ↔
      ∃ r, b.answerValue reqType index a.served none = some r ∧
        a.respIndex + r.1.bytes.length ≤ maxSnmpmsgLen ∧ P r := by
  have hheader := hasHeader hhas hb.value
  have hplain := valueTypes_plain hb.valueType
  have hnone : ¬ idOf none ≠ -1 := fun hne => hne rfl
  rw [answerValue, if_neg hnone, lands_bind, Binding.answerValue]
  simp only [Option.some.injEq, exists_eq_left']
  apply lands_copyElement hhas hheader hplain hindex
  intro hroom a' hview
  rw [lands_bind, lands_modify, lands_pure, hheader.size hplain]
  apply h (b.value, a.served.fail noSuchName index) _ hroom
  have hfail : Agent.view { a' with
      errorIndex := BitVec.ofInt 8 index
      errorStatus := noSuchName } =
      { a'.view with served := a'.view.served.fail noSuchName index } := by
    rw [BitVec.ofInt_natCast]
    rfl
  rw [hfail, hview]
  rfl

/-- Outside the table nothing is answered. -/
lemma lands_value_outside {id : ℕ} (he : a.snmpData[id]? = none) {index : ℕ} {Q : ℤ → Agent → Prop} :
    ¬ lands (tolerates False) (answerValue m reqType index (m.tlv p) (idOf (some id))) Q a := by
  have hid : (idOf (some id)).toNat = id := Int.toNat_natCast id
  rw [answerValue, if_pos (idOf_some id), lands_ite, hid]
  split_ifs
  · simp [getEntry, he, tolerates]
  · simp [setEntry, he, tolerates]

/-- A SET stores the value and copies it. -/
lemma lands_value_set (hset : reqType = setRequest) (hhas : m.Has p b.value.bytes) (hb : b.WellFormed)
    (hindex : a.index = p) {id : ℕ} {e : DataEntry} (he : a.snmpData[id]? = some e) {index : ℕ}
    {Q : ℤ → Agent → Prop} {P : Element × Served → Prop}
    (h : ∀ r a', a.respIndex + r.1.bytes.length ≤ maxSnmpmsgLen →
      a'.view = View.add { a.view with served := r.2 } b.value.bytes.length r.1.bytes →
      (Q (r.1.bytes.length : ℕ) a' ↔ P r)) :
    lands (tolerates False) (answerValue m reqType index (m.tlv p) (idOf (some id))) Q a ↔
      ∃ s, a.served.store index id e b.value = some s ∧
        a.respIndex + b.value.bytes.length ≤ maxSnmpmsgLen ∧ P (b.value, s) := by
  have hheader := hasHeader hhas hb.value
  have hplain := valueTypes_plain hb.valueType
  have hsize := hheader.size hplain
  have hlast := hhas.1
  have hid : (idOf (some id)).toNat = id := Int.toNat_natCast id
  have hother : ¬ (reqType = getRequest ∨ reqType = getNextRequest) := by
    rw [hset]
    decide
  have hread : 0 ≤ (m.tlv p).start ∧ (m.tlv p).start < m.limit := by
    have hstart : (m.tlv p).start = p := rfl
    have hlong := b.value.length_bytes
    omega
  have htag : m.buffer (m.tlv p).start.toNat = b.value.tag := hheader.tag
  have hpost : ∀ s a', a'.view = { a.view with served := s } →
      (lands (tolerates False) (do
        copySegment m (m.tlv p) (m.tlv p).size
        return (m.tlv p).size) Q a' ↔
        a.respIndex + b.value.bytes.length ≤ maxSnmpmsgLen ∧ P (b.value, s)) := by
    intro s a' hview
    have hindex' : a'.index = p := (congrArg View.p hview).trans hindex
    have hresp : a'.respIndex = a.respIndex := by
      rw [respIndex_view hview, respIndex_view (v := a.view) rfl]
    rw [lands_bind, ← hresp]
    apply lands_copyElement hhas hheader hplain hindex'
    intro hroom a'' hview'
    rw [lands_pure, hsize]
    apply h (b.value, s) _ (hresp ▸ hroom)
    rw [hview', hview]
  rw [answerValue, if_pos (idOf_some id), lands_ite, hid, if_neg hother, lands_bind, lands_byte, and_iff_right hread, htag,
    lands_bind]
  exact lands_stored he hhas hheader hpost

/-- A GET puts the entry in the place of the value. -/
lemma lands_value_get (hget : reqType = getRequest ∨ reqType = getNextRequest) (hhas : m.Has p b.value.bytes)
    (hb : b.WellFormed) (hindex : a.index = p) {id : ℕ} {e : DataEntry} (he : a.snmpData[id]? = some e) {index : ℕ}
    {Q : ℤ → Agent → Prop} {P : Element × Served → Prop}
    (h : ∀ r a', a.respIndex + r.1.bytes.length ≤ maxSnmpmsgLen →
      a'.view = View.add { a.view with served := r.2 } b.value.bytes.length r.1.bytes →
      (Q (r.1.bytes.length : ℕ) a' ↔ P r)) :
    lands (tolerates False) (answerValue m reqType index (m.tlv p) (idOf (some id))) Q a ↔
      ∃ r, e.fetched = some r ∧ a.respIndex + 2 + r.2.length ≤ maxSnmpmsgLen ∧
        P (⟨e.dataType, .short, r.2⟩, a.served.setValue id e r.1) := by
  have hheader := hasHeader hhas hb.value
  have hbound := m.bound
  have hlast := hhas.1
  rw [maxSnmpmsgLen] at hbound
  have hid : (idOf (some id)).toNat = id := Int.toNat_natCast id
  rw [answerValue, if_pos (idOf_some id), lands_ite, hid, if_pos hget, lands_bind, lands_get]
  change lands _ (getEntry id (a.respIndex + 2) >>= finishEntry a.respIndex (m.tlv p).size) Q a ↔ _
  rw [hheader.size (valueTypes_plain hb.valueType)]
  apply lands_fetched (P := fun r => P (⟨e.dataType, .short, r.2⟩, a.served.setValue id e r.1)) he hindex (by omega)
  intro r a' hroom hview
  rw [← length_short e.dataType]
  apply h (⟨e.dataType, .short, r.2⟩, a.served.setValue id e r.1) a' _ hview
  rw [length_short]
  omega

lemma lands_value (hvalid : ValidRequest reqType) (hhas : m.Has p b.value.bytes)
    (hb : b.WellFormed) (hindex : a.index = p) {id : Option ℕ} {index : ℕ}
    {Q : ℤ → Agent → Prop} {P : Element × Served → Prop}
    (h : ∀ r a', a.respIndex + r.1.bytes.length ≤ maxSnmpmsgLen →
      a'.view = View.add { a.view with served := r.2 } b.value.bytes.length r.1.bytes →
      (Q (r.1.bytes.length : ℕ) a' ↔ P r)) :
    lands (tolerates False) (answerValue m reqType index (m.tlv p) (idOf id)) Q a ↔
      ∃ r, b.answerValue reqType index a.served id = some r ∧
        a.respIndex + r.1.bytes.length ≤ maxSnmpmsgLen ∧ P r := by
  cases id with
  | none => exact lands_value_none hhas hb hindex h
  | some id =>
    cases he : a.snmpData[id]? with
    | none =>
      have hno : b.answerValue reqType index a.served (some id) = none := by
        change a.snmpData[id]? >>= _ = none
        rw [he]
        rfl
      refine iff_of_false (lands_value_outside he) ?_
      rintro ⟨r, hr, -⟩
      rw [hno] at hr
      cases hr
    | some e =>
      rw [Binding.answerValue]
      change _ ↔ ∃ r, (a.snmpData[id]? >>= _) = some r ∧ _
      rw [he]
      by_cases hset : reqType = setRequest
      · rw [lands_value_set hset hhas hb hindex he h]
        simp only [if_pos hset, Option.bind_eq_bind, Option.bind_some]
        constructor
        · rintro ⟨s, hs, hroom, hP⟩
          refine ⟨(b.value, s), ?_, hroom, hP⟩
          rw [hs]
          rfl
        · rintro ⟨r, hr, hroom, hP⟩
          obtain ⟨s, hs, hs'⟩ := Option.bind_eq_some_iff.1 hr
          cases hs'
          exact ⟨s, hs, hroom, hP⟩
      · have hget : reqType = getRequest ∨ reqType = getNextRequest := by
          rcases hvalid with hget | hget | hget
          · exact .inl hget
          · exact .inr hget
          · exact absurd hget hset
        rw [lands_value_get hget hhas hb hindex he h]
        simp only [if_neg hset, Option.bind_eq_bind, Option.bind_some]
        constructor
        · rintro ⟨r, hr, hroom, hP⟩
          refine ⟨(⟨e.dataType, .short, r.2⟩, a.served.setValue id e r.1), ?_, ?_, hP⟩
          · rw [hr]
            rfl
          · rw [length_short]
            omega
        · rintro ⟨r, hr, hroom, hP⟩
          obtain ⟨v, hv, hv'⟩ := Option.bind_eq_some_iff.1 hr
          cases hv'
          rw [length_short] at hroom
          exact ⟨v, hv, by omega, hP⟩

/-- The name is looked up in the table. -/
lemma lands_lookup (hhas : m.Has p b.name.bytes) (hb : b.WellFormed) (snmpData : List DataEntry)
    {Q : ℤ → Agent → Prop} :
    lands (tolerates False) (findEntry m (m.tlv p).vstart (m.tlv p).len snmpData 0) Q a ↔
      Q (idOf (entryNumber snmpData b.name.content)) a := by
  have hheader := hasHeader hhas hb.name
  have hcontent : m.Has (p + (b.name.form.size + 1)) b.name.content := by
    rw [Element.bytes, Request.has_append, Element.length_header] at hhas
    exact hhas.2
  have hvstart : (m.tlv p).vstart = (p + (b.name.form.size + 1) : ℕ) := by
    rw [hheader.vstart]
    omega
  have hfind := find_name hcontent snmpData 0
  simp only [Nat.zero_add] at hfind
  rw [hvstart, hheader.len, lands_findEntry (by omega), and_iff_right (searched_name hcontent snmpData)]
  rw [← Int.natCast_zero, hfind]
  rfl

/-- A name and a value are answered by a name and a value. -/
lemma lands_varBind (hvalid : ValidRequest reqType) (hhas : m.Has p (b.name.bytes ++ b.value.bytes))
    (hb : b.WellFormed) (hindex : a.index = p) {index : ℕ} {Q : ℤ → Agent → Prop}
    {P : Binding × Served → Prop}
    (h : ∀ r a', r.1.form = b.form →
      a.respIndex + (r.1.name.bytes ++ r.1.value.bytes).length ≤ maxSnmpmsgLen →
      a'.view = View.add { a.view with served := r.2 }
        (b.name.bytes ++ b.value.bytes).length (r.1.name.bytes ++ r.1.value.bytes) →
      (Q ((r.1.name.bytes ++ r.1.value.bytes).length : ℕ) a' ↔ P r)) :
    lands (tolerates False) (parseVarBind m reqType index) Q a ↔
      ∃ r, b.answer reqType index a.served = some r ∧
        a.respIndex + (r.1.name.bytes ++ r.1.value.bytes).length ≤ maxSnmpmsgLen ∧ P r := by
  rw [Request.has_append] at hhas
  have hheader := hasHeader hhas.1 hb.name
  have hlast := hhas.1.1
  have hlong := b.name.length_bytes
  have hread : 0 ≤ (m.tlv p).start ∧ (m.tlv p).start < m.limit := by
    have hstart : (m.tlv p).start = p := rfl
    omega
  have htag : m.buffer (m.tlv p).start.toNat = snmpdtypeObjId := hheader.tag.trans hb.nameType
  rw [parseVarBind, lands_bind, lands_get, hindex, lands_bind, lands_parseTLV,
    and_iff_right hheader.readable, lands_bind, lands_byte, and_iff_right hread, htag,
    if_neg (not_not.2 rfl), lands_bind, lands_lookup hhas.1 hb, lands_bind]
  let name := b.answerName reqType a.snmpData
  have hmove : ∀ a', a'.view = a.view.add b.name.bytes.length name.2.bytes →
      (lands (tolerates False) (do
          let a ← get
          let value ← parseTLV m a.index
          let seglen ← answerValue m reqType index value (idOf name.1)
          return (name.2.bytes.length : ℤ) + seglen) Q a' ↔
        ∃ r, b.answerValue reqType index a.served name.1 = some r ∧
          a.respIndex + (name.2.bytes ++ r.1.bytes).length ≤ maxSnmpmsgLen ∧
          P ({ b with name := name.2, value := r.1 }, r.2)) := by
    intro a' hview
    have hindex' : a'.index = (p + b.name.bytes.length : ℕ) := by
      have hp := congrArg View.p hview
      change a'.index = a.index + (b.name.bytes.length : ℕ) at hp
      rw [hp, hindex]
      omega
    have hserved : a'.served = a.served := congrArg View.served hview
    have hresp : a'.respIndex = a.respIndex + name.2.bytes.length := by
      rw [respIndex_view hview, respIndex_view (v := a.view) rfl]
      exact List.length_append
    have hvalue := hasHeader hhas.2 hb.value
    rw [lands_bind, lands_get, hindex', lands_bind, lands_parseTLV, and_iff_right hvalue.readable,
      lands_bind]
    rw [lands_value (P := fun r => P ({ b with name := name.2, value := r.1 }, r.2))
      hvalid hhas.2 hb hindex', hserved]
    · apply exists_congr
      intro r
      rw [hresp, List.length_append, Nat.add_assoc]
    · intro r a'' hroom hview'
      rw [lands_pure]
      have hsum : (name.2.bytes.length : ℤ) + (r.1.bytes.length : ℕ) =
          ((name.2.bytes ++ r.1.bytes).length : ℕ) := by
        rw [List.length_append]
        omega
      have hroom' : a.respIndex + (name.2.bytes ++ r.1.bytes).length ≤ maxSnmpmsgLen := by
        rw [List.length_append]
        omega
      rw [hsum]
      apply h ({ b with name := name.2, value := r.1 }, r.2) _ rfl hroom'
      rw [hview', hview]
      simp only [View.add, List.length_append, List.append_assoc, Int.natCast_add, Int.add_assoc]
  refine (lands_name (a := a) hvalid hhas.1 hheader hb.nameType hindex hmove).trans ?_
  change a.respIndex + name.2.bytes.length ≤ _ ∧ _ ↔ _
  have hanswer : b.answer reqType index a.served =
      (b.answerValue reqType index a.served name.1).bind fun r =>
        some ({ b with name := name.2, value := r.1 }, r.2) := rfl
  rw [hanswer]
  constructor
  · rintro ⟨-, r, hr, hroom, hP⟩
    exact ⟨_, Option.bind_eq_some_iff.2 ⟨r, hr, rfl⟩, hroom, hP⟩
  · rintro ⟨r, hr, hroom, hP⟩
    obtain ⟨v, hv, hv'⟩ := Option.bind_eq_some_iff.1 hr
    cases hv'
    have hfirst : name.2.bytes.length ≤ (name.2.bytes ++ v.1.bytes).length := by
      rw [List.length_append]
      omega
    exact ⟨Nat.le_trans (Nat.add_le_add_left hfirst _) hroom, v, hv, hroom, hP⟩

lemma Binding.answer_form {index : ℕ} {s : Served} {r : Binding × Served}
    (h : b.answer reqType index s = some r) : r.1.form = b.form := by
  obtain ⟨v, -, hv⟩ := Option.bind_eq_some_iff.1 h
  cases hv
  rfl

lemma Binding.length_answer {b' : Binding} (h : b'.form = b.form) :
    b'.element.bytes.length = b.element.header.length + (b'.name.bytes ++ b'.value.bytes).length := by
  have hform : b'.element.form = b.element.form := h
  rw [Element.length_bytes, Element.length_header, hform]
  rfl

/-- The sequence around them gets the length of the answer. -/
lemma lands_sequence (hvalid : ValidRequest reqType) (hhas : m.Has p b.element.bytes)
    (hb : b.WellFormed) (hindex : a.index = p) {index : ℕ} {Q : ℤ → Agent → Prop}
    {P : Binding × Served → Prop}
    (h : ∀ r a', a.respIndex + r.1.element.bytes.length ≤ maxSnmpmsgLen →
      a'.view = View.add { a.view with served := r.2 } b.element.bytes.length r.1.element.bytes →
      (Q (r.1.element.bytes.length : ℕ) a' ↔ P r)) :
    lands (tolerates False) (parseSequence m reqType index) Q a ↔
      ∃ r, b.answer reqType index a.served = some r ∧
        a.respIndex + r.1.element.bytes.length ≤ maxSnmpmsgLen ∧ P r := by
  have hheader := hasHeader hhas hb.element
  have hlast := hhas.1
  have hlong := b.element.length_bytes
  have hread : 0 ≤ (m.tlv p).start ∧ (m.tlv p).start < m.limit := by
    have hstart : (m.tlv p).start = p := rfl
    omega
  have htag : m.buffer (m.tlv p).start.toNat = snmpdtypeSequence := hheader.tag
  have hcontent : m.Has (p + b.element.header.length) (b.name.bytes ++ b.value.bytes) := by
    rw [Element.bytes, Request.has_append] at hhas
    exact hhas.2
  rw [parseSequence, lands_bind, lands_get, hindex, lands_bind, lands_parseTLV,
    and_iff_right hheader.readable, lands_bind, lands_byte, and_iff_right hread, htag,
    if_neg (not_not.2 rfl), lands_bind]
  have hwrite : a.respIndex + b.element.header.length ≤ maxSnmpmsgLen →
      ∀ a', a'.view = a.view.add b.element.header.length b.element.header →
      (lands (tolerates False) (do
          let size ← parseVarBind m reqType index
          insertRespLen m (m.tlv p).start a.respIndex size
          return size + (m.tlv p).header) Q a' ↔
        ∃ r, b.answer reqType index a.served = some r ∧
          a.respIndex + b.element.header.length + (r.1.name.bytes ++ r.1.value.bytes).length ≤
            maxSnmpmsgLen ∧ P r) := by
    intro hroom a' hview
    have hindex' : a'.index = (p + b.element.header.length : ℕ) := by
      have hp := congrArg View.p hview
      change a'.index = a.index + (b.element.header.length : ℕ) at hp
      rw [hp, hindex]
      omega
    have hserved : a'.served = a.served := congrArg View.served hview
    have hresp : a'.respIndex = a.respIndex + b.element.header.length := by
      rw [respIndex_view hview, respIndex_view (a := a) rfl]
      exact List.length_append
    rw [lands_bind, ← hresp, ← hserved]
    apply lands_varBind hvalid hcontent hb hindex'
    intro r a'' hform hroom' hview'
    have hout : a''.view.out = a.view.out ++ b.element.header ++
        (r.1.name.bytes ++ r.1.value.bytes) := by
      rw [hview', hview]
      rfl
    have hanswer : (⟨b.element.tag, b.element.form, r.1.name.bytes ++ r.1.value.bytes⟩ : Element) =
        r.1.element := by
      rw [Binding.element, Binding.element, hform]
    have hlength := Binding.length_answer hform
    rw [lands_bind]
    apply lands_closeElement hheader hout (respIndex_view rfl).symm (by omega)
    intro a₃ hview₃
    have hsum : (((r.1.name.bytes ++ r.1.value.bytes).length : ℕ) : ℤ) + (m.tlv p).header =
        (r.1.element.bytes.length : ℕ) := by
      rw [hheader.header, hlength, Element.length_header]
      omega
    rw [lands_pure, hsum]
    apply h r a₃
    · omega
    · rw [hview₃, hview', hview, hanswer]
      have hadd : b.element.bytes.length =
          b.element.header.length + (b.name.bytes ++ b.value.bytes).length := List.length_append
      simp only [View.add, hadd, Int.natCast_add, Int.add_assoc]
  refine (lands_copyHeader hheader hindex hwrite).trans ?_
  constructor
  · rintro ⟨-, r, hr, hroom, hP⟩
    have hlength := Binding.length_answer (Binding.answer_form hr)
    exact ⟨r, hr, by omega, hP⟩
  · rintro ⟨r, hr, hroom, hP⟩
    have hlength := Binding.length_answer (Binding.answer_form hr)
    exact ⟨by omega, r, hr, by omega, hP⟩

end binding

lemma Binding.element_bytes_pos (b : Binding) : 0 < b.element.bytes.length := by
  rw [Element.length_bytes]
  omega

/-- The bindings, with what has been answered so far in front. -/
lemma lands_bindings (hvalid : ValidRequest reqType) {bindings : List Binding}
    (hb : ∀ b ∈ bindings, b.WellFormed)
    (hhas : m.Has p (bindingBytes bindings))
    (hend : p + (bindingBytes bindings).length = m.len) (hindex : a.index = p)
    (hresp : a.respIndex ≤ maxSnmpmsgLen) {turns index : ℕ} {size : ℕ} {Q : ℤ → Agent → Prop}
    {P : List Binding × Served → Prop}
    (h : ∀ r a',
      a.respIndex + (bindingBytes r.1).length ≤ maxSnmpmsgLen →
      a'.view = View.add { a.view with served := r.2 }
        (bindingBytes bindings).length (bindingBytes r.1) →
      (Q (size + (bindingBytes r.1).length : ℕ) a' ↔ P r)) :
    lands (tolerates False) (parseBindings m reqType turns index size) Q a ↔
      ∃ r, answers reqType index bindings a.served = some r ∧ bindings.length < turns ∧
        a.respIndex + (bindingBytes r.1).length ≤ maxSnmpmsgLen ∧ P r := by
  induction bindings generalizing a p turns index size P with
  | nil =>
    cases turns with
    | zero => simp [parseBindings, tolerates]
    | succ turns =>
      have hdone : ¬ a.index < m.len := by
        rw [bindingBytes_nil, List.length_nil] at hend
        omega
      have hview : a.view = View.add { a.view with served := a.served } 0 [] := by
        rw [View.add, List.append_nil]
        simp [Agent.view]
      rw [parseBindings, lands_bind, lands_get, if_neg hdone, lands_pure]
      simp only [answers, Option.some.injEq, exists_eq_left', bindingBytes_nil, List.length_nil,
        Nat.add_zero, Nat.zero_lt_succ, true_and]
      rw [and_iff_right hresp]
      exact h ([], a.served) a hresp hview
  | cons b bindings ih =>
    have hpos := b.element_bytes_pos
    rw [bindingBytes_cons, Request.has_append] at hhas
    rw [bindingBytes_cons, List.length_append] at hend
    cases turns with
    | zero => simp [parseBindings, tolerates]
    | succ turns =>
      have hopen : a.index < m.len := by omega
      have hfirst := hb b List.mem_cons_self
      have hrest : ∀ b ∈ bindings, b.WellFormed := fun b hmem => hb b (List.mem_cons_of_mem _ hmem)
      rw [parseBindings, lands_bind, lands_get, if_pos hopen, lands_bind]
      rw [lands_sequence (P := fun r => ∃ rs, answers reqType (index + 1) bindings r.2 = some rs ∧
        bindings.length < turns ∧
        a.respIndex + (bindingBytes (r.1 :: rs.1)).length ≤ maxSnmpmsgLen ∧
        P (r.1 :: rs.1, rs.2)) hvalid hhas.1 hfirst hindex]
      · rw [List.length_cons, Nat.add_lt_add_iff_right]
        constructor
        · rintro ⟨r, hr, -, rs, hrs, hturns, hroom, hP⟩
          exact ⟨(r.1 :: rs.1, rs.2), answers_cons.2 ⟨r, hr, rs, hrs, rfl⟩, hturns, hroom, hP⟩
        · rintro ⟨_, hanswers, hturns, hroom, hP⟩
          obtain ⟨r, hr, rs, hrs, rfl⟩ := answers_cons.1 hanswers
          have hroom' := hroom
          simp only [bindingBytes_cons, List.length_append] at hroom'
          exact ⟨r, hr, by omega, rs, hrs, hturns, hroom, hP⟩
      · intro r a' hroom hview
        have hindex' : a'.index = (p + b.element.bytes.length : ℕ) := by
          have hp := congrArg View.p hview
          change a'.index = a.index + (b.element.bytes.length : ℕ) at hp
          rw [hp, hindex]
          omega
        have hserved : a'.served = r.2 := congrArg View.served hview
        have hresp' : a'.respIndex = a.respIndex + r.1.element.bytes.length := by
          rw [respIndex_view hview, respIndex_view (a := a) rfl]
          exact List.length_append
        have hnext : (index : ℤ) + 1 = (index + 1 : ℕ) := by omega
        have hsum : (size : ℤ) + (r.1.element.bytes.length : ℕ) =
            (size + r.1.element.bytes.length : ℕ) := by omega
        rw [hnext, hsum]
        rw [ih (P := fun rs => P (r.1 :: rs.1, rs.2)) hrest hhas.2 (by omega) hindex' (by omega),
          hserved, hresp']
        · simp only [bindingBytes_cons, List.length_append, Nat.add_assoc]
        · intro rs a'' hroom' hview'
          have hlength : a.respIndex + (bindingBytes (r.1 :: rs.1)).length =
              a'.respIndex + (bindingBytes rs.1).length := by
            rw [hresp', bindingBytes_cons, List.length_append, Nat.add_assoc]
          have hall : size + r.1.element.bytes.length +
              (bindingBytes rs.1).length =
              size + (bindingBytes (r.1 :: rs.1)).length := by
            rw [bindingBytes_cons, List.length_append, Nat.add_assoc]
          rw [hall]
          apply h (r.1 :: rs.1, rs.2) a''
          · rw [← hlength] at hroom'
            exact hroom'
          · rw [hview', hview]
            simp only [View.add, bindingBytes_cons, List.length_append, Int.natCast_add, Int.add_assoc,
              List.append_assoc]

end IoLibrary.Snmp
