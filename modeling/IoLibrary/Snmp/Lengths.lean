import IoLibrary.Snmp.Atomicity

/-! When the response is a message. The lengths of the PDU and of the message are found with their own
header in the place of that of the list, and each new length is written in the form of the old. -/
namespace IoLibrary.Snmp
open Effects
open Ber (Form Element)

/-- A length that is read back from what stands behind it is the right one, in a form that fits. -/
lemma read_exact {e : Element} (h : e.WellFormed) {t : Byte} {f : Form} {k : ℕ} {c : List Byte}
    (heq : e.bytes = t :: (f.octets k ++ c)) (hf : f.Definite)
    (hlead : ∀ b rest, c = b :: rest → 2 ≤ b.toNat ∧ b.toNat < 0x80)
    (hlength : c.length < 512) (hlow : k ≤ c.length + 126)
    (hhigh : c.length ≤ k + 126) (hshort : f = .short → k ≤ c.length) :
    e = ⟨t, f, c⟩ ∧ k = c.length := by
  rw [← List.append_nil e.bytes] at heq
  have hread : e.tag = t ∧ e.form = f ∧ e.content = c ∧ k = c.length := by
    cases f with
    | short =>
      have hk := hshort rfl
      by_cases hsmall : k % 256 < 0x80
      · obtain ⟨htag, hform, hlen, hcontent⟩ := h.short hsmall heq
        rw [List.append_nil] at hcontent
        rw [hcontent] at hlen
        exact ⟨htag, hform, hcontent, by omega⟩
      · obtain ⟨n, hn, hkn, -, hfit, hcontent⟩ := h.overflow (Nat.not_lt.1 hsmall) heq
        rw [List.append_nil] at hcontent
        have hsum := congrArg List.length hcontent
        rw [List.length_append, Ber.length_octets] at hsum
        cases c with
        | nil =>
          rw [List.length_nil] at hsum
          omega
        | cons b rest =>
          obtain ⟨htwo, hb⟩ := hlead b rest rfl
          obtain ⟨hmost, hone⟩ := Ber.octets_lead hn hfit hcontent
          by_cases hn1 : n = 1
          · have hvalue := hone hn1
            omega
          · have hpow : 256 ^ 1 ≤ 256 ^ (n - 1) := Nat.pow_le_pow_right (by omega) (by omega)
            have hmul : 2 * 256 ^ 1 ≤ b.toNat * 256 ^ (n - 1) := Nat.mul_le_mul htwo hpow
            omega
    | long n =>
      obtain ⟨htag, hform, hlen, hcontent⟩ := h.long hf.2 heq
      rw [List.append_nil] at hcontent
      rw [hcontent] at hlen
      have hpos := hf.1
      refine ⟨htag, hform, hcontent, ?_⟩
      by_cases hn1 : n = 1
      · rw [hn1] at hlen
        omega
      · have hpow : 256 ^ 2 ≤ 256 ^ n := Nat.pow_le_pow_right (by omega) (by omega)
        rw [Nat.mod_eq_of_lt (by omega)] at hlen
        exact hlen.symm
  obtain ⟨htag, hform, hcontent, hk⟩ := hread
  cases e
  simp only at htag hform hcontent
  rw [htag, hform, hcontent]
  exact ⟨rfl, hk⟩

/-- What the answer to a binding looks like. The value of a number can be longer than its one octet
says, and then its first octets are those of its sign. -/
structure Binding.IsAnswer (b : Binding) : Prop where
  form : b.form.Definite
  name : b.name.WellFormed
  nameType : b.name.tag = snmpdtypeObjId
  valueType : b.value.tag ∈ valueTypes
  value : b.value.WellFormed ∨ b.value.form = .short ∧ b.value.content.length < 256 ∧
    ∀ n, b.value.content.length = 0x80 + (n + 1) →
      b.value.content[n]? = some 0 ∨ b.value.content[n]? = some 0xFF

lemma valueTypes_short {tag : Byte} (h : tag ∈ valueTypes) : 2 ≤ tag.toNat ∧ tag.toNat < 0x80 := by
  have hall : ∀ tag ∈ valueTypes, 2 ≤ tag.toNat ∧ tag.toNat < 0x80 := by decide
  exact hall tag h

section answers
variable {e : DataEntry} {v : Value} {content : List Byte}

/-- A shift by more than its bits leaves the sign of a number. -/
lemma sshiftRight_sign (x : BitVec 32) (n : ℕ) (hn : 32 ≤ n) :
    (x.sshiftRight n).setWidth 8 = 0 ∨ (x.sshiftRight n).setWidth 8 = 0xFF := by
  cases hsign : x.msb with
  | false =>
    left
    apply BitVec.eq_of_getLsbD_eq
    intro i hi
    simp [BitVec.getLsbD_sshiftRight, hsign]
    omega
  | true =>
    right
    apply BitVec.eq_of_getLsbD_eq
    intro i hi
    have hall : ∀ i : Fin 8, BitVec.getLsbD (0xFF : BitVec 8) i.val = true := by decide
    rw [hall ⟨i, hi⟩]
    simp [BitVec.getLsbD_sshiftRight, hsign]
    omega

lemma fetched_value (h : e.fetched = some (v, content)) : e.dataType ∈ valueTypes ∧
    (content.length < 0x80 ∨ content.length < 256 ∧
      ∀ n, content.length = 0x80 + (n + 1) → content[n]? = some 0 ∨ content[n]? = some 0xFF) := by
  have hnumber : e.isInteger → e.dataType ∈ valueTypes := by
    rintro (ht | ht | ht | ht) <;> rw [ht] <;> decide
  rw [DataEntry.fetched] at h
  split_ifs at h with hoctet hlen hobjId hlen hinteger hdataLen
  · cases h
    refine ⟨by rw [hoctet]; decide, .inl ?_⟩
    rw [List.length_take]
    omega
  · cases h
    refine ⟨by rw [hobjId]; decide, .inl ?_⟩
    rw [List.length_take]
    omega
  · cases h
    refine ⟨hnumber hinteger, .inr ⟨?_, ?_⟩⟩
    · rw [List.length_map, List.length_range]
      exact BitVec.isLt _
    · intro n hn
      rw [List.length_map, List.length_range] at hn
      rw [hn, List.getElem?_map, List.getElem?_range (by omega), Option.map_some, Option.some.injEq,
        Option.some.injEq]
      exact sshiftRight_sign _ _ (by omega)
  · cases h
    refine ⟨hnumber hinteger, .inl ?_⟩
    rw [List.length_map, List.length_range]
    decide

/-- The answer to a binding of a request. -/
lemma Binding.WellFormed.answer {b : Binding} (hb : b.WellFormed) {reqType : Byte} {index : ℕ}
    {s : Served} {r : Binding × Served} (h : b.answer reqType index s = some r) : r.1.IsAnswer := by
  have hform : r.1.form = b.form := Binding.answer_form h
  obtain ⟨⟨value, s'⟩, hvalue, hr⟩ := Option.bind_eq_some_iff.1 h
  change b.answerValue reqType index s (b.answerName reqType s.snmpData).1 = _ at hvalue
  cases hr
  have hname : (b.answerName reqType s.snmpData).2.WellFormed ∧
      (b.answerName reqType s.snmpData).2.tag = snmpdtypeObjId := by
    by_cases hnext : reqType = getNextRequest
    · rw [hnext]
      cases he : s.snmpData[nextNumber s.snmpData b.name.content]? with
      | none =>
        rw [Binding.answerName_last he]
        exact ⟨hb.name, hb.nameType⟩
      | some e =>
        have hoid := e.short
        rw [maxOid] at hoid
        rw [Binding.answerName_next he]
        refine ⟨?_, rfl⟩
        change e.oid.length < 0x80
        omega
    · rw [Binding.answerName_same hnext]
      exact ⟨hb.name, hb.nameType⟩
  have hanswer : value.tag ∈ valueTypes ∧ (value.WellFormed ∨ value.form = .short ∧
      value.content.length < 256 ∧ ∀ n, value.content.length = 0x80 + (n + 1) →
        value.content[n]? = some 0 ∨ value.content[n]? = some 0xFF) := by
    cases hid : (b.answerName reqType s.snmpData).1 with
    | none =>
      rw [hid] at hvalue
      cases hvalue
      exact ⟨hb.valueType, .inl hb.value⟩
    | some id =>
      rw [hid, Binding.answerValue] at hvalue
      obtain ⟨e, -, hvalue⟩ := Option.bind_eq_some_iff.1 hvalue
      split_ifs at hvalue
      · obtain ⟨s'', -, hvalue⟩ := Option.bind_eq_some_iff.1 hvalue
        cases hvalue
        exact ⟨hb.valueType, .inl hb.value⟩
      · obtain ⟨⟨v, content⟩, hfetched, hvalue⟩ := Option.bind_eq_some_iff.1 hvalue
        cases hvalue
        obtain ⟨htype, hlength | hsign⟩ := fetched_value hfetched
        · exact ⟨htype, .inl hlength⟩
        · exact ⟨htype, .inr ⟨rfl, hsign⟩⟩
  exact ⟨hform ▸ hb.element.definite, hname.1, hname.2, hanswer.1, hanswer.2⟩

lemma answers_isAnswer {reqType : Byte} {bindings : List Binding} (hb : ∀ b ∈ bindings, b.WellFormed)
    {index : ℕ} {s : Served} {r : List Binding × Served}
    (h : answers reqType index bindings s = some r) : ∀ b ∈ r.1, b.IsAnswer := by
  induction bindings generalizing index s r with
  | nil =>
    cases h
    exact fun b hmem => absurd hmem List.not_mem_nil
  | cons b bindings ih =>
    obtain ⟨r₁, hr₁, rs, hrs, rfl⟩ := answers_cons.1 h
    rw [List.forall_mem_cons] at hb ⊢
    exact ⟨hb.1.answer hr₁, ih hb.2 hrs⟩

end answers

section exact
variable {rest rest' : List Byte} {b c : Binding}

lemma octets_last (n k : ℕ) : (Ber.octets (n + 1) k)[n]? = some (BitVec.ofNat 8 k) := by
  have hlength := Ber.length_octets n (k / 256)
  rw [Ber.octets, List.getElem?_append_right (by omega), hlength]
  simp

/-- A value that is read from the bytes of an answer's is that value, or it has another size. -/
lemma value_exact {v e : Element} (hv : v.WellFormed ∨ v.form = .short ∧ v.content.length < 256 ∧
      ∀ n, v.content.length = 0x80 + (n + 1) → v.content[n]? = some 0 ∨ v.content[n]? = some 0xFF)
    (he : e.WellFormed) (heq : e.bytes ++ rest = v.bytes ++ rest') :
    v.WellFormed ∨ ∃ len, len ≠ 0x80 ∧ e.bytes.length + 0x80 = v.bytes.length + len := by
  rcases hv with hv | ⟨hform, hlength, hsign⟩
  · exact .inl hv
  · by_cases hsmall : v.content.length < 0x80
    · left
      rw [Element.WellFormed, hform]
      exact hsmall
    · right
      have hsplit : v.bytes ++ rest' =
          v.tag :: (Form.short.octets v.content.length ++ (v.content ++ rest')) := by
        rw [Element.bytes, Element.header, hform, List.cons_append, List.cons_append, List.append_assoc]
      rw [hsplit] at heq
      obtain ⟨n, hn, hlen, heform, -, hcontent⟩ := he.overflow (by omega) heq
      refine ⟨e.content.length, fun hsame => ?_, ?_⟩
      · obtain ⟨m, rfl⟩ : ∃ m, n = m + 1 := ⟨n - 1, by omega⟩
        have hocts := Ber.length_octets (m + 1) e.content.length
        have hbyte := congrArg (fun l : List Byte => l[m]?) hcontent
        change (Ber.octets (m + 1) e.content.length ++ (e.content ++ rest))[m]? =
          (v.content ++ rest')[m]? at hbyte
        rw [List.getElem?_append_left (by omega), octets_last, List.getElem?_append_left (by omega),
          hsame] at hbyte
        rcases hsign m (by omega) with hzero | hones
        · rw [hzero] at hbyte
          exact absurd hbyte (by decide)
        · rw [hones] at hbyte
          exact absurd hbyte (by decide)
      · rw [Element.length_bytes, Element.length_bytes, heform, hform, Form.size, Form.size]
        omega

lemma Binding.element_append (b : Binding) (rest : List Byte) : b.element.bytes ++ rest =
    snmpdtypeSequence :: (b.form.octets (b.name.bytes ++ b.value.bytes).length ++
      (b.name.bytes ++ (b.value.bytes ++ rest))) := by
  rw [Element.bytes, Element.header]
  change snmpdtypeSequence :: b.form.octets _ ++ (b.name.bytes ++ b.value.bytes) ++ rest = _
  simp only [List.cons_append, List.append_assoc]
  rfl

/-- Behind a plain length the contents agree. -/
lemma content_exact (hb : b.IsAnswer) (hc : c.WellFormed)
    (heq : c.name.bytes ++ (c.value.bytes ++ rest) = b.name.bytes ++ (b.value.bytes ++ rest'))
    {k : ℕ} (hk : (c.name.bytes ++ c.value.bytes).length = (b.name.bytes ++ b.value.bytes).length % k)
    (hdvd : 256 ∣ k) : b.value.WellFormed ∧
      (c.name.bytes ++ c.value.bytes).length = (b.name.bytes ++ b.value.bytes).length := by
  obtain ⟨hname, hrest⟩ := Element.bytes_inj hc.name hb.name heq
  have hmod : (c.name.bytes ++ c.value.bytes).length % 256 =
      (b.name.bytes ++ b.value.bytes).length % 256 := by
    rw [hk]
    exact Nat.mod_mod_of_dvd _ hdvd
  have hle : (c.name.bytes ++ c.value.bytes).length ≤ (b.name.bytes ++ b.value.bytes).length := by
    rw [hk]
    exact Nat.mod_le _ _
  rw [List.length_append, List.length_append, hname] at hmod hle
  have hvalue : b.value.WellFormed := by
    rcases value_exact hb.value hc.value hrest with hvalue | ⟨len, hlen, hsum⟩
    · exact hvalue
    · omega
  obtain ⟨hsame, -⟩ := Element.bytes_inj hc.value hvalue hrest
  rw [hname, hsame]
  exact ⟨hvalue, rfl⟩

lemma Element.bytes_append (e : Element) (rest : List Byte) :
    e.bytes ++ rest = e.tag :: (e.form.octets e.content.length ++ (e.content ++ rest)) := by
  rw [Element.bytes, Element.header, List.cons_append, List.cons_append, List.append_assoc]

/-- Only the short length of six is read as a tag of a name. -/
lemma octets_six {f : Form} {len : ℕ} (hf : f.Definite) {t : Byte} (ht : t = snmpdtypeObjId)
    (heq : t :: rest = f.octets len ++ rest') : f = .short ∧ len % 256 = 6 ∧ rest = rest' := by
  rw [ht] at heq
  cases f with
  | short =>
    rw [Form.octets, List.cons_append, List.cons.injEq] at heq
    have hbyte := congrArg BitVec.toNat heq.1
    rw [BitVec.toNat_ofNat] at hbyte
    exact ⟨rfl, hbyte.symm, heq.2⟩
  | long n =>
    rw [Form.octets, List.cons_append, List.cons.injEq] at heq
    have hbyte := congrArg BitVec.toNat heq.1
    have hn := hf.2
    rw [BitVec.toNat_ofNat] at hbyte
    change 6 = _ at hbyte
    omega

lemma Binding.IsAnswer.valueForm (hb : b.IsAnswer) : b.value.form.Definite := by
  rcases hb.value with hvalue | ⟨hform, -, -⟩
  · exact hvalue.definite
  · rw [hform]
    trivial

/-- The octet 0x81 in front of an answer is not taken for a length: the bytes behind it make no
bindings. -/
lemma overflow_one (hb : b.IsAnswer) (hc : c.WellFormed) {cs : List Binding}
    (hcs : ∀ c ∈ cs, c.WellFormed) (hsix : (c.name.bytes ++ c.value.bytes).length = 6)
    (hk : (b.name.bytes ++ b.value.bytes).length % 256 = 0x81)
    (heq : c.name.bytes ++ (c.value.bytes ++ bindingBytes cs) =
      b.name.form.octets b.name.content.length ++ (b.name.content ++ (b.value.bytes ++ rest'))) :
    False := by
  have hname := hb.name
  rw [Element.WellFormed] at hname
  have hfirst := heq
  rw [Element.bytes_append] at hfirst
  obtain ⟨hform, hlen, -⟩ := octets_six hname.definite hc.nameType hfirst
  rw [hform, Form.Fits] at hname
  have hcontent : b.name.content.length = 6 := by omega
  rw [hform, ← List.append_assoc] at heq
  have hdrop := congrArg (List.drop 6) heq
  rw [List.drop_left' hsix] at hdrop
  have hbehind : bindingBytes cs = b.name.content.drop 5 ++ (b.value.bytes ++ rest') := by
    rw [hdrop, Form.octets, List.singleton_append, List.drop_succ_cons,
      List.drop_append_of_le_length (by omega)]
  obtain ⟨o, ho⟩ : ∃ o, b.name.content.drop 5 = [o] := by
    apply List.length_eq_one_iff.1
    rw [List.length_drop, hcontent]
  rw [ho] at hbehind
  cases cs with
  | nil => exact absurd hbehind (by simp)
  | cons c₂ cs =>
    have hc₂ := hcs c₂ List.mem_cons_self
    obtain ⟨htwo, hsmall⟩ := valueTypes_short hb.valueType
    have htag : [b.value.tag] = Form.short.octets b.value.tag.toNat := by
      rw [Form.octets, BitVec.ofNat_toNat, BitVec.setWidth_eq]
    have hread : c₂.element.bytes ++ bindingBytes cs = o :: (Form.short.octets b.value.tag.toNat ++
        (b.value.form.octets b.value.content.length ++ (b.value.content ++ rest'))) := by
      rw [← bindingBytes_cons, hbehind, Element.bytes_append, ← htag]
      rfl
    obtain ⟨-, -, -, hinner⟩ := hc₂.element.short (by omega) hread
    change c₂.name.bytes ++ c₂.value.bytes ++ _ = _ at hinner
    rw [List.append_assoc, Element.bytes_append] at hinner
    obtain ⟨hvform, hvlen, -⟩ := octets_six hb.valueForm hc₂.nameType hinner
    rw [List.length_append, Element.length_bytes, Element.length_bytes, hform, hvform, hcontent] at hk
    change (1 + 1 + 6 + (1 + 1 + _)) % 256 = _ at hk
    omega

/-- A binding that is read from the bytes of an answer's shows that the answer's lengths fit. -/
lemma binding_exact (hb : b.IsAnswer) (hc : c.WellFormed) {cs : List Binding}
    (hcs : ∀ c ∈ cs, c.WellFormed)
    (heq : c.element.bytes ++ bindingBytes cs = b.element.bytes ++ rest')
    (hlength : (b.element.bytes ++ rest').length ≤ maxSnmpmsgLen) :
    b.element.WellFormed ∧ b.value.WellFormed := by
  have hcontent : c.element.content = c.name.bytes ++ c.value.bytes := rfl
  have hwhole := heq
  rw [Binding.element_append b] at heq
  have hdef := hb.form
  change b.form.Fits (b.name.bytes ++ b.value.bytes).length ∧ _
  cases hform : b.form with
  | long n =>
    rw [hform] at heq hdef
    obtain ⟨-, -, hlen, hrest⟩ := hc.element.long hdef.2 heq
    rw [hcontent, List.append_assoc] at hrest
    rw [hcontent] at hlen
    obtain ⟨hvalue, hsame⟩ := content_exact hb hc hrest hlen
      (Nat.pow_dvd_pow 256 hdef.1)
    rw [hsame] at hlen
    have hpos : 0 < 256 ^ n := Nat.pow_pos (by decide)
    have hlt := Nat.mod_lt (b.name.bytes ++ b.value.bytes).length hpos
    rw [← hlen] at hlt
    exact ⟨⟨hdef.1, hdef.2, hlt⟩, hvalue⟩
  | short =>
    rw [hform] at heq
    by_cases hsmall : (b.name.bytes ++ b.value.bytes).length % 256 < 0x80
    · obtain ⟨-, -, hlen, hrest⟩ := hc.element.short hsmall heq
      rw [hcontent, List.append_assoc] at hrest
      rw [hcontent] at hlen
      obtain ⟨hvalue, hsame⟩ := content_exact hb hc hrest hlen (Nat.dvd_refl _)
      rw [hsame] at hlen
      rw [← hlen] at hsmall
      exact ⟨hsmall, hvalue⟩
    · obtain ⟨n, hn, hkn, -, hfit, hrest⟩ := hc.element.overflow (Nat.not_lt.1 hsmall) heq
      rw [hcontent] at hrest hfit
      have hlead := hrest
      rw [Element.bytes_append b.name] at hlead
      obtain ⟨hmost, hone⟩ := Ber.octets_lead hn hfit hlead
      have hsix : b.name.tag.toNat = 6 := by rw [hb.nameType]; rfl
      rw [hsix] at hmost hone
      exfalso
      by_cases hn1 : n = 1
      · subst hn1
        have hγ := hone rfl
        have hocts : Ber.octets 1 (c.name.bytes ++ c.value.bytes).length = [b.name.tag] := by
          rw [hγ, hb.nameType]
          rfl
        rw [hocts, List.singleton_append, List.cons.injEq, List.append_assoc] at hlead
        exact overflow_one hb hc hcs hγ hkn hlead.2
      · have hpow : 256 ^ 1 ≤ 256 ^ (n - 1) := Nat.pow_le_pow_right (by omega) (by omega)
        have hsum := congrArg List.length hwhole
        rw [List.length_append, Element.length_bytes, hcontent] at hsum
        rw [maxSnmpmsgLen] at hlength
        omega

/-- The bindings that are read from the bytes of the answers show that the answers' lengths fit. -/
lemma bindings_exact {bs cs : List Binding} (hbs : ∀ b ∈ bs, b.IsAnswer)
    (hcs : ∀ c ∈ cs, c.WellFormed) (heq : bindingBytes cs = bindingBytes bs)
    (hlength : (bindingBytes bs).length ≤ maxSnmpmsgLen) :
    ∀ b ∈ bs, b.element.WellFormed ∧ b.value.WellFormed := by
  induction bs generalizing cs with
  | nil => exact fun b hmem => absurd hmem List.not_mem_nil
  | cons b bs ih =>
    have hpos := b.element_bytes_pos
    rw [bindingBytes_cons] at heq hlength
    cases cs with
    | nil =>
      have hnone := congrArg List.length heq
      rw [List.length_append, bindingBytes_nil, List.length_nil] at hnone
      omega
    | cons c cs =>
      rw [List.forall_mem_cons] at hbs hcs ⊢
      rw [bindingBytes_cons] at heq
      have hb := binding_exact hbs.1 hcs.1 hcs.2 heq hlength
      obtain ⟨-, hrest⟩ := Element.bytes_inj hcs.1.element hb.1 heq
      rw [List.length_append] at hlength
      exact ⟨hb, ih hbs.2 hcs.2 hrest (by omega)⟩

end exact

/-- The three headers that are counted for one another have the same size, and every new length fits
its place. -/
structure Message.Fitting (msg : Message) (r : List Binding × Served) : Prop where
  sameSize : msg.form.size = msg.listForm.size
  samePduSize : msg.pduForm.size = msg.listForm.size
  element : (msg.respond r.1 r.2).element.WellFormed
  pdu : (msg.respond r.1 r.2).pdu.WellFormed
  list : (msg.respond r.1 r.2).list.WellFormed
  bindings : ∀ b ∈ r.1, b.element.WellFormed ∧ b.value.WellFormed

section response
variable {msg : Message} {r : List Binding × Served}

/-- The error fields keep their size. -/
lemma Message.IsRequest.respond_status (hmsg : msg.IsRequest) :
    (msg.respond r.1 r.2).errorStatus.WellFormed ∧
      (msg.respond r.1 r.2).errorStatus.tag = snmpdtypeInteger := by
  have hstatus := hmsg.errorStatus
  rw [Element.WellFormed, hmsg.noStatus] at hstatus
  rw [Message.respond]
  split_ifs
  · exact ⟨hstatus, hmsg.errorStatusType⟩
  · exact ⟨hmsg.errorStatus, hmsg.errorStatusType⟩

lemma Message.IsRequest.respond_index (hmsg : msg.IsRequest) :
    (msg.respond r.1 r.2).errorIndex.WellFormed ∧
      (msg.respond r.1 r.2).errorIndex.tag = snmpdtypeInteger := by
  have hindex := hmsg.errorIndex
  rw [Element.WellFormed, hmsg.noIndex] at hindex
  rw [Message.respond]
  split_ifs
  · exact ⟨hindex, hmsg.errorIndexType⟩
  · exact ⟨hmsg.errorIndex, hmsg.errorIndexType⟩

/-- The PDU is as long as the sizes that are found say, and the header of the list. -/
lemma Message.IsRequest.length_pdu (hmsg : msg.IsRequest) :
    (msg.respond r.1 r.2).pdu.content.length + msg.pdu.header.length =
      msg.pduSize r.1 + msg.list.header.length := by
  have hlength := Message.length_pduWritten hmsg r.1 r.2
  have hheader := msg.pdu.length_header
  rw [Message.pduWritten, List.length_cons, List.length_append, Form.length_octets] at hlength
  change msg.pduForm.size + (msg.respond r.1 r.2).pdu.content.length + 1 = _ at hlength
  change _ = msg.pduForm.size + 1 at hheader
  rw [Message.pduSize]
  omega

lemma Message.IsRequest.length_message (hmsg : msg.IsRequest) :
    (msg.version.bytes ++ msg.community.bytes ++ msg.pduWritten r.1 r.2).length +
      msg.element.header.length = msg.size r.1 + msg.list.header.length := by
  have hlength := Message.length_pduWritten hmsg r.1 r.2
  rw [List.length_append, List.length_append, Message.size, Message.pduSize]
  omega

lemma Message.pduWritten_eq (hk : msg.pduSize r.1 = (msg.respond r.1 r.2).pdu.content.length) :
    msg.pduWritten r.1 r.2 = (msg.respond r.1 r.2).pdu.bytes := by
  rw [Message.pduWritten, Element.bytes, Element.header, hk]
  rfl

lemma Message.Fitting.written_eq (hmsg : msg.IsRequest) (h : msg.Fitting r) :
    msg.written r.1 r.2 = (msg.respond r.1 r.2).bytes := by
  have hpdu := hmsg.length_pdu (r := r)
  have hmessage := hmsg.length_message (r := r)
  have hform := h.sameSize
  have hpduForm := h.samePduSize
  rw [Element.length_header, Element.length_header] at hpdu hmessage
  change _ + (msg.pduForm.size + 1) = _ + (msg.listForm.size + 1) at hpdu
  change _ + (msg.form.size + 1) = _ + (msg.listForm.size + 1) at hmessage
  rw [Message.pduWritten_eq (by omega)] at hmessage
  have hk : msg.size r.1 = (msg.respond r.1 r.2).element.content.length := by
    change _ = (msg.version.bytes ++ msg.community.bytes ++ (msg.respond r.1 r.2).pdu.bytes).length
    omega
  rw [Message.written, Message.pduWritten_eq (by omega), hk]
  rfl

lemma Message.Fitting.wellFormed (hmsg : msg.IsRequest) (h : msg.Fitting r)
    (hanswer : ∀ b ∈ r.1, b.IsAnswer) : (msg.respond r.1 r.2).WellFormed where
  element := h.element
  version := hmsg.version
  versionType := hmsg.versionType
  community := hmsg.community
  communityType := hmsg.communityType
  pdu := h.pdu
  requestId := hmsg.requestId
  requestIdType := hmsg.requestIdType
  errorStatus := hmsg.respond_status.1
  errorStatusType := hmsg.respond_status.2
  errorIndex := hmsg.respond_index.1
  errorIndexType := hmsg.respond_index.2
  list := h.list
  bindings := fun b hb => {
    element := (h.bindings b hb).1
    name := (hanswer b hb).name
    nameType := (hanswer b hb).nameType
    value := (h.bindings b hb).2
    valueType := (hanswer b hb).valueType }

lemma Element.head_plain {e : Element} (he : e.tag = snmpdtypeInteger) (rest : List Byte) :
    ∀ b bs, e.bytes ++ rest = b :: bs → 2 ≤ b.toNat ∧ b.toNat < 0x80 := by
  intro b bs hhead
  rw [Element.bytes_append, List.cons.injEq] at hhead
  rw [← hhead.1, he]
  decide

lemma bindingBytes_head {b : Byte} {bs : List Byte} {bindings : List Binding}
    (h : bindingBytes bindings = b :: bs) : 2 ≤ b.toNat ∧ b.toNat < 0x80 := by
  cases bindings with
  | nil => cases h
  | cons c bindings =>
    rw [bindingBytes_cons, Element.bytes_append, List.cons.injEq] at h
    rw [← h.1]
    change 2 ≤ snmpdtypeSequence.toNat ∧ snmpdtypeSequence.toNat < 0x80
    decide

/-- A list that is read from the response shows that its bindings fit. -/
lemma list_of_read (hform : msg.listForm.Definite) (hroom : (bindingBytes r.1).length < 512)
    (hanswer : ∀ b ∈ r.1, b.IsAnswer) {R : Message} (hR : R.WellFormed)
    (hbytes : R.list.bytes = (msg.respond r.1 r.2).list.bytes) :
    (msg.respond r.1 r.2).list.WellFormed ∧ ∀ b ∈ r.1, b.element.WellFormed ∧ b.value.WellFormed := by
  obtain ⟨helement, -⟩ := read_exact (c := bindingBytes r.1) (k := (bindingBytes r.1).length)
    hR.list hbytes hform (fun _ _ => bindingBytes_head) hroom (by omega) (by omega) (fun _ => Nat.le_refl _)
  have hfits := hR.list
  have hcontent : bindingBytes R.bindings = bindingBytes r.1 := congrArg Element.content helement
  rw [helement] at hfits
  exact ⟨hfits, bindings_exact hanswer hR.bindings hcontent (by rw [maxSnmpmsgLen]; omega)⟩

/-- So does the PDU around it. -/
lemma pdu_of_read (hmsg : msg.IsRequest) (hroom : (msg.pduWritten r.1 r.2).length < 512)
    (hanswer : ∀ b ∈ r.1, b.IsAnswer) {R : Message} (hR : R.WellFormed)
    (hbytes : R.pdu.bytes = msg.pduWritten r.1 r.2) :
    msg.pduForm.size = msg.listForm.size ∧ (msg.respond r.1 r.2).pdu.WellFormed ∧
      (msg.respond r.1 r.2).list.WellFormed ∧
      (∀ b ∈ r.1, b.element.WellFormed ∧ b.value.WellFormed) ∧ R.pduType = getResponse ∧
      R.requestId = msg.requestId := by
  have hform : msg.pduForm.Definite := hmsg.pdu.definite
  have hheader := msg.pdu.length_header
  have hlistHeader := msg.list.length_header
  change _ = msg.pduForm.size + 1 at hheader
  change _ = msg.listForm.size + 1 at hlistHeader
  have hsize := Form.size_pos msg.pduForm
  have hlistSize := Form.size_pos msg.listForm
  have hmost := hform.size_le
  have hlistMost := Form.Definite.size_le (f := msg.listForm) hmsg.list.definite
  have hlength := hmsg.length_pdu (r := r)
  have hlong := Message.length_pduWritten hmsg r.1 r.2
  rw [Message.pduSize] at hlength
  have hhead := Element.head_plain hmsg.requestIdType ((msg.respond r.1 r.2).errorStatus.bytes ++
    (msg.respond r.1 r.2).errorIndex.bytes ++ (msg.respond r.1 r.2).list.bytes)
  rw [← List.append_assoc, ← List.append_assoc] at hhead
  obtain ⟨helement, hk⟩ := read_exact (c := (msg.respond r.1 r.2).pdu.content) hR.pdu hbytes
    hform hhead (by omega) (by rw [Message.pduSize]; omega) (by rw [Message.pduSize]; omega)
    (fun hshort => by rw [hshort, Form.size] at hheader; rw [Message.pduSize]; omega)
  have hfits := hR.pdu
  have htype := congrArg Element.tag helement
  have hcontent := congrArg Element.content helement
  rw [helement] at hfits
  change R.requestId.bytes ++ R.errorStatus.bytes ++ R.errorIndex.bytes ++ R.list.bytes =
    msg.requestId.bytes ++ (msg.respond r.1 r.2).errorStatus.bytes ++
      (msg.respond r.1 r.2).errorIndex.bytes ++ (msg.respond r.1 r.2).list.bytes at hcontent
  simp only [List.append_assoc] at hcontent
  obtain ⟨hid, hcontent⟩ := Element.bytes_inj hR.requestId hmsg.requestId hcontent
  obtain ⟨-, hcontent⟩ := Element.bytes_inj hR.errorStatus hmsg.respond_status.1 hcontent
  obtain ⟨-, hlist⟩ := Element.bytes_inj hR.errorIndex hmsg.respond_index.1 hcontent
  obtain ⟨hlistFits, hbindings⟩ := list_of_read hmsg.list.definite (by omega) hanswer hR hlist
  rw [Message.pduSize] at hk
  exact ⟨by omega, hfits, hlistFits, hbindings, htype, hid⟩

/-- A message that is read from the response shows that it fits. -/
lemma fitting_of_read (hmsg : msg.IsRequest) (hroom : (msg.written r.1 r.2).length ≤ maxSnmpmsgLen)
    (hanswer : ∀ b ∈ r.1, b.IsAnswer) {R : Message} (hR : R.WellFormed)
    (hbytes : R.bytes = msg.written r.1 r.2) : msg.Fitting r := by
  have hform : msg.form.Definite := hmsg.element.definite
  have hheader := msg.element.length_header
  have hlistHeader := msg.list.length_header
  change _ = msg.form.size + 1 at hheader
  change _ = msg.listForm.size + 1 at hlistHeader
  have hsize := Form.size_pos msg.form
  have hlistSize := Form.size_pos msg.listForm
  have hmost := hform.size_le
  have hlistMost := Form.Definite.size_le (f := msg.listForm) hmsg.list.definite
  have hlength := hmsg.length_message (r := r)
  have hwritten := Message.length_written msg r.1 r.2
  rw [maxSnmpmsgLen] at hroom
  rw [← List.append_assoc] at hwritten
  have hhead := Element.head_plain hmsg.versionType (msg.community.bytes ++ msg.pduWritten r.1 r.2)
  rw [← List.append_assoc] at hhead
  obtain ⟨helement, hk⟩ := read_exact hR.element hbytes hform hhead (by omega) (by omega) (by omega)
    (fun hshort => by rw [hshort, Form.size] at hheader; omega)
  have hfits := hR.element
  have hcontent := congrArg Element.content helement
  rw [helement] at hfits
  change R.version.bytes ++ R.community.bytes ++ R.pdu.bytes =
    msg.version.bytes ++ msg.community.bytes ++ msg.pduWritten r.1 r.2 at hcontent
  simp only [List.append_assoc] at hcontent
  obtain ⟨-, hcontent⟩ := Element.bytes_inj hR.version hmsg.version hcontent
  obtain ⟨-, hpdu⟩ := Element.bytes_inj hR.community hmsg.community hcontent
  rw [List.length_append] at hwritten
  obtain ⟨hsame, hpduFits, hlist, hbindings, -, -⟩ := pdu_of_read hmsg (by omega) hanswer hR hpdu
  have hpduLength := hmsg.length_pdu (r := r)
  have hpduHeader := msg.pdu.length_header
  change _ = msg.pduForm.size + 1 at hpduHeader
  exact {
    sameSize := by omega
    samePduSize := hsame
    element := by
      rw [Message.pduWritten_eq (by omega)] at hfits
      exact hfits
    pdu := hpduFits
    list := hlist
    bindings := hbindings }

end response

/-- The response to a request is a well-formed message, and it has the identifier of the request. -/
def WellAnswered (stale : Mem) (msg : Message) (snmpData : List DataEntry) : Prop :=
  ∃ turns response s, Answered turns stale msg.bytes snmpData response s ∧
    ∃ answer : Message, answer.WellFormed ∧ answer.bytes = response ∧ answer.pduType = getResponse ∧
      answer.requestId = msg.requestId

/-- It is, if the three headers that are counted for one another have the same size, and every length
of the answer fits the form that the request has in its place. -/
theorem well_answered_iff (stale : Mem) (msg : Message) (snmpData : List DataEntry)
    (hmsg : msg.IsRequest) : WellAnswered stale msg snmpData ↔
      msg.bytes.length ≤ maxSnmpmsgLen ∧
        ∃ r, answers msg.pduType 0 msg.bindings (.start snmpData) = some r ∧
          (msg.written r.1 r.2).length ≤ maxSnmpmsgLen ∧ msg.Fitting r := by
  constructor
  · rintro ⟨turns, response, s, hanswered, answer, hanswer, hbytes, -, -⟩
    obtain ⟨hlength, r, hr, -, hroom, hwritten, -⟩ := (answered_iff hmsg stale snmpData).1 hanswered
    rw [← hwritten] at hbytes
    exact ⟨hlength, r, hr, hroom,
      fitting_of_read hmsg hroom (answers_isAnswer hmsg.bindings hr) hanswer hbytes⟩
  · rintro ⟨hlength, r, hr, hroom, hfitting⟩
    have hanswered : Answered (msg.bindings.length + 1) stale msg.bytes snmpData _ _ :=
      (answered_iff hmsg stale snmpData).2 ⟨hlength, r, hr, Nat.lt_succ_self _, hroom, rfl, rfl⟩
    exact ⟨_, _, _, hanswered, msg.respond r.1 r.2,
      hfitting.wellFormed hmsg (answers_isAnswer hmsg.bindings hr), (hfitting.written_eq hmsg).symm,
      rfl, rfl⟩

/-- A SET in the short form throughout. -/
theorem well_answered_seven : WellAnswered (fun _ => 0) (shortSet [seven [0x2B]]) oneNumber := by
  have hb : ∀ b ∈ [seven [0x2B]], b.WellFormed := by
    rw [List.forall_mem_singleton]
    exact seven_wellFormed (by decide)
  refine (well_answered_iff _ _ _ (shortSet_isRequest hb (by decide))).2 ⟨by decide, _, rfl, by decide, ?_⟩
  exact {
    sameSize := rfl
    samePduSize := rfl
    element := by decide
    pdu := by decide
    list := by decide
    bindings := by
      rw [List.forall_mem_singleton]
      decide }

/-- The same request with the length of the message in the long form. -/
def longSet : Message := { shortSet [seven [0x2B]] with form := .long 1 }

/-- The length of its response is one too many. -/
theorem long_miscounted : ¬ ∀ stale msg snmpData, msg.IsRequest → msg.bytes.length ≤ maxSnmpmsgLen →
    (∃ r, answers msg.pduType 0 msg.bindings (.start snmpData) = some r ∧
      (msg.written r.1 r.2).length ≤ maxSnmpmsgLen) → WellAnswered stale msg snmpData := by
  intro h
  have hb : ∀ b ∈ [seven [0x2B]], b.WellFormed := by
    rw [List.forall_mem_singleton]
    exact seven_wellFormed (by decide)
  have hmsg : longSet.IsRequest :=
    { shortSet_isRequest hb (by decide) with element := by decide }
  have hlength : longSet.bytes.length ≤ maxSnmpmsgLen := by decide
  obtain ⟨turns, response, s, hanswered, answer, hanswer, hbytes, -, -⟩ :=
    h (fun _ => 0) longSet oneNumber hmsg hlength ⟨_, rfl, by decide⟩
  obtain ⟨-, r, hr, -, hroom, hwritten, -⟩ := (answered_iff hmsg _ _).1 hanswered
  rw [← hwritten] at hbytes
  have hfitting := fitting_of_read hmsg hroom (answers_isAnswer hmsg.bindings hr) hanswer hbytes
  exact absurd hfitting.sameSize (by decide)

end IoLibrary.Snmp
