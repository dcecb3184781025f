import IoLibrary.Snmp.Lengths

/-! The errors of a response. A binding that fails overwrites what the ones in front of it have
reported, and the others are answered all the same. -/
namespace IoLibrary.Snmp
open Effects
open Ber (Form Element)

/-- The entry that answers to a binding. -/
def Binding.answering (reqType : Byte) (b : Binding) (snmpData : List DataEntry) : Option DataEntry :=
  (b.answerName reqType snmpData).1.bind fun id => snmpData[id]?

/-- The error of a binding: there is no entry of its name, or a SET has a value of another type. -/
def Binding.failure (reqType : Byte) (snmpData : List DataEntry) (b : Binding) : Option Byte :=
  match b.answering reqType snmpData with
  | none => some noSuchName
  | some e => if reqType = setRequest ∧ e.dataType ≠ b.value.tag then some badValue else none

/-- What a request does not change of an entry. -/
def DataEntry.kind (e : DataEntry) : List Byte × Byte := (e.oid, e.dataType)

section kinds
variable {snmpData snmpData' : List DataEntry} {b : Binding} {reqType : Byte}

lemma getElem?_kinds (h : snmpData'.map DataEntry.kind = snmpData.map DataEntry.kind) (id : ℕ) :
    (snmpData'[id]?).map DataEntry.kind = (snmpData[id]?).map DataEntry.kind := by
  rw [← List.getElem?_map, h, List.getElem?_map]

lemma entryNumber_kinds (h : snmpData'.map DataEntry.kind = snmpData.map DataEntry.kind)
    (oid : List Byte) : entryNumber snmpData' oid = entryNumber snmpData oid := by
  have hfind (snmpData : List DataEntry) : entryNumber snmpData oid =
      (snmpData.map DataEntry.kind).findIdx? fun kind => kind.1 = oid := by
    rw [entryNumber, List.findIdx?_map]
    rfl
  rw [hfind, h, ← hfind]

lemma Binding.answering_next : b.answering getNextRequest snmpData =
    snmpData[nextNumber snmpData b.name.content]? := by
  cases he : snmpData[nextNumber snmpData b.name.content]? with
  | none =>
    rw [answering, answerName_last he]
    rfl
  | some e =>
    rw [answering, answerName_next he]
    exact he

lemma Binding.answering_kinds (h : snmpData'.map DataEntry.kind = snmpData.map DataEntry.kind) :
    (b.answering reqType snmpData').map DataEntry.kind =
      (b.answering reqType snmpData).map DataEntry.kind := by
  by_cases hnext : reqType = getNextRequest
  · rw [hnext, answering_next, answering_next, nextNumber, nextNumber, entryNumber_kinds h]
    exact getElem?_kinds h _
  · rw [answering, answering, answerName_same hnext, answerName_same hnext, entryNumber_kinds h]
    cases entryNumber snmpData b.name.content with
    | none => rfl
    | some id => exact getElem?_kinds h id

/-- A binding fails by what no request changes. -/
lemma Binding.failure_kinds (h : snmpData'.map DataEntry.kind = snmpData.map DataEntry.kind) :
    b.failure reqType snmpData' = b.failure reqType snmpData := by
  have hkinds : (b.answering reqType snmpData').map DataEntry.kind =
    (b.answering reqType snmpData).map DataEntry.kind := Binding.answering_kinds h
  rw [failure, failure]
  cases he' : b.answering reqType snmpData' with
  | none =>
    rw [he', Option.map_none, eq_comm, Option.map_eq_none_iff] at hkinds
    rw [hkinds]
  | some e' =>
    rw [he', Option.map_some, eq_comm, Option.map_eq_some_iff] at hkinds
    obtain ⟨e, he, hkind⟩ := hkinds
    have htype : e.dataType = e'.dataType := congrArg Prod.snd hkind
    rw [he]
    simp only [htype]

lemma kinds_setValue {s : Served} {id : ℕ} {e : DataEntry} (he : s.snmpData[id]? = some e) (v : Value) :
    (s.setValue id e v).snmpData.map DataEntry.kind = s.snmpData.map DataEntry.kind := by
  apply List.ext_getElem?
  intro k
  change ((s.snmpData.set id { e with value := v }).map DataEntry.kind)[k]? = _
  rw [List.getElem?_map, List.getElem?_map, List.getElem?_set]
  split_ifs with hk hlt
  · rw [← hk, he]
    rfl
  · exact absurd (List.getElem?_eq_some_iff.1 he).1 hlt
  · rfl

end kinds

section error
variable {s s' : Served} {b : Binding} {bindings : List Binding} {reqType : Byte} {index id : ℕ}
  {e : DataEntry}

/-- The error that is reported so far, by the first bindings of the rest. -/
def Served.error (s : Served) : Byte × Byte := (s.errorStatus, s.errorIndex)

lemma Served.store_error {value : Element} (he : s.snmpData[id]? = some e)
    (h : s.store index id e value = some s') :
    s'.snmpData.map DataEntry.kind = s.snmpData.map DataEntry.kind ∧
      s'.error = if e.dataType ≠ value.tag then (badValue, BitVec.ofNat 8 index) else s.error := by
  rw [store] at h
  by_cases htype : e.dataType ≠ value.tag
  · rw [if_pos htype] at h ⊢
    cases h
    exact ⟨rfl, rfl⟩
  · rw [if_neg htype] at h ⊢
    split_ifs at h
    · cases h
      exact ⟨kinds_setValue he _, rfl⟩
    · cases h
      exact ⟨kinds_setValue he _, rfl⟩
    · cases h
      exact ⟨kinds_setValue he _, rfl⟩
    · cases h
      exact ⟨rfl, rfl⟩

lemma Binding.answer_parts {r : Binding × Served} (h : b.answer reqType index s = some r) :
    ∃ value, b.answerValue reqType index s (b.answerName reqType s.snmpData).1 = some (value, r.2) ∧
      r.1 = { b with name := (b.answerName reqType s.snmpData).2, value := value } := by
  obtain ⟨⟨value, s'⟩, hvalue, hr⟩ := Option.bind_eq_some_iff.1 h
  refine ⟨value, ?_, (congrArg Prod.fst (Option.some.inj hr)).symm⟩
  rw [← congrArg Prod.snd (Option.some.inj hr)]
  exact hvalue

/-- What one binding does to the error. -/
lemma Binding.answer_error {r : Binding × Served} (h : b.answer reqType index s = some r) :
    r.2.snmpData.map DataEntry.kind = s.snmpData.map DataEntry.kind ∧
      r.2.error = (b.failure reqType s.snmpData).elim s.error fun status =>
        (status, BitVec.ofNat 8 index) := by
  obtain ⟨value, hvalue, -⟩ := Binding.answer_parts h
  rw [failure, answering]
  cases hid : (b.answerName reqType s.snmpData).1 with
  | none =>
    rw [hid] at hvalue
    rw [← congrArg Prod.snd (Option.some.inj hvalue)]
    exact ⟨rfl, rfl⟩
  | some id =>
    rw [hid, answerValue] at hvalue
    obtain ⟨e, he, hvalue⟩ := Option.bind_eq_some_iff.1 hvalue
    rw [Option.bind_some, he]
    split_ifs at hvalue with hset
    · obtain ⟨s', hstore, hvalue⟩ := Option.bind_eq_some_iff.1 hvalue
      rw [← congrArg Prod.snd (Option.some.inj hvalue)]
      obtain ⟨hkinds, herror⟩ := Served.store_error he hstore
      refine ⟨hkinds, herror.trans ?_⟩
      change _ = Option.elim (if reqType = setRequest ∧ e.dataType ≠ b.value.tag then _ else _) _ _
      by_cases htype : e.dataType ≠ b.value.tag
      · rw [if_pos htype, if_pos ⟨hset, htype⟩]
        rfl
      · rw [if_neg htype, if_neg fun hboth => htype hboth.2]
        rfl
    · obtain ⟨⟨v, content⟩, -, hvalue⟩ := Option.bind_eq_some_iff.1 hvalue
      rw [← congrArg Prod.snd (Option.some.inj hvalue)]
      refine ⟨kinds_setValue he v, ?_⟩
      change _ = Option.elim (if reqType = setRequest ∧ e.dataType ≠ b.value.tag then _ else _) _ _
      rw [if_neg fun hboth => hset hboth.1]
      rfl

lemma answers_quiet {r : List Binding × Served} (h : answers reqType index bindings s = some r)
    (hnone : ∀ b ∈ bindings, b.failure reqType s.snmpData = none) : r.2.error = s.error := by
  induction bindings generalizing index s r with
  | nil =>
    cases h
    rfl
  | cons b bindings ih =>
    obtain ⟨r₁, hr₁, rs, hrs, rfl⟩ := answers_cons.1 h
    obtain ⟨hkinds, herror⟩ := Binding.answer_error hr₁
    rw [List.forall_mem_cons] at hnone
    rw [hnone.1] at herror
    refine (ih hrs fun b' hb' => ?_).trans herror
    rw [Binding.failure_kinds hkinds]
    exact hnone.2 b' hb'

/-- The last binding that fails is the one that is reported. -/
lemma answers_last {pre post : List Binding} {status : Byte} {r : List Binding × Served}
    (h : answers reqType index (pre ++ b :: post) s = some r)
    (hb : b.failure reqType s.snmpData = some status)
    (hpost : ∀ b' ∈ post, b'.failure reqType s.snmpData = none) :
    r.2.error = (status, BitVec.ofNat 8 (index + pre.length)) := by
  induction pre generalizing index s r with
  | nil =>
    obtain ⟨r₁, hr₁, rs, hrs, rfl⟩ := answers_cons.1 h
    obtain ⟨hkinds, herror⟩ := Binding.answer_error hr₁
    rw [hb] at herror
    refine (answers_quiet hrs fun b' hb' => ?_).trans herror
    rw [Binding.failure_kinds hkinds]
    exact hpost b' hb'
  | cons c pre ih =>
    obtain ⟨r₁, hr₁, rs, hrs, rfl⟩ := answers_cons.1 h
    obtain ⟨hkinds, -⟩ := Binding.answer_error hr₁
    have hlast := ih hrs ((Binding.failure_kinds hkinds).trans hb) fun b' hb' =>
      (Binding.failure_kinds hkinds).trans (hpost b' hb')
    rw [List.length_cons, ← Nat.add_assoc, Nat.add_right_comm]
    exact hlast

end error

/-- Every binding that is answered has the name and the value of its answer already. -/
def Echoed (reqType : Byte) : List DataEntry → List Binding → Prop
  | _, [] => True
  | snmpData, b :: bindings =>
    match b.answerName reqType snmpData with
    | (none, _) => Echoed reqType snmpData bindings
    | (some id, name) => ∃ e v content, snmpData[id]? = some e ∧ e.fetched = some (v, content) ∧
        b.name = name ∧ b.value = ⟨e.dataType, .short, content⟩ ∧
        Echoed reqType (snmpData.set id { e with value := v }) bindings

section echo
variable {s : Served} {b : Binding} {bindings : List Binding} {reqType : Byte} {index : ℕ}

lemma Binding.answerName_none {snmpData : List DataEntry}
    (h : (b.answerName reqType snmpData).1 = none) : (b.answerName reqType snmpData).2 = b.name := by
  by_cases hnext : reqType = getNextRequest
  · rw [hnext] at h ⊢
    cases he : snmpData[nextNumber snmpData b.name.content]? with
    | none => rw [answerName_last he]
    | some e =>
      rw [answerName_next he] at h
      cases h
  · rw [answerName_same hnext]

/-- A SET gives its bindings back. -/
lemma answers_set {r : List Binding × Served} (h : answers setRequest index bindings s = some r) :
    r.1 = bindings := by
  induction bindings generalizing index s r with
  | nil =>
    cases h
    rfl
  | cons b bindings ih =>
    obtain ⟨r₁, hr₁, rs, hrs, rfl⟩ := answers_cons.1 h
    have hsame : r₁.1 = b := by
      obtain ⟨value, hvalue, hr⟩ := Binding.answer_parts hr₁
      have hname : b.answerName setRequest s.snmpData = _ := Binding.answerName_same (by decide)
      rw [hname] at hvalue hr
      have hvalue' : value = b.value := by
        cases hid : entryNumber s.snmpData b.name.content with
        | none =>
          rw [hid] at hvalue
          exact (congrArg Prod.fst (Option.some.inj hvalue)).symm
        | some id =>
          rw [hid] at hvalue
          obtain ⟨e, -, hvalue⟩ := Option.bind_eq_some_iff.1 hvalue
          rw [if_pos rfl] at hvalue
          obtain ⟨s', -, hvalue⟩ := Option.bind_eq_some_iff.1 hvalue
          exact (congrArg Prod.fst (Option.some.inj hvalue)).symm
      rw [hr, hvalue']
    rw [hsame, ih hrs]

/-- The answers of another request are its bindings if each of these says what the table does. -/
lemma answers_echoed {r : List Binding × Served} (hread : reqType ≠ setRequest)
    (h : answers reqType index bindings s = some r) :
    r.1 = bindings ↔ Echoed reqType s.snmpData bindings := by
  induction bindings generalizing index s r with
  | nil =>
    cases h
    exact iff_of_true rfl trivial
  | cons b bindings ih =>
    obtain ⟨r₁, hr₁, rs, hrs, rfl⟩ := answers_cons.1 h
    have hrest := ih hrs
    obtain ⟨value, hvalue, hr⟩ := Binding.answer_parts hr₁
    have hhead : ({ b with name := (b.answerName reqType s.snmpData).2, value := value } : Binding) = b ↔
        (b.answerName reqType s.snmpData).2 = b.name ∧ value = b.value := by
      cases b
      simp
    rw [List.cons.injEq, hr, hhead, hrest, Echoed]
    cases hname : b.answerName reqType s.snmpData with
    | mk id name =>
    have hnone : (b.answerName reqType s.snmpData).1 = none →
      (b.answerName reqType s.snmpData).2 = b.name := Binding.answerName_none
    rw [hname] at hvalue hnone
    cases id with
    | none =>
      obtain ⟨hcontent, hrefreshed⟩ := Prod.mk.inj (Option.some.inj hvalue)
      rw [← hcontent, ← hrefreshed]
      exact ⟨fun hboth => hboth.2, fun hechoed => ⟨⟨hnone rfl, rfl⟩, hechoed⟩⟩
    | some id =>
      obtain ⟨e, he, hvalue⟩ := Option.bind_eq_some_iff.1 hvalue
      rw [if_neg hread] at hvalue
      obtain ⟨⟨v, content⟩, hfetched, hvalue⟩ := Option.bind_eq_some_iff.1 hvalue
      obtain ⟨hcontent, hrefreshed⟩ := Prod.mk.inj (Option.some.inj hvalue)
      rw [← hcontent, ← hrefreshed]
      constructor
      · rintro ⟨⟨hname, hcontent⟩, hechoed⟩
        exact ⟨e, v, content, he, hfetched, hname.symm, hcontent.symm, hechoed⟩
      · rintro ⟨e', v', content', he', hfetched', hname, hcontent, hechoed⟩
        rw [he] at he'
        cases he'
        rw [hfetched] at hfetched'
        cases hfetched'
        exact ⟨⟨hname.symm, hcontent.symm⟩, hechoed⟩

end echo

/-- Where the error-index of a response lies, and the list of its bindings. -/
def Message.indexAt (msg : Message) : ℕ := msg.statusAt + 1 + msg.errorIndex.header.length

def Message.listAt (msg : Message) : ℕ := msg.indexAt + 1

/-- A response reports the first binding that fails, and has the list of its request. -/
def Message.Reports (msg : Message) (snmpData : List DataEntry) (response : List Byte) : Prop :=
  ∀ pre b post status, msg.bindings = pre ++ b :: post →
    (∀ b' ∈ pre, b'.failure msg.pduType snmpData = none) →
    b.failure msg.pduType snmpData = some status →
      response.getD msg.statusAt 0 = status ∧
      (response.getD msg.indexAt 0).toNat = pre.length + 1 ∧
      response.drop msg.listAt = msg.list.bytes

/-- How many of the bindings fail. -/
def Message.failures (msg : Message) (snmpData : List DataEntry) : ℕ :=
  msg.bindings.countP fun b => (b.failure msg.pduType snmpData).isSome

section sizes
variable {bs cs : List Binding}

/-- Each binding takes six bytes or more. -/
lemma length_bindingBytes (bindings : List Binding) :
    6 * bindings.length ≤ (bindingBytes bindings).length := by
  induction bindings with
  | nil => exact Nat.le_refl _
  | cons b bindings ih =>
    have hlength := b.element.length_bytes
    have hname := b.name.length_bytes
    have hvalue := b.value.length_bytes
    have hsize := b.form.size_pos
    have hnameSize := b.name.form.size_pos
    have hvalueSize := b.value.form.size_pos
    change _ = b.form.size + 1 + (b.name.bytes ++ b.value.bytes).length at hlength
    rw [List.length_append] at hlength
    rw [bindingBytes_cons, List.length_append, List.length_cons]
    omega

/-- Bindings whose lengths fit are the same if their bytes are. -/
lemma bindingBytes_inj (hbs : ∀ b ∈ bs, b.element.WellFormed ∧ b.name.WellFormed ∧ b.value.WellFormed)
    (hcs : ∀ c ∈ cs, c.element.WellFormed ∧ c.name.WellFormed ∧ c.value.WellFormed)
    (heq : bindingBytes bs = bindingBytes cs) : bs = cs := by
  induction bs generalizing cs with
  | nil =>
    cases cs with
    | nil => rfl
    | cons c cs =>
      have hlength := congrArg List.length heq
      have hpos := c.element_bytes_pos
      rw [bindingBytes_cons, List.length_append, bindingBytes_nil, List.length_nil] at hlength
      omega
  | cons b bs ih =>
    cases cs with
    | nil =>
      have hlength := congrArg List.length heq
      have hpos := b.element_bytes_pos
      rw [bindingBytes_cons, List.length_append, bindingBytes_nil, List.length_nil] at hlength
      omega
    | cons c cs =>
      rw [List.forall_mem_cons] at hbs hcs
      rw [bindingBytes_cons, bindingBytes_cons] at heq
      obtain ⟨helement, hrest⟩ := Element.bytes_inj hbs.1.1 hcs.1.1 heq
      have hcontent : b.name.bytes ++ b.value.bytes = c.name.bytes ++ c.value.bytes :=
        congrArg Element.content helement
      obtain ⟨hname, hvalues⟩ := Element.bytes_inj hbs.1.2.1 hcs.1.2.1 hcontent
      rw [← List.append_nil b.value.bytes, ← List.append_nil c.value.bytes] at hvalues
      obtain ⟨hvalue, -⟩ := Element.bytes_inj hbs.1.2.2 hcs.1.2.2 hvalues
      have hform : b.form = c.form := congrArg Element.form helement
      rw [ih hbs.2 hcs.2 hrest]
      cases b
      cases c
      simp only at hform hname hvalue
      rw [hform, hname, hvalue]

lemma Message.length_bindings (msg : Message) :
    (bindingBytes msg.bindings).length ≤ msg.bytes.length := by
  have hlist : msg.list.bytes.length = msg.list.header.length + (bindingBytes msg.bindings).length :=
    List.length_append
  have hpdu : msg.pdu.bytes.length = msg.pdu.header.length + (msg.requestId.bytes ++
      msg.errorStatus.bytes ++ msg.errorIndex.bytes ++ msg.list.bytes).length := List.length_append
  have hbytes : msg.bytes.length = msg.element.header.length + (msg.version.bytes ++
      msg.community.bytes ++ msg.pdu.bytes).length := List.length_append
  simp only [List.length_append] at hpdu hbytes
  omega

end sizes

section report
variable {msg : Message} {snmpData : List DataEntry}

/-- The error of a response, and its list, stand behind what has the size that it has in the request. -/
lemma error_written (hmsg : msg.IsRequest) (bindings : List Binding) (s : Served) :
    (s.errorStatus ≠ 0 → (msg.written bindings s).getD msg.indexAt 0 = s.errorIndex + 1) ∧
      (msg.written bindings s).drop msg.listAt = (msg.respond bindings s).list.bytes := by
  obtain ⟨pre, hpre, hwritten⟩ := written_status hmsg bindings s
  obtain ⟨x, hindex, hx⟩ : ∃ x, (msg.respond bindings s).errorIndex.bytes =
      msg.errorIndex.header ++ [x] ∧ (s.errorStatus ≠ 0 → x = s.errorIndex + 1) := by
    rw [Message.respond]
    split_ifs with herror
    · have hheader : Element.header { msg.errorIndex with content := [s.errorIndex + 1] } =
          msg.errorIndex.header := by
        rw [Element.header, Element.header, hmsg.noIndex]
        rfl
      exact ⟨s.errorIndex + 1, by rw [Element.bytes, hheader], fun _ => rfl⟩
    · exact ⟨0, by rw [Element.bytes, hmsg.noIndex], fun h => absurd h herror⟩
  have hfront : msg.written bindings s = (pre ++ s.errorStatus :: msg.errorIndex.header) ++
      x :: (msg.respond bindings s).list.bytes := by
    rw [hwritten, hindex]
    simp
  have hlength : (pre ++ s.errorStatus :: msg.errorIndex.header).length = msg.indexAt := by
    rw [List.length_append, List.length_cons, hpre, Message.indexAt]
    omega
  rw [hfront, Message.listAt, ← hlength, getD_middle]
  refine ⟨hx, ?_⟩
  rw [← List.drop_drop, List.drop_left]
  rfl

/-- The list of a response is that of the request if its bindings are. -/
lemma list_written (hmsg : msg.IsRequest) (hlength : msg.bytes.length ≤ maxSnmpmsgLen)
    {bindings : List Binding} (hanswers : ∀ b ∈ bindings, b.IsAnswer) (s : Served) :
    (msg.respond bindings s).list.bytes = msg.list.bytes ↔ bindings = msg.bindings := by
  constructor
  · intro hbytes
    have hheader : (msg.respond bindings s).list.header.length = msg.list.header.length := by
      rw [Element.length_header, Element.length_header]
      rfl
    have hsame : bindingBytes msg.bindings = bindingBytes bindings :=
      (List.append_inj hbytes hheader).2.symm
    have hshort := msg.length_bindings
    have hexact := bindings_exact hanswers hmsg.bindings hsame (by rw [← hsame]; omega)
    exact bindingBytes_inj (fun b hb => ⟨(hexact b hb).1, (hanswers b hb).name, (hexact b hb).2⟩)
      (fun b hb => ⟨(hmsg.bindings b hb).element, (hmsg.bindings b hb).name, (hmsg.bindings b hb).value⟩)
      hsame.symm
  · rintro rfl
    rfl

/-- The only binding that fails. -/
lemma Message.only_failure {pre post : List Binding} {b : Binding} (hsplit : msg.bindings = pre ++ b :: post)
    (hb : b.failure msg.pduType snmpData ≠ none) : msg.failures snmpData = 1 ↔
      (∀ b' ∈ pre, b'.failure msg.pduType snmpData = none) ∧
        ∀ b' ∈ post, b'.failure msg.pduType snmpData = none := by
  have hsome : (b.failure msg.pduType snmpData).isSome = true := Option.isSome_iff_ne_none.2 hb
  have hcount : msg.failures snmpData =
      pre.countP (fun b => (b.failure msg.pduType snmpData).isSome) + 1 +
        post.countP (fun b => (b.failure msg.pduType snmpData).isSome) := by
    rw [failures, hsplit, List.countP_append, List.countP_cons_of_pos (by exact hsome)]
    omega
  have hnone (bindings : List Binding) :
      bindings.countP (fun b => (b.failure msg.pduType snmpData).isSome) = 0 ↔
        ∀ b' ∈ bindings, b'.failure msg.pduType snmpData = none := by
    rw [List.countP_eq_zero]
    simp
  rw [hcount, ← hnone, ← hnone]
  omega

/-- There is a first binding that fails, and a last one. -/
lemma exists_first {P : Binding → Prop} (bindings : List Binding) (h : ∃ b ∈ bindings, P b) :
    ∃ pre b post, bindings = pre ++ b :: post ∧ P b ∧ ∀ b' ∈ pre, ¬ P b' := by
  induction bindings with
  | nil =>
    obtain ⟨b, hb, -⟩ := h
    cases hb
  | cons c bindings ih =>
    by_cases hc : P c
    · exact ⟨[], c, bindings, rfl, hc, fun b' hb' => absurd hb' List.not_mem_nil⟩
    · obtain ⟨b, hmem, hb⟩ := h
      have hrest : ∃ b ∈ bindings, P b := by
        rcases List.mem_cons.1 hmem with rfl | hmem
        · exact absurd hb hc
        · exact ⟨b, hmem, hb⟩
      obtain ⟨pre, b, post, rfl, hb, hpre⟩ := ih hrest
      exact ⟨c :: pre, b, post, rfl, hb, List.forall_mem_cons.2 ⟨hc, hpre⟩⟩

lemma exists_last {P : Binding → Prop} (bindings : List Binding) (h : ∃ b ∈ bindings, P b) :
    ∃ pre b post, bindings = pre ++ b :: post ∧ P b ∧ ∀ b' ∈ post, ¬ P b' := by
  obtain ⟨b, hmem, hb⟩ := h
  obtain ⟨pre, b, post, hsplit, hb, hpre⟩ :=
    exists_first (P := P) bindings.reverse ⟨b, List.mem_reverse.2 hmem, hb⟩
  refine ⟨post.reverse, b, pre.reverse, ?_, hb, fun b' hb' => hpre b' (List.mem_reverse.1 hb')⟩
  have hback := congrArg List.reverse hsplit
  rw [List.reverse_reverse] at hback
  rw [hback]
  simp

lemma first_unique {P : Binding → Prop} {pre pre' post post' : List Binding} {b b' : Binding}
    (h : pre ++ b :: post = pre' ++ b' :: post') (hb : P b) (hb' : P b') (hpre : ∀ c ∈ pre, ¬ P c)
    (hpre' : ∀ c ∈ pre', ¬ P c) : pre = pre' ∧ b = b' := by
  induction pre generalizing pre' with
  | nil =>
    cases pre' with
    | nil => exact ⟨rfl, (List.cons.inj h).1⟩
    | cons c pre' =>
      have hsame : b = c := (List.cons.inj h).1
      exact absurd (hsame ▸ hb) (hpre' c List.mem_cons_self)
  | cons c pre ih =>
    cases pre' with
    | nil =>
      have hsame : c = b' := (List.cons.inj h).1
      exact absurd (hsame ▸ hb') (hpre c List.mem_cons_self)
    | cons c' pre' =>
      obtain ⟨hc, hrest⟩ := List.cons.inj h
      rw [List.forall_mem_cons] at hpre hpre'
      obtain ⟨hsame, hbs⟩ := ih hrest hpre.2 hpre'.2
      rw [hc, hsame]
      exact ⟨rfl, hbs⟩

lemma Binding.failure_status {reqType status : Byte} {b : Binding}
    (h : b.failure reqType snmpData = some status) : status ≠ 0 := by
  rw [failure] at h
  split at h
  · cases h
    decide
  · split_ifs at h
    cases h
    decide

/-- A response has the error of the last binding that fails, and its position. -/
lemma answered_error {turns : ℕ} {stale : Mem} {response : List Byte} {s : Served}
    {pre post : List Binding} {b : Binding} {status : Byte} (hmsg : msg.IsRequest)
    (hanswered : Answered turns stale msg.bytes snmpData response s)
    (hsplit : msg.bindings = pre ++ b :: post) (hstatus : b.failure msg.pduType snmpData = some status)
    (hpost : ∀ b' ∈ post, b'.failure msg.pduType snmpData = none) :
    response.getD msg.statusAt 0 = status ∧ (response.getD msg.indexAt 0).toNat = pre.length + 1 := by
  obtain ⟨hlength, r, hr, -, -, rfl, rfl⟩ := (answered_iff hmsg stale snmpData).1 hanswered
  have hlast : r.2.error = (status, BitVec.ofNat 8 (0 + pre.length)) := by
    rw [hsplit] at hr
    exact answers_last hr hstatus hpost
  have hpositive : r.2.errorStatus = status := congrArg Prod.fst hlast
  have hposition : r.2.errorIndex = BitVec.ofNat 8 (0 + pre.length) := congrArg Prod.snd hlast
  have hnonzero : r.2.errorStatus ≠ 0 := by
    rw [hpositive]
    exact Binding.failure_status hstatus
  refine ⟨(status_written hmsg _ _).trans hpositive, ?_⟩
  -- So many bindings do not fit a request that the octet of the position would be too small.
  have hshort := length_bindingBytes msg.bindings
  have hbound := msg.length_bindings
  have hcount : msg.bindings.length = pre.length + 1 + post.length := by
    rw [hsplit, List.length_append, List.length_cons]
    omega
  rw [maxSnmpmsgLen] at hlength
  rw [(error_written hmsg r.1 r.2).1 hnonzero, hposition, BitVec.toNat_add, BitVec.toNat_ofNat]
  change (_ % 2 ^ 8 + 1) % 2 ^ 8 = _
  omega

/-- The response has the list of the request if this is a SET, or says what the table does. -/
lemma answered_list {turns : ℕ} {stale : Mem} {response : List Byte} {s : Served} (hmsg : msg.IsRequest)
    (hanswered : Answered turns stale msg.bytes snmpData response s) :
    response.drop msg.listAt = msg.list.bytes ↔
      msg.pduType = setRequest ∨ Echoed msg.pduType snmpData msg.bindings := by
  obtain ⟨hlength, r, hr, -, -, rfl, rfl⟩ := (answered_iff hmsg stale snmpData).1 hanswered
  rw [(error_written hmsg r.1 r.2).2,
    list_written hmsg hlength (answers_isAnswer hmsg.bindings hr) r.2]
  by_cases hset : msg.pduType = setRequest
  · rw [hset] at hr
    exact iff_of_true (answers_set hr) (.inl hset)
  · rw [or_iff_right hset]
    exact answers_echoed hset hr

/-- A request with a binding that fails is answered with the error of the first one, its position and
its own list exactly if no other binding fails, and it is a SET or says what the table does. -/
theorem reports_iff (turns : ℕ) (stale : Mem) (msg : Message) (snmpData : List DataEntry)
    (response : List Byte) (s : Served) (hmsg : msg.IsRequest)
    (hanswered : Answered turns stale msg.bytes snmpData response s)
    (hfails : ∃ b ∈ msg.bindings, b.failure msg.pduType snmpData ≠ none) :
    msg.Reports snmpData response ↔ msg.failures snmpData = 1 ∧
      (msg.pduType = setRequest ∨ Echoed msg.pduType snmpData msg.bindings) := by
  obtain ⟨pre, b, post, hsplit, hb, hpost⟩ := exists_last msg.bindings hfails
  obtain ⟨status, hstatus⟩ := Option.ne_none_iff_exists'.1 hb
  have hquiet : ∀ b' ∈ post, b'.failure msg.pduType snmpData = none :=
    fun b' hb' => not_not.1 (hpost b' hb')
  obtain ⟨herror, hposition⟩ := answered_error hmsg hanswered hsplit hstatus hquiet
  rw [← answered_list hmsg hanswered]
  constructor
  · intro hreports
    obtain ⟨first, c, rest, hsplit', hc, hfirst⟩ := exists_first msg.bindings hfails
    obtain ⟨status', hstatus'⟩ := Option.ne_none_iff_exists'.1 hc
    obtain ⟨-, hat, hsame⟩ := hreports first c rest status' hsplit'
      (fun b' hb' => not_not.1 (hfirst b' hb')) hstatus'
    rw [hposition] at hat
    have hpre : first = pre := by
      rw [hsplit] at hsplit'
      exact (List.append_inj hsplit' (by omega)).1.symm
    refine ⟨(Message.only_failure hsplit hb).2 ⟨fun b' hb' => ?_, hquiet⟩, hsame⟩
    rw [← hpre] at hb'
    exact not_not.1 (hfirst b' hb')
  · rintro ⟨hone, hsame⟩ first c rest status' hsplit' hfirst hc
    obtain ⟨hpre, -⟩ := (Message.only_failure hsplit hb).1 hone
    have hfails' : c.failure msg.pduType snmpData ≠ none := by
      rw [hc]
      exact Option.some_ne_none _
    obtain ⟨rfl, rfl⟩ := first_unique (hsplit.symm.trans hsplit') hb hfails'
      (fun b' hb' => not_not.2 (hpre b' hb')) fun b' hb' => not_not.2 (hfirst b' hb')
    rw [hstatus] at hc
    cases hc
    exact ⟨herror, hposition, hsame⟩

/-- A SET of an unknown name. -/
theorem reports_unknown : ∃ turns response s, Answered turns (fun _ => 0)
    (shortSet [seven [0x2C]]).bytes oneNumber response s ∧
      (shortSet [seven [0x2C]]).Reports oneNumber response := by
  have hb : ∀ b ∈ [seven [0x2C]], b.WellFormed := by
    rw [List.forall_mem_singleton]
    exact seven_wellFormed (by decide)
  have hroom : ∀ b ∈ [seven [0x2C]], b.HasRoom oneNumber := by
    rw [List.forall_mem_singleton]
    exact fun _ _ _ _ => by decide
  have hmsg := shortSet_isRequest hb (by decide)
  obtain ⟨turns, response, s, hanswered⟩ :=
    (answered_set hmsg rfl (fun _ => 0) oneNumber).2 (by decide) hroom
  exact ⟨turns, response, s, hanswered, (reports_iff turns _ _ oneNumber response s hmsg hanswered
    ⟨seven [0x2C], List.mem_singleton.2 rfl, by decide⟩).2 ⟨by decide, .inl rfl⟩⟩

/-- Of two unknown names the second is reported. -/
theorem second_unknown_reported : ¬ ∀ turns stale (msg : Message) snmpData response s, msg.IsRequest →
    Answered turns stale msg.bytes snmpData response s →
      (∃ b ∈ msg.bindings, b.failure msg.pduType snmpData ≠ none) →
        msg.Reports snmpData response := by
  intro h
  have hb : ∀ b ∈ [seven [0x2C], seven [0x2D]], b.WellFormed := by
    rw [List.forall_mem_cons, List.forall_mem_singleton]
    exact ⟨seven_wellFormed (by decide), seven_wellFormed (by decide)⟩
  have hroom : ∀ b ∈ [seven [0x2C], seven [0x2D]], b.HasRoom oneNumber := by
    rw [List.forall_mem_cons, List.forall_mem_singleton]
    exact ⟨fun _ _ _ _ => by decide, fun _ _ _ _ => by decide⟩
  have hmsg := shortSet_isRequest hb (by decide)
  obtain ⟨turns, response, s, hanswered⟩ :=
    (answered_set hmsg rfl (fun _ => 0) oneNumber).2 (by decide) hroom
  have hreports := h turns _ _ oneNumber response s hmsg hanswered
    ⟨seven [0x2C], List.mem_cons_self, by decide⟩
  obtain ⟨-, hfirst, -⟩ := hreports [] (seven [0x2C]) [seven [0x2D]] noSuchName rfl
    (fun _ hno => absurd hno List.not_mem_nil) rfl
  have hsplit : (shortSet [seven [0x2C], seven [0x2D]]).bindings = [seven [0x2C]] ++ seven [0x2D] :: [] :=
    rfl
  have hunknown : (seven [0x2D]).failure setRequest oneNumber = some noSuchName := rfl
  obtain ⟨-, hlast⟩ := answered_error hmsg hanswered hsplit hunknown
    fun _ hno => absurd hno List.not_mem_nil
  rw [hlast] at hfirst
  exact absurd hfirst (by decide)

end report

end IoLibrary.Snmp
