import IoLibrary.Snmp.Answering

/-! What a SET leaves behind. The bindings are stored while they are read, one after the other, and
the ones in front of an error stay stored. -/
namespace IoLibrary.Snmp
open Effects
open Ber (Form Element)

/-- The entry that a binding sets, with its number: the first of its name, if it has its type. -/
def Binding.target (b : Binding) (snmpData : List DataEntry) : Option (ℕ × DataEntry) := do
  let id ← entryNumber snmpData b.name.content
  let e ← snmpData[id]?
  if e.dataType = b.value.tag then some (id, e) else none

/-- The value of an entry in which a content is stored. -/
def DataEntry.stored (e : DataEntry) (v : Value) (content : List Byte) : Value :=
  if e.isString then v.overwrite content else if e.isInteger then v.assign content else v

/-- The contents that the bindings store in entry `id`, in their order. -/
def storedIn (snmpData : List DataEntry) (id : ℕ) (bindings : List Binding) : List (List Byte) :=
  bindings.filterMap fun b =>
    if (b.target snmpData).map Prod.fst = some id then some b.value.content else none

def DataEntry.after (e : DataEntry) (contents : List (List Byte)) : DataEntry :=
  { e with value := contents.foldl e.stored e.value }

def tableAfter (snmpData : List DataEntry) (bindings : List Binding) : List DataEntry :=
  snmpData.mapIdx fun id e => e.after (storedIn snmpData id bindings)

/-- A binding whose entry has a function to call. -/
def Binding.Calls (b : Binding) (snmpData : List DataEntry) : Prop :=
  ∃ id e, b.target snmpData = some (id, e) ∧ e.isInteger ∧ e.setfunction = true

/-- A string has room for what is stored in it. -/
def Binding.HasRoom (b : Binding) (snmpData : List DataEntry) : Prop :=
  ∀ id e, b.target snmpData = some (id, e) → e.isString → b.value.content.length ≤ 64

section table
variable {snmpData : List DataEntry} {bindings : List Binding} {b : Binding}

@[simp] lemma storedIn_nil (id : ℕ) : storedIn snmpData id [] = [] := rfl

lemma storedIn_append (id : ℕ) (b : Binding) :
    storedIn snmpData id (bindings ++ [b]) = storedIn snmpData id bindings ++
      if (b.target snmpData).map Prod.fst = some id then [b.value.content] else [] := by
  rw [storedIn, List.filterMap_append, storedIn]
  congr 1
  split_ifs with h <;> simp [h]

@[simp] lemma tableAfter_nil : tableAfter snmpData [] = snmpData := by
  apply List.ext_getElem?
  intro id
  rw [tableAfter, List.getElem?_mapIdx]
  cases snmpData[id]? with
  | none => rfl
  | some e => rfl

lemma getElem?_tableAfter (id : ℕ) : (tableAfter snmpData bindings)[id]? =
    (snmpData[id]?).map fun e => e.after (storedIn snmpData id bindings) := by
  rw [tableAfter, List.getElem?_mapIdx]

/-- A binding without a target leaves the table. -/
lemma tableAfter_none (h : b.target snmpData = none) :
    tableAfter snmpData (bindings ++ [b]) = tableAfter snmpData bindings := by
  apply List.ext_getElem?
  intro id
  rw [getElem?_tableAfter, getElem?_tableAfter, storedIn_append, h]
  simp

/-- A binding changes its target only. -/
lemma tableAfter_some {id : ℕ} {e : DataEntry} (h : b.target snmpData = some (id, e))
    (he : snmpData[id]? = some e) : tableAfter snmpData (bindings ++ [b]) =
      (tableAfter snmpData bindings).set id { e with
        value := e.stored (e.after (storedIn snmpData id bindings)).value b.value.content } := by
  apply List.ext_getElem?
  intro k
  rw [getElem?_tableAfter, List.getElem?_set, getElem?_tableAfter, storedIn_append, h]
  by_cases hk : id = k
  · subst hk
    have hlength : id < (tableAfter snmpData bindings).length := by
      rw [tableAfter, List.length_mapIdx]
      exact (List.getElem?_eq_some_iff.1 he).1
    rw [if_pos rfl, if_pos hlength, he]
    simp [DataEntry.after]
  · rw [if_neg hk]
    simp [hk]

lemma entryNumber_after (oid : List Byte) :
    entryNumber (tableAfter snmpData bindings) oid = entryNumber snmpData oid := by
  have hoids : (tableAfter snmpData bindings).map DataEntry.oid = snmpData.map DataEntry.oid := by
    apply List.ext_getElem?
    intro id
    rw [List.getElem?_map, List.getElem?_map, getElem?_tableAfter]
    cases snmpData[id]? with
    | none => rfl
    | some e => rfl
  have hfind (snmpData : List DataEntry) : entryNumber snmpData oid =
      (snmpData.map DataEntry.oid).findIdx? fun o => o = oid := by
    rw [entryNumber, List.findIdx?_map]
    rfl
  rw [hfind, hoids, ← hfind]

lemma entryNumber_getElem {oid : List Byte} {id : ℕ} (h : entryNumber snmpData oid = some id) :
    ∃ e, snmpData[id]? = some e := by
  obtain ⟨hlt, -⟩ := List.findIdx?_eq_some_iff_getElem.1 h
  exact ⟨snmpData[id], List.getElem?_eq_getElem hlt⟩

end table

/-- What the first bindings have left behind. -/
structure After (snmpData : List DataEntry) (bindings : List Binding) (s : Served) : Prop where
  table : s.snmpData = tableAfter snmpData bindings
  status : s.errorStatus ≠ 0 ↔ ∃ b ∈ bindings, b.target snmpData = none
  called : s.called = [] ↔ ∀ b ∈ bindings, ¬ b.Calls snmpData

section step
variable {snmpData : List DataEntry} {bindings : List Binding} {b : Binding} {s : Served}
  {index id : ℕ} {e : DataEntry}

lemma After.start (snmpData : List DataEntry) : After snmpData [] (.start snmpData) where
  table := tableAfter_nil.symm
  status := by simp [Served.start]
  called := by simp [Served.start]

/-- A binding without a target is an error, and changes nothing else. -/
lemma After.refuse (h : After snmpData bindings s) (hb : b.target snmpData = none) {status : Byte}
    (hstatus : status ≠ 0) : After snmpData (bindings ++ [b]) (s.fail status index) where
  table := h.table.trans (tableAfter_none hb).symm
  status := iff_of_true hstatus ⟨b, by simp, hb⟩
  called := by
    have hno : ¬ b.Calls snmpData := by
      rintro ⟨id, e, he, -⟩
      rw [hb] at he
      cases he
    refine h.called.trans ?_
    simp only [List.forall_mem_append, List.forall_mem_singleton, hno, not_false_eq_true, and_true]

lemma isString_integer (h : e.isInteger) : ¬ e.isString := by
  rintro (hs | hs) <;> rcases h with h | h | h | h <;> rw [hs] at h <;> exact absurd h (by decide)

/-- A binding that is stored. -/
lemma After.accept (h : After snmpData bindings s) (hb : b.target snmpData = some (id, e))
    (he : snmpData[id]? = some e) (called : List (ℕ × BitVec 32))
    (hcalled : called = [] ↔ s.called = [] ∧ ¬ b.Calls snmpData) :
    After snmpData (bindings ++ [b]) { s with
      snmpData := s.snmpData.set id { e with
        value := e.stored (e.after (storedIn snmpData id bindings)).value b.value.content }
      called := called } where
  table := by
    change s.snmpData.set id _ = _
    rw [h.table, tableAfter_some hb he]
  status := by
    have hsome : b.target snmpData ≠ none := by
      rw [hb]
      exact Option.some_ne_none _
    refine h.status.trans ?_
    simp only [List.mem_append, List.mem_singleton]
    constructor
    · rintro ⟨b', hmem, hnone⟩
      exact ⟨b', .inl hmem, hnone⟩
    · rintro ⟨b', hmem | rfl, hnone⟩
      · exact ⟨b', hmem, hnone⟩
      · exact absurd hnone hsome
  called := by
    refine hcalled.trans ?_
    rw [h.called]
    simp only [List.forall_mem_append, List.forall_mem_singleton]

/-- The target of a binding, as far as the table has come. -/
lemma After.entry (h : After snmpData bindings s) (he : snmpData[id]? = some e) :
    s.snmpData[id]? = some (e.after (storedIn snmpData id bindings)) := by
  rw [h.table, getElem?_tableAfter, he]
  rfl

lemma calls_iff (hb : b.target snmpData = some (id, e)) :
    b.Calls snmpData ↔ e.isInteger ∧ e.setfunction = true := by
  constructor
  · rintro ⟨id', e', hb', hcall⟩
    rw [hb] at hb'
    cases hb'
    exact hcall
  · exact fun hcall => ⟨id, e, hb, hcall⟩

lemma hasRoom_iff (hb : b.target snmpData = some (id, e)) :
    b.HasRoom snmpData ↔ (e.isString → b.value.content.length ≤ 64) := by
  constructor
  · exact fun hroom => hroom id e hb
  · intro hroom id' e' hb'
    rw [hb] at hb'
    cases hb'
    exact hroom

lemma After.store (h : After snmpData bindings s) (index : ℕ) (hb : b.target snmpData = some (id, e))
    (he : snmpData[id]? = some e) (htype : e.dataType = b.value.tag) :
    (b.HasRoom snmpData → ∃ s', s.store index id (e.after (storedIn snmpData id bindings)) b.value =
      some s' ∧ After snmpData (bindings ++ [b]) s') ∧
    ((s.store index id (e.after (storedIn snmpData id bindings)) b.value).isSome →
      b.HasRoom snmpData) := by
  have hentry := h.entry he
  have hcalls := calls_iff hb
  have hsame : ¬ (e.after (storedIn snmpData id bindings)).dataType ≠ b.value.tag := not_not.2 htype
  rw [hasRoom_iff hb, Served.store, if_neg hsame]
  by_cases hstring : e.isString
  · have hstring' : (e.after (storedIn snmpData id bindings)).isString := hstring
    have hno : ¬ b.Calls snmpData := fun hc => isString_integer (hcalls.1 hc).1 hstring
    have haccept := h.accept hb he s.called (by simp [hno])
    rw [if_pos hstring']
    by_cases hshort : b.value.content.length ≤ 64
    · rw [if_pos hshort]
      refine ⟨fun _ => ⟨_, rfl, ?_⟩, fun _ _ => hshort⟩
      rw [DataEntry.stored, if_pos hstring] at haccept
      exact haccept
    · rw [if_neg hshort]
      exact ⟨fun hr => absurd (hr hstring) hshort, fun hr => absurd hr (by simp)⟩
  · have hstring' : ¬ (e.after (storedIn snmpData id bindings)).isString := hstring
    rw [if_neg hstring']
    by_cases hinteger : e.isInteger
    · have hinteger' : (e.after (storedIn snmpData id bindings)).isInteger := hinteger
      have haccept := h.accept hb he (if e.setfunction then
        s.called ++ [(id, getValue b.value.content)] else s.called) (by
          by_cases hcall : e.setfunction = true
          · simp [hcall, hcalls, hinteger]
          · simp [hcall, hcalls])
      rw [DataEntry.stored, if_neg hstring, if_pos hinteger] at haccept
      rw [if_pos hinteger']
      refine ⟨fun _ => ⟨_, rfl, ?_⟩, fun _ hyes => absurd hyes hstring⟩
      change After snmpData (bindings ++ [b]) (if e.setfunction = true then _ else _)
      by_cases hcall : e.setfunction = true
      · rw [if_pos hcall] at haccept ⊢
        exact haccept
      · rw [if_neg hcall] at haccept ⊢
        exact haccept
    · have hinteger' : ¬ (e.after (storedIn snmpData id bindings)).isInteger := hinteger
      have hno : ¬ b.Calls snmpData := fun hc => hinteger (hcalls.1 hc).1
      have haccept := h.accept hb he s.called (by simp [hno])
      have hset : s.snmpData.set id { e with
          value := (e.after (storedIn snmpData id bindings)).value } = s.snmpData := by
        obtain ⟨hlt, hget⟩ := List.getElem?_eq_some_iff.1 hentry
        change s.snmpData.set id (e.after (storedIn snmpData id bindings)) = s.snmpData
        rw [← hget, List.set_getElem_self]
      rw [DataEntry.stored, if_neg hstring, if_neg hinteger, hset] at haccept
      rw [if_neg hinteger']
      exact ⟨fun _ => ⟨s, rfl, haccept⟩, fun _ hyes => absurd hyes hstring⟩

/-- One binding of a SET. -/
lemma After.step (h : After snmpData bindings s) (b : Binding) (index : ℕ) :
    (b.HasRoom snmpData → ∃ s', b.answer setRequest index s = some (b, s') ∧
      After snmpData (bindings ++ [b]) s') ∧
    ((b.answer setRequest index s).isSome → b.HasRoom snmpData) := by
  have hanswer : b.answer setRequest index s =
      (b.answerValue setRequest index s (entryNumber snmpData b.name.content)).bind fun r =>
        some ({ b with name := b.name, value := r.1 }, r.2) := by
    rw [← entryNumber_after b.name.content, ← h.table]
    rfl
  rw [hanswer]
  cases hid : entryNumber snmpData b.name.content with
  | none =>
    have hb : b.target snmpData = none := by
      rw [Binding.target, hid]
      rfl
    refine ⟨fun _ => ⟨s.fail noSuchName index, rfl, h.refuse hb (by decide)⟩, fun _ id e he => ?_⟩
    rw [hb] at he
    cases he
  | some id =>
    obtain ⟨e, he⟩ := entryNumber_getElem hid
    have hvalue : b.answerValue setRequest index s (some id) =
        (s.store index id (e.after (storedIn snmpData id bindings)) b.value).bind fun s =>
          some (b.value, s) := by
      rw [Binding.answerValue, h.entry he]
      rfl
    rw [hvalue]
    by_cases htype : e.dataType = b.value.tag
    · have hb : b.target snmpData = some (id, e) := by
        simp [Binding.target, hid, he, htype]
      obtain ⟨hgoes, hneeds⟩ := h.store index hb he htype
      constructor
      · intro hroom
        obtain ⟨s', hs', hafter⟩ := hgoes hroom
        rw [hs']
        exact ⟨s', rfl, hafter⟩
      · intro hsome
        apply hneeds
        cases hs : s.store index id (e.after (storedIn snmpData id bindings)) b.value with
        | none =>
          rw [hs] at hsome
          exact absurd hsome (by simp)
        | some s' => rfl
    · have hb : b.target snmpData = none := by
        simp [Binding.target, hid, he, htype]
      have hfail : s.store index id (e.after (storedIn snmpData id bindings)) b.value =
          some (s.fail badValue index) := if_pos htype
      rw [hfail]
      refine ⟨fun _ => ⟨s.fail badValue index, rfl, h.refuse hb (by decide)⟩, fun _ id e he => ?_⟩
      rw [hb] at he
      cases he

/-- A SET is answered if what it stores has room, with the bindings it came with. -/
lemma After.answers (h : After snmpData bindings s) (rest : List Binding) (index : ℕ) :
    ((∀ b ∈ rest, b.HasRoom snmpData) → ∃ s', Snmp.answers setRequest index rest s =
      some (rest, s') ∧ After snmpData (bindings ++ rest) s') ∧
    ((Snmp.answers setRequest index rest s).isSome → ∀ b ∈ rest, b.HasRoom snmpData) := by
  induction rest generalizing bindings s index with
  | nil =>
    rw [List.append_nil]
    exact ⟨fun _ => ⟨s, rfl, h⟩, fun _ b hb => absurd hb List.not_mem_nil⟩
  | cons b rest ih =>
    obtain ⟨hgoes, hneeds⟩ := h.step b index
    have hassoc : bindings ++ b :: rest = bindings ++ [b] ++ rest := by simp
    rw [List.forall_mem_cons, hassoc]
    constructor
    · rintro ⟨hroom, hrest⟩
      obtain ⟨s₁, hs₁, hafter⟩ := hgoes hroom
      obtain ⟨s', hs', hafter'⟩ := (ih hafter (index + 1)).1 hrest
      exact ⟨s', answers_cons.2 ⟨(b, s₁), hs₁, (rest, s'), hs', rfl⟩, hafter'⟩
    · intro hsome
      obtain ⟨r, hanswers⟩ := Option.isSome_iff_exists.1 hsome
      obtain ⟨r₁, hr₁, rs, hrs, -⟩ := answers_cons.1 hanswers
      have hroom := hneeds (by rw [hr₁]; rfl)
      obtain ⟨s₁, hs₁, hafter⟩ := hgoes hroom
      rw [hs₁] at hr₁
      cases hr₁
      exact ⟨hroom, (ih hafter (index + 1)).2 (by rw [hrs]; rfl)⟩

end step

/-- Where the error-status of a response lies: where that of the request does. -/
def Message.statusAt (msg : Message) : ℕ :=
  msg.element.header.length + msg.version.bytes.length + msg.community.bytes.length +
    msg.pdu.header.length + msg.requestId.bytes.length + msg.errorStatus.header.length

lemma getD_middle (pre post : List Byte) (x y : Byte) : (pre ++ x :: post).getD pre.length y = x := by
  simp

/-- What a response has in front of its error-status has the size that it has in the request. -/
lemma written_status {msg : Message} (hmsg : msg.IsRequest) (bindings : List Binding) (s : Served) :
    ∃ pre : List Byte, pre.length = msg.statusAt ∧ msg.written bindings s = pre ++ s.errorStatus ::
      ((msg.respond bindings s).errorIndex.bytes ++ (msg.respond bindings s).list.bytes) := by
  have hstatus : (msg.respond bindings s).errorStatus.bytes =
      msg.errorStatus.header ++ [s.errorStatus] := by
    rw [Message.respond]
    split_ifs with herror
    · have hheader : Element.header { msg.errorStatus with content := [s.errorStatus] } =
          msg.errorStatus.header := by
        rw [Element.header, Element.header, hmsg.noStatus]
        rfl
      rw [Element.bytes, hheader]
    · rw [Element.bytes, hmsg.noStatus, not_not.1 herror]
  refine ⟨snmpdtypeSequence :: (msg.form.octets (msg.size bindings)) ++
    (msg.version.bytes ++ msg.community.bytes) ++
    getResponse :: (msg.pduForm.octets (msg.pduSize bindings)) ++ msg.requestId.bytes ++
    msg.errorStatus.header, ?_, ?_⟩
  · have hform : msg.element.form = msg.form := rfl
    have hpduForm : msg.pdu.form = msg.pduForm := rfl
    rw [Message.statusAt, Element.length_header, hform, Element.length_header msg.pdu, hpduForm]
    simp only [List.length_append, List.length_cons, Form.length_octets]
    omega
  · rw [Message.written, Message.pduWritten, hstatus]
    simp only [List.append_assoc, List.cons_append, List.nil_append]
    rfl

lemma status_written {msg : Message} (hmsg : msg.IsRequest) (bindings : List Binding) (s : Served) :
    (msg.written bindings s).getD msg.statusAt 0 = s.errorStatus := by
  obtain ⟨pre, hpre, hwritten⟩ := written_status hmsg bindings s
  rw [hwritten, ← hpre, getD_middle]

/-- The entry has the value of the binding. -/
def Binding.HeldBy (b : Binding) (e : DataEntry) : Prop :=
  e.dataType = b.value.tag ∧
    if e.isInteger then e.value.intval = BitVec.ofNat 32 (Ber.number b.value.content) ∧
      e.value.dataLen = BitVec.ofNat 8 b.value.content.length
    else e.value.dataLen.toNat = b.value.content.length ∧
      e.value.octetstring.toList.take b.value.content.length = b.value.content

/-- The entry of that name has it. -/
def Binding.AppliedIn (b : Binding) (snmpData : List DataEntry) : Prop :=
  ∃ id e, entryNumber snmpData b.name.content = some id ∧ snmpData[id]? = some e ∧ b.HeldBy e

/-- The bindings whose name no later one has again. -/
def LastOf (bindings : List Binding) (b : Binding) : Prop :=
  ∃ pre post, bindings = pre ++ b :: post ∧ ∀ b' ∈ post, b'.name.content ≠ b.name.content

/-- A response with an error leaves the table and calls no function; after one without an error the
table has the values of the bindings. -/
def AllOrNothing (stale : Mem) (msg : Message) (snmpData : List DataEntry) : Prop :=
  ∀ turns response s, Answered turns stale msg.bytes snmpData response s →
    (response.getD msg.statusAt 0 ≠ 0 → s.snmpData = snmpData ∧ s.called = []) ∧
    (response.getD msg.statusAt 0 = 0 → ∀ b, LastOf msg.bindings b → b.AppliedIn s.snmpData)

/-- What the bindings store puts every entry back to its value, and calls no function. -/
def Harmless (snmpData : List DataEntry) (bindings : List Binding) : Prop :=
  (∀ id e, snmpData[id]? = some e →
    (storedIn snmpData id bindings).foldl e.stored e.value = e.value) ∧
  ∀ b ∈ bindings, ¬ b.Calls snmpData

/-- An entry that is neither a string nor a number has the value already. -/
def Suited (snmpData : List DataEntry) (bindings : List Binding) : Prop :=
  ∀ b, LastOf bindings b → ∀ id e, b.target snmpData = some (id, e) → ¬ e.isString → ¬ e.isInteger →
    b.HeldBy e

section table
variable {snmpData : List DataEntry} {bindings : List Binding} {b : Binding} {id : ℕ} {e : DataEntry}

lemma tableAfter_same : tableAfter snmpData bindings = snmpData ↔ ∀ id e, snmpData[id]? = some e →
    (storedIn snmpData id bindings).foldl e.stored e.value = e.value := by
  constructor
  · intro h id e he
    have hget : (tableAfter snmpData bindings)[id]? = _ := getElem?_tableAfter id
    rw [h, he, Option.map_some, Option.some.injEq] at hget
    exact (congrArg DataEntry.value hget).symm
  · intro h
    apply List.ext_getElem?
    intro id
    rw [getElem?_tableAfter]
    cases he : snmpData[id]? with
    | none => rfl
    | some e =>
      rw [Option.map_some, DataEntry.after, h id e he]

lemma target_number (h : b.target snmpData = some (id, e)) :
    entryNumber snmpData b.name.content = some id ∧ snmpData[id]? = some e ∧
      e.dataType = b.value.tag := by
  rw [Binding.target] at h
  obtain ⟨id', hid, h⟩ := Option.bind_eq_some_iff.1 h
  obtain ⟨e', he, h⟩ := Option.bind_eq_some_iff.1 h
  split_ifs at h with htype
  cases h
  exact ⟨hid, he, htype⟩

/-- Bindings of other names do not store in the entry. -/
lemma storedIn_other {post : List Binding} (hid : entryNumber snmpData b.name.content = some id)
    (hpost : ∀ b' ∈ post, b'.name.content ≠ b.name.content) : storedIn snmpData id post = [] := by
  rw [storedIn, List.filterMap_eq_nil_iff]
  intro b' hmem
  have hother : (b'.target snmpData).map Prod.fst ≠ some id := by
    intro hsame
    obtain ⟨⟨id', e'⟩, hb', hid'⟩ := Option.map_eq_some_iff.1 hsame
    obtain ⟨hnumber, -, -⟩ := target_number hb'
    obtain ⟨hlt, hoid, -⟩ := List.findIdx?_eq_some_iff_getElem.1 hid
    obtain ⟨hlt', hoid', -⟩ := List.findIdx?_eq_some_iff_getElem.1 hnumber
    cases hid'
    have hname : snmpData[id'].oid = b.name.content := by simpa using hoid
    have hname' : snmpData[id'].oid = b'.name.content := by simpa using hoid'
    exact hpost b' hmem (hname'.symm.trans hname)
  rw [if_neg hother]

/-- Nothing is stored in an entry that is neither a string nor a number. -/
lemma foldl_stored (hstring : ¬ e.isString) (hinteger : ¬ e.isInteger) (contents : List (List Byte))
    (v : Value) : contents.foldl e.stored v = v := by
  induction contents with
  | nil => rfl
  | cons content contents ih =>
    rw [List.foldl_cons, DataEntry.stored, if_neg hstring, if_neg hinteger, ih]

lemma held_overwrite {v : Value} {content : List Byte} (h : content.length ≤ 64) :
    (v.overwrite content).dataLen.toNat = content.length ∧
      (v.overwrite content).octetstring.toList.take content.length = content := by
  constructor
  · simp only [Value.overwrite, BitVec.toNat_ofNat]
    omega
  · apply List.ext_getElem?
    intro j
    by_cases hj : j < content.length
    · have hj' : j < 64 := by omega
      rw [List.getElem?_take_of_lt hj]
      simp [Value.overwrite, hj, hj', byteAt]
    · rw [List.getElem?_take_eq_none (by omega), List.getElem?_eq_none (by omega)]

/-- The last binding of a name is held by its entry, if there is anything to store it in. -/
lemma held_after (hlast : LastOf bindings b) (hroom : b.HasRoom snmpData)
    (hb : b.target snmpData = some (id, e)) :
    b.HeldBy (e.after (storedIn snmpData id bindings)) ↔
      (¬ e.isString → ¬ e.isInteger → b.HeldBy e) := by
  obtain ⟨pre, post, rfl, hpost⟩ := hlast
  obtain ⟨hid, -, htype⟩ := target_number hb
  have hstored : storedIn snmpData id (pre ++ b :: post) =
      storedIn snmpData id pre ++ [b.value.content] := by
    have hsplit : pre ++ b :: post = (pre ++ [b]) ++ post := by simp
    have hothers := storedIn_other hid hpost
    rw [storedIn] at hothers
    rw [hsplit, storedIn, List.filterMap_append, hothers, List.append_nil]
    have happend : storedIn snmpData id (pre ++ [b]) = _ := storedIn_append id b
    rw [hb] at happend
    simpa [storedIn] using happend
  have hvalue : (e.after (storedIn snmpData id (pre ++ b :: post))).value =
      e.stored ((storedIn snmpData id pre).foldl e.stored e.value) b.value.content := by
    rw [DataEntry.after, hstored, List.foldl_append]
    rfl
  have hiff : b.HeldBy (e.after (storedIn snmpData id (pre ++ b :: post))) ↔
      (if e.isInteger then
        (e.after (storedIn snmpData id (pre ++ b :: post))).value.intval =
            BitVec.ofNat 32 (Ber.number b.value.content) ∧
          (e.after (storedIn snmpData id (pre ++ b :: post))).value.dataLen =
            BitVec.ofNat 8 b.value.content.length
      else
        (e.after (storedIn snmpData id (pre ++ b :: post))).value.dataLen.toNat =
            b.value.content.length ∧
          (e.after (storedIn snmpData id (pre ++ b :: post))).value.octetstring.toList.take
            b.value.content.length = b.value.content) := and_iff_right htype
  by_cases hstring : e.isString
  · have hinteger : ¬ e.isInteger := fun h => isString_integer h hstring
    have hshort := hroom id e hb hstring
    rw [hiff, if_neg hinteger, hvalue, DataEntry.stored, if_pos hstring]
    exact iff_of_true (held_overwrite hshort) fun h => absurd hstring h
  · by_cases hinteger : e.isInteger
    · rw [hiff, if_pos hinteger, hvalue, DataEntry.stored, if_neg hstring, if_pos hinteger,
        Value.assign, getValue_number]
      exact iff_of_true ⟨rfl, rfl⟩ fun _ h => absurd hinteger h
    · rw [DataEntry.after, foldl_stored hstring hinteger]
      exact ⟨fun h _ _ => h, fun h => h hstring hinteger⟩

lemma applied_iff (hlast : LastOf bindings b) (hroom : b.HasRoom snmpData)
    (hb : b.target snmpData = some (id, e)) :
    b.AppliedIn (tableAfter snmpData bindings) ↔
      (¬ e.isString → ¬ e.isInteger → b.HeldBy e) := by
  obtain ⟨hid, he, -⟩ := target_number hb
  rw [← held_after hlast hroom hb]
  have hget : (tableAfter snmpData bindings)[id]? = _ := getElem?_tableAfter id
  rw [he, Option.map_some] at hget
  constructor
  · rintro ⟨id', e', hid', he', hheld⟩
    rw [entryNumber_after, hid] at hid'
    cases hid'
    rw [hget] at he'
    cases he'
    exact hheld
  · exact fun hheld => ⟨id, _, (entryNumber_after _).trans hid, hget, hheld⟩

end table

/-- The response of a SET has the size of its request. -/
lemma length_set {msg : Message} (hmsg : msg.IsRequest) (s : Served) :
    (msg.written msg.bindings s).length = msg.bytes.length := by
  have hwritten := msg.length_written msg.bindings s
  have hpdu := Message.length_pduWritten hmsg msg.bindings s
  have hlist : msg.list.bytes.length = msg.list.header.length + (bindingBytes msg.bindings).length :=
    List.length_append
  have hcontent : msg.pdu.bytes.length = msg.pdu.header.length + (msg.requestId.bytes ++
      msg.errorStatus.bytes ++ msg.errorIndex.bytes ++ msg.list.bytes).length := List.length_append
  have hbytes : msg.bytes.length = msg.element.header.length + (msg.version.bytes ++
      msg.community.bytes ++ msg.pdu.bytes).length := List.length_append
  simp only [List.length_append] at hwritten hcontent hbytes
  omega

/-- A SET request that the agent can hold is answered, and what is left is said by its bindings. -/
lemma answered_set {msg : Message} (hmsg : msg.IsRequest) (hset : msg.pduType = setRequest)
    (stale : Mem) (snmpData : List DataEntry) :
    (∀ turns response s, Answered turns stale msg.bytes snmpData response s →
      (∀ b ∈ msg.bindings, b.HasRoom snmpData) ∧ response.getD msg.statusAt 0 = s.errorStatus ∧
        After snmpData msg.bindings s) ∧
    (msg.bytes.length ≤ maxSnmpmsgLen → (∀ b ∈ msg.bindings, b.HasRoom snmpData) →
      ∃ turns response s, Answered turns stale msg.bytes snmpData response s) := by
  obtain ⟨hgoes, hneeds⟩ := (After.start snmpData).answers msg.bindings 0
  rw [List.nil_append] at hgoes
  constructor
  · intro turns response s hanswered
    obtain ⟨-, r, hr, -, -, rfl, rfl⟩ := (answered_iff hmsg stale snmpData).1 hanswered
    rw [hset] at hr
    have hroom := hneeds (by rw [hr]; rfl)
    obtain ⟨s', hs', hafter⟩ := hgoes hroom
    rw [hs'] at hr
    cases hr
    exact ⟨hroom, status_written hmsg _ _, hafter⟩
  · intro hlength hroom
    obtain ⟨s, hs, -⟩ := hgoes hroom
    refine ⟨msg.bindings.length + 1, msg.written msg.bindings s, s,
      (answered_iff hmsg stale snmpData).2 ⟨hlength, (msg.bindings, s), ?_, ?_, ?_, rfl, rfl⟩⟩
    · rw [hset]
      exact hs
    · omega
    · rw [length_set hmsg]
      exact hlength

/-- The SET request of these bindings, with short lengths. -/
def shortSet (bindings : List Binding) : Message where
  form := .short
  version := ⟨snmpdtypeInteger, .short, [snmpV1]⟩
  community := ⟨snmpdtypeOctetString, .short, community⟩
  pduType := setRequest
  pduForm := .short
  requestId := ⟨snmpdtypeInteger, .short, [1]⟩
  errorStatus := ⟨snmpdtypeInteger, .short, [0]⟩
  errorIndex := ⟨snmpdtypeInteger, .short, [0]⟩
  listForm := .short
  bindings := bindings

/-- A binding of the number 7. -/
def seven (oid : List Byte) : Binding where
  form := .short
  name := ⟨snmpdtypeObjId, .short, oid⟩
  value := ⟨snmpdtypeInteger, .short, [7]⟩

/-- A table with one number. -/
def oneNumber : List DataEntry :=
  [{ oid := [0x2B]
     dataType := snmpdtypeInteger
     value := ⟨.replicate 64 0, 1, 1⟩
     getfunction := none
     setfunction := false
     short := by decide }]

lemma shortSet_isRequest {bindings : List Binding} (hb : ∀ b ∈ bindings, b.WellFormed)
    (hlength : (bindingBytes bindings).length < 64) : (shortSet bindings).IsRequest := by
  have hlist : (shortSet bindings).list.bytes.length = 2 + (bindingBytes bindings).length :=
    (Element.length_bytes _)
  have hpdu : (shortSet bindings).pdu.content.length = 11 + (bindingBytes bindings).length := by
    change (_ ++ (shortSet bindings).list.bytes).length = _
    rw [List.length_append, hlist]
    change 9 + _ = _
    omega
  have hmsg : (shortSet bindings).element.content.length = 24 + (bindingBytes bindings).length := by
    change (_ ++ (shortSet bindings).pdu.bytes).length = _
    rw [List.length_append, Element.length_bytes, hpdu]
    change 11 + (1 + 1 + _) = _
    omega
  exact {
    element := by
      change (shortSet bindings).element.content.length < 0x80
      omega
    version := by change (1 : ℕ) < 0x80; decide
    versionType := rfl
    community := by change (6 : ℕ) < 0x80; decide
    communityType := rfl
    pdu := by
      change (shortSet bindings).pdu.content.length < 0x80
      omega
    requestId := by change (1 : ℕ) < 0x80; decide
    requestIdType := rfl
    errorStatus := by change (1 : ℕ) < 0x80; decide
    errorStatusType := rfl
    errorIndex := by change (1 : ℕ) < 0x80; decide
    errorIndexType := rfl
    list := by
      change (bindingBytes bindings).length < 0x80
      omega
    bindings := hb
    ownVersion := rfl
    ownCommunity := rfl
    pduType := .inr (.inr rfl)
    identified := List.cons_ne_nil _ _
    noStatus := rfl
    noIndex := rfl }

lemma seven_wellFormed {oid : List Byte} (h : oid.length < 64) : (seven oid).WellFormed where
  element := by
    have hcontent : (seven oid).element.content.length = oid.length + 5 := by
      change (Element.bytes _ ++ Element.bytes _).length = _
      rw [List.length_append, Element.length_bytes, Element.length_bytes]
      change 1 + 1 + oid.length + 3 = _
      omega
    change (seven oid).element.content.length < 0x80
    omega
  name := by
    change oid.length < 0x80
    omega
  nameType := rfl
  value := by change (1 : ℕ) < 0x80; decide
  valueType := List.mem_cons_self

end IoLibrary.Snmp
