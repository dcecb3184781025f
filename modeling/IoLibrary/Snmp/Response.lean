import IoLibrary.Snmp.Parts

/-! The answer to a request, as a message: the names and the values that the table gives. -/
namespace IoLibrary.Snmp
open Effects
open Ber (Form Element)

/-- What a request changes beside the response. -/
structure Served where
  snmpData : List DataEntry
  errorStatus : Byte
  errorIndex : Byte
  called : List (ℕ × BitVec 32)

def Served.start (snmpData : List DataEntry) : Served := ⟨snmpData, 0, 0, []⟩

def Served.setValue (s : Served) (id : ℕ) (e : DataEntry) (v : Value) : Served :=
  { s with snmpData := s.snmpData.set id { e with value := v } }

def Served.fail (s : Served) (status : Byte) (index : ℕ) : Served :=
  { s with errorStatus := status, errorIndex := BitVec.ofNat 8 index }

def entryNumber (snmpData : List DataEntry) (oid : List Byte) : Option ℕ :=
  snmpData.findIdx? fun e => e.oid = oid

/-- The value of an entry once it is refreshed, and the octets that stand for it. There is none for
an entry of another type, nor for a string without an end. -/
def DataEntry.fetched (e : DataEntry) : Option (Value × List Byte) :=
  let v := e.refreshed
  if e.dataType = snmpdtypeOctetString then
    if v.strlen < 64 then
      some ({ v with dataLen := BitVec.ofNat 8 v.strlen }, v.octetstring.toList.take v.strlen)
    else none
  else if e.dataType = snmpdtypeObjId then
    if v.dataLen.toNat ≤ 64 then some (v, v.octetstring.toList.take v.dataLen.toNat) else none
  else if e.isInteger then
    let len := if v.dataLen ≠ 0 then v.dataLen.toNat else 4
    some (v, (List.range len).map fun j => (v.intval.sshiftRight ((len - j - 1) * 8)).setWidth 8)
  else none

def Value.overwrite (v : Value) (content : List Byte) : Value :=
  { v with
    octetstring := .ofFn fun j => if j.val < content.length then byteAt content j else v.octetstring.get j
    dataLen := BitVec.ofNat 8 content.length }

def Value.assign (v : Value) (content : List Byte) : Value :=
  { v with intval := getValue content, dataLen := BitVec.ofNat 8 content.length }

/-- A binding of a SET, for the entry it names. -/
def Served.store (s : Served) (index id : ℕ) (e : DataEntry) (value : Element) : Option Served :=
  if e.dataType ≠ value.tag then some (s.fail badValue index)
  else if e.isString then
    if value.content.length ≤ 64 then some (s.setValue id e (e.value.overwrite value.content))
    else none
  else if e.isInteger then
    let s := s.setValue id e (e.value.assign value.content)
    some (if e.setfunction then { s with called := s.called ++ [(id, getValue value.content)] } else s)
  else some s

/-- The entry that answers to a name, and the name of the answer. -/
def Binding.answerName (reqType : Byte) (b : Binding) (snmpData : List DataEntry) :
    Option ℕ × Element :=
  let id := entryNumber snmpData b.name.content
  if reqType = getNextRequest then
    let next := id.elim 0 (· + 1)
    match snmpData[next]? with
    | none => (none, b.name)
    | some e => (some next, ⟨snmpdtypeObjId, .short, e.oid⟩)
  else (id, b.name)

/-- The number behind that of the entry found. -/
def nextNumber (snmpData : List DataEntry) (oid : List Byte) : ℕ :=
  (entryNumber snmpData oid).elim 0 (· + 1)

section name
variable {b : Binding} {snmpData : List DataEntry}

lemma Binding.answerName_same {reqType : Byte} (h : reqType ≠ getNextRequest) :
    b.answerName reqType snmpData = (entryNumber snmpData b.name.content, b.name) := if_neg h

lemma Binding.answerName_last (h : snmpData[nextNumber snmpData b.name.content]? = none) :
    b.answerName getNextRequest snmpData = (none, b.name) := by
  rw [nextNumber] at h
  rw [answerName, if_pos rfl]
  simp only [h]

lemma Binding.answerName_next {e : DataEntry}
    (h : snmpData[nextNumber snmpData b.name.content]? = some e) :
    b.answerName getNextRequest snmpData =
      (some (nextNumber snmpData b.name.content), ⟨snmpdtypeObjId, .short, e.oid⟩) := by
  rw [nextNumber] at h
  rw [answerName, if_pos rfl]
  simp only [h]
  rfl

end name

/-- The value of the answer. There is none where C leaves open what happens. -/
def Binding.answerValue (reqType : Byte) (index : ℕ) (b : Binding) (s : Served) :
    Option ℕ → Option (Element × Served)
  | none => some (b.value, s.fail noSuchName index)
  | some id => do
    let e ← s.snmpData[id]?
    if reqType = setRequest then
      let s ← s.store index id e b.value
      return (b.value, s)
    else
      let (v, content) ← e.fetched
      return (⟨e.dataType, .short, content⟩, s.setValue id e v)

def Binding.answer (reqType : Byte) (index : ℕ) (b : Binding) (s : Served) :
    Option (Binding × Served) := do
  let (id, name) := b.answerName reqType s.snmpData
  let (value, s) ← b.answerValue reqType index s id
  return ({ b with name := name, value := value }, s)

def answers (reqType : Byte) : ℕ → List Binding → Served → Option (List Binding × Served)
  | _, [], s => some ([], s)
  | index, b :: bindings, s => do
    let (b, s) ← b.answer reqType index s
    let (bindings, s) ← answers reqType (index + 1) bindings s
    return (b :: bindings, s)

lemma answers_cons {reqType : Byte} {index : ℕ} {b : Binding} {bindings : List Binding} {s : Served}
    {r : List Binding × Served} :
    answers reqType index (b :: bindings) s = some r ↔
      ∃ r₁, b.answer reqType index s = some r₁ ∧ ∃ rs,
        answers reqType (index + 1) bindings r₁.2 = some rs ∧ r = (r₁.1 :: rs.1, rs.2) := by
  simp only [answers, Option.bind_eq_bind, Option.bind_eq_some_iff]
  constructor
  · rintro ⟨r₁, hr₁, rs, hrs, hr⟩
    exact ⟨r₁, hr₁, rs, hrs, (Option.some.inj hr).symm⟩
  · rintro ⟨r₁, hr₁, rs, hrs, rfl⟩
    exact ⟨r₁, hr₁, rs, hrs, rfl⟩

/-- The response, with the error in the fields of its own. -/
def Message.respond (msg : Message) (bindings : List Binding) (s : Served) : Message :=
  { msg with
    pduType := getResponse
    errorStatus := if s.errorStatus ≠ 0 then { msg.errorStatus with content := [s.errorStatus] }
      else msg.errorStatus
    errorIndex := if s.errorStatus ≠ 0 then { msg.errorIndex with content := [s.errorIndex + 1] }
      else msg.errorIndex
    bindings := bindings }

def Message.answer (msg : Message) (snmpData : List DataEntry) : Option (Message × Served) := do
  let (bindings, s) ← answers msg.pduType 0 msg.bindings (.start snmpData)
  return (msg.respond bindings s, s)

section entries
variable {m : Request} {p : ℕ}

/-- The agent looks for a name that lies in the request. -/
lemma searched_name {oid : List Byte} (h : m.Has p oid) (snmpData : List DataEntry) :
    m.Searched p oid.length snmpData := by
  induction snmpData with
  | nil => trivial
  | cons e snmpData ih =>
    rw [Request.Searched]
    split_ifs with hlen
    · have hlast := h.1
      refine ⟨.inr (by omega), .inr ih⟩
    · exact ih

lemma find_name {oid : List Byte} (h : m.Has p oid) (snmpData : List DataEntry) (i : ℕ) :
    m.find p oid.length snmpData i =
      (entryNumber snmpData oid).elim (-1) fun k => ((i + k : ℕ) : ℤ) := by
  induction snmpData generalizing i with
  | nil => rfl
  | cons e snmpData ih =>
    have hsame : ((oid.length : ℤ) = e.oid.length ∧
        m.buffer.slice (p : ℤ).toNat e.oid.length = e.oid) ↔ e.oid = oid := by
      constructor
      · rintro ⟨hlen, hslice⟩
        have hlen' : oid.length = e.oid.length := by omega
        rw [← hslice, ← hlen']
        exact h.2
      · rintro rfl
        exact ⟨rfl, h.2⟩
    rw [Request.find, entryNumber, List.findIdx?_cons]
    by_cases hfound : e.oid = oid
    · rw [if_pos (hsame.2 hfound)]
      simp [hfound]
    · rw [if_neg fun hyes => hfound (hsame.1 hyes)]
      have hnext := ih (i + 1)
      rw [entryNumber] at hnext
      push_cast at hnext
      rw [hnext]
      simp only [hfound, decide_false]
      cases snmpData.findIdx? fun e => e.oid = oid with
      | none => rfl
      | some k =>
        simp
        omega

end entries

end IoLibrary.Snmp
