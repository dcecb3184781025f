import IoLibrary.Snmp.Serving
import IoLibrary.Successor
import Mathlib.Data.List.Lex

/-! GETNEXT: which entry of the table answers, and what a manager sees that asks on with each answer. -/
namespace IoLibrary.Snmp
open Effects
open Ber (Element)

/-- The numbers of an object identifier, 7 bits an octet; the last octet of a number is below 128. -/
def subIds (number : ℕ) : List Byte → List ℕ
  | [] => []
  | b :: rest =>
    if b.toNat < 128 then (number * 128 + b.toNat) :: subIds 0 rest
    else subIds (number * 128 + (b.toNat - 128)) rest

/-- Object identifiers are in the order of their numbers, from the first one on. -/
def oidKey (oid : List Byte) : List ℕ := subIds 0 oid

/-- A GETNEXT binding of a request and the run of parseVarBind that answers it. An error from before is that of another
binding. -/
structure Poll where
  m : Request
  p : ℕ
  binding : Binding
  index : ℕ
  before : Agent
  ret : ℤ
  after : Agent
  wellFormed : binding.WellFormed
  lies : m.Has p (binding.name.bytes ++ binding.value.bytes)
  starts : before.index = p
  other : before.errorStatus = noSuchName → before.errorIndex ≠ BitVec.ofNat 8 index
  runs : parseVarBind m getNextRequest index before = .ok (ret, after)

/-- The value of an entry, refreshed. -/
lemma Binding.answerValue_entry {b : Binding} {index id : ℕ} {s : Served} {e : DataEntry} (h : s.snmpData[id]? = some e) :
    b.answerValue getNextRequest index s (some id) =
      e.fetched.bind fun r => some (⟨e.dataType, .short, r.2⟩, s.setValue id e r.1) := by
  have hget : getNextRequest ≠ setRequest := by decide
  simp only [answerValue, h, if_neg hget, Option.bind_eq_bind, Option.bind_some]
  rfl

namespace Poll
variable (t : Poll)

/-- The OID that is asked for, and those of the table. -/
def oid : List Byte := t.binding.name.content
def oids : List (List Byte) := t.before.snmpData.map DataEntry.oid

/-- The answer is the OID and the value of an entry. -/
structure Gives (e : DataEntry) : Prop where
  written : ∃ v content, e.fetched = some (v, content) ∧ t.after.view.out = t.before.view.out ++
    (Element.bytes ⟨snmpdtypeObjId, .short, e.oid⟩ ++ Element.bytes ⟨e.dataType, .short, content⟩)
  status : t.after.errorStatus = t.before.errorStatus
  index : t.after.errorIndex = t.before.errorIndex

/-- The binding comes back as it is, with noSuchName. -/
structure Refuses : Prop where
  written : t.after.view.out = t.before.view.out ++ (t.binding.name.bytes ++ t.binding.value.bytes)
  status : t.after.errorStatus = noSuchName
  index : t.after.errorIndex = BitVec.ofNat 8 t.index

/-- The answer is the entry with the next OID, or noSuchName where there is none. -/
def InOrder : Prop :=
  (∃ e ∈ t.before.snmpData, Successor.IsNext oidKey t.oids t.oid e.oid ∧ t.Gives e) ∨
    Successor.IsLast oidKey t.oids t.oid ∧ t.Refuses

variable {t}

lemma Gives.not_refuses {e : DataEntry} (h : t.Gives e) : ¬ t.Refuses :=
  fun hrefuses => t.other (h.status.symm.trans hrefuses.status) (h.index.symm.trans hrefuses.index)

/-- The names of the answers tell them apart. -/
lemma Gives.oid_eq {e e' : DataEntry} (h : t.Gives e) (h' : t.Gives e') : e.oid = e'.oid := by
  obtain ⟨v, content, -, hwritten⟩ := h.written
  obtain ⟨v', content', -, hwritten'⟩ := h'.written
  have hbytes := List.append_cancel_left (hwritten.symm.trans hwritten')
  simp only [Element.bytes, Element.header, Ber.Form.octets, List.cons_append, List.nil_append, List.cons.injEq, true_and]
    at hbytes
  obtain ⟨hlength, hbytes⟩ := hbytes
  have hshort := e.short
  have hshort' := e'.short
  rw [maxOid] at hshort hshort'
  have hsame := congrArg BitVec.toNat hlength
  rw [BitVec.toNat_ofNat, BitVec.toNat_ofNat, Nat.mod_eq_of_lt (by omega), Nat.mod_eq_of_lt (by omega)] at hsame
  exact List.append_inj_left hbytes hsame

lemma nextNumber_eq (snmpData : List DataEntry) (oid : List Byte) :
    nextNumber snmpData oid = Successor.place (snmpData.map DataEntry.oid) oid := by
  rw [nextNumber, Successor.place, entryNumber, List.findIdx?_map]
  rfl

/-- The entry behind the one found answers, the first one if none is found. -/
lemma answer (t : Poll) : match t.before.snmpData[Successor.place t.oids t.oid]? with
    | some e => t.Gives e
    | none => t.Refuses := by
  have hlands : lands (tolerates False) (parseVarBind t.m getNextRequest t.index)
      (fun _ a => a.view = t.after.view) t.before := by
    rw [lands, t.runs]
  rw [lands_varBind (P := fun r => View.add { t.before.view with served := r.2 }
      (t.binding.name.bytes ++ t.binding.value.bytes).length (r.1.name.bytes ++ r.1.value.bytes) = t.after.view)
    (.inr (.inl rfl)) t.lies t.wellFormed t.starts (fun r a _ _ hview => by rw [hview])] at hlands
  obtain ⟨r, hanswer, -, hview⟩ := hlands
  have hparts : t.binding.answer getNextRequest t.index t.before.served =
      (t.binding.answerValue getNextRequest t.index t.before.served
        (t.binding.answerName getNextRequest t.before.snmpData).1).bind fun r =>
        some ({ t.binding with name := (t.binding.answerName getNextRequest t.before.snmpData).2, value := r.1 }, r.2) := rfl
  rw [hparts] at hanswer
  obtain ⟨v, hvalue, hr⟩ := Option.bind_eq_some_iff.1 hanswer
  cases hr
  have hplace : nextNumber t.before.snmpData t.binding.name.content = Successor.place t.oids t.oid :=
    nextNumber_eq _ _
  have hout := congrArg View.out hview
  have hserved := congrArg View.served hview
  cases hat : t.before.snmpData[Successor.place t.oids t.oid]? with
  | none =>
    rw [Binding.answerName_last (hplace ▸ hat)] at hvalue hout
    cases hvalue
    exact ⟨hout.symm, (congrArg Served.errorStatus hserved).symm, (congrArg Served.errorIndex hserved).symm⟩
  | some e =>
    rw [Binding.answerName_next (hplace ▸ hat)] at hvalue hout
    rw [Binding.answerValue_entry (hplace ▸ hat)] at hvalue
    obtain ⟨⟨value, content⟩, hfetched, hvalue⟩ := Option.bind_eq_some_iff.1 hvalue
    cases hvalue
    exact ⟨⟨value, content, hfetched, hout.symm⟩, (congrArg Served.errorStatus hserved).symm,
      (congrArg Served.errorIndex hserved).symm⟩

lemma getElem?_oids (t : Poll) (k : ℕ) : t.oids[k]? = t.before.snmpData[k]?.map DataEntry.oid := List.getElem?_map

/-- The answer is the right one exactly where the table has it at that place. -/
lemma inOrder_iff (t : Poll) : t.InOrder ↔ Successor.Right oidKey t.oids t.oid t.oids[Successor.place t.oids t.oid]? := by
  have hanswer := t.answer
  rw [t.getElem?_oids, InOrder]
  cases hat : t.before.snmpData[Successor.place t.oids t.oid]? with
  | none =>
    rw [hat] at hanswer
    constructor
    · rintro (⟨e, -, -, hgives⟩ | ⟨hlast, -⟩)
      · exact absurd hanswer hgives.not_refuses
      · exact hlast
    · exact fun hlast => .inr ⟨hlast, hanswer⟩
  | some e =>
    rw [hat] at hanswer
    constructor
    · rintro (⟨e', -, hnext, hgives⟩ | ⟨-, hrefuses⟩)
      · rw [hgives.oid_eq hanswer] at hnext
        exact hnext
      · exact absurd hrefuses (Gives.not_refuses hanswer)
    · exact fun hnext => .inl ⟨e, List.mem_of_getElem? hat, hnext, hanswer⟩

end Poll

/-- A GETNEXT for `oid` over a table with these OIDs has been answered with an entry of this OID, or with noSuchName. -/
def Polled (oids : List (List Byte)) (oid : List Byte) (next : Option (List Byte)) : Prop :=
  ∃ t : Poll, t.oids = oids ∧ t.oid = oid ∧ match next with
    | some name => ∃ e ∈ t.before.snmpData, e.oid = name ∧ t.Gives e
    | none => t.Refuses

lemma Polled.next_eq {oids : List (List Byte)} {oid : List Byte} {next : Option (List Byte)} (h : Polled oids oid next) :
    next = oids[Successor.place oids oid]? := by
  obtain ⟨t, rfl, rfl, hnext⟩ := h
  have hanswer := t.answer
  rw [t.getElem?_oids]
  cases hat : t.before.snmpData[Successor.place t.oids t.oid]? with
  | none =>
    rw [hat] at hanswer
    cases next with
    | none => rfl
    | some name =>
      obtain ⟨e, -, -, hgives⟩ := hnext
      exact absurd hanswer hgives.not_refuses
  | some e =>
    rw [hat] at hanswer
    cases next with
    | none => exact absurd hnext (Poll.Gives.not_refuses hanswer)
    | some name =>
      obtain ⟨e', -, rfl, hgives⟩ := hnext
      exact congrArg some (hgives.oid_eq hanswer)

/-- A GETNEXT is answered in order exactly where the next OID stands behind the one found, and a walk of more polls than
there are entries is in order exactly where the table behind it is; with a table in order, for the OIDs of
the table and those below them. -/
theorem getNext_inOrder_iff (oids : List (List Byte)) :
    (∀ t : Poll, t.oids = oids → (t.InOrder ↔ Successor.Right oidKey oids t.oid oids[Successor.place oids t.oid]?)) ∧
    (∀ n oid visited done, oids.length < n → Successor.Walk (Polled oids) n oid visited done →
      (Successor.Visits oidKey oids oid visited done ↔ Successor.Ordered oidKey oids oid)) ∧
    ((oids.Pairwise fun x y => oidKey x < oidKey y) → ∀ oid,
      (Successor.Right oidKey oids oid oids[Successor.place oids oid]? ↔ oid ∈ oids ∨ ∀ name ∈ oids, oidKey oid < oidKey name) ∧
      (Successor.Ordered oidKey oids oid ↔ oid ∈ oids ∨ ∀ name ∈ oids, oidKey oid < oidKey name)) := by
  refine ⟨?_, ?_, ?_⟩
  · rintro t rfl
    exact t.inOrder_iff
  · intro n oid visited done hn hwalk
    exact Successor.visits_iff (hwalk.mono fun _ _ => Polled.next_eq) hn
  · intro hincreasing oid
    exact ⟨Successor.right_iff_of_increasing hincreasing, Successor.ordered_iff_of_increasing hincreasing⟩

/-- A table of one entry, 1.3.1. -/
def oneEntry : List DataEntry := [⟨[0x2B, 0x01], snmpdtypeInteger, ⟨.replicate 64 0, 7, 0⟩, none, false, by decide⟩]

/-- A binding for 1.3.2. -/
def pastTheEnd : Binding := ⟨.short, ⟨snmpdtypeObjId, .short, [0x2B, 0x02]⟩, ⟨snmpdtypeNullItem, .short, []⟩⟩

def pastTheEndRequest : Request where
  buffer := Mem.fill (fun _ => 0) (pastTheEnd.name.bytes ++ pastTheEnd.value.bytes)
  len := 6
  limit := 6
  bound := by decide

/-- An OID that is behind all of the table is answered with the first entry. -/
theorem past_the_end_wraps : ¬ ∀ t : Poll, t.InOrder := by
  intro hall
  obtain ⟨ret, after, hruns, hstatus⟩ : ∃ ret after,
      parseVarBind pastTheEndRequest getNextRequest 0 (.start oneEntry) = .ok (ret, after) ∧ after.errorStatus = 0 :=
    ⟨_, _, rfl, rfl⟩
  have hwellFormed : pastTheEnd.WellFormed := ⟨by decide, by decide, rfl, by decide, by decide⟩
  have hlies : pastTheEndRequest.Has 0 (pastTheEnd.name.bytes ++ pastTheEnd.value.bytes) := ⟨by decide, by decide⟩
  obtain ⟨e, -, ⟨hlisted, hgreater, -⟩, -⟩ | ⟨-, hrefuses⟩ :=
    hall ⟨pastTheEndRequest, 0, pastTheEnd, 0, .start oneEntry, ret, after, hwellFormed, hlies, rfl, by decide, hruns⟩
  · have hfirst : e.oid = [0x2B, 0x01] := List.mem_singleton.1 hlisted
    have hbelow : ¬ oidKey [0x2B, 0x02] < oidKey [0x2B, 0x01] := by decide
    rw [hfirst] at hgreater
    exact hbelow hgreater
  · exact absurd (hstatus.symm.trans hrefuses.status) (by decide)

end IoLibrary.Snmp
