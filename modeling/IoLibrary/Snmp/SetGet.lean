import IoLibrary.Ber.Signed
import IoLibrary.Snmp.Reporting

/-! A value that is set, and what a GET makes of it. A string is stored without an end of its own, and
is read up to the first zero; of a number four octets are kept, and the last eight bits of its length. -/
namespace IoLibrary.Snmp
open Effects
open Ber (Form Element)

/-- The same string, or the same number. -/
def DataEntry.SameValue (e : DataEntry) (content out : List Byte) : Prop :=
  if e.isString then out = content else Ber.signed out = Ber.signed content

/-- How many octets a number is returned in after it came in `n`. -/
def returnedOctets (n : ℕ) : ℕ := if n % 256 = 0 then 4 else n % 256

/-- A value that an entry gives back: a string that ends where the old one has a zero, an object
identifier that has room, a number in few enough octets that four can say. -/
def DataEntry.Keeps (e : DataEntry) (content : List Byte) : Prop :=
  if e.dataType = snmpdtypeOctetString then
    0 ∉ content ∧ content.length < 64 ∧ e.value.octetstring.toList[content.length]? = some 0
  else if e.dataType = snmpdtypeObjId then content.length ≤ 64
  else returnedOctets content.length < 0x80 ∧
    Ber.InOctets (min (returnedOctets content.length) 4) (Ber.signed content)

/-- What an entry keeps has room in it. -/
lemma DataEntry.Keeps.room {e : DataEntry} {content : List Byte} (h : e.Keeps content) :
    e.isString → content.length ≤ 64 := by
  rw [Keeps] at h
  intro hstring
  split_ifs at h with hoctet hobjId
  · omega
  · exact h
  · rcases hstring with hstring | hstring
    · exact absurd hstring hoctet
    · exact absurd hstring hobjId

section value
variable {e : DataEntry} {v : Value} {content : List Byte}

lemma toList_overwrite (h : content.length ≤ 64) : (v.overwrite content).octetstring.toList =
    content ++ v.octetstring.toList.drop content.length := by
  apply List.ext_getElem?
  intro j
  by_cases hj : j < content.length
  · have hj' : j < 64 := by omega
    rw [List.getElem?_append_left hj]
    simp [Value.overwrite, hj, hj', byteAt]
  · rw [List.getElem?_append_right (by omega), List.getElem?_drop]
    have hat : content.length + (j - content.length) = j := by omega
    rw [hat]
    by_cases hj' : j < 64
    · simp [Value.overwrite, hj, hj', Vector.get]
    · rw [List.getElem?_eq_none (by simp; omega), List.getElem?_eq_none (by simp; omega)]

/-- A string that is stored is read as it is if it has no zero and the old one has one behind it. -/
lemma strlen_overwrite (h : content.length ≤ 64) :
    ((v.overwrite content).strlen < 64 ∧
      (v.overwrite content).octetstring.toList.take (v.overwrite content).strlen = content) ↔
      0 ∉ content ∧ content.length < 64 ∧ v.octetstring.toList[content.length]? = some 0 := by
  have hlist := toList_overwrite (v := v) h
  have hfind : (v.overwrite content).strlen = (v.overwrite content).octetstring.toList.findIdx (· = 0) := rfl
  have hlength : (v.overwrite content).octetstring.toList.length = 64 := Vector.length_toList
  have hold : (v.overwrite content).octetstring.toList[content.length]? =
      v.octetstring.toList[content.length]? := by
    rw [hlist, List.getElem?_append_right (Nat.le_refl _), Nat.sub_self, List.getElem?_drop, Nat.add_zero]
  constructor
  · rintro ⟨hend, hsame⟩
    have hn : (v.overwrite content).strlen = content.length := by
      have hcount := congrArg List.length hsame
      rw [List.length_take, hlength] at hcount
      omega
    refine ⟨fun hmem => ?_, by omega, ?_⟩
    · obtain ⟨j, hj, hzero⟩ := List.mem_iff_getElem.1 hmem
      have hbefore : j < (v.overwrite content).octetstring.toList.findIdx (· = 0) := by
        rw [← hfind]
        omega
      have hno := List.not_of_lt_findIdx hbefore
      have hat : (v.overwrite content).octetstring.toList[j]? = some 0 := by
        rw [hlist, List.getElem?_append_left hj, List.getElem?_eq_getElem hj, hzero]
      rw [List.getElem?_eq_getElem (by omega), Option.some.injEq] at hat
      rw [hat] at hno
      exact absurd hno (by decide)
    · have hfound : (v.overwrite content).octetstring.toList.findIdx (· = 0) <
          (v.overwrite content).octetstring.toList.length := by omega
      have hzero := List.findIdx_getElem (w := hfound)
      rw [← hold, ← hn, hfind, List.getElem?_eq_getElem hfound]
      exact congrArg some (of_decide_eq_true hzero)
  · rintro ⟨hmem, hroom, hzero⟩
    have hn : (v.overwrite content).strlen = content.length := by
      rw [hfind, List.findIdx_eq (by omega)]
      rw [← hold, List.getElem?_eq_getElem (by omega), Option.some.injEq] at hzero
      refine ⟨decide_eq_true hzero, fun j hj => ?_⟩
      have hat : (v.overwrite content).octetstring.toList[j]? = some content[j] := by
        rw [hlist, List.getElem?_append_left hj, List.getElem?_eq_getElem hj]
      rw [List.getElem?_eq_getElem (by omega), Option.some.injEq] at hat
      rw [hat]
      exact decide_eq_false fun hno => hmem (hno ▸ List.getElem_mem hj)
    rw [hn]
    exact ⟨hroom, by rw [hlist, List.take_left]⟩

/-- The octets of a number that was stored say it if four octets do. -/
lemma signed_stored : Ber.signed (Ber.shifted (getValue content) (returnedOctets content.length)) =
      Ber.signed content ↔
    Ber.InOctets (min (returnedOctets content.length) 4) (Ber.signed content) := by
  have hword : (getValue content).toInt = (Ber.number content : ℤ).bmod (256 ^ 4) := by
    rw [getValue_number, BitVec.toInt_ofNat']
    rfl
  have hpos : 0 < returnedOctets content.length := by
    rw [returnedOctets]
    split_ifs <;> omega
  rw [Ber.signed_shifted _ _ (by decide), hword]
  by_cases hempty : content.length = 0
  · rw [List.length_eq_zero_iff.1 hempty]
    decide
  · have hfew : min (returnedOctets content.length) 4 ≤ content.length := by
      rw [returnedOctets]
      split_ifs <;> omega
    rw [← Ber.bmod_signed (by omega) hfew]
    by_cases hfour : returnedOctets content.length ≤ 4
    · rw [Int.bmod_bmod_of_dvd (Nat.pow_dvd_pow 256 hfour), Nat.min_eq_left hfour]
    · rw [(Ber.inOctets_mono (by omega) (Ber.inOctets_bmod (by decide) _)).bmod,
        Nat.min_eq_right (by omega)]

lemma refreshed_value (hget : e.getfunction = none) (x : Value) : DataEntry.refreshed { e with value := x } = x := by
  rw [DataEntry.refreshed, hget]

/-- A string is sent as far as its first zero. -/
lemma fetched_octetString (hget : e.getfunction = none) (hoctet : e.dataType = snmpdtypeOctetString) :
    DataEntry.fetched { e with value := e.stored e.value content } =
      if (e.value.overwrite content).strlen < 64 then
        some ({ e.value.overwrite content with dataLen := BitVec.ofNat 8 (e.value.overwrite content).strlen },
          (e.value.overwrite content).octetstring.toList.take (e.value.overwrite content).strlen)
      else none := by
  have hstring : e.isString := .inl hoctet
  rw [DataEntry.fetched, refreshed_value hget, if_pos hoctet, DataEntry.stored, if_pos hstring]

/-- A name is sent as far as its length. -/
lemma fetched_objId (hget : e.getfunction = none) (hobjId : e.dataType = snmpdtypeObjId) (hshort : content.length ≤ 64) :
    DataEntry.fetched { e with value := e.stored e.value content } =
      some (e.value.overwrite content, content) := by
  have hoctet : e.dataType ≠ snmpdtypeOctetString := by
    rw [hobjId]
    decide
  have hstring : e.isString := .inr hobjId
  obtain ⟨hdataLen, htake⟩ := held_overwrite (v := e.value) hshort
  rw [DataEntry.fetched, refreshed_value hget, if_neg hoctet, if_pos hobjId, DataEntry.stored, if_pos hstring, hdataLen,
    if_pos hshort, htake]

/-- A number is sent in as many octets as it came in, modulo 256, or in four. -/
lemma fetched_integer (hget : e.getfunction = none) (hstring : ¬ e.isString) (hinteger : e.isInteger) :
    DataEntry.fetched { e with value := e.stored e.value content } =
      some (e.value.assign content, Ber.shifted (getValue content) (returnedOctets content.length)) := by
  have hcount : (if (e.value.assign content).dataLen ≠ 0 then
      (e.value.assign content).dataLen.toNat else 4) = returnedOctets content.length := by
    change (if BitVec.ofNat 8 content.length ≠ 0 then (BitVec.ofNat 8 content.length).toNat else 4) = _
    have hzero : BitVec.ofNat 8 content.length = 0 ↔ content.length % 256 = 0 := by
      rw [← BitVec.toNat_inj, BitVec.toNat_ofNat]
      rfl
    rw [ite_not, returnedOctets, BitVec.toNat_ofNat]
    simp only [hzero]
  rw [DataEntry.fetched, refreshed_value hget, if_neg fun h => hstring (.inl h), if_neg fun h => hstring (.inr h),
    DataEntry.stored, if_neg hstring, if_pos hinteger]
  change (if e.isInteger then _ else _) = _
  rw [if_pos hinteger, hcount]
  rfl

/-- What a GET makes of a value that was stored. -/
lemma fetched_stored (hget : e.getfunction = none) (hset : e.isString ∨ e.isInteger)
    (hroom : e.isString → content.length ≤ 64) :
    (∃ v out, DataEntry.fetched { e with value := e.stored e.value content } = some (v, out) ∧
      out.length < 0x80 ∧ e.SameValue content out) ↔ e.Keeps content := by
  rw [DataEntry.Keeps]
  by_cases hoctet : e.dataType = snmpdtypeOctetString
  · have hstring : e.isString := .inl hoctet
    simp only [DataEntry.SameValue, if_pos hstring]
    rw [fetched_octetString hget hoctet, if_pos hoctet, ← strlen_overwrite (hroom hstring)]
    constructor
    · rintro ⟨v, out, hsome, -, hsame⟩
      split_ifs at hsome with hend
      obtain ⟨-, hout⟩ := Prod.mk.inj (Option.some.inj hsome)
      refine ⟨hend, ?_⟩
      rw [hout]
      exact hsame
    · rintro ⟨hend, hsame⟩
      have hshort := hroom hstring
      refine ⟨_, _, if_pos hend, ?_, hsame⟩
      rw [hsame]
      omega
  rw [if_neg hoctet]
  by_cases hobjId : e.dataType = snmpdtypeObjId
  · have hstring : e.isString := .inr hobjId
    have hshort := hroom hstring
    simp only [DataEntry.SameValue, if_pos hstring]
    rw [fetched_objId hget hobjId hshort, if_pos hobjId]
    exact iff_of_true ⟨_, content, rfl, by omega, rfl⟩ hshort
  · have hstring : ¬ e.isString := by
      rintro (h | h)
      · exact hoctet h
      · exact hobjId h
    simp only [DataEntry.SameValue, if_neg hstring]
    rw [fetched_integer hget hstring (hset.resolve_left hstring), if_neg hobjId, ← signed_stored]
    constructor
    · rintro ⟨v, out, hsome, hshort, hsame⟩
      cases hsome
      rw [Ber.length_shifted] at hshort
      exact ⟨hshort, hsame⟩
    · rintro ⟨hshort, hsame⟩
      refine ⟨_, _, rfl, ?_, hsame⟩
      rw [Ber.length_shifted]
      exact hshort

end value

/-- A request of this type for one binding, which the agent can hold. -/
structure Message.IsOne (msg : Message) (reqType : Byte) (b : Binding) : Prop where
  isRequest : msg.IsRequest
  type : msg.pduType = reqType
  bindings : msg.bindings = [b]
  short : msg.bytes.length ≤ maxSnmpmsgLen

/-- An entry of a type that a SET can store, without functions. -/
structure DataEntry.Plain (e : DataEntry) : Prop where
  settable : e.isString ∨ e.isInteger
  getfunction : e.getfunction = none
  setfunction : e.setfunction = false

/-- Where the value of the answer to the only binding lies. -/
def Message.valueAt (msg : Message) (b : Binding) : ℕ :=
  msg.listAt + msg.list.header.length + b.element.header.length + b.name.bytes.length

/-- The response to this GET of one binding has no error, and a value with this property. -/
def Returns (stale : Mem) (get : Message) (c : Binding) (snmpData : List DataEntry)
    (P : Element → Prop) : Prop :=
  ∃ turns response s, Answered turns stale get.bytes snmpData response s ∧
    response.getD get.statusAt 0 = 0 ∧
    ∃ value : Element, value.WellFormed ∧ response.drop (get.valueAt c) = value.bytes ∧ P value

/-- The SET of one binding is refused and changes nothing, or it is accepted and a GET of the name
returns the type and the value. -/
def SetGet (stale stale' : Mem) (set get : Message) (b c : Binding) (e : DataEntry)
    (snmpData : List DataEntry) : Prop :=
  ∃ turns response s, Answered turns stale set.bytes snmpData response s ∧
    (response.getD set.statusAt 0 ≠ 0 ∧ s.snmpData = snmpData ∨
      response.getD set.statusAt 0 = 0 ∧ Returns stale' get c s.snmpData fun value =>
        value.tag = b.value.tag ∧ e.SameValue b.value.content value.content)

section get
variable {get : Message} {c : Binding} {snmpData : List DataEntry} {id : ℕ} {e : DataEntry}

lemma answers_get (hid : entryNumber snmpData c.name.content = some id) (he : snmpData[id]? = some e) :
    answers getRequest 0 [c] (.start snmpData) = e.fetched.map fun r =>
      ([{ c with value := ⟨e.dataType, .short, r.2⟩ }], (Served.start snmpData).setValue id e r.1) := by
  have hname : c.answerName getRequest snmpData = (some id, c.name) := by
    rw [Binding.answerName_same (by decide), hid]
  have hanswer : c.answer getRequest 0 (.start snmpData) = e.fetched.map fun r =>
      ({ c with value := ⟨e.dataType, .short, r.2⟩ }, (Served.start snmpData).setValue id e r.1) := by
    change (c.answerValue getRequest 0 (.start snmpData) (c.answerName getRequest snmpData).1).bind
      (fun r => some ({ c with name := (c.answerName getRequest snmpData).2, value := r.1 }, r.2)) = _
    have hentry : (Served.start snmpData).snmpData[id]? = some e := he
    rw [hname, Binding.answerValue, hentry, Option.bind_eq_bind, Option.bind_some,
      if_neg (by decide : getRequest ≠ setRequest)]
    cases e.fetched with
    | none => rfl
    | some r => rfl
  rw [answers, hanswer]
  cases e.fetched with
  | none => rfl
  | some r => rfl

/-- The response to a GET is as long as its request, but for the value. -/
lemma length_get (hmsg : get.IsRequest) (hone : get.bindings = [c]) (value : Element) (s : Served) :
    (get.written [{ c with value := value }] s).length + c.value.bytes.length =
      get.bytes.length + value.bytes.length := by
  have hset := length_set hmsg s
  have hwritten := get.length_written get.bindings s
  have hwritten' := get.length_written [{ c with value := value }] s
  have hpdu := Message.length_pduWritten hmsg get.bindings s
  have hpdu' := Message.length_pduWritten hmsg [{ c with value := value }] s
  have hbytes : (bindingBytes [c]).length =
      c.form.size + 1 + (c.name.bytes.length + c.value.bytes.length) := by
    rw [bindingBytes_cons, bindingBytes_nil, List.append_nil, Element.length_bytes, ← List.length_append]
    rfl
  have hbytes' : (bindingBytes [{ c with value := value }]).length =
      c.form.size + 1 + (c.name.bytes.length + value.bytes.length) := by
    rw [bindingBytes_cons, bindingBytes_nil, List.append_nil, Element.length_bytes, ← List.length_append]
    rfl
  rw [hone] at hpdu hset hwritten
  simp only [List.length_append] at hwritten hwritten'
  omega

lemma value_written (hmsg : get.IsRequest) (value : Element) (s : Served) :
    (get.written [{ c with value := value }] s).drop (get.valueAt c) = value.bytes := by
  have hheader : (get.respond [{ c with value := value }] s).list.header.length =
      get.list.header.length := by
    rw [Element.length_header, Element.length_header]
    rfl
  have hbinding : (Binding.element { c with value := value }).header.length =
      c.element.header.length := by
    rw [Element.length_header, Element.length_header]
    rfl
  have hlist : (get.respond [{ c with value := value }] s).list.bytes =
      (get.respond [{ c with value := value }] s).list.header ++
        ((Binding.element { c with value := value }).header ++ (c.name.bytes ++ value.bytes)) := by
    change (get.respond [{ c with value := value }] s).list.header ++ bindingBytes _ = _
    have hone : bindingBytes [{ c with value := value }] =
        (Binding.element { c with value := value }).bytes := List.append_nil _
    exact congrArg _ hone
  rw [Message.valueAt, ← List.drop_drop, ← List.drop_drop, ← List.drop_drop,
    (error_written hmsg _ s).2, hlist, ← hheader, List.drop_left, ← hbinding, List.drop_left,
    List.drop_left]

/-- A GET returns what the entry's value is fetched as, if its octets can be counted. -/
lemma get_returns_iff (stale : Mem) (h : get.IsOne getRequest c)
    (hroom : get.bytes.length + 0x101 ≤ maxSnmpmsgLen + c.value.bytes.length)
    (hid : entryNumber snmpData c.name.content = some id) (he : snmpData[id]? = some e)
    {P : Element → Prop} :
    Returns stale get c snmpData P ↔ ∃ v out, e.fetched = some (v, out) ∧ out.length < 0x80 ∧
      P ⟨e.dataType, .short, out⟩ := by
  obtain ⟨hmsg, hget, hone, hlength⟩ := h
  constructor
  · rintro ⟨turns, response, s, hanswered, -, value, hvalue, hat, hP⟩
    obtain ⟨-, r, hr, -, -, rfl, rfl⟩ := (answered_iff hmsg stale snmpData).1 hanswered
    rw [hget, hone, answers_get hid he] at hr
    obtain ⟨⟨v, out⟩, hfetched, rfl⟩ := Option.map_eq_some_iff.1 hr
    have hbytes : value.bytes = Element.bytes ⟨e.dataType, .short, out⟩ :=
      hat.symm.trans (value_written hmsg _ _)
    have hshort : out.length < 0x80 := by
      obtain ⟨-, hshort | hlong⟩ := fetched_value hfetched
      · exact hshort
      · have hsame : value.bytes ++ [] = (Element.bytes ⟨e.dataType, .short, out⟩) ++ [] := by
          rw [hbytes]
        rcases value_exact (.inr ⟨rfl, hlong⟩) hvalue hsame with hfits | ⟨len, hlen, hcount⟩
        · exact hfits
        · rw [hbytes] at hcount
          omega
    have hwf : (⟨e.dataType, .short, out⟩ : Element).WellFormed := hshort
    rw [← List.append_nil value.bytes, ← List.append_nil (Element.bytes ⟨e.dataType, .short, out⟩)]
      at hbytes
    obtain ⟨hsame, -⟩ := Element.bytes_inj hvalue hwf hbytes
    rw [hsame] at hP
    exact ⟨v, out, hfetched, hshort, hP⟩
  · rintro ⟨v, out, hfetched, hshort, hP⟩
    have hlong := length_get hmsg hone ⟨e.dataType, .short, out⟩ ((Served.start snmpData).setValue id e v)
    have hvalue : (Element.bytes ⟨e.dataType, .short, out⟩).length = 1 + 1 + out.length :=
      Element.length_bytes _
    refine ⟨2, get.written [{ c with value := ⟨e.dataType, .short, out⟩ }] _, _,
      (answered_iff hmsg stale snmpData).2 ⟨hlength,
        ([{ c with value := ⟨e.dataType, .short, out⟩ }], (Served.start snmpData).setValue id e v),
        ?_, ?_, ?_, rfl, rfl⟩, ?_,
      ⟨e.dataType, .short, out⟩, hshort, value_written hmsg _ _, hP⟩
    · rw [hget, hone, answers_get hid he, hfetched]
      rfl
    · rw [hone]
      exact Nat.lt_succ_self 1
    · change (get.written [{ c with value := ⟨e.dataType, .short, out⟩ }]
        ((Served.start snmpData).setValue id e v)).length ≤ _
      omega
    · exact status_written hmsg _ _

end get

section set
variable {stale stale' : Mem} {set get : Message} {b c : Binding} {snmpData : List DataEntry} {id : ℕ}
  {e : DataEntry}

/-- What an answered SET of one binding leaves. -/
lemma answered_one (hset : set.IsOne setRequest b) (hb : b.target snmpData = some (id, e))
    {turns : ℕ} {response : List Byte} {s : Served}
    (hanswered : Answered turns stale set.bytes snmpData response s) :
    b.HasRoom snmpData ∧ response.getD set.statusAt 0 = 0 ∧
      entryNumber s.snmpData b.name.content = some id ∧
      s.snmpData[id]? = some { e with value := e.stored e.value b.value.content } := by
  obtain ⟨hid, he, -⟩ := target_number hb
  obtain ⟨hroom, hstatus, hafter⟩ :=
    (answered_set hset.isRequest hset.type stale snmpData).1 turns response s hanswered
  rw [hset.bindings] at hroom hafter
  have hstored : storedIn snmpData id [b] = [b.value.content] := by
    simp [storedIn, hb]
  have hok : s.errorStatus = 0 := by
    by_contra hno
    obtain ⟨b', hmem, hnone⟩ := hafter.status.1 hno
    rw [List.mem_singleton.1 hmem, hb] at hnone
    cases hnone
  refine ⟨hroom b List.mem_cons_self, hstatus.trans hok, ?_, ?_⟩
  · rw [hafter.table, entryNumber_after, hid]
  · rw [hafter.entry he, hstored]
    rfl

/-- The GET that follows it returns the value if the entry keeps it. -/
lemma returns_after (hset : set.IsOne setRequest b) (hget : get.IsOne getRequest c)
    (hroom : get.bytes.length + 0x101 ≤ maxSnmpmsgLen + c.value.bytes.length)
    (hname : c.name.content = b.name.content) (hb : b.target snmpData = some (id, e))
    (hplain : e.Plain) {turns : ℕ} {response : List Byte} {s : Served}
    (hanswered : Answered turns stale set.bytes snmpData response s) :
    Returns stale' get c s.snmpData (fun value =>
      value.tag = b.value.tag ∧ e.SameValue b.value.content value.content) ↔
        e.Keeps b.value.content := by
  obtain ⟨hfits, -, hnumber, hentry⟩ := answered_one hset hb hanswered
  obtain ⟨-, -, htype⟩ := target_number hb
  rw [← hname] at hnumber
  rw [get_returns_iff stale' hget hroom hnumber hentry,
    ← fetched_stored hplain.getfunction hplain.settable ((hasRoom_iff hb).1 hfits)]
  constructor
  · rintro ⟨v, out, hfetched, hout, -, hsame⟩
    exact ⟨v, out, hfetched, hout, hsame⟩
  · rintro ⟨v, out, hfetched, hout, hsame⟩
    exact ⟨v, out, hfetched, hout, htype, hsame⟩

end set

/-- The GET request of these bindings. -/
def shortGet (bindings : List Binding) : Message := { shortSet bindings with pduType := getRequest }

lemma shortGet_isRequest {bindings : List Binding} (hb : ∀ b ∈ bindings, b.WellFormed)
    (hlength : (bindingBytes bindings).length < 64) : (shortGet bindings).IsRequest := by
  have hset := shortSet_isRequest hb hlength
  have hpdu : (shortGet bindings).pdu.bytes.length = (shortSet bindings).pdu.bytes.length := by
    rw [Element.length_bytes, Element.length_bytes]
    rfl
  have helement := hset.element
  change (_ ++ (shortSet bindings).pdu.bytes).length < 0x80 at helement
  rw [List.length_append, ← hpdu, ← List.length_append] at helement
  exact { hset with
    element := helement
    pdu := hset.pdu
    pduType := .inl rfl }

/-- A binding of this value, for the first entry of `oneString`. -/
def text (content : List Byte) : Binding where
  form := .short
  name := ⟨snmpdtypeObjId, .short, [0x2B]⟩
  value := ⟨snmpdtypeOctetString, .short, content⟩

lemma length_oid : ([0x2B] : List Byte).length ≤ maxOid := by decide

/-- A table with one string, "ab". -/
def oneString : DataEntry where
  oid := [0x2B]
  dataType := snmpdtypeOctetString
  value := ⟨.ofFn fun j => if j.val = 0 then 0x61 else if j.val = 1 then 0x62 else 0, 0, 2⟩
  getfunction := none
  setfunction := false
  short := length_oid

lemma text_wellFormed {content : List Byte} (h : content.length < 64) : (text content).WellFormed where
  element := by
    have hcontent : (text content).element.content.length = content.length + 5 := by
      change (Element.bytes _ ++ Element.bytes _).length = _
      rw [List.length_append, Element.length_bytes, Element.length_bytes]
      change 1 + 1 + 1 + (1 + 1 + content.length) = _
      omega
    change (text content).element.content.length < 0x80
    omega
  name := by change (1 : ℕ) < 0x80; decide
  nameType := rfl
  value := by
    change content.length < 0x80
    omega
  valueType := List.mem_cons_of_mem _ List.mem_cons_self

lemma isOne_text {content : List Byte} (h : content.length < 4) :
    (shortSet [text content]).IsOne setRequest (text content) ∧
      (shortGet [text content]).IsOne getRequest (text content) := by
  have hb : ∀ b ∈ [text content], b.WellFormed := by
    rw [List.forall_mem_singleton]
    exact text_wellFormed (by omega)
  have hlength : (bindingBytes [text content]).length = content.length + 7 := by
    rw [bindingBytes_cons, bindingBytes_nil, List.append_nil, Element.length_bytes]
    change 1 + 1 + (Element.bytes _ ++ Element.bytes _).length = _
    rw [List.length_append, Element.length_bytes, Element.length_bytes]
    change 1 + 1 + (1 + 1 + 1 + (1 + 1 + content.length)) = _
    omega
  have hset := shortSet_isRequest hb (by omega)
  have hget := shortGet_isRequest hb (by omega)
  have hsmall (msg : Message) (hmsg : msg.element.WellFormed) (hform : msg.form = .short) :
      msg.bytes.length ≤ maxSnmpmsgLen := by
    have hlong := msg.element.length_bytes
    have hshort : msg.element.form = .short := hform
    rw [Element.WellFormed, hshort, Form.Fits] at hmsg
    rw [hshort, Form.size] at hlong
    rw [maxSnmpmsgLen]
    change msg.element.bytes.length ≤ 512
    omega
  exact ⟨⟨hset, rfl, rfl, hsmall _ hset.element rfl⟩, hget, rfl, rfl, hsmall _ hget.element rfl⟩

end IoLibrary.Snmp
