import IoLibrary.Ber.Signed
import IoLibrary.Snmp.Reporting

/-! snmp_sendTrap, which writes its packet from front to end and the lengths afterwards. -/
namespace IoLibrary.Snmp
open Ber (Form Element)

def maxTrapmsgLen : ℕ := 512

/-- packet_trap and packet_index. -/
structure Trap where
  packet : Mem
  index : ℕ

/-- What is written has to be inside packet_trap. -/
def Trap.put (t : Trap) (i : ℕ) (data : List Byte) : Option Trap :=
  if data = [] ∨ i + data.length ≤ maxTrapmsgLen then some { t with packet := Mem.put t.packet i data }
  else none

def Trap.emit (t : Trap) (data : List Byte) : Option Trap := do
  let t' ← t.put t.index data
  return { t' with index := t.index + data.length }

/-- The bytes of HTONL in the memory of a little-endian machine. -/
def htonl (x : BitVec 32) : List Byte :=
  [(x >>> 24).setWidth 8, (x >>> 16).setWidth 8, (x >>> 8).setWidth 8, x.setWidth 8]

/-- The entry with the length that makeTrapVariableBindings gives it. A string without an end has none
that C defines. -/
def DataEntry.measured (e : DataEntry) : Option DataEntry :=
  if e.dataType = snmpdtypeOctetString then
    if e.value.strlen < 64 then
      some { e with value := { e.value with dataLen := BitVec.ofNat 8 e.value.strlen } }
    else none
  else if e.dataType = snmpdtypeObjId then
    if e.value.dataLen.toNat ≤ 64 then some e else none
  else some { e with value := { e.value with dataLen := 4 } }

/-- The octets of the value, with that length. -/
def DataEntry.octets (e : DataEntry) : List Byte :=
  if e.isString then e.value.octetstring.toList.take e.value.dataLen.toNat else htonl e.value.intval

/-- Write a binding at `ptr`; the result is its length, or the one before it for an entry of another
type, which is not completed. -/
def makeTrapVariableBindings (e : DataEntry) (ptr : ℕ) (len : ℕ) (t : Trap) : Option (Trap × ℕ) := do
  let t ← t.put ptr [snmpdtypeSequence, 0xFF, snmpdtypeObjId, BitVec.ofNat 8 e.oid.length]
  let t ← t.put (ptr + 4) e.oid
  if e.isString ∨ e.isInteger then
    let e ← e.measured
    let t ← t.put (ptr + 4 + e.oid.length + 2) e.octets
    let t ← t.put (ptr + 4 + e.oid.length) [e.dataType]
    let t ← t.put (ptr + 4 + e.oid.length + 1) [e.value.dataLen]
    let t ← t.put (ptr + 1) [BitVec.ofNat 8 (2 + e.oid.length + 2 + e.value.dataLen.toNat)]
    return (t, 4 + e.oid.length + 2 + e.value.dataLen.toNat)
  else return (t, len)

/-- The loop over the bindings; `len` is the length of the last one, `total` of all. -/
def trapBindings : List DataEntry → ℕ → ℕ → Trap → Option (Trap × ℕ)
  | [], _, total, t => some (t, total)
  | e :: entries, len, total, t => do
    let (t, len) ← makeTrapVariableBindings e t.index len t
    trapBindings entries len (total + len) { t with index := t.index + len }

/-- The arguments of snmp_sendTrap that its packet depends on. The community has no NUL. -/
structure TrapCall where
  agentIP : Vector Byte 4
  community : List Byte
  enterprise : DataEntry
  genericTrap : BitVec 32
  specificTrap : BitVec 32
  entries : List DataEntry

/-- What is written in front of the community. Lengths that are not known yet are 0xFF. -/
def TrapCall.front (c : TrapCall) : List (List Byte) :=
  [[snmpdtypeSequence, 0xFF], [snmpdtypeInteger, 1, 0],
    [snmpdtypeOctetString, BitVec.ofNat 8 c.community.length]]

/-- What is written between the community and the bindings. -/
def TrapCall.middle (c : TrapCall) : List (List Byte) :=
  [[0xA4, 0xFF], [snmpdtypeObjId, BitVec.ofNat 8 c.enterprise.oid.length], c.enterprise.oid,
    ipAddress :: 4 :: c.agentIP.toList, [snmpdtypeInteger, 1, c.genericTrap.setWidth 8],
    [snmpdtypeInteger, 1, c.specificTrap.setWidth 8], [snmpdtypeTimeTicks, 1, 0],
    [snmpdtypeSequence, 0xFF]]

/-- The packet that is sent; `stale` is what packet_trap has in it. -/
def snmpSendTrap (c : TrapCall) (stale : Mem) : Option Trap := do
  let t ← c.front.foldlM Trap.emit ⟨stale, 0⟩
  let t ← t.put t.index c.community
  let t : Trap := { t with index := t.index + c.community.length % 256 }
  let buff2 := t.index + 1
  let t ← c.middle.foldlM Trap.emit t
  let buff3 := t.index - 1
  let (t, total) ← trapBindings c.entries 0 0 t
  let t ← t.put buff3 [BitVec.ofNat 8 total]
  let t ← t.put 1 [BitVec.ofNat 8 (t.index - 2)]
  t.put buff2 [BitVec.ofNat 8 (t.index - (9 + c.community.length % 256))]

section packet
variable {t t' : Trap} {out data : List Byte} {i : ℕ}

/-- The packet so far. -/
def Trap.Holds (t : Trap) (out : List Byte) : Prop :=
  t.index = out.length ∧ t.packet.slice 0 out.length = out ∧ out.length ≤ maxTrapmsgLen

lemma Trap.put_iff : t.put i data = some t' ↔ (data = [] ∨ i + data.length ≤ maxTrapmsgLen) ∧
    { t with packet := Mem.put t.packet i data } = t' := by
  rw [put]
  split_ifs with h <;> simp [h]

lemma Trap.Holds.emit (h : t.Holds out) (ht : t.emit data = some t') : t'.Holds (out ++ data) := by
  obtain ⟨hindex, hslice, hroom⟩ := h
  obtain ⟨t₁, hput, ht'⟩ := Option.bind_eq_some_iff.1 ht
  obtain ⟨hin, rfl⟩ := put_iff.1 hput
  cases ht'
  refine ⟨?_, ?_, ?_⟩
  · change t.index + data.length = _
    rw [List.length_append, hindex]
  · change (Mem.put t.packet t.index data).slice 0 _ = _
    rw [List.length_append, hindex, Mem.slice_put_end, hslice]
  · rw [List.length_append]
    rcases hin with rfl | hin
    · exact hroom
    · omega

lemma Trap.Holds.emits (h : t.Holds out) (data : List Byte) (hroom : (out ++ data).length ≤ maxTrapmsgLen) :
    ∃ t', t.emit data = some t' := by
  rw [List.length_append] at hroom
  exact ⟨_, Option.bind_eq_some_iff.2 ⟨_, put_iff.2 ⟨.inr (h.1 ▸ hroom), rfl⟩, rfl⟩⟩

/-- The fields are written one after the other. -/
lemma Trap.Holds.fields (h : t.Holds out) (fields : List (List Byte)) :
    (∀ t', fields.foldlM Trap.emit t = some t' → t'.Holds (out ++ fields.flatten)) ∧
      ((out ++ fields.flatten).length ≤ maxTrapmsgLen → ∃ t', fields.foldlM Trap.emit t = some t') := by
  induction fields generalizing t out with
  | nil =>
    rw [List.flatten_nil, List.append_nil]
    refine ⟨fun t' ht' => ?_, fun _ => ⟨t, rfl⟩⟩
    cases ht'
    exact h
  | cons data fields ih =>
    rw [List.flatten_cons, ← List.append_assoc, List.foldlM_cons]
    constructor
    · intro t' ht'
      obtain ⟨t₁, ht₁, ht'⟩ := Option.bind_eq_some_iff.1 ht'
      exact (ih (h.emit ht₁)).1 t' ht'
    · intro hroom
      obtain ⟨t₁, ht₁⟩ := h.emits data (by
        rw [List.length_append] at hroom
        omega)
      obtain ⟨t', ht'⟩ := (ih (h.emit ht₁)).2 hroom
      exact ⟨t', Option.bind_eq_some_iff.2 ⟨t₁, ht₁, ht'⟩⟩

/-- A length is put in its place. -/
lemma Trap.Holds.patch {pre post : List Byte} {x b : Byte} (h : t.Holds (pre ++ x :: post))
    (hi : pre.length = i) : ∃ t', t.put i [b] = some t' ∧ t'.Holds (pre ++ b :: post) := by
  obtain ⟨hindex, hslice, hroom⟩ := h
  have hlength : (pre ++ b :: post).length = (pre ++ x :: post).length := by simp
  refine ⟨_, put_iff.2 ⟨.inr ?_, rfl⟩, ?_, ?_, ?_⟩
  · rw [List.length_append, List.length_cons] at hroom
    rw [List.length_singleton]
    omega
  · rw [hlength]
    exact hindex
  · have hsplit : pre ++ x :: post = pre ++ [x] ++ post := by simp
    have hput : (Mem.put t.packet i [b]).slice 0 (pre ++ x :: post).length = pre ++ [b] ++ post :=
      Mem.slice_put _ (hslice.trans hsplit) hi rfl
    rw [hlength]
    refine hput.trans ?_
    simp
  · rw [hlength]
    exact hroom

/-- As much is kept of what is written as the index goes on. -/
lemma Trap.Holds.keep {k : ℕ} (h : t.Holds out) (ht : t.put t.index data = some t') (hk : k ≤ data.length) :
    Trap.Holds { t' with index := t'.index + k } (out ++ data.take k) := by
  obtain ⟨hindex, hslice, hroom⟩ := h
  obtain ⟨hin, rfl⟩ := put_iff.1 ht
  have hlength : (out ++ data.take k).length = t.index + k := by
    rw [List.length_append, List.length_take, hindex]
    omega
  refine ⟨hlength.symm, ?_, ?_⟩
  · have hput := Mem.slice_put_end t.packet (i := t.index) data
    rw [hindex, hslice] at hput
    have htake := congrArg (List.take (t.index + k)) hput
    rw [Mem.take_slice _ _ _ _ (by omega), hindex, List.take_append, Nat.add_sub_cancel_left,
      List.take_of_length_le (by omega)] at htake
    rw [hlength]
    change (Mem.put t.packet t.index data).slice 0 (t.index + k) = _
    rw [hindex]
    exact htake
  · rw [hlength]
    rcases hin with rfl | hin
    · rw [List.length_nil] at hk
      omega
    · omega

end packet

section binding
variable {e : DataEntry} {t : Trap} {out : List Byte} {len : ℕ} {r : Trap × ℕ}

/-- The binding that is written for an entry. -/
def DataEntry.trapBinding (e : DataEntry) : Binding where
  form := .short
  name := ⟨snmpdtypeObjId, .short, e.oid⟩
  value := ⟨e.dataType, .short, e.octets⟩

/-- A length that is found is that of the octets. -/
lemma DataEntry.measured_length {m : DataEntry} (hm : e.measured = some m) : m.octets.length = m.value.dataLen.toNat ∧
      m.oid = e.oid ∧ m.dataType = e.dataType := by
  have hoctetstring (v : Value) : v.octetstring.toList.length = 64 := Vector.length_toList
  rw [measured] at hm
  split_ifs at hm with hoctet hend hobjId hshort
  · cases hm
    have hstring : e.isString := .inl hoctet
    refine ⟨?_, rfl, rfl⟩
    rw [octets]
    change (if e.isString then _ else _ : List Byte).length = _
    rw [if_pos hstring, List.length_take, hoctetstring, BitVec.toNat_ofNat]
    omega
  · cases hm
    have hstring : e.isString := .inr hobjId
    refine ⟨?_, rfl, rfl⟩
    rw [octets, if_pos hstring, List.length_take, hoctetstring]
    omega
  · cases hm
    have hstring : ¬ e.isString := by
      rintro (h | h)
      · exact hoctet h
      · exact hobjId h
    refine ⟨?_, rfl, rfl⟩
    rw [octets]
    change (if e.isString then _ else _ : List Byte).length = _
    rw [if_neg hstring]
    rfl

lemma DataEntry.trapBinding_bytes (e : DataEntry) : e.trapBinding.element.bytes =
    [snmpdtypeSequence, BitVec.ofNat 8 (2 + e.oid.length + 2 + e.octets.length), snmpdtypeObjId,
      BitVec.ofNat 8 e.oid.length] ++ e.oid ++
        e.dataType :: BitVec.ofNat 8 e.octets.length :: e.octets := by
  have hname : e.trapBinding.name.bytes = snmpdtypeObjId :: BitVec.ofNat 8 e.oid.length :: e.oid := rfl
  have hvalue : e.trapBinding.value.bytes = e.dataType :: BitVec.ofNat 8 e.octets.length :: e.octets :=
    rfl
  have hlength : (e.trapBinding.name.bytes ++ e.trapBinding.value.bytes).length =
      2 + e.oid.length + 2 + e.octets.length := by
    rw [List.length_append, hname, hvalue]
    simp only [List.length_cons]
    omega
  change snmpdtypeSequence :: [BitVec.ofNat 8 (e.trapBinding.name.bytes ++
    e.trapBinding.value.bytes).length] ++ (e.trapBinding.name.bytes ++ e.trapBinding.value.bytes) = _
  rw [hlength, hname, hvalue]
  simp

/-- What makeTrapVariableBindings leaves of the packet. -/
def DataEntry.writeBinding (m : DataEntry) (n : ℕ) (p : Mem) : Mem :=
  Mem.put (Mem.put (Mem.put (Mem.put (Mem.put (Mem.put p n
    [snmpdtypeSequence, 0xFF, snmpdtypeObjId, BitVec.ofNat 8 m.oid.length]) (n + 4) m.oid)
    (n + 4 + m.oid.length + 2) m.octets) (n + 4 + m.oid.length) [m.dataType])
    (n + 4 + m.oid.length + 1) [m.value.dataLen])
    (n + 1) [BitVec.ofNat 8 (2 + m.oid.length + 2 + m.value.dataLen.toNat)]

lemma makeTrapVariableBindings_iff {n : ℕ} (hsettable : e.isString ∨ e.isInteger) :
    makeTrapVariableBindings e n len t = some r ↔ ∃ m, e.measured = some m ∧
      n + m.trapBinding.element.bytes.length ≤ maxTrapmsgLen ∧
      ({ t with packet := m.writeBinding n t.packet }, m.trapBinding.element.bytes.length) = r := by
  have hlong {m : DataEntry} (hm : e.measured = some m) : m.trapBinding.element.bytes.length =
      4 + e.oid.length + 2 + m.value.dataLen.toNat := by
    obtain ⟨hlength, hoid, -⟩ := DataEntry.measured_length hm
    rw [DataEntry.trapBinding_bytes, hlength, hoid]
    simp only [List.length_append, List.length_cons, List.length_nil]
    omega
  rw [makeTrapVariableBindings]
  constructor
  · intro h
    obtain ⟨t₁, h₁, h⟩ := Option.bind_eq_some_iff.1 h
    obtain ⟨t₂, h₂, h⟩ := Option.bind_eq_some_iff.1 h
    rw [if_pos hsettable] at h
    obtain ⟨m, hm, h⟩ := Option.bind_eq_some_iff.1 h
    obtain ⟨t₃, h₃, h⟩ := Option.bind_eq_some_iff.1 h
    obtain ⟨t₄, h₄, h⟩ := Option.bind_eq_some_iff.1 h
    obtain ⟨t₅, h₅, h⟩ := Option.bind_eq_some_iff.1 h
    obtain ⟨t₆, h₆, h⟩ := Option.bind_eq_some_iff.1 h
    obtain ⟨hlength, hoid, -⟩ := DataEntry.measured_length hm
    obtain ⟨-, rfl⟩ := Trap.put_iff.1 h₁
    obtain ⟨-, rfl⟩ := Trap.put_iff.1 h₂
    obtain ⟨hvalue, rfl⟩ := Trap.put_iff.1 h₃
    obtain ⟨-, rfl⟩ := Trap.put_iff.1 h₄
    obtain ⟨hlast, rfl⟩ := Trap.put_iff.1 h₅
    obtain ⟨-, rfl⟩ := Trap.put_iff.1 h₆
    have hroom : n + m.trapBinding.element.bytes.length ≤ maxTrapmsgLen := by
      rw [hlong hm, ← hlength]
      rw [hoid] at hvalue hlast
      rcases hvalue with hvalue | hvalue
      · rcases hlast with hlast | hlast
        · cases hlast
        · rw [List.length_singleton] at hlast
          rw [hvalue, List.length_nil]
          omega
      · omega
    refine ⟨m, hm, hroom, (Option.some.inj h).symm ▸ ?_⟩
    rw [hlong hm, DataEntry.writeBinding, hoid]
  · rintro ⟨m, hm, hroom, rfl⟩
    obtain ⟨hlength, hoid, -⟩ := DataEntry.measured_length hm
    rw [hlong hm, ← hlength] at hroom
    refine Option.bind_eq_some_iff.2 ⟨_, Trap.put_iff.2 ⟨.inr ?_, rfl⟩,
      Option.bind_eq_some_iff.2 ⟨_, Trap.put_iff.2 ⟨.inr ?_, rfl⟩, ?_⟩⟩
    · simp only [List.length_cons, List.length_nil]
      omega
    · omega
    · rw [if_pos hsettable]
      refine Option.bind_eq_some_iff.2 ⟨m, hm,
        Option.bind_eq_some_iff.2 ⟨_, Trap.put_iff.2 ⟨.inr ?_, rfl⟩,
        Option.bind_eq_some_iff.2 ⟨_, Trap.put_iff.2 ⟨.inr ?_, rfl⟩,
        Option.bind_eq_some_iff.2 ⟨_, Trap.put_iff.2 ⟨.inr ?_, rfl⟩,
        Option.bind_eq_some_iff.2 ⟨_, Trap.put_iff.2 ⟨.inr ?_, rfl⟩, ?_⟩⟩⟩⟩⟩
      · rw [hoid]
        omega
      · rw [hoid, List.length_singleton]
        omega
      · rw [hoid, List.length_singleton]
        omega
      · rw [List.length_singleton]
        omega
      · rw [hlong hm, DataEntry.writeBinding, hoid]
        rfl

lemma slice_writeBinding {m : DataEntry} (hm : e.measured = some m) (n : ℕ) (p : Mem) :
    (m.writeBinding n p).slice 0 (n + m.trapBinding.element.bytes.length) =
      p.slice 0 n ++ m.trapBinding.element.bytes := by
  obtain ⟨hlength, -, -⟩ := DataEntry.measured_length hm
  have hlen : m.value.dataLen = BitVec.ofNat 8 m.octets.length := by
    rw [hlength, BitVec.ofNat_toNat, BitVec.setWidth_eq]
  have hlong : n + m.trapBinding.element.bytes.length = n + 4 + m.oid.length + (2 + m.octets.length) := by
    rw [DataEntry.trapBinding_bytes]
    simp only [List.length_append, List.length_cons, List.length_nil]
    omega
  have hwhole := slice_put_content (Mem.put (Mem.put p n
    [snmpdtypeSequence, 0xFF, snmpdtypeObjId, BitVec.ofNat 8 m.oid.length]) (n + 4) m.oid)
    (n + 4 + m.oid.length) m.dataType m.value.dataLen m.octets
  have hhead : (Mem.put p n [snmpdtypeSequence, 0xFF, snmpdtypeObjId,
      BitVec.ofNat 8 m.oid.length]).slice 0 (n + 4) = _ := Mem.slice_put_end p _
  rw [Mem.slice_put_end, hhead] at hwhole
  have hsplit : p.slice 0 n ++ [snmpdtypeSequence, 0xFF, snmpdtypeObjId, BitVec.ofNat 8 m.oid.length] ++
      m.oid ++ m.dataType :: m.value.dataLen :: m.octets =
      (p.slice 0 n ++ [snmpdtypeSequence]) ++ [0xFF] ++ ([snmpdtypeObjId, BitVec.ofNat 8 m.oid.length] ++
        m.oid ++ m.dataType :: m.value.dataLen :: m.octets) := by
    simp
  have hat : (p.slice 0 n ++ [snmpdtypeSequence]).length = n + 1 := by
    rw [List.length_append, Mem.length_slice, List.length_singleton]
  have hone : ([0xFF] : List Byte).length =
    [BitVec.ofNat 8 (2 + m.oid.length + 2 + m.value.dataLen.toNat)].length := rfl
  rw [hlong, DataEntry.writeBinding]
  refine (Mem.slice_put _ (hwhole.trans hsplit) hat hone).trans ?_
  rw [DataEntry.trapBinding_bytes, ← hlength, hlen]
  simp

/-- The bindings of a trap, with the lengths of their values. -/
def trapVariables (entries : List DataEntry) : Option (List Binding) :=
  entries.mapM fun e => e.measured.map DataEntry.trapBinding

lemma trapVariables_cons {entries : List DataEntry} {bindings : List Binding} :
    trapVariables (e :: entries) = some bindings ↔ ∃ m, e.measured = some m ∧ ∃ rest,
      trapVariables entries = some rest ∧ bindings = m.trapBinding :: rest := by
  rw [trapVariables, List.mapM_cons, Option.bind_eq_bind, Option.bind_eq_some_iff]
  constructor
  · rintro ⟨b, hb, h⟩
    obtain ⟨m, hm, rfl⟩ := Option.map_eq_some_iff.1 hb
    obtain ⟨rest, hrest, h⟩ := Option.bind_eq_some_iff.1 h
    exact ⟨m, hm, rest, hrest, (Option.some.inj h).symm⟩
  · rintro ⟨m, hm, rest, hrest, rfl⟩
    exact ⟨m.trapBinding, Option.map_eq_some_iff.2 ⟨m, hm, rfl⟩,
      Option.bind_eq_some_iff.2 ⟨rest, hrest, rfl⟩⟩

/-- The bindings are written one behind the other. -/
lemma trapBindings_iff {entries : List DataEntry} {total : ℕ} (h : t.Holds out)
    (hsettable : ∀ e ∈ entries, e.isString ∨ e.isInteger) :
    (∀ r, trapBindings entries len total t = some r → ∃ bindings, trapVariables entries = some bindings ∧
      r.2 = total + (bindingBytes bindings).length ∧ r.1.Holds (out ++ bindingBytes bindings)) ∧
    (∀ bindings, trapVariables entries = some bindings →
      (out ++ bindingBytes bindings).length ≤ maxTrapmsgLen →
        ∃ r, trapBindings entries len total t = some r) := by
  induction entries generalizing t out len total with
  | nil =>
    refine ⟨fun r hr => ⟨[], rfl, ?_⟩, fun bindings _ _ => ⟨_, rfl⟩⟩
    cases hr
    rw [bindingBytes_nil, List.append_nil]
    exact ⟨rfl, h⟩
  | cons e entries ih =>
    rw [List.forall_mem_cons] at hsettable
    have hnext {m : DataEntry} (hm : e.measured = some m)
        (hroom : t.index + m.trapBinding.element.bytes.length ≤ maxTrapmsgLen) :
        Trap.Holds ⟨m.writeBinding t.index t.packet, t.index + m.trapBinding.element.bytes.length⟩
          (out ++ m.trapBinding.element.bytes) := by
      obtain ⟨hindex, hslice, -⟩ := h
      have hlength : (out ++ m.trapBinding.element.bytes).length =
          t.index + m.trapBinding.element.bytes.length := by
        rw [List.length_append, hindex]
      refine ⟨hlength.symm, ?_, hlength ▸ hroom⟩
      rw [hlength]
      refine (slice_writeBinding hm _ _).trans ?_
      rw [hindex, hslice]
    constructor
    · intro r hr
      obtain ⟨⟨t₁, len₁⟩, h₁, hr⟩ := Option.bind_eq_some_iff.1 hr
      obtain ⟨m, hm, hroom, heq⟩ := (makeTrapVariableBindings_iff hsettable.1).1 h₁
      cases heq
      obtain ⟨bindings, hbindings, htotal, hholds⟩ := (ih (hnext hm hroom) hsettable.2).1 r hr
      refine ⟨m.trapBinding :: bindings, trapVariables_cons.2 ⟨m, hm, bindings, hbindings, rfl⟩, ?_, ?_⟩
      · rw [htotal, bindingBytes_cons, List.length_append, Nat.add_assoc]
      · rw [bindingBytes_cons, ← List.append_assoc]
        exact hholds
    · intro bindings hbindings hroom
      obtain ⟨m, hm, rest, hrest, rfl⟩ := trapVariables_cons.1 hbindings
      rw [bindingBytes_cons, ← List.append_assoc] at hroom
      have hfits : t.index + m.trapBinding.element.bytes.length ≤ maxTrapmsgLen := by
        rw [List.length_append, List.length_append, ← h.1] at hroom
        omega
      obtain ⟨r, hr⟩ := (ih (hnext hm hfits) hsettable.2).2 rest hrest hroom
      exact ⟨r, Option.bind_eq_some_iff.2
        ⟨_, (makeTrapVariableBindings_iff hsettable.1).2 ⟨m, hm, hfits, rfl⟩, hr⟩⟩

end binding

/-- A trap of SNMPv1. -/
structure TrapMessage where
  form : Form
  version : Element
  community : Element
  pduForm : Form
  enterprise : Element
  agentAddr : Element
  genericTrap : Element
  specificTrap : Element
  timeStamp : Element
  listForm : Form
  bindings : List Binding

def TrapMessage.list (msg : TrapMessage) : Element where
  tag := snmpdtypeSequence
  form := msg.listForm
  content := bindingBytes msg.bindings

def TrapMessage.pdu (msg : TrapMessage) : Element where
  tag := 0xA4
  form := msg.pduForm
  content := msg.enterprise.bytes ++ (msg.agentAddr.bytes ++ (msg.genericTrap.bytes ++
    (msg.specificTrap.bytes ++ (msg.timeStamp.bytes ++ msg.list.bytes))))

def TrapMessage.element (msg : TrapMessage) : Element where
  tag := snmpdtypeSequence
  form := msg.form
  content := msg.version.bytes ++ (msg.community.bytes ++ msg.pdu.bytes)

/-- Every length says how many octets of content follow it, and every part has its type. -/
structure TrapMessage.WellFormed (msg : TrapMessage) : Prop where
  element : msg.element.WellFormed
  version : msg.version.WellFormed
  versionType : msg.version.tag = snmpdtypeInteger
  community : msg.community.WellFormed
  communityType : msg.community.tag = snmpdtypeOctetString
  pdu : msg.pdu.WellFormed
  enterprise : msg.enterprise.WellFormed
  enterpriseType : msg.enterprise.tag = snmpdtypeObjId
  agentAddr : msg.agentAddr.WellFormed
  agentAddrType : msg.agentAddr.tag = ipAddress
  genericTrap : msg.genericTrap.WellFormed
  genericTrapType : msg.genericTrap.tag = snmpdtypeInteger
  specificTrap : msg.specificTrap.WellFormed
  specificTrapType : msg.specificTrap.tag = snmpdtypeInteger
  timeStamp : msg.timeStamp.WellFormed
  timeStampType : msg.timeStamp.tag = snmpdtypeTimeTicks
  list : msg.list.WellFormed
  bindings : ∀ b ∈ msg.bindings, b.WellFormed

/-- The message that the packet is to be. As much of the community stands in it as its length, which is
one octet, says. -/
def TrapCall.message (c : TrapCall) (bindings : List Binding) : TrapMessage where
  form := .short
  version := ⟨snmpdtypeInteger, .short, [0]⟩
  community := ⟨snmpdtypeOctetString, .short, c.community.take (c.community.length % 256)⟩
  pduForm := .short
  enterprise := ⟨snmpdtypeObjId, .short, c.enterprise.oid⟩
  agentAddr := ⟨ipAddress, .short, c.agentIP.toList⟩
  genericTrap := ⟨snmpdtypeInteger, .short, [c.genericTrap.setWidth 8]⟩
  specificTrap := ⟨snmpdtypeInteger, .short, [c.specificTrap.setWidth 8]⟩
  timeStamp := ⟨snmpdtypeTimeTicks, .short, [0]⟩
  listForm := .short
  bindings := bindings

section send
variable {c : TrapCall}

/-- The fields between the lengths of the PDU and of the list. -/
def TrapCall.fields (c : TrapCall) : List Byte :=
  [snmpdtypeObjId, BitVec.ofNat 8 c.enterprise.oid.length] ++ c.enterprise.oid ++
    (ipAddress :: 4 :: c.agentIP.toList) ++ [snmpdtypeInteger, 1, c.genericTrap.setWidth 8,
      snmpdtypeInteger, 1, c.specificTrap.setWidth 8, snmpdtypeTimeTicks, 1, 0]

/-- The packet with these octets in the place of its lengths. -/
def TrapCall.packet (c : TrapCall) (l₁ l₂ l₃ : Byte) (rest : List Byte) : List Byte :=
  [snmpdtypeSequence, l₁, snmpdtypeInteger, 1, 0, snmpdtypeOctetString,
    BitVec.ofNat 8 c.community.length] ++ c.community.take (c.community.length % 256) ++ [0xA4, l₂] ++
    c.fields ++ [snmpdtypeSequence, l₃] ++ rest

lemma TrapCall.length_kept (c : TrapCall) :
    (c.community.take (c.community.length % 256)).length = c.community.length % 256 := by
  rw [List.length_take]
  exact Nat.min_eq_left (Nat.mod_le _ _)

lemma TrapCall.length_packet (c : TrapCall) (l₁ l₂ l₃ : Byte) (rest : List Byte) :
    (c.packet l₁ l₂ l₃ rest).length =
      11 + c.community.length % 256 + c.fields.length + rest.length := by
  simp only [packet, List.length_append, List.length_cons, List.length_nil, c.length_kept]
  omega

lemma TrapCall.length_fields (c : TrapCall) : c.fields.length = 17 + c.enterprise.oid.length := by
  have haddress : c.agentIP.toList.length = 4 := Vector.length_toList
  simp only [fields, List.length_append, List.length_cons, List.length_nil, haddress]
  omega

lemma TrapCall.pdu_content (c : TrapCall) (bindings : List Binding) :
    (c.message bindings).pdu.content = c.fields ++
      snmpdtypeSequence :: BitVec.ofNat 8 (bindingBytes bindings).length :: bindingBytes bindings := by
  have hshort (t : Byte) (content : List Byte) : Element.bytes ⟨t, .short, content⟩ =
    t :: BitVec.ofNat 8 content.length :: content := rfl
  have haddress : c.agentIP.toList.length = 4 := Vector.length_toList
  rw [TrapMessage.pdu, TrapMessage.list]
  simp only [message, hshort, fields, haddress]
  simp

lemma TrapCall.length_pdu (c : TrapCall) (bindings : List Binding) :
    (c.message bindings).pdu.content.length =
      c.fields.length + 2 + (bindingBytes bindings).length := by
  rw [c.pdu_content, List.length_append, List.length_cons, List.length_cons]
  omega

lemma TrapCall.packet_message (c : TrapCall) (bindings : List Binding) :
    (c.message bindings).element.bytes = c.packet
      (BitVec.ofNat 8 (9 + c.community.length % 256 + c.fields.length + (bindingBytes bindings).length))
      (BitVec.ofNat 8 (c.fields.length + 2 + (bindingBytes bindings).length))
      (BitVec.ofNat 8 (bindingBytes bindings).length) (bindingBytes bindings) := by
  have hkept : BitVec.ofNat 8 (c.community.take (c.community.length % 256)).length =
      BitVec.ofNat 8 c.community.length := by
    apply BitVec.eq_of_toNat_eq
    rw [c.length_kept, BitVec.toNat_ofNat, BitVec.toNat_ofNat]
    exact Nat.mod_mod _ _
  have hlength := c.length_pdu bindings
  have hcontent : (c.message bindings).element.content = [snmpdtypeInteger, 1, 0, snmpdtypeOctetString,
      BitVec.ofNat 8 c.community.length] ++ c.community.take (c.community.length % 256) ++
      0xA4 :: BitVec.ofNat 8 (c.message bindings).pdu.content.length ::
        (c.message bindings).pdu.content := by
    rw [← hkept]
    rfl
  have hwhole : (c.message bindings).element.content.length =
      9 + c.community.length % 256 + c.fields.length + (bindingBytes bindings).length := by
    rw [hcontent]
    simp only [List.length_append, List.length_cons, List.length_nil, c.length_kept, hlength]
    omega
  change snmpdtypeSequence :: BitVec.ofNat 8 (c.message bindings).element.content.length ::
    (c.message bindings).element.content = _
  rw [hwhole, hcontent, hlength, c.pdu_content, packet]
  simp

/-- The lengths are put in their places. -/
lemma Trap.Holds.lengths {t : Trap} {rest : List Byte} {l₁ l₂ l₃ : Byte}
    (h : t.Holds (c.packet l₁ l₂ l₃ rest)) (b₁ b₂ b₃ : Byte) :
    ∃ t₁ t₂ t₃, t.put (10 + c.community.length % 256 + c.fields.length) [b₃] = some t₁ ∧
      t₁.put 1 [b₁] = some t₂ ∧ t₂.put (8 + c.community.length % 256) [b₂] = some t₃ ∧
      t₁.index = t.index ∧ t₂.index = t.index ∧ t₃.Holds (c.packet b₁ b₂ b₃ rest) := by
  have hpatch (l₁ l₂ l₃ : Byte) :
      c.packet l₁ l₂ l₃ rest = ([snmpdtypeSequence, l₁, snmpdtypeInteger, 1, 0, snmpdtypeOctetString,
        BitVec.ofNat 8 c.community.length] ++ c.community.take (c.community.length % 256) ++ [0xA4, l₂] ++
        c.fields ++ [snmpdtypeSequence]) ++ l₃ :: rest ∧
      c.packet l₁ l₂ l₃ rest = [snmpdtypeSequence] ++ l₁ :: ([snmpdtypeInteger, 1, 0,
        snmpdtypeOctetString, BitVec.ofNat 8 c.community.length] ++
        c.community.take (c.community.length % 256) ++ [0xA4, l₂] ++ c.fields ++
        [snmpdtypeSequence, l₃] ++ rest) ∧
      c.packet l₁ l₂ l₃ rest = ([snmpdtypeSequence, l₁, snmpdtypeInteger, 1, 0, snmpdtypeOctetString,
        BitVec.ofNat 8 c.community.length] ++ c.community.take (c.community.length % 256) ++ [0xA4]) ++
        l₂ :: (c.fields ++ [snmpdtypeSequence, l₃] ++ rest) := by
    simp [TrapCall.packet]
  have hlast : ([snmpdtypeSequence, l₁, snmpdtypeInteger, 1, 0, snmpdtypeOctetString,
      BitVec.ofNat 8 c.community.length] ++ c.community.take (c.community.length % 256) ++ [0xA4, l₂] ++
      c.fields ++ [snmpdtypeSequence]).length = 10 + c.community.length % 256 + c.fields.length := by
    simp only [List.length_append, List.length_cons, List.length_nil, c.length_kept]
    omega
  have hmiddle : ([snmpdtypeSequence, b₁, snmpdtypeInteger, 1, 0, snmpdtypeOctetString,
      BitVec.ofNat 8 c.community.length] ++ c.community.take (c.community.length % 256) ++
      [0xA4]).length = 8 + c.community.length % 256 := by
    simp only [List.length_append, List.length_cons, List.length_nil, c.length_kept]
    omega
  rw [(hpatch l₁ l₂ l₃).1] at h
  obtain ⟨t₁, ht₁, h₁⟩ := h.patch (b := b₃) hlast
  rw [← (hpatch l₁ l₂ b₃).1, (hpatch l₁ l₂ b₃).2.1] at h₁
  obtain ⟨t₂, ht₂, h₂⟩ := h₁.patch (b := b₁) rfl
  rw [← (hpatch b₁ l₂ b₃).2.1, (hpatch b₁ l₂ b₃).2.2] at h₂
  obtain ⟨t₃, ht₃, h₃⟩ := h₂.patch (b := b₂) hmiddle
  rw [← (hpatch b₁ b₂ b₃).2.2] at h₃
  obtain ⟨-, heq₁⟩ := Trap.put_iff.1 ht₁
  obtain ⟨-, heq₂⟩ := Trap.put_iff.1 ht₂
  refine ⟨t₁, t₂, t₃, ht₁, ht₂, ht₃, ?_, ?_, h₃⟩
  · rw [← heq₁]
  · rw [← heq₂, ← heq₁]

lemma TrapCall.packet_parts (c : TrapCall) (rest : List Byte) :
    [] ++ c.front.flatten ++ c.community.take (c.community.length % 256) ++ c.middle.flatten ++ rest =
      c.packet 0xFF 0xFF 0xFF rest := by
  simp [packet, front, middle, fields]

/-- Where the lengths are put, and what the indices say then. -/
lemma TrapCall.places {t₂ t₃ t₄ : Trap} {rest : List Byte}
    (h₂ : Trap.Holds { t₂ with index := t₂.index + c.community.length % 256 }
      ([] ++ c.front.flatten ++ c.community.take (c.community.length % 256)))
    (h₃ : t₃.Holds ([] ++ c.front.flatten ++ c.community.take (c.community.length % 256) ++
      c.middle.flatten))
    (h₄ : t₄.Holds (c.packet 0xFF 0xFF 0xFF rest)) :
    t₂.index + c.community.length % 256 + 1 = 8 + c.community.length % 256 ∧
      t₃.index - 1 = 10 + c.community.length % 256 + c.fields.length ∧
      t₄.index - 2 = 9 + c.community.length % 256 + c.fields.length + rest.length ∧
      t₄.index - (9 + c.community.length % 256) = c.fields.length + 2 + rest.length := by
  have hlength := congrArg List.length (c.packet_parts [])
  rw [List.append_nil, ← h₃.1, c.length_packet, List.length_nil] at hlength
  have hfront : c.front.flatten.length = 7 := rfl
  have hkept := h₂.1
  have hlast := h₄.1
  rw [List.nil_append, List.length_append, hfront, c.length_kept] at hkept
  rw [c.length_packet] at hlast
  change t₂.index + c.community.length % 256 = _ at hkept
  refine ⟨?_, ?_, ?_, ?_⟩ <;> omega

/-- What is sent. -/
lemma snmpSendTrap_holds {stale : Mem} (hsettable : ∀ e ∈ c.entries, e.isString ∨ e.isInteger) {t : Trap}
    (h : snmpSendTrap c stale = some t) : ∃ bindings, trapVariables c.entries = some bindings ∧
      t.Holds (c.message bindings).element.bytes := by
  have hstart : Trap.Holds ⟨stale, 0⟩ [] := ⟨rfl, rfl, Nat.zero_le _⟩
  have hmod : c.community.length % 256 ≤ c.community.length := Nat.mod_le _ _
  simp only [snmpSendTrap, Option.bind_eq_bind, Option.bind_eq_some_iff] at h
  obtain ⟨t₁, h₁, t₂, h₂, t₃, h₃, ⟨t₄, total⟩, h₄, t₅, h₅, t₆, h₆, h₇⟩ := h
  have hkept := ((hstart.fields _).1 t₁ h₁).keep h₂ hmod
  have hfront := (hkept.fields _).1 t₃ h₃
  obtain ⟨bindings, hbindings, htotal, hholds⟩ := (trapBindings_iff hfront hsettable).1 _ h₄
  rw [c.packet_parts] at hholds
  obtain ⟨hbuff2, hbuff3, hall, hpdu⟩ := TrapCall.places hkept hfront hholds
  obtain ⟨p₅, p₆, p₇, hp₅, hp₆, hp₇, hi₅, hi₆, hdone⟩ := hholds.lengths
    (BitVec.ofNat 8 (9 + c.community.length % 256 + c.fields.length + (bindingBytes bindings).length))
    (BitVec.ofNat 8 (c.fields.length + 2 + (bindingBytes bindings).length))
    (BitVec.ofNat 8 (bindingBytes bindings).length)
  rw [hbuff3, htotal, Nat.zero_add, hp₅] at h₅
  cases h₅
  rw [hi₅, hall, hp₆] at h₆
  cases h₆
  rw [hi₆, hpdu] at h₇
  change Trap.put _ (t₂.index + c.community.length % 256 + 1) _ = _ at h₇
  rw [hbuff2, hp₇] at h₇
  cases h₇
  refine ⟨bindings, hbindings, ?_⟩
  rw [c.packet_message]
  exact hdone

/-- A message that is inside packet_trap is sent. -/
lemma snmpSendTrap_isSome (stale : Mem) (hsettable : ∀ e ∈ c.entries, e.isString ∨ e.isInteger)
    {bindings : List Binding} (hbindings : trapVariables c.entries = some bindings)
    (hcommunity : c.community.length < 256)
    (hroom : (c.message bindings).element.bytes.length ≤ maxTrapmsgLen) : ∃ t, snmpSendTrap c stale = some t := by
  have hstart : Trap.Holds ⟨stale, 0⟩ [] := ⟨rfl, rfl, Nat.zero_le _⟩
  have hmod : c.community.length % 256 ≤ c.community.length := Nat.mod_le _ _
  simp only [snmpSendTrap, Option.bind_eq_bind, Option.bind_eq_some_iff]
  have hsmall : c.community.length % 256 = c.community.length := Nat.mod_eq_of_lt hcommunity
  rw [c.packet_message, c.length_packet] at hroom
  have hlength := congrArg List.length (c.packet_parts (bindingBytes bindings))
  rw [c.length_packet] at hlength
  simp only [List.length_append, List.length_nil, c.length_kept] at hlength
  obtain ⟨t₁, h₁⟩ := (hstart.fields c.front).2 (by
    rw [List.nil_append]
    omega)
  have hhead := (hstart.fields _).1 t₁ h₁
  obtain ⟨t₂, h₂⟩ : ∃ t₂, t₁.put t₁.index c.community = some t₂ := by
    refine ⟨_, Trap.put_iff.2 ⟨.inr ?_, rfl⟩⟩
    have hindex := hhead.1
    rw [List.nil_append] at hindex
    omega
  have hkept := hhead.keep h₂ hmod
  obtain ⟨t₃, h₃⟩ := (hkept.fields c.middle).2 (by
    simp only [List.length_append, List.length_nil, c.length_kept]
    omega)
  have hfront := (hkept.fields _).1 t₃ h₃
  obtain ⟨⟨t₄, total⟩, h₄⟩ : ∃ r, trapBindings c.entries 0 0 t₃ = some r := by
    apply (trapBindings_iff hfront hsettable).2 bindings hbindings
    rw [c.packet_parts, c.length_packet]
    exact hroom
  obtain ⟨bindings', hbindings', -, hholds⟩ := (trapBindings_iff hfront hsettable).1 _ h₄
  rw [c.packet_parts] at hholds
  obtain ⟨hbuff2, hbuff3, -, -⟩ := TrapCall.places hkept hfront hholds
  obtain ⟨p₅, p₆, p₇, hp₅, hp₆, hp₇, hi₅, hi₆, -⟩ := hholds.lengths (BitVec.ofNat 8 (t₄.index - 2))
    (BitVec.ofNat 8 (t₄.index - (9 + c.community.length % 256))) (BitVec.ofNat 8 total)
  refine ⟨p₇, t₁, h₁, t₂, h₂, t₃, h₃, (t₄, total), h₄, p₅, ?_, p₆, ?_, ?_⟩
  · rw [hbuff3]
    exact hp₅
  · rw [hi₅]
    exact hp₆
  · rw [hi₆]
    rw [hbuff2]
    exact hp₇

end send

/-- The 32-bit number that the octets of an integer say. -/
def Says (octets : List Byte) (x : BitVec 32) : Prop := BitVec.ofInt 32 (Ber.signed octets) = x

/-- A binding has the name, the type and the value of an entry: a string up to its end, an object
identifier, a number. -/
def DataEntry.SaidBy (e : DataEntry) (b : Binding) : Prop :=
  b.name.content = e.oid ∧ b.value.tag = e.dataType ∧
    if e.dataType = snmpdtypeOctetString then
      b.value.content = e.value.octetstring.toList.take e.value.strlen
    else if e.dataType = snmpdtypeObjId then
      b.value.content = e.value.octetstring.toList.take e.value.dataLen.toNat
    else Says b.value.content e.value.intval

/-- A message has the arguments of snmp_sendTrap in its fields. -/
structure TrapCall.SaidBy (c : TrapCall) (msg : TrapMessage) : Prop where
  version : msg.version.content = [snmpV1]
  community : msg.community.content = c.community
  enterprise : msg.enterprise.content = c.enterprise.oid
  agentAddr : msg.agentAddr.content = c.agentIP.toList
  genericTrap : Says msg.genericTrap.content c.genericTrap
  specificTrap : Says msg.specificTrap.content c.specificTrap
  bindings : List.Forall₂ DataEntry.SaidBy c.entries msg.bindings

/-- snmp_sendTrap stays inside packet_trap, and what it sends is a trap with its arguments. -/
def TrapCall.Encoded (c : TrapCall) (stale : Mem) : Prop :=
  ∃ t, snmpSendTrap c stale = some t ∧ ∃ msg : TrapMessage, msg.WellFormed ∧
    msg.element.bytes = t.packet.slice 0 t.index ∧ c.SaidBy msg

/-- How many octets the value of an entry takes. -/
def DataEntry.count (e : DataEntry) : ℕ :=
  if e.dataType = snmpdtypeOctetString then e.value.strlen
  else if e.dataType = snmpdtypeObjId then e.value.dataLen.toNat else 4

/-- How many octets of content the message has. -/
def TrapCall.contentLength (c : TrapCall) : ℕ :=
  26 + c.community.length + c.enterprise.oid.length +
    (c.entries.map fun e => 6 + e.oid.length + e.count).sum

/-- An entry of a type that a trap can carry; an object identifier has room in its value. -/
def DataEntry.Supported (e : DataEntry) : Prop :=
  (e.isString ∨ e.isInteger) ∧ (e.dataType = snmpdtypeObjId → e.value.dataLen.toNat ≤ 64)

section codes
variable {x : BitVec 32}

lemma low_shift (x : BitVec 32) {n : ℕ} (hn : n ≤ 24) :
    (x.sshiftRight n).setWidth 8 = (x >>> n).setWidth 8 := by
  apply BitVec.eq_of_getLsbD_eq
  intro i hi
  have hin : n + i < 32 := by omega
  simp [BitVec.getLsbD_sshiftRight, hi, hin]
  omega

lemma htonl_shifted (x : BitVec 32) : htonl x = Ber.shifted x 4 := by
  change _ = [(x.sshiftRight 24).setWidth 8, (x.sshiftRight 16).setWidth 8,
    (x.sshiftRight 8).setWidth 8, (x.sshiftRight 0).setWidth 8]
  rw [low_shift x (by decide), low_shift x (by decide), low_shift x (by decide),
    low_shift x (by decide), htonl]
  simp

lemma inOctets_toInt (x : BitVec 32) : Ber.InOctets 4 x.toInt := by
  rw [BitVec.toInt_eq_toNat_bmod]
  exact Ber.inOctets_bmod (by decide) _

lemma says_htonl (x : BitVec 32) : Says (htonl x) x := by
  rw [Says, htonl_shifted, Ber.signed_shifted x 4 (by decide), (inOctets_toInt x).bmod,
    BitVec.ofInt_toInt]

/-- One octet says a code that is as small as a byte with a sign. -/
lemma says_octet : Says [x.setWidth 8] x ↔ Ber.InOctets 1 x.toInt := by
  have hoctet : [x.setWidth 8] = Ber.shifted x 1 := by
    change _ = [(x.sshiftRight 0).setWidth 8]
    rw [low_shift x (by decide)]
    simp
  rw [Says, hoctet, Ber.signed_shifted x 1 (by decide)]
  constructor
  · intro h
    have hint := congrArg BitVec.toInt h
    have hsmall : Ber.InOctets 4 (x.toInt.bmod (256 ^ 1)) :=
      Ber.inOctets_mono (by decide) (Ber.inOctets_bmod (by decide) _)
    rw [BitVec.toInt_ofInt] at hint
    rw [← hint]
    have hsame := hsmall.bmod
    change (x.toInt.bmod (256 ^ 1)).bmod (2 ^ 32) = _ at hsame
    rw [hsame]
    exact Ber.inOctets_bmod (by decide) _
  · intro h
    rw [h.bmod, BitVec.ofInt_toInt]

end codes

section encoded
variable {c : TrapCall} {entries : List DataEntry} {bindings : List Binding} {e m : DataEntry}

lemma DataEntry.measured_isSome (h : e.Supported) :
    (∃ m, e.measured = some m) ↔ (e.dataType = snmpdtypeOctetString → e.value.strlen < 64) := by
  rw [measured]
  by_cases hoctet : e.dataType = snmpdtypeOctetString
  · simp [hoctet]
  · rw [if_neg hoctet]
    by_cases hobjId : e.dataType = snmpdtypeObjId
    · rw [if_pos hobjId, if_pos (h.2 hobjId)]
      exact iff_of_true ⟨e, rfl⟩ fun hno => absurd hno hoctet
    · rw [if_neg hobjId]
      exact iff_of_true ⟨_, rfl⟩ fun hno => absurd hno hoctet

lemma DataEntry.measured_said (hm : e.measured = some m) (h : e.Supported) :
    e.SaidBy m.trapBinding ∧ m.octets.length = e.count ∧ m.trapBinding.value.tag ∈ valueTypes := by
  obtain ⟨hlength, hoid, htype⟩ := measured_length hm
  have hvalueType : e.dataType ∈ valueTypes := by
    rcases h.1 with (h | h) | (h | h | h | h) <;> rw [h] <;> decide
  have htag : m.trapBinding.value.tag = e.dataType := htype
  rw [← htag] at hvalueType
  refine ⟨⟨hoid, htype, ?_⟩, hlength.trans ?_, hvalueType⟩
  · change if e.dataType = snmpdtypeOctetString then m.octets = _
      else if e.dataType = snmpdtypeObjId then m.octets = _ else Says m.octets _
    rw [measured] at hm
    rw [octets]
    split_ifs at hm with hoctet hend hobjId hshort
    · cases hm
      have hstring : e.isString := .inl hoctet
      have hmod : e.value.strlen % 2 ^ 8 = e.value.strlen := Nat.mod_eq_of_lt (by omega)
      rw [if_pos hoctet]
      change (if e.isString then _ else _) = _
      rw [if_pos hstring, BitVec.toNat_ofNat, hmod]
    · cases hm
      have hstring : e.isString := .inr hobjId
      rw [if_neg hoctet, if_pos hobjId, if_pos hstring]
    · cases hm
      have hstring : ¬ e.isString := by
        rintro (h | h)
        · exact hoctet h
        · exact hobjId h
      rw [if_neg hoctet, if_neg hobjId]
      change Says (if e.isString then _ else _) _
      rw [if_neg hstring]
      exact says_htonl _
  · rw [measured] at hm
    rw [count]
    split_ifs at hm with hoctet hend hobjId hshort
    · cases hm
      rw [if_pos hoctet, BitVec.toNat_ofNat]
      exact Nat.mod_eq_of_lt (by omega)
    · cases hm
      rw [if_neg hoctet, if_pos hobjId]
    · cases hm
      rw [if_neg hoctet, if_neg hobjId]
      rfl

lemma length_mem {b : Binding} (hb : b ∈ bindings) :
    b.element.bytes.length ≤ (bindingBytes bindings).length := by
  obtain ⟨pre, post, rfl⟩ := List.append_of_mem hb
  rw [bindingBytes, List.flatMap_append, List.flatMap_cons]
  simp only [List.length_append]
  omega

/-- The bindings of a trap say its entries, and take as many bytes. -/
lemma trapVariables_said (h : ∀ e ∈ entries, e.Supported) (hb : trapVariables entries = some bindings) :
    List.Forall₂ DataEntry.SaidBy entries bindings ∧
      (bindingBytes bindings).length = (entries.map fun e => 6 + e.oid.length + e.count).sum ∧
      ∀ b ∈ bindings, b.form = .short ∧ b.name.form = .short ∧ b.value.form = .short ∧
        b.name.tag = snmpdtypeObjId ∧ b.value.tag ∈ valueTypes := by
  induction entries generalizing bindings with
  | nil =>
    cases hb
    exact ⟨.nil, rfl, fun b hmem => absurd hmem List.not_mem_nil⟩
  | cons e entries ih =>
    obtain ⟨m, hm, rest, hrest, rfl⟩ := trapVariables_cons.1 hb
    rw [List.forall_mem_cons] at h
    obtain ⟨hsaid, hcount, htype⟩ := DataEntry.measured_said hm h.1
    obtain ⟨hall, hlength, hshort⟩ := ih h.2 hrest
    obtain ⟨-, hoid, -⟩ := DataEntry.measured_length hm
    refine ⟨.cons hsaid hall, ?_, List.forall_mem_cons.2 ⟨⟨rfl, rfl, rfl, rfl, htype⟩, hshort⟩⟩
    rw [bindingBytes_cons, List.length_append, hlength, DataEntry.trapBinding_bytes, List.map_cons,
      List.sum_cons, ← hcount, hoid]
    simp only [List.length_append, List.length_cons, List.length_nil]
    omega

lemma trapVariables_isSome (h : ∀ e ∈ entries, e.Supported) : (∃ bindings, trapVariables entries = some bindings) ↔
    ∀ e ∈ entries, e.dataType = snmpdtypeOctetString → e.value.strlen < 64 := by
  induction entries with
  | nil => exact iff_of_true ⟨[], rfl⟩ fun e hmem => absurd hmem List.not_mem_nil
  | cons e entries ih =>
    rw [List.forall_mem_cons] at h
    rw [List.forall_mem_cons, ← DataEntry.measured_isSome h.1, ← ih h.2]
    constructor
    · rintro ⟨bindings, hb⟩
      obtain ⟨m, hm, rest, hrest, -⟩ := trapVariables_cons.1 hb
      exact ⟨⟨m, hm⟩, rest, hrest⟩
    · rintro ⟨⟨m, hm⟩, rest, hrest⟩
      exact ⟨_, trapVariables_cons.2 ⟨m, hm, rest, hrest, rfl⟩⟩

lemma TrapCall.length_message (hsupported : ∀ e ∈ c.entries, e.Supported)
    (hb : trapVariables c.entries = some bindings) (hcommunity : c.community.length < 256) :
    (c.message bindings).element.bytes.length = c.contentLength + 2 := by
  obtain ⟨-, hlength, -⟩ := trapVariables_said hsupported hb
  rw [c.packet_message, c.length_packet, c.length_fields, hlength, Nat.mod_eq_of_lt hcommunity,
    contentLength]
  omega

/-- A message that is as short as its one octet of length says is well formed. -/
lemma TrapCall.message_wellFormed (hsupported : ∀ e ∈ c.entries, e.Supported)
    (hb : trapVariables c.entries = some bindings)
    (hshort : (c.message bindings).element.content.length < 0x80) : (c.message bindings).WellFormed := by
  obtain ⟨-, -, hforms⟩ := trapVariables_said hsupported hb
  have hwhole : (c.message bindings).element.bytes.length =
      1 + 1 + (c.message bindings).element.content.length := Element.length_bytes _
  have hpdu := c.length_pdu bindings
  have hkept := c.length_kept
  have hfields := c.length_fields
  rw [c.packet_message, c.length_packet] at hwhole
  exact {
    element := hshort
    version := by change (1 : ℕ) < 0x80; decide
    versionType := rfl
    community := by
      change (c.community.take (c.community.length % 256)).length < 0x80
      omega
    communityType := rfl
    pdu := by
      change (c.message bindings).pdu.content.length < 0x80
      omega
    enterprise := by
      change c.enterprise.oid.length < 0x80
      omega
    enterpriseType := rfl
    agentAddr := by
      change c.agentIP.toList.length < 0x80
      rw [Vector.length_toList]
      decide
    agentAddrType := rfl
    genericTrap := by change (1 : ℕ) < 0x80; decide
    genericTrapType := rfl
    specificTrap := by change (1 : ℕ) < 0x80; decide
    specificTrapType := rfl
    timeStamp := by change (1 : ℕ) < 0x80; decide
    timeStampType := rfl
    list := by
      change (bindingBytes bindings).length < 0x80
      omega
    bindings := by
      intro b (hmem : b ∈ bindings)
      obtain ⟨hform, hnameForm, hvalueForm, hnameType, hvalueType⟩ := hforms b hmem
      have hbytes := length_mem hmem
      have helement := b.element.length_bytes
      have hname := b.name.length_bytes
      have hvalue := b.value.length_bytes
      have hcontent : b.element.content.length = b.name.bytes.length + b.value.bytes.length :=
        List.length_append
      have hfits : b.element.content.length < 0x80 := by omega
      refine ⟨?_, ?_, hnameType, ?_, hvalueType⟩
      · change b.form.Fits b.element.content.length
        rw [hform]
        exact hfits
      · change b.name.form.Fits b.name.content.length
        rw [hnameForm]
        change b.name.content.length < 0x80
        omega
      · change b.value.form.Fits b.value.content.length
        rw [hvalueForm]
        change b.value.content.length < 0x80
        omega }

/-- A message that is read from the packet shows that its length fits, and is the one that was meant. -/
lemma message_read {msg : TrapMessage} (hmsg : msg.WellFormed)
    (hlength : (c.message bindings).element.bytes.length ≤ maxTrapmsgLen)
    (hbytes : msg.element.bytes = (c.message bindings).element.bytes) :
    msg.element = (c.message bindings).element ∧ (c.message bindings).element.content.length < 0x80 := by
  have hlong := (c.message bindings).element.length_bytes
  rw [maxTrapmsgLen] at hlength
  have hlead : ∀ b rest, (c.message bindings).element.content = b :: rest → 2 ≤ b.toNat ∧ b.toNat < 0x80 := by
    intro b rest hhead
    change snmpdtypeInteger :: _ = _ at hhead
    rw [← (List.cons.inj hhead).1]
    decide
  obtain ⟨helement, -⟩ := read_exact (f := .short) hmsg.element hbytes trivial hlead (by omega)
    (by omega) (by omega) fun _ => Nat.le_refl _
  have hfits := hmsg.element
  rw [helement] at hfits
  exact ⟨helement, hfits⟩

/-- A trap that is encoded can be read, so that its length fits one octet. -/
lemma TrapCall.Encoded.read {stale : Mem} (h : c.Encoded stale)
    (hsettable : ∀ e ∈ c.entries, e.isString ∨ e.isInteger) : ∃ bindings msg,
      trapVariables c.entries = some bindings ∧ msg.WellFormed ∧ c.SaidBy msg ∧
        msg.element = (c.message bindings).element ∧
        (c.message bindings).element.content.length < 0x80 := by
  obtain ⟨t, ht, msg, hmsg, hbytes, hsaid⟩ := h
  obtain ⟨bindings, hb, hholds⟩ := snmpSendTrap_holds hsettable ht
  rw [hholds.1, hholds.2.1] at hbytes
  obtain ⟨helement, hshort⟩ := message_read hmsg hholds.2.2 hbytes
  exact ⟨bindings, msg, hb, hmsg, hsaid, helement, hshort⟩

/-- The header of a message is read off its octets. -/
lemma TrapMessage.element_inj {msg msg' : TrapMessage} (hmsg : msg.WellFormed) (hmsg' : msg'.WellFormed)
    (h : msg.element = msg'.element) : msg.community = msg'.community ∧ msg.genericTrap = msg'.genericTrap ∧
      msg.specificTrap = msg'.specificTrap := by
  have hcontent : msg.version.bytes ++ (msg.community.bytes ++ msg.pdu.bytes) = _ :=
    congrArg Element.content h
  obtain ⟨-, hcontent⟩ := Element.bytes_inj hmsg.version hmsg'.version hcontent
  obtain ⟨hcommunity, hcontent⟩ := Element.bytes_inj hmsg.community hmsg'.community hcontent
  rw [← List.append_nil msg.pdu.bytes, ← List.append_nil msg'.pdu.bytes] at hcontent
  obtain ⟨hpdu, -⟩ := Element.bytes_inj hmsg.pdu hmsg'.pdu hcontent
  have hfields : msg.enterprise.bytes ++ (msg.agentAddr.bytes ++ (msg.genericTrap.bytes ++
    (msg.specificTrap.bytes ++ (msg.timeStamp.bytes ++ msg.list.bytes)))) = _ :=
    congrArg Element.content hpdu
  obtain ⟨-, hfields⟩ := Element.bytes_inj hmsg.enterprise hmsg'.enterprise hfields
  obtain ⟨-, hfields⟩ := Element.bytes_inj hmsg.agentAddr hmsg'.agentAddr hfields
  obtain ⟨hgeneric, hfields⟩ := Element.bytes_inj hmsg.genericTrap hmsg'.genericTrap hfields
  obtain ⟨hspecific, -⟩ := Element.bytes_inj hmsg.specificTrap hmsg'.specificTrap hfields
  exact ⟨hcommunity, hgeneric, hspecific⟩

/-- The warm start of an agent. -/
def warmStart : TrapCall where
  agentIP := #v[192, 168, 0, 10]
  community := Snmp.community
  enterprise :=
    { oid := [0x2B, 6, 1, 4, 1, 0, 0x10]
      dataType := snmpdtypeObjId
      value := ⟨.replicate 64 0, 0, 0⟩
      getfunction := none
      setfunction := false
      short := by decide }
  genericTrap := 1
  specificTrap := 0
  entries := []

/-- The warm start with ten numbers. -/
def tenNumbers : TrapCall := { warmStart with entries := (List.replicate 10 oneNumber).flatten }

end encoded

end IoLibrary.Snmp
