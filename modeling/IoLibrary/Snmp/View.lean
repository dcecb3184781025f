import IoLibrary.Snmp.Response

/-! What the agent has written of the response, and how its pieces go on from there. -/
namespace IoLibrary.Snmp
open Effects
open Ber (Form Element)

section put
variable (r : Mem) {i : ℕ}

/-- What is put in the place of as many bytes. -/
lemma Mem.slice_put {n : ℕ} {pre old data post : List Byte} (h : r.slice 0 n = pre ++ old ++ post)
    (hpre : pre.length = i) (hold : old.length = data.length) :
    (Mem.put r i data).slice 0 n = pre ++ data ++ post := by
  have hn : n = pre.length + data.length + post.length := by
    have hlength := congrArg List.length h
    simp only [Mem.length_slice, List.length_append] at hlength
    omega
  rw [hn, Mem.slice_add, Mem.slice_add, List.append_assoc, List.append_assoc] at h ⊢
  obtain ⟨hfirst, hrest⟩ := List.append_inj h (Mem.length_slice _ _ _)
  obtain ⟨-, hlast⟩ := List.append_inj hrest (by rw [Mem.length_slice, hold])
  have hbefore : (Mem.put r i data).slice 0 pre.length = pre := by
    refine Eq.trans (List.map_congr_left fun k hk => ?_) hfirst
    rw [List.mem_range'_1] at hk
    exact Mem.put_before (by omega)
  have hinside : (Mem.put r i data).slice (0 + pre.length) data.length = data := by
    apply List.ext_getElem (Mem.length_slice _ _ _)
    intro k _ hk
    have hin : i ≤ 0 + pre.length + k ∧ 0 + pre.length + k < i + data.length := by omega
    have hk' : 0 + pre.length + k - i = k := by omega
    simp only [Mem.slice, List.getElem_map, List.getElem_range', Nat.one_mul]
    rw [Mem.put, if_pos hin, hk', List.getD_eq_getElem?_getD, List.getElem?_eq_getElem hk,
      Option.getD_some]
  have hbehind : (Mem.put r i data).slice (0 + (pre.length + data.length)) post.length = post := by
    refine Eq.trans (List.map_congr_left fun k hk => ?_) hlast
    rw [List.mem_range'_1] at hk
    rw [Mem.put, if_neg (by omega)]
  rw [hbefore, hinside, hbehind]

/-- What is put behind the first `i` bytes. -/
lemma Mem.slice_put_end (data : List Byte) :
    (Mem.put r i data).slice 0 (i + data.length) = r.slice 0 i ++ data := by
  have h : r.slice 0 (i + data.length) = r.slice 0 i ++ r.slice (0 + i) data.length ++ [] := by
    rw [Mem.slice_add, List.append_nil]
  rw [Mem.slice_put r h (Mem.length_slice _ _ _) (Mem.length_slice _ _ _), List.append_nil]

end put

/-- Where the agent is in the request, the response so far, and what else has changed. -/
structure View where
  p : ℤ
  out : List Byte
  served : Served

def Agent.served (a : Agent) : Served := ⟨a.snmpData, a.errorStatus, a.errorIndex, a.called⟩

def Agent.view (a : Agent) : View := ⟨a.index, a.response.slice 0 a.respIndex, a.served⟩

/-- `n` bytes further in the request, and `bytes` in the response. -/
def View.add (v : View) (n : ℕ) (bytes : List Byte) : View :=
  { v with p := v.p + n, out := v.out ++ bytes }

variable {m : Request} {a : Agent} {p : ℕ} {v : View} {e : Element}

lemma respIndex_view (h : a.view = v) : a.respIndex = v.out.length := by
  rw [← h, Agent.view, Mem.length_slice]

lemma lands_copySegment_view {t : Tlv} {n : ℕ} (hstart : t.start = p) (hindex : a.index = p)
    (hn : p + n ≤ m.limit) {Q : Unit → Agent → Prop} {P : Prop}
    (h : a.respIndex + n ≤ maxSnmpmsgLen → ∀ a', a'.view = a.view.add n (m.buffer.slice p n) →
      (Q () a' ↔ P)) :
    lands (tolerates False) (copySegment m t n) Q a ↔ a.respIndex + n ≤ maxSnmpmsgLen ∧ P := by
  have hbound := m.bound
  rw [maxSnmpmsgLen] at hbound
  simp only [copySegment, lands_bind, lands_get, lands_need, lands_modify, hstart]
  have hinside : (0 ≤ (n : ℤ) ∧ 0 ≤ (p : ℤ) ∧ (p : ℤ) + n ≤ m.limit ∧
      (a.respIndex : ℤ) + n ≤ maxSnmpmsgLen) ↔ a.respIndex + n ≤ maxSnmpmsgLen := by omega
  rw [hinside]
  apply and_congr_right
  intro hroom
  apply h hroom
  have hmoved : int32 (a.index + n) = a.index + n := int32_eq (by omega) (by omega)
  have hslice := Mem.slice_put_end a.response (i := a.respIndex) (m.buffer.slice p n)
  rw [Mem.length_slice] at hslice
  simp only [Agent.view, Agent.served, View.add, hmoved, Int.toNat_natCast, hslice]

/-- The whole of an element is copied. -/
lemma lands_copyElement (hhas : m.Has p e.bytes) (hheader : m.HasHeader p e)
    (hplain : ¬ constructed e.tag) (hindex : a.index = p) {Q : Unit → Agent → Prop} {P : Prop}
    (h : a.respIndex + e.bytes.length ≤ maxSnmpmsgLen →
      ∀ a', a'.view = a.view.add e.bytes.length e.bytes → (Q () a' ↔ P)) :
    lands (tolerates False) (copySegment m (m.tlv p) (m.tlv p).size) Q a ↔
      a.respIndex + e.bytes.length ≤ maxSnmpmsgLen ∧ P := by
  rw [hheader.size hplain]
  apply lands_copySegment_view rfl hindex hhas.1
  rw [hhas.2]
  exact h

/-- The tag and the length of an element are copied. -/
lemma lands_copyHeader (hheader : m.HasHeader p e) (hindex : a.index = p)
    {Q : Unit → Agent → Prop} {P : Prop}
    (h : a.respIndex + e.header.length ≤ maxSnmpmsgLen →
      ∀ a', a'.view = a.view.add e.header.length e.header → (Q () a' ↔ P)) :
    lands (tolerates False) (copySegment m (m.tlv p) (m.tlv p).header) Q a ↔
      a.respIndex + e.header.length ≤ maxSnmpmsgLen ∧ P := by
  have hsize : (m.tlv p).header = (e.header.length : ℕ) := by
    rw [hheader.header, Element.length_header]
    omega
  rw [hsize]
  apply lands_copySegment_view rfl hindex hheader.has.1
  rw [hheader.has.2]
  exact h

/-- A mask that has left the last 16 bits behind finds nothing in a number of 16 bits. -/
lemma respLenOctets_zero {k : ℕ} (hk : k < 0x10000) (mask : BitVec 32) (n shift : ℕ) :
    respLenOctets (BitVec.ofNat 32 k) n (mask <<< 16) shift = List.replicate n 0 := by
  induction n generalizing mask shift with
  | zero => rfl
  | succ n ih =>
    have hnone : BitVec.ofNat 32 k &&& mask <<< 16 = 0 := by
      apply BitVec.eq_of_getLsbD_eq
      intro i hi
      by_cases hlow : i < 16
      · simp [hlow]
      · have hsmall : k < 2 ^ i :=
          Nat.lt_of_lt_of_le hk (Nat.pow_le_pow_right Nat.two_pos (Nat.not_lt.1 hlow))
        simp [BitVec.getLsbD_ofNat, Nat.testBit_lt_two_pow hsmall]
    have hnext : mask <<< 16 <<< (shift + 8) = mask <<< (shift + 8) <<< 16 := by
      rw [← BitVec.shiftLeft_add, ← BitVec.shiftLeft_add, Nat.add_comm]
    rw [respLenOctets, hnext, ih, hnone]
    simp [List.replicate_succ']

lemma octets_zero (n : ℕ) : Ber.octets n 0 = List.replicate n 0 := by
  induction n with
  | zero => rfl
  | succ n ih =>
    rw [Ber.octets, ih]
    simp [List.replicate_succ']

/-- The last octet of a number. -/
lemma and_octet {k : ℕ} (hk : k < 0x10000) :
    (BitVec.ofNat 32 k &&& 0xFF).setWidth 8 = BitVec.ofNat 8 k := by
  apply BitVec.eq_of_toNat_eq
  have hmask := Nat.and_two_pow_sub_one_eq_mod k 8
  have hvalue : (BitVec.ofNat 32 k &&& 0xFF).toNat = k &&& 2 ^ 8 - 1 := by
    rw [BitVec.toNat_and, BitVec.toNat_ofNat, Nat.mod_eq_of_lt (by omega)]
    rfl
  rw [BitVec.toNat_setWidth, hvalue, hmask, BitVec.toNat_ofNat]
  omega

/-- For a size of two octets, insertRespLen writes the octets of the long form. -/
lemma respLenOctets_octets {k : ℕ} (hk : k < 0x10000) (n : ℕ) :
    respLenOctets (BitVec.ofNat 32 k) n 0xFF 0 = Ber.octets n k := by
  have hlast : ((BitVec.ofNat 32 k &&& 0xFF) >>> 0).setWidth 8 = BitVec.ofNat 8 k := by
    rw [BitVec.ushiftRight_zero]
    exact and_octet hk
  have hfirst : ((BitVec.ofNat 32 k &&& (0xFF : BitVec 32) <<< (0 + 8)) >>> (0 + 8)).setWidth 8 =
      BitVec.ofNat 8 (k / 256) := by
    have hshift : BitVec.ofNat 32 k >>> (0 + 8) = BitVec.ofNat 32 (k / 256) := by
      apply BitVec.eq_of_toNat_eq
      rw [BitVec.toNat_ushiftRight, BitVec.toNat_ofNat, BitVec.toNat_ofNat,
        Nat.shiftRight_eq_div_pow, Nat.mod_eq_of_lt (by omega), Nat.mod_eq_of_lt (by omega)]
    have hmask : (0xFF : BitVec 32) <<< (0 + 8) >>> (0 + 8) = 0xFF := by decide
    rw [BitVec.ushiftRight_and_distrib, hshift, hmask]
    exact and_octet (by omega)
  match n with
  | 0 => rfl
  | 1 =>
    rw [respLenOctets, respLenOctets, hlast]
    rfl
  | n + 2 =>
    have hdiv : k / 256 / 256 = 0 := by omega
    rw [respLenOctets, respLenOctets, respLenOctets_zero hk, hlast, hfirst, Ber.octets, Ber.octets,
      hdiv, octets_zero]

/-- What is put in the place of as much of the response. -/
lemma put_view {s o d t : List Byte} {i : ℕ} (hout : a.view.out = s ++ o ++ t) (hs : s.length = i)
    (ho : o.length = d.length) :
    Agent.view { a with response := Mem.put a.response i d } = { a.view with out := s ++ d ++ t } := by
  have hslice := Mem.slice_put a.response hout hs ho
  rw [Agent.view, Agent.view]
  rw [hslice]
  rfl

/-- The length of an element that has been copied is replaced. -/
lemma lands_insertLength (hheader : m.HasHeader p e) {pre post : List Byte} {q k : ℕ}
    (hk : k < 0x10000) (hout : a.view.out = pre ++ e.form.octets e.content.length ++ post)
    (hq : pre.length = q + 1) (hroom : q + 1 + e.form.size ≤ maxSnmpmsgLen)
    {Q : Unit → Agent → Prop} {P : Prop}
    (h : ∀ a', a'.view = { a.view with out := pre ++ e.form.octets k ++ post } → (Q () a' ↔ P)) :
    lands (tolerates False) (insertRespLen m p q k) Q a ↔ P := by
  have hinside := hheader.inside
  have hpos := e.form.size_pos
  have hocts := hheader.length_octets
  have hwf := hheader.wellFormed
  rw [Element.WellFormed] at hwf
  have hbyte : 0 ≤ (p : ℤ) + 1 ∧ (p : ℤ) + 1 < m.limit := by omega
  have hat : ((p : ℤ) + 1).toNat = p + 1 := by omega
  rw [insertRespLen, lands_bind, lands_byte, and_iff_right hbyte, lands_ite, hat]
  cases hform : e.form with
  | short =>
    rw [hform] at hwf hocts hout hroom h
    rw [Form.octets, Request.has_cons] at hocts
    have hplain := (first_short hwf).1
    have hput : (q : ℤ) + 1 + [BitVec.ofInt 8 (k : ℤ)].length ≤ maxSnmpmsgLen := by
      rw [Form.size] at hroom
      rw [List.length_singleton]
      omega
    have hq' : ((q : ℤ) + 1).toNat = q + 1 := by omega
    have hoctet : [BitVec.ofInt 8 (k : ℤ)] = Form.short.octets k := by
      rw [BitVec.ofInt_natCast]
      rfl
    rw [hocts.1.2, if_neg (not_not.2 hplain), lands_put, and_iff_right (.inr ⟨by omega, hput⟩), hq',
      hoctet]
    exact h _ (put_view hout hq (by simp))
  | long n =>
    rw [hform] at hwf hocts hout hroom h
    rw [Form.octets, Request.has_cons] at hocts
    obtain ⟨hlong, -, hcount⟩ := first_long hwf.1 hwf.2.1
    have hsize : BitVec.ofInt 32 (k : ℤ) = BitVec.ofNat 32 k := BitVec.ofInt_natCast _ _
    have hput : (q : ℤ) + 2 + (Ber.octets n k).length ≤ maxSnmpmsgLen := by
      rw [Form.size] at hroom
      rw [Ber.length_octets]
      omega
    have hq' : ((q : ℤ) + 2).toNat = q + 2 := by omega
    rw [hocts.1.2, if_pos hlong, hcount, hsize, respLenOctets_octets hk, lands_put,
      and_iff_right (.inr ⟨by omega, hput⟩), hq']
    rw [Form.octets] at hout
    apply h
    have hview := put_view (a := a) (s := pre ++ [BitVec.ofNat 8 (0x80 + n)])
      (o := Ber.octets n e.content.length) (d := Ber.octets n k) (t := post) (i := q + 2)
      (by rw [hout]; simp) (by simp [hq]) (by simp)
    rw [hview, Form.octets]
    simp

/-- An element gets the length of the content that is now behind its header. -/
lemma lands_closeElement (hheader : m.HasHeader p e) {out content : List Byte} {q : ℕ}
    (hout : a.view.out = out ++ e.header ++ content) (hq : out.length = q)
    (hroom : q + e.header.length + content.length ≤ maxSnmpmsgLen) {Q : Unit → Agent → Prop}
    {P : Prop} (h : ∀ a', a'.view =
      { a.view with out := out ++ (Element.bytes ⟨e.tag, e.form, content⟩) } → (Q () a' ↔ P)) :
    lands (tolerates False) (insertRespLen m p q content.length) Q a ↔ P := by
  have hlength := e.length_header
  have hout' : a.view.out = out ++ [e.tag] ++ e.form.octets e.content.length ++ content := by
    rw [hout, Element.header]
    simp
  rw [maxSnmpmsgLen] at hroom
  apply lands_insertLength hheader _ hout'
  · rw [List.length_append, hq]
    rfl
  · rw [maxSnmpmsgLen]
    omega
  · intro a' hview
    apply h
    rw [hview]
    simp [Element.bytes, Element.header]
  · omega

end IoLibrary.Snmp
