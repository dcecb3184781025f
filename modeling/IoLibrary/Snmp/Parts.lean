import IoLibrary.Snmp.Pdu

/-! How the agent reads the elements of a request. -/
namespace IoLibrary.Snmp
open Ber (Form Element)

variable {m : Request} {p : ℕ}

/-- These bytes of the request begin at `p`. -/
def Request.Has (m : Request) (p : ℕ) (bytes : List Byte) : Prop :=
  p + bytes.length ≤ m.limit ∧ m.buffer.slice p bytes.length = bytes

lemma Request.has_append {xs ys : List Byte} :
    m.Has p (xs ++ ys) ↔ m.Has p xs ∧ m.Has (p + xs.length) ys := by
  simp only [Has, List.length_append, Mem.slice_add]
  constructor
  · rintro ⟨hlast, hbytes⟩
    have hlength : (m.buffer.slice p xs.length).length = xs.length := Mem.length_slice _ _ _
    obtain ⟨hxs, hys⟩ := List.append_inj hbytes hlength
    exact ⟨⟨by omega, hxs⟩, by omega, hys⟩
  · rintro ⟨⟨-, hxs⟩, hlast, hys⟩
    rw [hxs, hys]
    exact ⟨by omega, rfl⟩

lemma Request.has_cons {b : Byte} {bytes : List Byte} :
    m.Has p (b :: bytes) ↔ (p < m.limit ∧ m.buffer p = b) ∧ m.Has (p + 1) bytes := by
  simp only [Has, List.length_cons, Mem.slice_succ, List.cons.injEq]
  constructor
  · rintro ⟨hlast, hb, hbytes⟩
    exact ⟨⟨by omega, hb⟩, by omega, hbytes⟩
  · rintro ⟨⟨hin, hb⟩, hlast, hbytes⟩
    exact ⟨by omega, hb, hbytes⟩

lemma getValue_append (bytes : List Byte) (b : Byte) :
    getValue (bytes ++ [b]) = getValue bytes <<< 8 ||| b.setWidth 32 := by
  simp [getValue]

/-- getValue takes the last 32 bits of a number. -/
lemma getValue_number (bytes : List Byte) : getValue bytes = BitVec.ofNat 32 (Ber.number bytes) := by
  induction bytes using List.reverseRecOn with
  | nil => rfl
  | append_singleton bytes b ih =>
    have hb : b.toNat < 2 ^ 8 := b.isLt
    have hor := Nat.shiftLeft_add_eq_or_of_lt hb (Ber.number bytes)
    rw [getValue_append, ih, Ber.number_append]
    apply BitVec.eq_of_toNat_eq
    have hwide : (b.setWidth 32).toNat = b.toNat % 2 ^ 32 := by simp
    have hshift : (BitVec.ofNat 32 (Ber.number bytes) <<< 8).toNat =
        (Ber.number bytes <<< 8) % 2 ^ 32 := by
      simp only [BitVec.toNat_shiftLeft, BitVec.toNat_ofNat, Nat.shiftLeft_eq]
      omega
    rw [BitVec.toNat_or, hshift, hwide, ← Nat.or_mod_two_pow, ← hor, BitVec.toNat_ofNat,
      Nat.shiftLeft_eq]

section header
variable {e : Element}

/-- The first octet of a length, and what it says. -/
lemma first_short {len : ℕ} (h : len < 0x80) : BitVec.ofNat 8 len &&& 0x80 = 0 ∧
    BitVec.ofNat 8 len ≠ 0x80 ∧ (BitVec.ofNat 8 len).toNat = len := by
  have hall : ∀ len : Fin 0x80, BitVec.ofNat 8 len.val &&& 0x80 = 0 ∧
      BitVec.ofNat 8 len.val ≠ 0x80 ∧ (BitVec.ofNat 8 len.val).toNat = len.val := by decide +kernel
  exact hall ⟨len, h⟩

lemma first_long {n : ℕ} (hpos : 0 < n) (h : n < 0x7F) : BitVec.ofNat 8 (0x80 + n) &&& 0x80 ≠ 0 ∧
    BitVec.ofNat 8 (0x80 + n) ≠ 0x80 ∧ (BitVec.ofNat 8 (0x80 + n) &&& 0x7F).toNat = n := by
  have hall : ∀ n : Fin 0x7F, 0 < n.val → BitVec.ofNat 8 (0x80 + n.val) &&& 0x80 ≠ 0 ∧
      BitVec.ofNat 8 (0x80 + n.val) ≠ 0x80 ∧
      (BitVec.ofNat 8 (0x80 + n.val) &&& 0x7F).toNat = n.val := by decide +kernel
  exact hall ⟨n, h⟩ hpos

/-- An element that begins at `p`, with a length that the agent can hold. -/
structure Request.HasHeader (m : Request) (p : ℕ) (e : Element) : Prop where
  has : m.Has p e.header
  wellFormed : e.WellFormed
  short : e.content.length ≤ maxSnmpmsgLen

lemma Request.HasHeader.tag (h : m.HasHeader p e) : m.tag p = e.tag := by
  have hhas := h.has
  rw [Element.header, Request.has_cons] at hhas
  exact hhas.1.2

lemma Request.HasHeader.inside (h : m.HasHeader p e) : p + 1 + e.form.size ≤ m.limit := by
  have hhas := h.has.1
  rw [Element.length_header] at hhas
  omega

/-- The first octet of the length, and the octets behind it. -/
lemma Request.HasHeader.length_octets (h : m.HasHeader p e) :
    m.Has (p + 1) (e.form.octets e.content.length) := by
  have hhas := h.has
  rw [Element.header, Request.has_cons] at hhas
  exact hhas.2

lemma Request.lengthOctet_nat : m.lengthOctet p = m.buffer (p + 1) := rfl

lemma Request.HasHeader.octets (h : m.HasHeader p e) : m.octets p = e.form.size - 1 ∧
    m.lengthOctet p ≠ 0x80 ∧ m.length p = e.content.length := by
  have hocts := h.length_octets
  have hwf := h.wellFormed
  have hshort := h.short
  rw [maxSnmpmsgLen] at hshort
  rw [Element.WellFormed] at hwf
  rw [Request.octets, Request.length, Request.octets, Request.lengthOctet_nat]
  cases hform : e.form with
  | short =>
    rw [hform, Form.Fits] at hwf
    rw [hform, Form.octets, Request.has_cons] at hocts
    obtain ⟨hplain, hdefinite, hvalue⟩ := first_short hwf
    rw [hocts.1.2, if_neg (not_not.2 hplain), if_neg (not_not.2 hplain), hvalue]
    exact ⟨rfl, hdefinite, rfl⟩
  | long n =>
    rw [hform, Form.Fits] at hwf
    rw [hform, Form.octets, Request.has_cons] at hocts
    obtain ⟨hpos, hn, hlen⟩ := hwf
    obtain ⟨hlong, hdefinite, hcount⟩ := first_long hpos hn
    have hslice := hocts.2.2
    rw [Ber.length_octets] at hslice
    have hat : ((p : ℤ) + 2).toNat = p + 1 + 1 := by omega
    rw [hocts.1.2, if_pos hlong, if_pos hlong, hcount, Request.number, hat, hslice,
      getValue_number, Ber.number_octets, Nat.mod_eq_of_lt hlen]
    refine ⟨rfl, hdefinite, ?_⟩
    rw [BitVec.toInt_eq_toNat_bmod, BitVec.toNat_ofNat, Nat.mod_eq_of_lt (by omega)]
    exact int32_eq (by omega) (by omega)

lemma Request.HasHeader.readable (h : m.HasHeader p e) : m.Readable p := by
  obtain ⟨hoctets, hdefinite, -⟩ := h.octets
  have hinside := h.inside
  have hpos := e.form.size_pos
  refine ⟨by omega, hdefinite, ?_⟩
  rw [hoctets]
  omega

lemma Request.HasHeader.vstart (h : m.HasHeader p e) :
    (m.tlv p).vstart = p + 1 + e.form.size := by
  have hpos := e.form.size_pos
  change (p : ℤ) + 2 + m.octets p = _
  rw [h.octets.1]
  omega

lemma Request.HasHeader.header (h : m.HasHeader p e) : (m.tlv p).header = 1 + e.form.size := by
  have hstart : (m.tlv p).start = p := rfl
  rw [Tlv.header, h.vstart, hstart]
  omega

lemma Request.HasHeader.len (h : m.HasHeader p e) : (m.tlv p).len = e.content.length := h.octets.2.2

/-- An element whose content is not parsed is one piece. -/
lemma Request.HasHeader.size (h : m.HasHeader p e) (hplain : ¬ constructed e.tag) :
    (m.tlv p).size = e.bytes.length := by
  have hbound := m.bound
  have hinside := h.inside
  have hshort := h.short
  have hvstart := h.vstart
  rw [maxSnmpmsgLen] at hbound hshort
  rw [← h.tag] at hplain
  have hnext : (m.tlv p).nstart = p + 1 + e.form.size + e.content.length := by
    change (if constructed (m.tag p) then _ else int32 ((m.tlv p).vstart + (m.tlv p).len)) = _
    rw [if_neg hplain, hvstart, h.len, int32_eq (by omega) (by omega)]
  have hstart : (m.tlv p).start = p := rfl
  rw [Tlv.size, hnext, hstart, int32_eq (by omega) (by omega), Element.length_bytes]
  omega

end header

end IoLibrary.Snmp
