import IoLibrary.Registers

/-! The buffers that hold the messages of the Internet protocols. A buffer is the memory from its
first byte on: the parsers walk on pointers into it. -/
namespace IoLibrary

abbrev Mem := ℕ → Byte

/-- `n` bytes from `a` on. -/
def Mem.slice (m : Mem) (a n : ℕ) : List Byte := (List.range' a n).map m

/-- The memory after `data` is written to its beginning. -/
def Mem.fill (m : Mem) (data : List Byte) : Mem := fun i => data.getD i (m i)

section memory
variable (m : Mem) (data : List Byte) (a n k : ℕ)

@[simp] lemma Mem.length_slice : (m.slice a n).length = n := by simp [slice]

@[simp] lemma Mem.slice_zero : m.slice a 0 = [] := rfl

lemma Mem.slice_succ : m.slice a (n + 1) = m a :: m.slice (a + 1) n := by
  simp [slice, List.range'_succ]

lemma Mem.slice_add : m.slice a (n + k) = m.slice a n ++ m.slice (a + n) k := by
  rw [slice, ← List.range'_append_1, List.map_append, slice, slice]

@[simp] lemma Mem.slice_fill : (m.fill data).slice 0 data.length = data := by
  apply List.ext_getElem (by simp)
  intro i h₁ h₂
  simp [slice, fill, List.getElem?_eq_getElem h₂]

lemma Mem.slice_congr {m m' : Mem} {a n : ℕ} (h : ∀ i, a ≤ i → i < a + n → m i = m' i) : m.slice a n = m'.slice a n := by
  refine List.map_congr_left fun i hi => ?_
  rw [List.mem_range'_1] at hi
  exact h i hi.1 hi.2

lemma Mem.take_slice (h : k ≤ n) : (m.slice a n).take k = m.slice a k := by
  obtain ⟨rest, rfl⟩ := Nat.exists_eq_add_of_le h
  rw [slice_add, List.take_append_of_le_length (by simp), List.take_of_length_le (by simp)]

lemma Mem.drop_slice : (m.slice a n).drop k = m.slice (a + k) (n - k) := by
  by_cases h : k ≤ n
  · obtain ⟨rest, rfl⟩ := Nat.exists_eq_add_of_le h
    rw [slice_add, Nat.add_sub_cancel_left, List.drop_append_of_le_length (by simp), List.drop_of_length_le (by simp),
      List.nil_append]
  · rw [Nat.sub_eq_zero_of_le (by omega), slice_zero, List.drop_of_length_le (by simp; omega)]

/-- The rest of what is written. -/
lemma Mem.slice_fill_drop : (m.fill data).slice k (data.length - k) = data.drop k := by
  have h := (m.fill data).drop_slice 0 data.length k
  rwa [slice_fill, Nat.zero_add, eq_comm] at h

lemma Mem.take_drop_prefix : (data.drop k).take n <+: (m.fill data).slice k n := by
  rw [← m.slice_fill_drop]
  by_cases h : n ≤ data.length - k
  · exact ⟨[], by rw [List.append_nil, take_slice _ _ _ _ h]⟩
  · obtain ⟨rest, hrest⟩ := Nat.exists_eq_add_of_le (Nat.le_of_not_le h)
    rw [List.take_of_length_le (by simp; omega), hrest, slice_add]
    exact List.prefix_append _ _

/-- What stands at `a` of a longer piece of memory. -/
lemma Mem.slice_part (pre rest : List Byte) (h : m.slice a (pre ++ data ++ rest).length =
    pre ++ data ++ rest) : m.slice (a + pre.length) data.length = data := by
  simp only [List.length_append, slice_add] at h
  have hpre := List.append_inj_left h (by simp)
  exact List.append_inj_right hpre (by simp)

end memory

def get16 (m : Mem) (s : ℕ) : ℕ := word16 (m s) (m (s + 1))

lemma bytes16_word16 (hi lo : Byte) : bytes16 (word16 hi lo) = [hi, lo] := by
  have hhi : BitVec.ofNat 8 (word16 hi lo / 256) = hi := by
    apply BitVec.eq_of_toNat_eq
    simp only [word16, BitVec.toNat_ofNat]
    omega
  have hlo : BitVec.ofNat 8 (word16 hi lo) = lo := by
    apply BitVec.eq_of_toNat_eq
    simp only [word16, BitVec.toNat_ofNat]
    omega
  rw [bytes16, hhi, hlo]

/-- The memory after `data` is written at `a`. -/
def Mem.write (m : Mem) (a : ℕ) (data : List Byte) : Mem := fun i =>
  if a ≤ i ∧ i < a + data.length then data.getD (i - a) 0 else m i

/-- The bytes stand in the memory from `a` on. -/
def Mem.Holds (m : Mem) (a : ℕ) (bytes : List Byte) : Prop := m.slice a bytes.length = bytes

instance (m : Mem) (a : ℕ) (bytes : List Byte) : Decidable (m.Holds a bytes) := inferInstanceAs (Decidable (_ = _))

section holds
variable {m : Mem} {a n : ℕ} {b : Byte} {bytes rest : List Byte}

lemma Mem.holds_fill (data : List Byte) : (m.fill data).Holds 0 data := m.slice_fill data

@[simp] lemma Mem.holds_nil : m.Holds a [] := rfl

lemma Mem.holds_append : m.Holds a (bytes ++ rest) ↔ m.Holds a bytes ∧ m.Holds (a + bytes.length) rest := by
  rw [Holds, List.length_append, slice_add]
  exact ⟨fun h => List.append_inj h (by simp), fun h => by rw [h.1, h.2]⟩

lemma Mem.holds_cons : m.Holds a (b :: rest) ↔ m a = b ∧ m.Holds (a + 1) rest := by
  rw [Holds, List.length_cons, slice_succ, List.cons.injEq]
  rfl

lemma Mem.Holds.get16 (h : m.Holds a (bytes16 n)) (hn : n < 65536) : get16 m a = n := by
  obtain ⟨hhi, hlo⟩ := Mem.holds_cons.1 h
  rw [IoLibrary.get16, hhi, (Mem.holds_cons.1 hlo).1, word16_bytes16 hn]

lemma Mem.Holds.congr {m' : Mem} (h : m.Holds a bytes) (heq : ∀ i, a ≤ i → i < a + bytes.length → m' i = m i) :
    m'.Holds a bytes := (Mem.slice_congr heq).trans h

lemma Mem.holds_write (m : Mem) (a : ℕ) (data : List Byte) : (m.write a data).Holds a data := by
  apply List.ext_getElem (by simp)
  intro i h₁ h₂
  simp [slice, write, h₂]

/-- What stands before the place of a write stays. -/
lemma Mem.Holds.write (h : m.Holds a bytes) (hend : a + bytes.length ≤ n) : (m.write n rest).Holds a bytes :=
  h.congr fun _ _ hi => if_neg fun hw => Nat.lt_irrefl _ (hw.1.trans_lt (hi.trans_le hend))

lemma Mem.Holds.append_write (h : m.Holds a bytes) (rest : List Byte) :
    (m.write (a + bytes.length) rest).Holds a (bytes ++ rest) :=
  Mem.holds_append.2 ⟨h.write (Nat.le_refl _), Mem.holds_write _ _ _⟩

end holds

abbrev Ip := Vector Byte 4

def ipAt (m : Mem) (p : ℕ) : Ip := #v[m p, m (p + 1), m (p + 2), m (p + 3)]

end IoLibrary
