import IoLibrary.Layout.Init

/-! The buffer layouts that each chip supports, and those for which wizchip_init does what they ask. -/
namespace IoLibrary.Layout
open Effects

/-- The sizes in KB that the size registers of a socket can hold. -/
def Chip.Encodes : Chip → ℕ → Prop
  | .w5100, kb | .w5100s, kb => kb ∈ [1, 2, 4, 8]
  | .w5300, kb => kb ≤ 64
  | .w5200, kb | .w5500, kb | .w6100, kb | .w6300, kb => kb ∈ [0, 1, 2, 4, 8, 16]

/-- The memory for one direction, in KB. -/
def Chip.memory : Chip → ℕ
  | .w5100 | .w5100s => 8
  | .w5200 | .w5500 | .w6100 => 16
  | .w6300 => 32
  | .w5300 => 128

def Chip.sum (c : Chip) (size : ℕ → ℕ) : ℕ := ((List.range c.sockNum).map size).sum

structure Chip.Supports (c : Chip) (size : ℕ → ℕ) : Prop where
  encodes : ∀ i < c.sockNum, c.Encodes (size i)
  fits : c.sum size ≤ c.memory
  unit : c = .w5300 → c.sum size % 8 = 0

/-- A null array asks for nothing. -/
def Supported (c : Chip) (txsize rxsize : Option (ℕ → ℕ)) : Prop :=
  ∀ size, txsize = some size ∨ rxsize = some size → c.Supports size

/-- The size registers, and whether the chip has been accessed. -/
structure Regs where
  bytes : Dir → ℕ → Byte
  words : Dir → ℕ → BitVec 16
  accessed : Bool

def Regs.put (w : Regs) (d : Dir) (r : ℕ) (v : Byte) : Regs :=
  { w with bytes := fun d' r' => if d' = d ∧ r' = r then v else w.bytes d' r', accessed := true }

def Regs.put16 (w : Regs) (d : Dir) (r : ℕ) (v : BitVec 16) : Regs :=
  { w with words := fun d' r' => if d' = d ∧ r' = r then v else w.words d' r', accessed := true }

/-- A chip that keeps what is written to its size registers. Its reset, the checked transfers and the version
are only sure to be in order if it is `sound`. -/
def chip (sound : Bool) : Env Driver Regs Io Io.Res := fun _ w e x w' => match e, x with
  | .lock, _ | .unlock, _ | .load _, _ => w' = w
  | .swReset, x => w'.accessed ∧ (sound → x = 0)
  | .read d r, x => x = w.bytes d r ∧ w' = { w with accessed := true }
  | .write d r v, _ => w' = w.put d r v
  | .read16 d r, x => x = w.words d r ∧ w' = { w with accessed := true }
  | .write16 d r v, _ => w' = w.put16 d r v
  | .writeChecked d r v, x => (sound → x = 0) ∧ (w' = w.put d r v ∨ x ≠ 0 ∧ w' = { w with accessed := true })
  | .version, x => (sound → x = (0, 0x04)) ∧ w' = { w with accessed := true }
  | .phycfgr, x => (sound → x.1 = 0) ∧ w' = { w with accessed := true }

/-- The size in KB that the registers hold for a socket. -/
def Regs.size (w : Regs) (c : Chip) (d : Dir) (i : ℕ) : ℕ :=
  match c with
  | .w5100 | .w5100s => 2 ^ (w.bytes d 0 >>> (2 * i) &&& 0x03).toNat
  | .w5300 => if i % 2 = 1 then (w.words d (i / 2) &&& 0x00FF).toNat else (w.words d (i / 2) >>> 8).toNat
  | .w5200 | .w5500 | .w6100 | .w6300 => (w.bytes d i).toNat

/-- The registers and the caches of one direction have the sizes of the array. -/
def Programmed (c : Chip) (d : Dir) (size : Option (ℕ → ℕ)) (m : Driver) (w : Regs) : Prop :=
  ∀ kb, size = some kb → ∀ i < c.sockNum, w.size c d i = kb i ∧ m.maxCache d i = 1024 * kb i

/-- What wizchip_init owes: it ends; it turns down a layout that the chip does not support before it accesses
the chip; it does not turn down another unless the chip is not in order; and where it returns 0 the registers
and the caches have the sizes. -/
def Configures (c : Chip) (txsize rxsize : Option (ℕ → ℕ)) : Prop :=
  ∃ enough, ∀ turns, enough ≤ turns → ∀ sound m w, w.accessed = false →
    wp (chip sound) (wizchipInit c turns txsize rxsize) (fun r m' w' =>
      (Supported c txsize rxsize → sound → r = 0) ∧
      (¬ Supported c txsize rxsize → r ≠ 0 ∧ w'.accessed = false) ∧
      (r = 0 → Programmed c .tx txsize m' w' ∧ Programmed c .rx rxsize m' w')) (fun _ _ => False) m w

/-- Some array is refused by the check on entry. -/
def Refused (c : Chip) (txsize rxsize : Option (ℕ → ℕ)) : Prop :=
  ∃ size, (txsize = some size ∨ rxsize = some size) ∧ ¬ sizesValid c size

/-- Every size in the arrays is one of `P`. -/
def Sized (P : ℕ → Prop) (c : Chip) (txsize rxsize : Option (ℕ → ℕ)) : Prop :=
  ∀ size, txsize = some size ∨ rxsize = some size → ∀ i < c.sockNum, P (size i)

/-- A layout that is not supported must be refused on entry. A supported one must be without sizes of 1 KB on
the W5500, and without sizes other than 0 elsewhere. -/
def Served (c : Chip) (txsize rxsize : Option (ℕ → ℕ)) : Prop :=
  Supported c txsize rxsize ∧ Sized (fun kb => if c = .w5500 then kb ≠ 1 else kb = 0) c txsize rxsize ∨
    ¬ Supported c txsize rxsize ∧ Refused c txsize rxsize

section totals
variable {valid : ℕ → Bool} {limit n i sum : ℕ} {size : ℕ → ℕ} {c : Chip}

/-- A total is that of valid sizes within the limit. -/
lemma total_eq_some {t : ℕ} (hsum : sum ≤ limit) : total valid limit size n i sum = some t ↔
    (∀ k < n, valid (size (i + k))) ∧ sum + ((List.range n).map fun k => size (i + k)).sum ≤ limit ∧
      t = sum + ((List.range n).map fun k => size (i + k)).sum := by
  induction n generalizing i sum with
  | zero =>
    rw [total, Option.some.injEq]
    exact ⟨fun h => ⟨nofun, hsum, h.symm⟩, fun h => h.2.2.symm⟩
  | succ n ih =>
    have hshift : ((List.range (n + 1)).map fun k => size (i + k)).sum =
        size i + ((List.range n).map fun k => size (i + 1 + k)).sum := by
      rw [List.range_succ_eq_map, List.map_cons, List.sum_cons, List.map_map, Nat.add_zero]
      congr 2
      refine List.map_congr_left fun k _ => congrArg size ?_
      rw [Nat.succ_eq_add_one]
      omega
    have hvalid : (∀ k < n + 1, valid (size (i + k))) ↔ valid (size i) ∧ ∀ k < n, valid (size (i + 1 + k)) := by
      constructor
      · refine fun h => ⟨h 0 (Nat.succ_pos n), fun k hk => ?_⟩
        rw [Nat.add_assoc, Nat.add_comm 1 k]
        exact h (k + 1) (by omega)
      · rintro ⟨hzero, hsucc⟩ k hk
        obtain _ | k := k
        · exact hzero
        · rw [← Nat.add_assoc, Nat.add_right_comm]
          exact hsucc k (by omega)
    rw [total, hshift, hvalid]
    by_cases hhead : valid (size i) ∧ sum + size i ≤ limit
    · rw [if_pos hhead, ih hhead.2, Nat.add_assoc]
      simp only [hhead.1, true_and]
    · rw [if_neg hhead]
      refine iff_of_false nofun fun h => hhead ⟨h.1.1, ?_⟩
      have hle := h.2.1
      omega

lemma sizesValid_iff : sizesValid c size ↔ (∀ i < c.sockNum, sizeKbValid c (size i)) ∧ c.sum size ≤ 16 := by
  rw [sizesValid, Option.isSome_iff_exists]
  simp only [total_eq_some (Nat.zero_le 16), Nat.zero_add, exists_and_left, exists_eq, and_true]
  rfl

end totals

end IoLibrary.Layout
