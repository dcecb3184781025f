import Mathlib.Data.BitVec
import Mathlib.Data.Nat.ModEq
import Mathlib.Tactic.Common

/-! Ring memories: cells indexed modulo the size of the ring, read and written along
pointers that never wrap themselves. -/
namespace IoLibrary.RingMemory

variable {α : Type} {S : ℕ}

/-- The `n` cells from `p` on. -/
def window (S : ℕ) (mem : ℕ → α) (p n : ℕ) : List α := (List.range n).map fun i => mem ((p + i) % S)

/-- Write `data` cell by cell from `p` on. -/
def store (S : ℕ) (mem : ℕ → α) (p : ℕ) : List α → ℕ → α
  | [] => mem
  | d :: ds => store S (Function.update mem (p % S) d) (p + 1) ds

@[simp] lemma length_window (mem : ℕ → α) (p n : ℕ) : (window S mem p n).length = n := by
  simp [window]

lemma window_succ (mem : ℕ → α) (p n : ℕ) :
    window S mem p (n + 1) = window S mem p n ++ [mem ((p + n) % S)] := by
  simp [window, List.range_succ]

lemma window_cons (mem : ℕ → α) (p n : ℕ) :
    window S mem p (n + 1) = mem (p % S) :: window S mem (p + 1) n := by
  simp [window, List.range_succ_eq_map, Nat.add_assoc, Nat.add_comm 1]

lemma drop_window (mem : ℕ → α) (p n k : ℕ) :
    (window S mem p n).drop k = window S mem (p + k) (n - k) := by
  refine List.ext_getElem (by simp) fun i h₁ h₂ => ?_
  simp [window, Nat.add_assoc]

lemma take_window (mem : ℕ → α) (p : ℕ) {n k : ℕ} (h : k ≤ n) : (window S mem p n).take k = window S mem p k := by
  rw [window, window, ← List.map_take, List.take_range, Nat.min_eq_left h]

/-- Pointers that agree modulo the size see the same window. -/
lemma window_congr (mem : ℕ → α) {p q : ℕ} (h : p ≡ q [MOD S]) (n : ℕ) :
    window S mem p n = window S mem q n := by
  refine List.map_congr_left fun i _ => ?_
  rw [(h.add_right i : (p + i) % S = (q + i) % S)]

lemma store_congr (mem : ℕ → α) {p q : ℕ} (h : p ≡ q [MOD S]) (data : List α) :
    store S mem p data = store S mem q data := by
  induction data generalizing mem p q with
  | nil => rfl
  | cons d ds ih =>
    have hpq : p % S = q % S := h
    simp only [store, hpq]
    exact ih _ (h.add_right 1)

/-- Two cells less than a turn apart are different. -/
lemma index_ne {p i j : ℕ} (hij : i < j) (hj : j < S) : (p + i) % S ≠ (p + j) % S := by
  intro h
  have hmod : i ≡ j [MOD S] := Nat.ModEq.add_left_cancel' p h
  exact absurd (hmod.eq_of_lt_of_lt (hij.trans hj) hj) (Nat.ne_of_lt hij)

/-- What is stored just past a window extends it, as long as the ring holds both. -/
theorem window_store (mem : ℕ → α) (p n : ℕ) (data : List α) (h : n + data.length ≤ S) :
    window S (store S mem (p + n) data) p (n + data.length) = window S mem p n ++ data := by
  induction data generalizing mem n with
  | nil => simp [store]
  | cons d ds ih =>
    have hlen : n + 1 + ds.length ≤ S := by
      simp only [List.length_cons] at h
      omega
    have hsame : window S (Function.update mem ((p + n) % S) d) p n = window S mem p n := by
      refine List.map_congr_left fun i hi => ?_
      have hi : i < n := List.mem_range.1 hi
      exact Function.update_of_ne (index_ne hi (by omega)) _ _
    have hstep := ih (Function.update mem ((p + n) % S) d) (n + 1) hlen
    rw [window_succ, hsame, Function.update_self, Nat.add_right_comm, ← Nat.add_assoc] at hstep
    simpa [store, Nat.add_assoc, Nat.add_comm ds.length 1] using hstep

/-- Cells off the stored window keep their values. -/
lemma store_of_outside (mem : ℕ → α) {p q : ℕ} (data : List α)
    (h : ∀ i < data.length, q ≠ (p + i) % S) : store S mem p data q = mem q := by
  induction data generalizing mem p with
  | nil => rfl
  | cons d ds ih =>
    have hhead : q ≠ p % S := h 0 (by simp)
    have htail : ∀ i < ds.length, q ≠ (p + 1 + i) % S := by
      intro i hi
      have := h (i + 1) (by simpa using hi)
      rwa [show p + (i + 1) = p + 1 + i by omega] at this
    rw [store, ih _ htail, Function.update_of_ne hhead]

/-- What is stored is what its window holds, as long as it fits the ring. -/
lemma window_store_self (mem : ℕ → α) (p : ℕ) (data : List α) (h : data.length ≤ S) :
    window S (store S mem p data) p data.length = data := by
  simpa [window] using window_store mem p 0 data (by simpa using h)

section pointers
variable {w k : ℕ} {rd wr : BitVec w}

/-- The cells between a read and a write pointer, which wrap around 2 ^ w. -/
def queue (S : ℕ) (mem : ℕ → α) (rd wr : BitVec w) : List α := window S mem rd.toNat (wr - rd).toNat

@[simp] lemma length_queue (mem : ℕ → α) : (queue S mem rd wr).length = (wr - rd).toNat :=
  length_window mem _ _

lemma toNat_add_modEq (hS : S ∣ 2 ^ w) (p : BitVec w) (k : ℕ) :
    (p + BitVec.ofNat w k).toNat ≡ p.toNat + k [MOD S] := by
  apply Nat.ModEq.of_dvd hS
  simp [Nat.ModEq, BitVec.toNat_add]

lemma toNat_sub_advance (hk : k ≤ (wr - rd).toNat) :
    (wr - (rd + BitVec.ofNat w k)).toNat = (wr - rd).toNat - k := by
  have hlt : k % 2 ^ w = k := Nat.mod_eq_of_lt (hk.trans_lt (wr - rd).isLt)
  have hle : BitVec.ofNat w k ≤ wr - rd := by
    rw [BitVec.le_def, BitVec.toNat_ofNat, hlt]
    exact hk
  rw [sub_add_eq_sub_sub, BitVec.toNat_sub_of_le hle, BitVec.toNat_ofNat, hlt]

lemma toNat_advance_sub (h : (wr - rd).toNat + k < 2 ^ w) :
    (wr + BitVec.ofNat w k - rd).toNat = (wr - rd).toNat + k := by
  have hlt : k % 2 ^ w = k := Nat.mod_eq_of_lt (by omega)
  rw [add_sub_right_comm, BitVec.toNat_add, BitVec.toNat_ofNat, hlt, Nat.mod_eq_of_lt h]

lemma write_modEq (hS : S ∣ 2 ^ w) : wr.toNat ≡ rd.toNat + (wr - rd).toNat [MOD S] := by
  have hsum : rd + BitVec.ofNat w (wr - rd).toNat = wr := by
    rw [BitVec.ofNat_toNat, BitVec.setWidth_eq, add_sub_cancel]
  have h := toNat_add_modEq hS rd (wr - rd).toNat
  rw [hsum] at h
  exact h

/-- Moving the read pointer takes the oldest cells off. -/
lemma queue_advance (hS : S ∣ 2 ^ w) (mem : ℕ → α) (hk : k ≤ (wr - rd).toNat) :
    queue S mem (rd + BitVec.ofNat w k) wr = (queue S mem rd wr).drop k := by
  rw [queue, queue, drop_window, toNat_sub_advance hk]
  exact window_congr mem (toNat_add_modEq hS rd k) _

/-- Storing at the write pointer and moving it puts new cells behind the others. -/
lemma queue_store (hS : S ∣ 2 ^ w) (hlt : S < 2 ^ w) (mem : ℕ → α) {data : List α}
    (h : (wr - rd).toNat + data.length ≤ S) :
    queue S (store S mem wr.toNat data) rd (wr + BitVec.ofNat w data.length) =
      queue S mem rd wr ++ data := by
  rw [queue, queue, toNat_advance_sub (h.trans_lt hlt), store_congr mem (write_modEq hS),
    window_store mem _ _ _ h]

end pointers

section regions
variable {N base p n i : ℕ} {mem mem' : ℕ → α} {data : List α}

/-- The cells from `p` on of a region of `S` cells, counted around it. -/
def around (S base : ℕ) (mem : ℕ → α) (p n : ℕ) : List α := (List.range n).map fun i => mem (base + (p + i) % S)

/-- `data` lies in the region from `p` on, and nothing else has changed. -/
structure Stored (S base p : ℕ) (data : List α) (mem mem' : ℕ → α) : Prop where
  bytes : around S base mem' p data.length = data
  kept : ∀ a, (∀ i < data.length, a ≠ base + (p + i) % S) → mem' a = mem a

lemma index_before (hi : p % S + i < S) : (p + i) % S = p % S + i := by
  rw [← Nat.mod_add_mod, Nat.mod_eq_of_lt hi]

lemma index_after (hi : S ≤ p % S + i) (hS : i < S) : (p + i) % S = p % S + i - S := by
  have hlt : p % S < S := Nat.mod_lt _ (Nat.zero_lt_of_lt hS)
  rw [← Nat.mod_add_mod, Nat.mod_eq_sub_mod hi, Nat.mod_eq_of_lt (by omega)]

lemma around_once (mem : ℕ → α) (hN : base + S ≤ N) (hn : p % S + n ≤ S) : window N mem (base + p % S) n = around S base mem p n := by
  refine List.map_congr_left fun i hi => ?_
  have hi : i < n := List.mem_range.1 hi
  rw [index_before (p := p) (by omega), Nat.mod_eq_of_lt (show base + p % S + i < N by omega), Nat.add_assoc]

/-- Up to the end of the region, and then from its start on. -/
lemma around_twice (mem : ℕ → α) (hN : base + S ≤ N) (hS : 0 < S) (hn : n ≤ S) (hover : S ≤ p % S + n) :
    window N mem (base + p % S) (S - p % S) ++ window N mem base (n - (S - p % S)) = around S base mem p n := by
  have hlt : p % S < S := Nat.mod_lt _ hS
  obtain ⟨k, hk⟩ : ∃ k, n = (S - p % S) + k := Nat.exists_eq_add_of_le (by omega)
  have htail : window N mem base k = (List.range k).map fun i => mem (base + (p + (S - p % S + i)) % S) := by
    refine List.map_congr_left fun i hi => ?_
    have hi : i < k := List.mem_range.1 hi
    rw [index_after (p := p) (by omega) (by omega), Nat.mod_eq_of_lt (show base + i < N by omega),
      show p % S + (S - p % S + i) - S = i by omega]
  rw [around_once mem hN (by omega), show n - (S - p % S) = k by omega, htail, hk, around, around, List.range_add,
    List.map_append, List.map_map]
  rfl

lemma stored_once (mem : ℕ → α) (data : List α) (hN : base + S ≤ N) (hn : p % S + data.length ≤ S) :
    Stored S base p data mem (store N mem (base + p % S) data) := by
  refine ⟨?_, fun a ha => store_of_outside mem data fun i hi => ?_⟩
  · rw [← around_once _ hN hn]
    exact window_store_self mem _ data (by omega)
  · rw [Nat.mod_eq_of_lt (show base + p % S + i < N by omega), Nat.add_assoc, ← index_before (by omega)]
    exact ha i hi

lemma stored_twice (mem : ℕ → α) (hN : base + S ≤ N) (hS : 0 < S) (hn : data.length ≤ S) (hover : S ≤ p % S + data.length) :
    Stored S base p data mem (store N (store N mem (base + p % S) (data.take (S - p % S))) base (data.drop (S - p % S))) := by
  have hlt : p % S < S := Nat.mod_lt _ hS
  have htake : (data.take (S - p % S)).length = S - p % S := List.length_take_of_le (by omega)
  have hdrop : (data.drop (S - p % S)).length = data.length - (S - p % S) := List.length_drop
  refine ⟨?_, fun a ha => ?_⟩
  · -- the second part ends before the first begins
    have hfirst : window N (store N (store N mem (base + p % S) (data.take (S - p % S))) base (data.drop (S - p % S)))
        (base + p % S) (S - p % S) = data.take (S - p % S) := by
      have hsame : window N (store N (store N mem (base + p % S) (data.take (S - p % S))) base (data.drop (S - p % S)))
          (base + p % S) (S - p % S) = window N (store N mem (base + p % S) (data.take (S - p % S))) (base + p % S) (S - p % S) := by
        refine List.map_congr_left fun i hi => store_of_outside _ _ fun j hj => ?_
        have hi : i < S - p % S := List.mem_range.1 hi
        rw [hdrop] at hj
        rw [Nat.mod_eq_of_lt (show base + p % S + i < N by omega), Nat.mod_eq_of_lt (show base + j < N by omega)]
        omega
      have hself := window_store_self (S := N) mem (base + p % S) (data.take (S - p % S)) (by omega)
      rw [htake] at hself
      rw [hsame, hself]
    have hsecond := window_store_self (S := N) (store N mem (base + p % S) (data.take (S - p % S))) base
      (data.drop (S - p % S)) (by omega)
    rw [hdrop] at hsecond
    rw [← around_twice _ hN hS hn hover, hfirst, hsecond, List.take_append_drop]
  · rw [store_of_outside _ _ fun j hj => ?_, store_of_outside _ _ fun j hj => ?_]
    · rw [Nat.mod_eq_of_lt (show base + p % S + j < N by omega), Nat.add_assoc, ← index_before (by omega)]
      exact ha j (by omega)
    · have hindex := ha (S - p % S + j) (by omega)
      rw [index_after (by omega) (by omega), show p % S + (S - p % S + j) - S = j by omega] at hindex
      rwa [Nat.mod_eq_of_lt (show base + j < N by omega)]
end regions

end IoLibrary.RingMemory
