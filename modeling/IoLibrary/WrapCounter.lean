import Mathlib.Data.BitVec
import Mathlib.Data.Nat.ModEq
import Mathlib.Tactic.Common

/-! Totals of a counter that wraps: a counter of period `N` is sampled, its wraps are added
up in a base, and the total is kept modulo a `M` of at least one period. -/
namespace IoLibrary.WrapCounter

structure Total where
  base : ℕ
  last : ℕ
  deriving DecidableEq, Repr

/-- A sample below the last one is a wrap. -/
def Total.sample (N M : ℕ) (s : Total) (raw : ℕ) : Total :=
  ⟨if raw < s.last then (s.base + N) % M else s.base, raw⟩

def Total.value (M : ℕ) (s : Total) : ℕ := (s.base + s.last) % M

variable {N M c t t' : ℕ} {s : Total}

/-- `s` is the total of a counter whose true time is `t`, less the constant `c`. -/
structure Tracks (N M c t : ℕ) (s : Total) : Prop where
  last : s.last = t % N
  total : s.base + s.last + c ≡ t [MOD M]

/-- From one sample to the next within a period, the counter wraps at most once. -/
lemma mod_add_gap (le : t ≤ t') (close : t' < t + N) :
    t % N + (t' - t) = (if t' % N < t % N then N else 0) + t' % N := by
  obtain ⟨gap, rfl⟩ := Nat.exists_eq_add_of_le le
  have hgap : gap < N := Nat.add_lt_add_iff_left.1 close
  have hlt : t % N < N := Nat.mod_lt _ (Nat.zero_lt_of_lt hgap)
  rw [Nat.add_sub_cancel_left, ← Nat.mod_add_mod]
  by_cases hwrap : t % N + gap < N
  · rw [Nat.mod_eq_of_lt hwrap, if_neg (by omega), Nat.zero_add]
  · rw [Nat.mod_eq_sub_mod (Nat.le_of_not_lt hwrap),
      Nat.mod_eq_of_lt (by omega : t % N + gap - N < N), if_pos (by omega)]
    omega

/-- The first sample fixes the constant: the whole periods before it. -/
lemma tracks_first (t : ℕ) : Tracks N M (t / N * N) t (Total.sample N M ⟨0, 0⟩ (t % N)) := by
  refine ⟨rfl, ?_⟩
  have hsplit : 0 + t % N + t / N * N = t := by
    rw [Nat.zero_add, Nat.mul_comm]
    exact Nat.mod_add_div t N
  simp only [Total.sample, Nat.not_lt_zero, if_false, hsplit]
  exact Nat.ModEq.refl t

/-- The step rule: a sample less than a period after the last keeps the total. -/
theorem Tracks.sample (h : Tracks N M c t s) (le : t ≤ t') (close : t' < t + N) :
    Tracks N M c t' (s.sample N M (t' % N)) := by
  refine ⟨rfl, ?_⟩
  have hgap := mod_add_gap le close
  have htotal : s.base + s.last + c + (t' - t) ≡ t' [MOD M] := by
    have := h.total.add_right (t' - t)
    rwa [Nat.add_sub_cancel' le] at this
  simp only [Total.sample, h.last]
  rw [h.last] at htotal
  by_cases hwrap : t' % N < t % N
  · rw [if_pos hwrap] at hgap ⊢
    have hsum : s.base + N + (t' % N + c) = s.base + t % N + c + (t' - t) := by omega
    calc (s.base + N) % M + t' % N + c
        = (s.base + N) % M + (t' % N + c) := Nat.add_assoc _ _ _
      _ ≡ s.base + N + (t' % N + c) [MOD M] := (Nat.mod_modEq _ _).add_right _
      _ = s.base + t % N + c + (t' - t) := hsum
      _ ≡ t' [MOD M] := htotal
  · rw [if_neg hwrap] at hgap ⊢
    have hsum : s.base + t' % N + c = s.base + t % N + c + (t' - t) := by omega
    rw [hsum]
    exact htotal

/-- What the total of a tracked counter is worth. -/
theorem Tracks.value (h : Tracks N M c t s) (le : c ≤ t) : s.value M = (t - c) % M := by
  have htotal : s.base + s.last + c ≡ t - c + c [MOD M] := by
    rw [Nat.sub_add_cancel le]
    exact h.total
  exact Nat.ModEq.add_right_cancel' c htotal

end IoLibrary.WrapCounter
