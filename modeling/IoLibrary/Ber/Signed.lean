import Mathlib.Data.Int.Notation
import Mathlib.Tactic.Ring
import IoLibrary.Ber.Element

/-! Numbers with a sign, in two's complement. -/
namespace IoLibrary.Ber

/-- The number that octets say, the first bit of the first being its sign. -/
def signed (bytes : List (BitVec 8)) : ℤ := (number bytes : ℤ).bmod (256 ^ bytes.length)

/-- A number that `n` octets can say. -/
def InOctets (n : ℕ) (z : ℤ) : Prop := -(256 ^ n : ℕ) ≤ z * 2 ∧ z * 2 < (256 ^ n : ℕ)

instance (n : ℕ) (z : ℤ) : Decidable (InOctets n z) := by
  unfold InOctets
  infer_instance

/-- `n` octets of a word, with its sign in front where it has fewer. -/
def shifted {w : ℕ} (x : BitVec w) (n : ℕ) : List (BitVec 8) :=
  (List.range n).map fun j => (x.sshiftRight ((n - j - 1) * 8)).setWidth 8

section octets
variable {n : ℕ} {z : ℤ}

lemma InOctets.bmod (h : InOctets n z) : z.bmod (256 ^ n) = z := Int.bmod_eq_of_le_mul_two h.1 h.2

lemma inOctets_bmod (hn : 0 < n) (z : ℤ) : InOctets n (z.bmod (256 ^ n)) := by
  have hpos : 0 < 256 ^ n := Nat.pow_pos (by decide)
  obtain ⟨m, hm⟩ : 2 ∣ 256 ^ n := dvd_pow (by decide) (by omega)
  have hlow := Int.le_bmod (x := z) hpos
  have hhigh := Int.bmod_lt (x := z) hpos
  rw [InOctets]
  omega

lemma inOctets_mono {k : ℕ} (hkn : k ≤ n) (h : InOctets k z) : InOctets n z := by
  have hpow : ((256 ^ k : ℕ) : ℤ) ≤ (256 ^ n : ℕ) :=
    Int.ofNat_le.2 (Nat.pow_le_pow_right (by decide) hkn)
  exact ⟨(Int.neg_le_neg hpow).trans h.1, h.2.trans_le hpow⟩

/-- The last octets of a number say it if they can. -/
lemma bmod_signed {bytes : List (BitVec 8)} {k : ℕ} (hpos : 0 < k) (hk : k ≤ bytes.length) :
    (number bytes : ℤ).bmod (256 ^ k) = signed bytes ↔ InOctets k (signed bytes) := by
  have hlast : (signed bytes).bmod (256 ^ k) = (number bytes : ℤ).bmod (256 ^ k) :=
    Int.bmod_bmod_of_dvd (Nat.pow_dvd_pow 256 hk)
  rw [← hlast]
  constructor
  · intro h
    rw [← h]
    exact inOctets_bmod hpos _
  · exact InOctets.bmod

end octets

section word
variable {w : ℕ} (x : BitVec w) (n : ℕ)

@[simp] lemma length_shifted : (shifted x n).length = n := by
  rw [shifted, List.length_map, List.length_range]

lemma shifted_succ : shifted x (n + 1) = (x.sshiftRight (n * 8)).setWidth 8 :: shifted x n := by
  rw [shifted, List.range_succ_eq_map, List.map_cons, List.map_map, shifted]
  congr 1
  apply List.map_congr_left
  intro j _
  have hj : n + 1 - (j + 1) - 1 = n - j - 1 := by omega
  rw [Function.comp, Nat.succ_eq_add_one, hj]

lemma toNat_low (hw : 8 ≤ w) : ((x.setWidth 8).toNat : ℤ) = x.toInt % 256 := by
  have hdvd : (256 : ℤ) ∣ (2 ^ w : ℕ) := Int.natCast_dvd_natCast.2 (Nat.pow_dvd_pow 2 hw)
  have hlow : ((x.setWidth 8).toNat : ℤ) = (x.toNat : ℤ) % 256 := by
    rw [BitVec.toNat_setWidth]
    rfl
  rw [hlow, BitVec.toInt_eq_toNat_bmod, ← Int.emod_emod_of_dvd _ hdvd, ← Int.bmod_emod,
    Int.emod_emod_of_dvd _ hdvd]

lemma number_shifted (hw : 8 ≤ w) : (number (shifted x n) : ℤ) = x.toInt % (256 ^ n : ℕ) := by
  induction n with
  | zero => simp [shifted, number]
  | succ n ih =>
    have hfirst : (((x.sshiftRight (n * 8)).setWidth 8).toNat : ℤ) = x.toInt / (256 ^ n : ℕ) % 256 := by
      rw [toNat_low _ hw, BitVec.toInt_sshiftRight, Int.shiftRight_eq_div_pow, Nat.mul_comm, Nat.pow_mul]
    have hdiv : x.toInt / ((256 ^ n : ℕ) * 256) = x.toInt / (256 ^ n : ℕ) / 256 :=
      (Int.ediv_ediv_of_nonneg (Int.natCast_nonneg _)).symm
    rw [shifted_succ, number_cons, length_shifted, Int.natCast_add, Int.natCast_mul, ih, hfirst,
      Nat.pow_succ, Int.natCast_mul]
    change _ = x.toInt % ((256 ^ n : ℕ) * 256)
    rw [Int.emod_def, Int.emod_def _ ((256 ^ n : ℕ) : ℤ), Int.emod_def _ ((256 ^ n : ℕ) * 256), hdiv]
    ring

/-- The octets of a word say it, as far as they go. -/
lemma signed_shifted (hw : 8 ≤ w) : signed (shifted x n) = x.toInt.bmod (256 ^ n) := by
  rw [signed, number_shifted x n hw, length_shifted, Int.emod_bmod]

end word

end IoLibrary.Ber
