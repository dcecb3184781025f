import IoLibrary.Registers
import Mathlib.Tactic.Ring

/-! Numbers to base 128, one digit a byte and the lowest first, where the top bit of a byte says that another digit
follows. -/
namespace IoLibrary.Base128

def encode (n : ℕ) : List Byte :=
  if n < 128 then [BitVec.ofNat 8 n] else BitVec.ofNat 8 (n % 128 + 128) :: encode (n / 128)
termination_by n
decreasing_by omega

def value : List Byte → ℕ
  | [] => 0
  | b :: rest => b.toNat % 128 + 128 * value rest

/-- The bytes of one number: all of them but the last say that another one follows. -/
def Numeral : List Byte → Prop
  | [] => False
  | [b] => b.toNat < 128
  | b :: rest => 128 ≤ b.toNat ∧ Numeral rest

variable {n : ℕ} {b : Byte} {bytes bytes' rest rest' : List Byte}

lemma numeral_cons (h : bytes ≠ []) : Numeral (b :: bytes) ↔ 128 ≤ b.toNat ∧ Numeral bytes := by
  cases bytes with
  | nil => exact absurd rfl h
  | cons c bytes => rfl

lemma Numeral.ne_nil (h : Numeral bytes) : bytes ≠ [] := by
  rintro rfl
  exact h

lemma toNat_digit (h : n < 256) : (BitVec.ofNat 8 n).toNat = n := by
  rw [BitVec.toNat_ofNat, Nat.mod_eq_of_lt h]

lemma encode_small (h : n < 128) : encode n = [BitVec.ofNat 8 n] := by rw [encode, if_pos h]

lemma encode_large (h : 128 ≤ n) : encode n = BitVec.ofNat 8 (n % 128 + 128) :: encode (n / 128) := by
  rw [encode, if_neg (by omega)]

lemma numeral_encode (n : ℕ) : Numeral (encode n) := by
  induction n using Nat.strongRecOn with
  | ind n ih =>
    rcases Nat.lt_or_ge n 128 with hsmall | hlarge
    · rw [encode_small hsmall, Numeral, toNat_digit (by omega)]
      exact hsmall
    · have hrest := ih (n / 128) (by omega)
      rw [encode_large hlarge, numeral_cons hrest.ne_nil, toNat_digit (by omega)]
      exact ⟨by omega, hrest⟩

lemma value_encode (n : ℕ) : value (encode n) = n := by
  induction n using Nat.strongRecOn with
  | ind n ih =>
    rcases Nat.lt_or_ge n 128 with hsmall | hlarge
    · rw [encode_small hsmall, value, value, toNat_digit (by omega)]
      omega
    · rw [encode_large hlarge, value, ih (n / 128) (by omega), toNat_digit (by omega)]
      omega

lemma length_encode_pos (n : ℕ) : 0 < (encode n).length :=
  List.length_pos_of_ne_nil (numeral_encode n).ne_nil

lemma value_lt : ∀ bytes : List Byte, value bytes < 128 ^ bytes.length
  | [] => by simp [value]
  | b :: rest => by
    have hrest := value_lt rest
    rw [value, List.length_cons, pow_succ]
    omega

/-- A number takes at most `k` digits exactly when it is below the `k`-th power of the base. -/
lemma length_encode_le {k : ℕ} : ∀ {n : ℕ}, (encode n).length ≤ k + 1 ↔ n < 128 ^ (k + 1) := by
  induction k with
  | zero =>
    intro n
    rcases Nat.lt_or_ge n 128 with hsmall | hlarge
    · simp [encode_small hsmall, hsmall]
    · have hrest := length_encode_pos (n / 128)
      rw [encode_large hlarge, List.length_cons]
      omega
  | succ k ih =>
    intro n
    rcases Nat.lt_or_ge n 128 with hsmall | hlarge
    · have hpow : 128 ^ 1 ≤ 128 ^ (k + 1 + 1) := Nat.pow_le_pow_right (by omega) (by omega)
      rw [encode_small hsmall, List.length_singleton]
      omega
    · have hpow : 128 ^ (k + 1 + 1) = 128 ^ (k + 1) * 128 := pow_succ 128 (k + 1)
      rw [encode_large hlarge, List.length_cons, Nat.add_le_add_iff_right, ih, Nat.div_lt_iff_lt_mul (by omega), hpow]

lemma value_append : value (bytes ++ rest) = value bytes + 128 ^ bytes.length * value rest := by
  induction bytes with
  | nil => simp [value]
  | cons b bytes ih =>
    rw [List.cons_append, value, value, ih, List.length_cons, pow_succ]
    ring

/-- The top bit of a digit says whether there is another one. -/
lemma Numeral.continues_iff (h : Numeral (bytes ++ b :: rest)) : 128 ≤ b.toNat ↔ rest ≠ [] := by
  induction bytes with
  | nil =>
    cases rest with
    | nil => simpa [Numeral] using h
    | cons c rest => simpa using h.1
  | cons c bytes ih =>
    rw [List.cons_append, numeral_cons (by simp)] at h
    exact ih h.2

/-- Where bytes begin with a number, they begin with no other one. -/
lemma Numeral.unique (h : Numeral bytes) (h' : Numeral bytes') (heq : bytes ++ rest = bytes' ++ rest') :
    bytes = bytes' ∧ rest = rest' := by
  induction bytes generalizing bytes' with
  | nil => exact absurd rfl h.ne_nil
  | cons b bytes ih =>
    cases bytes' with
    | nil => exact absurd rfl h'.ne_nil
    | cons b' bytes' =>
      obtain ⟨rfl, htail⟩ := List.cons.inj heq
      rcases bytes with _ | ⟨c, bytes⟩ <;> rcases bytes' with _ | ⟨c', bytes'⟩
      · exact ⟨rfl, htail⟩
      · exact absurd h'.1 (Nat.not_le.2 h)
      · exact absurd h.1 (Nat.not_le.2 h')
      · obtain ⟨hbytes, hrest⟩ := ih h.2 h'.2 htail
        exact ⟨by rw [hbytes], hrest⟩

end IoLibrary.Base128
