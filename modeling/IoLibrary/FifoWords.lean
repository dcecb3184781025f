import Mathlib.Data.BitVec
import Mathlib.Data.List.Basic
import Mathlib.Tactic.Common

/-! Lists that go through a FIFO two elements at a time, the last one padded. -/
namespace IoLibrary.FifoWords

variable {α β : Type} (f : α → α → β) (pad : α)

/-- The words of a list. -/
def words : List α → List β
  | [] => []
  | [a] => [f a pad]
  | a :: b :: l => f a b :: words l

@[simp] lemma words_nil : words f pad [] = [] := rfl

lemma words_cons (a : α) (l : List α) : words f pad (a :: l) = f a (l.headD pad) :: words f pad l.tail := by
  cases l <;> rfl

@[simp] lemma length_words (l : List α) : (words f pad l).length = (l.length + 1) / 2 := by
  induction l using words.induct with
  | case1 => simp [words]
  | case2 a => simp [words]
  | case3 a b l ih =>
    simp only [words, List.length_cons, ih]
    omega

/-- Whole words go with two elements each. -/
lemma drop_words (n : ℕ) (l : List α) : (words f pad l).drop n = words f pad (l.drop (2 * n)) := by
  induction n generalizing l with
  | zero => rfl
  | succ n ih =>
    cases l with
    | nil => simp
    | cons a l =>
      rw [words_cons, List.drop_succ_cons, ih, ← List.drop_one, List.drop_drop, show 2 * (n + 1) = (1 + 2 * n) + 1 by omega,
        List.drop_succ_cons]

end IoLibrary.FifoWords
