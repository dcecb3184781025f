import Mathlib.Data.BitVec
import Mathlib.Data.List.Basic
import Mathlib.Data.Nat.Find
import Mathlib.Tactic.Common

/-! A search for a pattern in one pass, which goes on after a failed attempt behind all that the
attempt has looked at. -/
namespace IoLibrary.Search

variable {α : Type}

/-- The pass over `c`, of which `i` elements are behind it, with `k` elements of the pattern matched. -/
def scan [DecidableEq α] (p : List α) : (k i : ℕ) → List α → Option ℕ
  | _, _, [] => none
  | k, i, x :: c =>
    if p[k]? = some x then
      if k + 1 = p.length then some (i + 1 - (k + 1)) else scan p (k + 1) (i + 1) c
    else scan p 0 (i + 1) c

/-- Failed attempts one after the other: elements of the pattern, and then one that is not its next. -/
inductive Attempts (p : List α) : List α → Prop
  | nil : Attempts p []
  | fail {k : ℕ} {x : α} {c : List α} : k < p.length → p[k]? ≠ some x → Attempts p c →
    Attempts p (p.take k ++ x :: c)

def OccursAt (p c : List α) (i : ℕ) : Prop := p <+: c.drop i

instance [DecidableEq α] (p c : List α) (i : ℕ) : Decidable (OccursAt p c i) :=
  inferInstanceAs (Decidable (p <+: c.drop i))

def FirstAt (p c : List α) (i : ℕ) : Prop := OccursAt p c i ∧ ∀ j < i, ¬ OccursAt p c j

variable {p c c' : List α} {i k k' r : ℕ} {x y : α}

lemma getElem?_attempt (hk : k < p.length) : (p.take k ++ x :: c)[k]? = some x := by
  have hlen : (p.take k).length = k := List.length_take_of_le (Nat.le_of_lt hk)
  rw [List.getElem?_append_right (Nat.le_of_eq hlen), hlen, Nat.sub_self, List.getElem?_cons_zero]

lemma getElem?_matched (hk : k < k') (hk' : k' < p.length) : (p.take k' ++ c)[k]? = p[k]? := by
  have hlen : (p.take k').length = k' := List.length_take_of_le (Nat.le_of_lt hk')
  rw [List.getElem?_append_left (Nat.lt_of_lt_of_eq hk hlen.symm), List.getElem?_take_of_lt hk]

/-- Two attempts that fail on the same elements fail at the same place. -/
lemma attempt_inj (hk : k < p.length) (hk' : k' < p.length) (hx : p[k]? ≠ some x) (hy : p[k']? ≠ some y)
    (h : p.take k ++ x :: c = p.take k' ++ y :: c') : k = k' ∧ x = y ∧ c = c' := by
  obtain rfl : k = k' := by
    rcases Nat.lt_trichotomy k k' with hlt | rfl | hlt
    · exact absurd ((getElem?_matched hlt hk').symm.trans (h ▸ getElem?_attempt hk)) hx
    · rfl
    · exact absurd ((getElem?_matched hlt hk).symm.trans (h ▸ getElem?_attempt hk')) hy
  have htail := List.append_cancel_left h
  exact ⟨rfl, (List.cons.inj htail).1, (List.cons.inj htail).2⟩

lemma take_snoc (hx : p[k]? = some x) : p.take k ++ x :: c = p.take (k + 1) ++ c := by
  rw [List.take_add_one, hx]
  simp

/-- No attempt fails on the pattern itself. -/
lemma Attempts.eq_nil {before after : List α} (h : Attempts p before) (hp : p ++ c = before ++ p ++ after) :
    before = [] := by
  cases h with
  | nil => rfl
  | @fail k x rest hk hx _ =>
    have hat : (p ++ c)[k]? = some x := by
      rw [hp, List.append_assoc, List.append_assoc, List.cons_append]
      exact getElem?_attempt hk
    rw [List.getElem?_append_left hk] at hat
    exact absurd hat hx

/-- The pass finds the pattern where it occurs behind failed attempts only. -/
lemma scan_eq_some_iff [DecidableEq α] (hk : k < p.length) (hi : k ≤ i) : scan p k i c = some r ↔
    ∃ before after, p.take k ++ c = before ++ p ++ after ∧ r = i - k + before.length ∧ Attempts p before := by
  induction c generalizing k i with
  | nil =>
    refine ⟨nofun, fun ⟨before, after, h, _⟩ => ?_⟩
    have hlen := congrArg List.length h
    simp at hlen
    omega
  | cons x c ih =>
    rw [scan]
    split
    · next hx =>
      rw [take_snoc hx]
      split
      · next hend =>
        rw [hend, List.take_length]
        constructor
        · rintro ⟨⟩
          exact ⟨[], c, by simp, by simp; omega, .nil⟩
        · rintro ⟨before, after, h, rfl, hbefore⟩
          obtain rfl := hbefore.eq_nil h
          simp
          omega
      · rw [ih (by omega) (by omega)]
        have : i + 1 - (k + 1) = i - k := by omega
        rw [this]
    · next hx =>
      rw [ih (Nat.zero_lt_of_lt hk) (Nat.zero_le _)]
      constructor
      · rintro ⟨before, after, h, rfl, hbefore⟩
        refine ⟨p.take k ++ x :: before, after, ?_, ?_, .fail hk hx hbefore⟩
        · rw [List.take_zero, List.nil_append] at h
          simp [h]
        · simp
          omega
      · rintro ⟨before, after, h, rfl, hbefore⟩
        cases hbefore with
        | nil =>
          have hat : (p.take k ++ x :: c)[k]? = some x := getElem?_attempt hk
          rw [h, List.nil_append, List.getElem?_append_left hk] at hat
          exact absurd hat hx
        | @fail k' y rest hk' hy hrest =>
          rw [List.append_assoc, List.append_assoc, List.cons_append] at h
          obtain ⟨rfl, rfl, rfl⟩ := attempt_inj hk hk' hx hy h
          refine ⟨rest, after, by simp, ?_, hrest⟩
          simp
          omega

lemma OccursAt.exists_first [DecidableEq α] (h : OccursAt p c i) : ∃ j, FirstAt p c j :=
  ⟨Nat.find ⟨i, h⟩, Nat.find_spec ⟨i, h⟩, fun _ hj => Nat.find_min ⟨i, h⟩ hj⟩

lemma FirstAt.place (h : FirstAt p c i) : i + p.length ≤ c.length := by
  obtain ⟨hoccurs, hfirst⟩ := h
  have hlength := hoccurs.length_le
  rw [List.length_drop] at hlength
  by_cases hi : i ≤ c.length
  · omega
  · have hp : p = [] := List.length_eq_zero_iff.1 (by omega)
    rw [hp] at hfirst
    exact absurd List.nil_prefix (hfirst 0 (by omega))

lemma FirstAt.unique {j : ℕ} (h : FirstAt p c i) (h' : FirstAt p c j) : i = j := by
  rcases Nat.lt_trichotomy i j with hlt | rfl | hlt
  · exact absurd h.1 (h'.2 i hlt)
  · rfl
  · exact absurd h'.1 (h.2 j hlt)

/-- The first occurrence stays the first in a longer string. -/
lemma FirstAt.append (h : FirstAt p c i) (c' : List α) : FirstAt p (c ++ c') i := by
  have hplace := h.place
  have hdrop {j : ℕ} (hj : j ≤ i) : OccursAt p (c ++ c') j ↔ OccursAt p c j := by
    rw [OccursAt, OccursAt, List.drop_append_of_le_length (by omega)]
    refine ⟨fun hlong => ?_, fun hshort => hshort.trans (List.prefix_append _ _)⟩
    exact List.prefix_of_prefix_length_le hlong (List.prefix_append _ _) (by rw [List.length_drop]; omega)
  exact ⟨(hdrop (Nat.le_refl i)).2 h.1, fun j hj hoccurs => h.2 j hj ((hdrop (by omega)).1 hoccurs)⟩

lemma occursAt_iff (hp : p ≠ []) : OccursAt p c r ↔ ∃ before after, c = before ++ p ++ after ∧ before.length = r := by
  constructor
  · rintro ⟨after, h⟩
    have hr : r ≤ c.length := by
      by_contra hlt
      rw [List.drop_eq_nil_of_le (by omega)] at h
      exact hp (List.append_eq_nil_iff.1 h).1
    refine ⟨c.take r, after, ?_, List.length_take_of_le hr⟩
    rw [List.append_assoc, h, List.take_append_drop]
  · rintro ⟨before, after, rfl, rfl⟩
    exact ⟨after, by rw [List.append_assoc, List.drop_left]⟩

/-- What the pass finds: an occurrence with failed attempts before it. -/
theorem scan_iff [DecidableEq α] (hp : p ≠ []) : scan p 0 0 c = some r ↔ OccursAt p c r ∧ Attempts p (c.take r) := by
  rw [scan_eq_some_iff (List.length_pos_iff.2 hp) (Nat.le_refl 0), occursAt_iff hp]
  constructor
  · rintro ⟨before, after, h, rfl, hbefore⟩
    rw [List.take_zero, List.nil_append] at h
    refine ⟨⟨before, after, h, by simp⟩, ?_⟩
    rw [h, List.append_assoc, Nat.sub_self, Nat.zero_add, List.take_left]
    exact hbefore
  · rintro ⟨⟨before, after, rfl, rfl⟩, h⟩
    rw [List.append_assoc, List.take_left] at h
    exact ⟨before, after, by simp, by simp, h⟩

end IoLibrary.Search
