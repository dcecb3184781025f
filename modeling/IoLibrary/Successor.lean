import Mathlib.Data.BitVec
import Mathlib.Data.List.Basic
import Mathlib.Data.List.Perm.Basic
import Mathlib.Order.Basic
import Mathlib.Tactic.Common

/-! Walks over a list by places. The answer to an element is what stands behind it; where the list is in
order, this is the next greater one. -/
namespace IoLibrary.Successor

variable {α β : Type}

section lists
variable {l : List α} {y : α} {p : ℕ}

lemma drop_of_getElem? (h : l[p]? = some y) : l.drop p = y :: l.drop (p + 1) := by
  obtain ⟨hp, rfl⟩ := List.getElem?_eq_some_iff.1 h
  exact List.drop_eq_getElem_cons hp

lemma drop_of_none (h : l[p]? = none) : l.drop p = [] :=
  List.drop_eq_nil_of_le (List.getElem?_eq_none_iff.1 h)

lemma take_of_getElem? (h : l[p]? = some y) : l.take (p + 1) = l.take p ++ [y] := by
  rw [List.take_add_one, h]
  rfl

end lists

section places
variable [DecidableEq α]

/-- The place behind `x`, or the first place if `x` is not in the list. -/
def place (l : List α) (x : α) : ℕ := (l.findIdx? (· = x)).elim 0 (· + 1)

variable {l : List α} {x y : α} {p : ℕ}

/-- The first place of `y` counts. -/
lemma place_of_first (h : l[p]? = some y) (hfirst : ∀ z ∈ l.take p, z ≠ y) : place l y = p + 1 := by
  obtain ⟨hp, hy⟩ := List.getElem?_eq_some_iff.1 h
  have hfind : l.findIdx? (fun z => decide (z = y)) = some p := by
    rw [List.findIdx?_eq_some_iff_getElem]
    refine ⟨hp, decide_eq_true hy, fun j hj => ?_⟩
    have hmem : l[j] ∈ l.take p := List.mem_take_iff_getElem.2 ⟨j, by omega, rfl⟩
    simpa using hfirst _ hmem
  rw [place, hfind]
  rfl

lemma place_le (h : l[p]? = some y) : ∃ j, place l y = j + 1 ∧ j ≤ p := by
  obtain ⟨hp, hy⟩ := List.getElem?_eq_some_iff.1 h
  rw [place]
  cases hfind : l.findIdx? (fun z => decide (z = y)) with
  | none =>
    rw [List.findIdx?_eq_none_iff] at hfind
    exact absurd (hfind y (hy ▸ List.getElem_mem hp)) (by simp)
  | some j =>
    rw [List.findIdx?_eq_some_iff_getElem] at hfind
    obtain ⟨_, _, hfirst⟩ := hfind
    refine ⟨j, rfl, Nat.le_of_not_lt fun hlt => ?_⟩
    exact hfirst p hlt (decide_eq_true hy)

lemma place_of_not_mem (h : x ∉ l) : place l x = 0 := by
  have hfind : l.findIdx? (fun z => decide (z = x)) = none := by
    rw [List.findIdx?_eq_none_iff]
    intro z hz
    simpa using ne_of_mem_of_not_mem hz h
  rw [place, hfind]
  rfl

lemma place_of_mem (h : x ∈ l) : ∃ j, place l x = j + 1 ∧ l[j]? = some x := by
  rw [place]
  cases hfind : l.findIdx? (fun z => decide (z = x)) with
  | none =>
    rw [List.findIdx?_eq_none_iff] at hfind
    exact absurd (hfind x h) (by simp)
  | some j =>
    rw [List.findIdx?_eq_some_iff_getElem] at hfind
    obtain ⟨hj, hx, -⟩ := hfind
    exact ⟨j, rfl, List.getElem?_eq_some_iff.2 ⟨hj, of_decide_eq_true hx⟩⟩

end places

/-- At most `n` questions, each for the last answer; `true` if the last one has no answer. -/
inductive Walk (answers : α → Option α → Prop) : ℕ → α → List α → Bool → Prop
  | stops {x : α} : Walk answers 0 x [] false
  | ends {n : ℕ} {x : α} (last : answers x none) : Walk answers (n + 1) x [] true
  | goes {n : ℕ} {x y : α} {ys : List α} {done : Bool} (next : answers x (some y)) (rest : Walk answers n y ys done) :
      Walk answers (n + 1) x (y :: ys) done

lemma Walk.mono {answers answers' : α → Option α → Prop} (h : ∀ x r, answers x r → answers' x r) {n : ℕ} {x : α}
    {ys : List α} {done : Bool} (hwalk : Walk answers n x ys done) : Walk answers' n x ys done := by
  induction hwalk with
  | stops => exact .stops
  | ends last => exact .ends (h _ _ last)
  | goes next rest ih => exact .goes (h _ _ next) ih

section order
variable [DecidableEq α] [LinearOrder β]
variable (key : α → β) (l : List α) (x : α)

/-- The element with the smallest key above that of `x`. -/
structure IsNext (y : α) : Prop where
  listed : y ∈ l
  greater : key x < key y
  least : ∀ z ∈ l, key x < key z → key y ≤ key z

def IsLast : Prop := ∀ z ∈ l, key z ≤ key x

/-- The right answer. -/
def Right : Option α → Prop
  | some y => IsNext key l x y
  | none => IsLast key l x

/-- Behind `x` the keys increase from that of `x` on, before it none is above. -/
structure Ordered : Prop where
  behind : (x :: l.drop (place l x)).Pairwise fun y z => key y < key z
  before : ∀ z ∈ l.take (place l x), key z ≤ key x

/-- A walk to the end, to each element above `x` exactly once and in their order. -/
structure Visits (ys : List α) (done : Bool) : Prop where
  ends : done = true
  increasing : (x :: ys).Pairwise fun y z => key y < key z
  each : ys.Perm (l.filter fun z => key x < key z)

end order

section walks
variable [DecidableEq α] [LinearOrder β] {key : α → β} {l : List α} {x y : α} {n : ℕ} {ys : List α} {done : Bool}

/-- What stands behind `x` is what is above it. -/
lemma Ordered.filter_eq (h : Ordered key l x) : (l.filter fun z => key x < key z) = l.drop (place l x) := by
  have hbefore : ((l.take (place l x)).filter fun z => key x < key z) = [] := by
    rw [List.filter_eq_nil_iff]
    intro z hz
    simpa using h.before z hz
  have hbehind : ((l.drop (place l x)).filter fun z => key x < key z) = l.drop (place l x) := by
    rw [List.filter_eq_self]
    intro z hz
    simpa using (List.pairwise_cons.1 h.behind).1 z hz
  conv_lhs => rw [← List.take_append_drop (place l x) l, List.filter_append, hbefore, hbehind, List.nil_append]

/-- The order goes on behind the next element. -/
lemma Ordered.next (h : Ordered key l x) (hy : l[place l x]? = some y) : place l y = place l x + 1 ∧ Ordered key l y := by
  have hbehind := h.behind
  rw [drop_of_getElem? hy, List.pairwise_cons] at hbehind
  obtain ⟨hgreater, hbehind⟩ := hbehind
  have hxy : key x < key y := hgreater y List.mem_cons_self
  have hplace : place l y = place l x + 1 := by
    apply place_of_first hy
    rintro z hz rfl
    exact absurd hxy (not_lt.2 (h.before z hz))
  refine ⟨hplace, ⟨?_, ?_⟩⟩
  · rwa [hplace]
  · rw [hplace, take_of_getElem? hy]
    intro z hz
    rcases List.mem_append.1 hz with hz | hz
    · exact ((h.before z hz).trans_lt hxy).le
    · exact (congrArg key (List.mem_singleton.1 hz)).le

/-- In order, a walk that may be long enough comes to what stands behind `x`. -/
lemma Ordered.walk (h : Ordered key l x) (hwalk : Walk (fun x r => r = l[place l x]?) n x ys done)
    (hn : (l.drop (place l x)).length < n) : done = true ∧ ys = l.drop (place l x) := by
  induction hwalk with
  | stops => exact absurd hn (Nat.not_lt_zero _)
  | ends last => exact ⟨rfl, (drop_of_none last.symm).symm⟩
  | goes next rest ih =>
    obtain ⟨hplace, hordered⟩ := h.next next.symm
    rw [drop_of_getElem? next.symm] at hn ⊢
    obtain ⟨hdone, rfl⟩ := ih hordered (by rw [hplace]; exact Nat.lt_of_succ_lt_succ hn)
    exact ⟨hdone, by rw [hplace]⟩

lemma Ordered.visits (h : Ordered key l x) (hwalk : Walk (fun x r => r = l[place l x]?) n x ys done)
    (hn : l.length < n) : Visits key l x ys done := by
  have hlength : (l.drop (place l x)).length < n := Nat.lt_of_le_of_lt (by simp) hn
  obtain ⟨hdone, rfl⟩ := h.walk hwalk hlength
  exact ⟨hdone, h.behind, .of_eq h.filter_eq.symm⟩

omit [DecidableEq α] in
/-- The rest of such a walk. -/
lemma Visits.tail (h : Visits key l x (y :: ys) done) : Visits key l y ys done := by
  have hincreasing := h.increasing
  rw [List.pairwise_cons] at hincreasing
  obtain ⟨hgreater, hincreasing⟩ := hincreasing
  have hxy : key x < key y := hgreater y List.mem_cons_self
  refine ⟨h.ends, hincreasing, ?_⟩
  have heach := h.each.filter fun z => key y < key z
  have hys : (ys.filter fun z => key y < key z) = ys := by
    rw [List.filter_eq_self]
    intro z hz
    simpa using (List.pairwise_cons.1 hincreasing).1 z hz
  rw [List.filter_cons_of_neg (by simp), hys, List.filter_filter] at heach
  refine heach.trans (.of_eq (List.filter_congr fun z _ => ?_))
  by_cases hz : key y < key z
  · simp [hz, hxy.trans hz]
  · simp [hz]

/-- A walk in order is possible in an ordered list only. -/
lemma Visits.ordered (h : Visits key l x ys done) (hwalk : Walk (fun x r => r = l[place l x]?) n x ys done) :
    Ordered key l x := by
  induction hwalk with
  | stops => exact absurd h.ends (by decide)
  | @ends n x last =>
    refine ⟨?_, fun z hz => ?_⟩
    · rw [drop_of_none last.symm]
      exact List.pairwise_singleton _ _
    · have hnone := List.filter_eq_nil_iff.1 h.each.symm.eq_nil z (List.mem_of_mem_take hz)
      simpa using hnone
  | @goes n x y ys done next rest ih =>
    have hordered := ih h.tail
    have hat := next.symm
    have hxy : key x < key y := (List.pairwise_cons.1 h.increasing).1 y List.mem_cons_self
    have hplace : place l y = place l x + 1 := by
      obtain ⟨j, hj, hle⟩ := place_le hat
      rcases Nat.lt_or_eq_of_le hle with hlt | rfl
      · have hmem : y ∈ l.drop (place l y) := by
          rw [hj, List.mem_drop_iff_getElem]
          obtain ⟨hp, hy⟩ := List.getElem?_eq_some_iff.1 hat
          refine ⟨place l x - (j + 1), by omega, ?_⟩
          rw [← hy]
          congr 1
          omega
        exact absurd ((List.pairwise_cons.1 hordered.behind).1 y hmem) (lt_irrefl _)
      · exact hj
    have hbehind : (x :: l.drop (place l x)).Pairwise fun y z => key y < key z := by
      rw [drop_of_getElem? hat, List.pairwise_cons]
      have hrest := hordered.behind
      rw [hplace] at hrest
      refine ⟨fun z hz => ?_, hrest⟩
      rcases List.mem_cons.1 hz with rfl | hz
      · exact hxy
      · exact hxy.trans ((List.pairwise_cons.1 hrest).1 z hz)
    refine ⟨hbehind, ?_⟩
    -- the elements above x are as many as stand behind it
    have hcount : ((l.take (place l x)).filter fun z => key x < key z) = [] := by
      have hdrop : ((l.drop (place l x)).filter fun z => key x < key z) = l.drop (place l x) := by
        rw [List.filter_eq_self]
        intro z hz
        simpa using (List.pairwise_cons.1 hbehind).1 z hz
      have hlength := h.each.length_eq
      have htail := h.tail.each.length_eq
      rw [hordered.filter_eq, hplace] at htail
      have hsplit := List.filter_append (p := fun z => decide (key x < key z)) (l.take (place l x)) (l.drop (place l x))
      rw [List.take_append_drop, hdrop] at hsplit
      rw [hsplit, List.length_append, drop_of_getElem? hat, List.length_cons, List.length_cons, htail] at hlength
      exact List.eq_nil_of_length_eq_zero (by omega)
    intro z hz
    have hnone := List.filter_eq_nil_iff.1 hcount z hz
    simpa using hnone

/-- With more questions than elements, the walk is in order exactly where the list is. -/
theorem visits_iff (hwalk : Walk (fun x r => r = l[place l x]?) n x ys done) (hn : l.length < n) :
    Visits key l x ys done ↔ Ordered key l x :=
  ⟨fun h => h.ordered hwalk, fun h => h.visits hwalk hn⟩

end walks

section sorted
variable [DecidableEq α] [LinearOrder β] {key : α → β} {l : List α} {x : α}

lemma Ordered.right (h : Ordered key l x) : Right key l x l[place l x]? := by
  have habove {z : α} (hz : z ∈ l) (hxz : key x < key z) : z ∈ l.drop (place l x) := by
    rw [← h.filter_eq]
    exact List.mem_filter.2 ⟨hz, decide_eq_true hxz⟩
  cases hat : l[place l x]? with
  | none =>
    intro z hz
    refine not_lt.1 fun hxz => ?_
    have hmem := habove hz hxz
    rw [drop_of_none hat] at hmem
    cases hmem
  | some y =>
    have hbehind := h.behind
    rw [drop_of_getElem? hat, List.pairwise_cons] at hbehind
    obtain ⟨hgreater, hbehind⟩ := hbehind
    refine ⟨List.mem_of_getElem? hat, hgreater y List.mem_cons_self, fun z hz hxz => ?_⟩
    have hmem := habove hz hxz
    rw [drop_of_getElem? hat] at hmem
    rcases List.mem_cons.1 hmem with rfl | hmem
    · exact le_rfl
    · exact ((List.pairwise_cons.1 hbehind).1 z hmem).le

/-- In an increasing list the right answers are given to its elements and to what is below them all. -/
lemma ordered_iff_of_increasing (h : l.Pairwise fun y z => key y < key z) :
    Ordered key l x ↔ x ∈ l ∨ ∀ z ∈ l, key x < key z := by
  by_cases hx : x ∈ l
  · refine iff_of_true ?_ (.inl hx)
    obtain ⟨j, hplace, hat⟩ := place_of_mem hx
    have hdrop : (x :: l.drop (j + 1)).Pairwise fun y z => key y < key z := by
      rw [← drop_of_getElem? hat]
      exact h.sublist (List.drop_sublist j l)
    refine ⟨by rwa [hplace], fun z hz => ?_⟩
    have htake : (l.take j ++ [x]).Pairwise fun y z => key y < key z := by
      rw [← take_of_getElem? hat]
      exact h.sublist (List.take_sublist (j + 1) l)
    rw [hplace, take_of_getElem? hat] at hz
    rcases List.mem_append.1 hz with hz | hz
    · exact ((List.pairwise_append.1 htake).2.2 z hz x List.mem_cons_self).le
    · exact (congrArg key (List.mem_singleton.1 hz)).le
  · rw [or_iff_right hx]
    have hplace := place_of_not_mem hx
    constructor
    · intro hordered z hz
      have hbehind := hordered.behind
      rw [hplace] at hbehind
      exact (List.pairwise_cons.1 hbehind).1 z hz
    · intro hall
      refine ⟨?_, ?_⟩
      · rw [hplace]
        exact List.pairwise_cons.2 ⟨hall, h⟩
      · rw [hplace]
        exact fun z hz => absurd hz (by simp)

lemma right_iff_of_increasing (h : l.Pairwise fun y z => key y < key z) :
    Right key l x l[place l x]? ↔ x ∈ l ∨ ∀ z ∈ l, key x < key z := by
  rw [← ordered_iff_of_increasing h]
  refine ⟨fun hright => ?_, fun hordered => hordered.right⟩
  rw [ordered_iff_of_increasing h]
  refine or_iff_not_imp_left.2 fun hx z hz => ?_
  rw [place_of_not_mem hx] at hright
  cases l with
  | nil => cases hz
  | cons y l =>
    have hxy : key x < key y := hright.greater
    rcases List.mem_cons.1 hz with rfl | hz
    · exact hxy
    · exact hxy.trans ((List.pairwise_cons.1 h).1 z hz)

end sorted

end IoLibrary.Successor
