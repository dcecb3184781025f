import IoLibrary.Mqtt.Packet

/-! isTopicMatched against the levels of topic filters and topic names. -/
namespace IoLibrary.Mqtt

def slash : Byte := 0x2f
def plusSign : Byte := 0x2b
def hashSign : Byte := 0x23

/-- The walk over the filter and the name. `+` skips to the next separator of the name, `#` to its end. -/
def isTopicMatched : List Byte → List Byte → Bool
  | [], name => name.isEmpty
  | _ :: _, [] => false
  | f :: filter, n :: name =>
    if n = slash ∧ f ≠ slash then false
    else if f ≠ plusSign ∧ f ≠ hashSign ∧ f ≠ n then false
    else if f = plusSign then isTopicMatched filter (name.dropWhile (· ≠ slash))
    else if f = hashSign then isTopicMatched filter []
    else isTopicMatched filter name

inductive Level
  | plain (text : List Byte)
  | plus
  | hash
  deriving DecidableEq

def Level.text : Level → List Byte
  | .plain text => text
  | .plus => [plusSign]
  | .hash => [hashSign]

/-- What follows a level. -/
def following : List (List Byte) → List Byte
  | [] => []
  | level :: levels => slash :: (level ++ following levels)

/-- The levels with a separator between any two. -/
def joined : List (List Byte) → List Byte
  | [] => []
  | level :: levels => level ++ following levels

/-- The levels of a name. -/
def levelsOf : List Byte → List (List Byte)
  | [] => [[]]
  | b :: name =>
    if b = slash then [] :: levelsOf name else (b :: (levelsOf name).headD []) :: (levelsOf name).tail

/-- The assumption of the source: `#` is the last level, and the other levels have no sign of their own. -/
def WellFormed : List Level → Prop
  | [] => True
  | .plain text :: levels => (∀ b ∈ text, b ≠ slash ∧ b ≠ plusSign ∧ b ≠ hashSign) ∧ WellFormed levels
  | .plus :: levels => WellFormed levels
  | .hash :: levels => levels = []

/-- The rule of the protocol: `+` stands for one level, `#` for all the levels that are left. -/
inductive Covers : List Level → List (List Byte) → Prop
  | nil : Covers [] []
  | plain {levels names} (text : List Byte) (h : Covers levels names) : Covers (.plain text :: levels) (text :: names)
  | plus {levels names} (name : List Byte) (h : Covers levels names) : Covers (.plus :: levels) (name :: names)
  | hash (names : List (List Byte)) : Covers [.hash] names

/-- Each sign of the filter begins at a level that is there and is not empty. -/
def Meets : List Level → List (List Byte) → Prop
  | .plain _ :: levels, _ :: names => Meets levels names
  | .plus :: levels, name :: names => name ≠ [] ∧ Meets levels names
  | .hash :: _, names => names.headD [] ≠ []
  | _, _ => True

section walk
variable {filter name level text : List Byte} {names : List (List Byte)} {levels : List Level}

lemma levelsOf_ne_nil (name : List Byte) : levelsOf name ≠ [] := by
  cases name with
  | nil => exact List.cons_ne_nil _ _
  | cons b name =>
    rw [levelsOf]
    split_ifs <;> exact List.cons_ne_nil _ _

/-- Every name is made of levels without separators. -/
lemma joined_levelsOf (name : List Byte) : joined (levelsOf name) = name ∧ ∀ l ∈ levelsOf name, slash ∉ l := by
  induction name with
  | nil => exact ⟨rfl, by simp [levelsOf]⟩
  | cons b name ih =>
    obtain ⟨level, levels, heq⟩ := List.exists_cons_of_ne_nil (levelsOf_ne_nil name)
    rw [heq] at ih
    obtain ⟨hlevel, hlevels⟩ := List.forall_mem_cons.1 ih.2
    rw [levelsOf, heq]
    split_ifs with hb
    · exact ⟨by rw [joined, following, List.nil_append, hb, ← ih.1]; rfl,
        List.forall_mem_cons.2 ⟨List.not_mem_nil, ih.2⟩⟩
    · refine ⟨congrArg (b :: ·) ih.1, List.forall_mem_cons.2 ⟨?_, hlevels⟩⟩
      rw [List.mem_cons, not_or]
      exact ⟨fun h => hb h.symm, hlevel⟩

@[simp] lemma isTopicMatched_nil_cons {b : Byte} : isTopicMatched [] (b :: name) = false := rfl

lemma isTopicMatched_cons_nil {f : Byte} : isTopicMatched (f :: filter) [] = false := rfl

lemma isTopicMatched_slash : isTopicMatched (slash :: filter) (slash :: name) = isTopicMatched filter name := by
  rw [isTopicMatched, if_neg (by simp), if_neg (by simp), if_neg (by decide), if_neg (by decide)]

/-- Two texts without separators are compared character by character, up to what follows them. -/
lemma isTopicMatched_plain {f n : List (List Byte)} (htext : ∀ b ∈ text, b ≠ slash ∧ b ≠ plusSign ∧ b ≠ hashSign)
    (hlevel : slash ∉ level) : isTopicMatched (text ++ following f) (level ++ following n) = true ↔
      text = level ∧ isTopicMatched (following f) (following n) = true := by
  induction text generalizing level with
  | nil =>
    cases level with
    | nil => simp
    | cons c level =>
      rw [List.mem_cons, not_or] at hlevel
      cases f with
      | nil => simp [following]
      | cons l f =>
        rw [following, List.nil_append, List.cons_append, isTopicMatched, if_neg fun h => h.2 rfl,
          if_pos ⟨by decide, by decide, hlevel.1⟩]
        simp
  | cons b text ih =>
    have hb := htext b List.mem_cons_self
    cases level with
    | nil =>
      cases n with
      | nil => simp [following, isTopicMatched]
      | cons l n =>
        rw [following, List.nil_append, List.cons_append, isTopicMatched, if_pos ⟨rfl, hb.1⟩]
        simp
    | cons c level =>
      rw [List.mem_cons, not_or] at hlevel
      rw [List.cons_append, List.cons_append, isTopicMatched, if_neg fun h => hlevel.1 h.1.symm]
      by_cases hbc : b = c
      · subst hbc
        rw [if_neg fun h => h.2.2 rfl, if_neg hb.2.1, if_neg hb.2.2,
          ih (fun b h => htext b (List.mem_cons_of_mem _ h)) hlevel.2, List.cons.injEq, eq_self, true_and]
      · rw [if_pos ⟨hb.2.1, hb.2.2, hbc⟩]
        simp [hbc]

lemma dropWhile_level {n : List (List Byte)} (hlevel : slash ∉ level) :
    (level ++ following n).dropWhile (· ≠ slash) = following n := by
  induction level with
  | nil =>
    cases n with
    | nil => rfl
    | cons l n => simp [following]
  | cons c level ih =>
    rw [List.mem_cons, not_or] at hlevel
    rw [List.cons_append, List.dropWhile_cons_of_pos (by simpa using fun h => hlevel.1 h.symm), ih hlevel.2]

/-- `+` takes one level, and not an empty one. -/
lemma isTopicMatched_plus {n : List (List Byte)} (hlevel : slash ∉ level) :
    isTopicMatched (plusSign :: filter) (level ++ following n) = true ↔
      level ≠ [] ∧ isTopicMatched filter (following n) = true := by
  cases level with
  | nil =>
    cases n with
    | nil => simp [following, isTopicMatched]
    | cons l n =>
      rw [following, List.nil_append, isTopicMatched, if_pos ⟨rfl, by decide⟩]
      simp
  | cons c level =>
    rw [List.mem_cons, not_or] at hlevel
    rw [List.cons_append, isTopicMatched, if_neg fun h => hlevel.1 h.1.symm, if_neg fun h => h.1 rfl, if_pos rfl,
      dropWhile_level hlevel.2]
    simp

lemma isTopicMatched_hash {n : List (List Byte)} (hlevel : slash ∉ level) :
    isTopicMatched [hashSign] (level ++ following n) = true ↔ level ≠ [] := by
  cases level with
  | nil =>
    cases n with
    | nil => simp [following, isTopicMatched]
    | cons l n =>
      rw [following, List.nil_append, isTopicMatched, if_pos ⟨rfl, by decide⟩]
      simp
  | cons c level =>
    rw [List.mem_cons, not_or] at hlevel
    rw [List.cons_append, isTopicMatched, if_neg fun h => hlevel.1 h.1.symm, if_neg fun h => h.2.1 rfl,
      if_neg (by decide), if_pos rfl]
    simp [isTopicMatched]

lemma isTopicMatched_level {level : Level} (hwf : WellFormed (level :: levels)) (hname : slash ∉ name)
    (ih : WellFormed levels → (isTopicMatched (following (levels.map Level.text)) (following names) = true ↔
      Covers levels names ∧ Meets levels names)) :
    isTopicMatched (level.text ++ following (levels.map Level.text)) (name ++ following names) = true ↔
      Covers (level :: levels) (name :: names) ∧ Meets (level :: levels) (name :: names) := by
  cases level with
  | plain text =>
    rw [Level.text, isTopicMatched_plain hwf.1 hname, ih hwf.2, Meets]
    constructor
    · rintro ⟨rfl, hcovers, hmeets⟩
      exact ⟨.plain _ hcovers, hmeets⟩
    · rintro ⟨hcovers, hmeets⟩
      cases hcovers with
      | plain _ hcovers => exact ⟨rfl, hcovers, hmeets⟩
  | plus =>
    rw [Level.text, List.singleton_append, isTopicMatched_plus hname, ih hwf, Meets]
    constructor
    · rintro ⟨hne, hcovers, hmeets⟩
      exact ⟨.plus _ hcovers, hne, hmeets⟩
    · rintro ⟨hcovers, hne, hmeets⟩
      cases hcovers with
      | plus _ hcovers => exact ⟨hne, hcovers, hmeets⟩
  | hash =>
    obtain rfl : levels = [] := hwf
    rw [Level.text, List.map_nil, following, List.append_nil, isTopicMatched_hash hname]
    exact ⟨fun hne => ⟨.hash _, hne⟩, fun h => h.2⟩

lemma isTopicMatched_following (hwf : WellFormed levels) (hslash : ∀ name ∈ names, slash ∉ name) :
    isTopicMatched (following (levels.map Level.text)) (following names) = true ↔
      Covers levels names ∧ Meets levels names := by
  induction levels generalizing names with
  | nil =>
    rcases names with _ | ⟨name, names⟩
    · exact ⟨fun _ => ⟨.nil, trivial⟩, fun _ => rfl⟩
    · refine ⟨fun h => absurd h (by simp [following]), fun h => ?_⟩
      cases h.1
  | cons level levels ih =>
    rcases names with _ | ⟨name, names⟩
    · refine ⟨fun h => absurd h (by simp [following, isTopicMatched_cons_nil]), fun ⟨hcovers, hmeets⟩ => ?_⟩
      cases hcovers with
      | hash _ => exact absurd rfl hmeets
    · obtain ⟨hname, hnames⟩ := List.forall_mem_cons.1 hslash
      rw [List.map_cons, following, following, isTopicMatched_slash]
      exact isTopicMatched_level hwf hname fun hwf => ih hwf hnames

/-- A well-formed filter is found to match a name exactly when it covers it by the rule of the protocol and each sign
begins at a level that is not empty: no sign stands for an empty level, and `#` not for the parent level. -/
theorem isTopicMatched_iff (hlevels : levels ≠ []) (hwf : WellFormed levels) (name : List Byte) :
    isTopicMatched (joined (levels.map Level.text)) name = true ↔
      Covers levels (levelsOf name) ∧ Meets levels (levelsOf name) := by
  obtain ⟨level, levels, rfl⟩ := List.exists_cons_of_ne_nil hlevels
  obtain ⟨first, names, heq⟩ := List.exists_cons_of_ne_nil (levelsOf_ne_nil name)
  obtain ⟨hjoined, hslash⟩ := joined_levelsOf name
  rw [heq] at hjoined hslash ⊢
  obtain ⟨hfirst, hnames⟩ := List.forall_mem_cons.1 hslash
  rw [← hjoined]
  exact isTopicMatched_level hwf hfirst fun hwf => isTopicMatched_following hwf hnames

theorem isTopicMatched_iff_parent :
    isTopicMatched (joined ([Level.plain [0x61], .hash].map Level.text)) [0x61] = true ↔
      Covers [.plain [0x61], .hash] (levelsOf [0x61]) ∧ Meets [.plain [0x61], .hash] (levelsOf [0x61]) :=
  have hwf : WellFormed [.plain [0x61], .hash] := ⟨by decide, rfl⟩
  isTopicMatched_iff (List.cons_ne_nil _ _) hwf [0x61]

end walk

end IoLibrary.Mqtt
