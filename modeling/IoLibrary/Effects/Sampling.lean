import IoLibrary.Effects.Exec

/-! Loops that sample a changing value until two samples agree, over a stream of samples. -/
namespace IoLibrary.Effects
open Prog

variable {M W E : Type} {R : E → Type} {α β V : Type} {h : Handler M W E R} {m m' : M} {w w' : W}

lemma exec_bind {p : Prog M E R α} {f : α → Prog M E R β} {a : α} (hp : exec h p m w = (some a, m', w')) :
    exec h (p >>= f) m w = exec h (f a) m' w' := by
  induction p generalizing m w with
  | ret b =>
    obtain ⟨rfl, rfl, rfl⟩ : b = a ∧ m = m' ∧ w = w' := by simpa [exec] using hp
    rfl
  | mem g k ih => exact ih m hp
  | call e k ih => exact ih _ hp
  | cut => exact absurd (congrArg Prod.fst hp) nofun

/-- A computed run of a sequence that returns is one of its first part and one of the rest. -/
lemma exec_split {p : Prog M E R α} {f : α → Prog M E R β} {x : β} {m₁ : M} {w₁ : W}
    (run : exec h (p >>= f) m w = (some x, m₁, w₁)) :
    ∃ a m' w', exec h p m w = (some a, m', w') ∧ exec h (f a) m' w' = (some x, m₁, w₁) := by
  induction p generalizing m w with
  | ret a => exact ⟨a, m, w, rfl, run⟩
  | mem g k ih => exact ih m run
  | call e k ih => exact ih _ run
  | cut => exact absurd (congrArg Prod.fst run) nofun

lemma exec_returned {a x : α} {m₁ : M} {w₁ : W} (run : exec h (pure a : Prog M E R α) m w = (some x, m₁, w₁)) :
    x = a ∧ m₁ = m ∧ w₁ = w := by
  have hend : (some a, m, w) = (some x, m₁, w₁) := run
  simpa using hend.symm

lemma exec_loop_again {σ : Type} {body : σ → Prog M E R (Turn σ α)} {s s' : σ} (n : ℕ)
    (hbody : exec h (body s) m w = (some (.again s'), m', w')) :
    exec h (loop body (n + 1) s) m w = exec h (loop body n s') m' w' := exec_bind hbody

lemma exec_loop_leave {σ : Type} {body : σ → Prog M E R (Turn σ α)} {s : σ} {a : α} (n : ℕ)
    (hbody : exec h (body s) m w = (some (.leave a), m', w')) :
    exec h (loop body (n + 1) s) m w = (some a, m', w') := exec_bind hbody

/-- A run through a turn that leaves has that turn's end. -/
lemma loop_left {σ : Type} {body : σ → Prog M E R (Turn σ α)} {s : σ} {a x : α} {n : ℕ} {m₁ : M} {w₁ : W}
    (hbody : exec h (body s) m w = (some (.leave a), m', w'))
    (run : exec h (loop body (n + 1) s) m w = (some x, m₁, w₁)) : x = a ∧ m₁ = m' ∧ w₁ = w' := by
  have hend := run.symm.trans (exec_loop_leave n hbody)
  simpa using hend

/-- A computed run whose result goes through a function of the memory. -/
lemma exec_get_map (p : Prog M E R α) (f : M → α → β) : exec h (do
      let a ← p
      let m ← get
      return f m a) m w =
    ((exec h p m w).1.map (f (exec h p m w).2.1), (exec h p m w).2) := by
  induction p generalizing m w with
  | ret a => rfl
  | mem g k ih => exact ih m
  | call e k ih => exact ih _
  | cut => rfl

/-- `read` takes the next element of the stream `v` and changes nothing else. -/
def Samples (h : Handler M W E R) (m : M) (pos : ℕ → W) (v : ℕ → V) (read : Prog M E R V) : Prop :=
  ∀ k, exec h read m (pos k) = (some (v k), m, pos (k + 1))

section heads
variable [Zero V] {v : ℕ → V}

/-- Whether the sample at this place is the second of a pair, while the loop goes on. -/
def Second (v : ℕ → V) : ℕ → Prop
  | 0 => False
  | k + 1 => ¬ Second v k ∧ v k ≠ 0

/-- The loop ends with the sample at this place, if it has come to it. -/
def Settled (v : ℕ → V) : ℕ → Prop
  | 0 => v 0 = 0
  | k + 1 => v (k + 1) = v k ∧ (Second v (k + 1) ∨ Second v k ∧ v k = 0)

/-- A second sample that is not zero is kept for ever after: no first sample differs from zero. -/
def Starved (v : ℕ → V) : Prop :=
  ∃ k, Second v k ∧ v k ≠ 0 ∧ (∀ j > k, v j = 0) ∧ ∀ j ≤ k, ¬ Settled v j

/-- Where the loop begins a turn with `second`, not having ended. -/
structure Head (v : ℕ → V) (k : ℕ) (second : V) : Prop where
  first : ¬ Second v k
  kept : ∃ j < k, Second v j ∧ v j = second ∧ ∀ i, j < i → i < k → v i = 0 ∧ ¬ Second v i
  going : ∀ j < k, ¬ Settled v j

lemma not_second_zero : ¬ Second v 0 := id

lemma not_settled_before : ∀ j < 0, ¬ Settled v j := fun j hj => absurd hj (Nat.not_lt_zero j)

variable {k : ℕ} {second : V}

lemma Head.skip (hhead : Head v k second) (hfirst : v k = 0) (hsecond : second ≠ 0) : Head v (k + 1) second := by
  obtain ⟨hplace, ⟨j, hj, hsec, rfl, hzero⟩, hgoing⟩ := hhead
  refine ⟨fun h => h.2 hfirst, ⟨j, Nat.lt_succ_of_lt hj, hsec, rfl, fun i hji hi => ?_⟩, fun i hi => ?_⟩
  · rcases Nat.lt_succ_iff_lt_or_eq.1 hi with hi | rfl
    · exact hzero i hji hi
    · exact ⟨hfirst, hplace⟩
  · rcases Nat.lt_succ_iff_lt_or_eq.1 hi with hi | rfl
    · exact hgoing i hi
    · intro hsettled
      obtain ⟨i, rfl⟩ := Nat.exists_eq_succ_of_ne_zero (Nat.ne_of_gt (Nat.zero_lt_of_lt hj))
      obtain ⟨-, h | ⟨hi, hv⟩⟩ := hsettled
      · exact hplace h
      · -- the last second sample is the one just before, and it is not zero
        rcases Nat.lt_succ_iff_lt_or_eq.1 hj with hlt | rfl
        · exact (hzero i hlt (Nat.lt_succ_self i)).2 hi
        · exact hsecond hv

lemma Head.settled_zero (hhead : Head v k 0) (hfirst : v k = 0) : Settled v k := by
  obtain ⟨-, ⟨j, hj, hsec, hv, hzero⟩, hgoing⟩ := hhead
  rcases Nat.eq_or_lt_of_le (Nat.succ_le_of_lt hj) with rfl | hlt
  · exact ⟨hfirst.trans hv.symm, .inr ⟨hsec, hv⟩⟩
  · have hnext := (hzero (j + 1) (Nat.lt_succ_self j) hlt).1
    exact absurd ⟨hnext.trans hv.symm, .inr ⟨hsec, hv⟩⟩ (hgoing (j + 1) hlt)

lemma Head.second_succ (hhead : Head v k second) (hfirst : v k ≠ 0) : Second v (k + 1) := ⟨hhead.first, hfirst⟩

/-- The first pair, and every later one whose samples differ. -/
lemma head_pair (hplace : ¬ Second v k) (hgoing : ∀ j < k, ¬ Settled v j) (hfirst : v k ≠ 0)
    (hagree : v (k + 1) ≠ v k) : Head v (k + 2) (v (k + 1)) := by
  have hsec : Second v (k + 1) := ⟨hplace, hfirst⟩
  refine ⟨fun h => h.1 hsec, ⟨k + 1, Nat.lt_succ_self _, hsec, rfl, fun i hlo hhi => by omega⟩, fun i hi => ?_⟩
  rcases Nat.lt_succ_iff_lt_or_eq.1 hi with hi | rfl
  · rcases Nat.lt_succ_iff_lt_or_eq.1 hi with hi | rfl
    · exact hgoing i hi
    · intro hsettled
      cases i with
      | zero => exact hfirst hsettled
      | succ i =>
        obtain ⟨hv, h | ⟨-, h⟩⟩ := hsettled
        · exact hplace h
        · exact hfirst (hv.trans h)
  · exact fun hsettled => hagree hsettled.1

lemma Head.pair (hhead : Head v k second) (hfirst : v k ≠ 0) (hagree : v (k + 1) ≠ v k) :
    Head v (k + 2) (v (k + 1)) := head_pair hhead.first hhead.going hfirst hagree

end heads

section search
variable {found more : ℕ → Prop} {good bad : α} {inv won : ℕ → M → W → Prop} {lost : M → W → Prop}

/-- A search that has neither found anything before `k` nor had to stop. -/
def Searching (found more : ℕ → Prop) (k : ℕ) : Prop := ∀ i < k, ¬ found i ∧ more i

/-- A search finds one index at most. -/
lemma Searching.unique {j k : ℕ} (hj : Searching found more j) (hk : Searching found more k) (foundj : found j)
    (foundk : found k) : j = k := by
  rcases Nat.lt_trichotomy j k with hlt | heq | hgt
  · exact absurd foundj (hk j hlt).1
  · exact heq
  · exact absurd foundk (hj k hgt).1

/-- What turn `j` of a search comes to. -/
inductive Sought (found more : ℕ → Prop) (good bad : α) (inv won : ℕ → M → W → Prop) (lost : M → W → Prop)
    (j : ℕ) : Turn ℕ α → M → W → Prop
  | found {m : M} {w : W} (h : found j) (hwon : won j m w) : Sought found more good bad inv won lost j (.leave good) m w
  | stopped {m : M} {w : W} (h : ¬ found j) (hstop : ¬ more j) (hlost : lost m w) :
      Sought found more good bad inv won lost j (.leave bad) m w
  | again {m : M} {w : W} (h : ¬ found j) (hmore : more j) (hinv : inv (j + 1) m w) :
      Sought found more good bad inv won lost j (.again (j + 1)) m w

/-- A search ends well at the first index that is found, if it gets there. -/
lemma search_ends {body : ℕ → Prog M E R (Turn ℕ α)} {n j : ℕ} {x : α} {m₁ : M} {w₁ : W}
    (turn : ∀ j m w, inv j m w → ∃ t m₁ w₁, exec h (body j) m w = (some t, m₁, w₁) ∧
      Sought found more good bad inv won lost j t m₁ w₁)
    (hinv : inv j m w) (searching : Searching found more j)
    (run : exec h (loop body n j) m w = (some x, m₁, w₁)) :
    x = good ∧ (∃ k, Searching found more k ∧ found k ∧ won k m₁ w₁) ∨
      x = bad ∧ (∀ k, Searching found more k → ¬ found k) ∧ lost m₁ w₁ := by
  induction n generalizing j m w with
  | zero => exact absurd (congrArg Prod.fst run) nofun
  | succ n ih =>
    obtain ⟨t, m₂, w₂, hturn, hsought⟩ := turn j m w hinv
    cases hsought with
    | found hfound hwon =>
      obtain ⟨rfl, rfl, rfl⟩ := loop_left hturn run
      exact .inl ⟨rfl, j, searching, hfound, hwon⟩
    | stopped hmissed hstop hlost =>
      obtain ⟨rfl, rfl, rfl⟩ := loop_left hturn run
      refine .inr ⟨rfl, fun k hk => ?_, hlost⟩
      rcases Nat.lt_trichotomy k j with hlt | rfl | hgt
      · exact (searching k hlt).1
      · exact hmissed
      · exact absurd (hk j hgt).2 hstop
    | again hmissed hmore hinv =>
      rw [exec_loop_again n hturn] at run
      refine ih hinv (fun i hi => ?_) run
      rcases Nat.lt_succ_iff_lt_or_eq.1 hi with hi | rfl
      · exact searching i hi
      · exact ⟨hmissed, hmore⟩

end search

variable [DecidableEq V] {pos : ℕ → W} {v : ℕ → V} {read : Prog M E R V}

section repeated

/-- `do { last = x; x = read } while (x != last)` -/
def repeated (read : Prog M E R V) : ℕ → V → Prog M E R V :=
  loop fun last => do
    let x ← read
    if x = last then return .leave x
    return .again x

lemma repeated_leave (hread : Samples h m pos v read) (n : ℕ) {k : ℕ} {last : V} (hlast : v k = last) :
    exec h (repeated read (n + 1) last) m (pos k) = (some (v k), m, pos (k + 1)) := by
  refine exec_loop_leave n ((exec_bind (hread k)).trans ?_)
  rw [if_pos hlast]
  rfl

lemma repeated_again (hread : Samples h m pos v read) (n : ℕ) {k : ℕ} {last : V} (hlast : v k ≠ last) :
    exec h (repeated read (n + 1) last) m (pos k) = exec h (repeated read n (v k)) m (pos (k + 1)) := by
  refine exec_loop_again n ((exec_bind (hread k)).trans ?_)
  rw [if_neg hlast]
  rfl

/-- After a first sample, what is returned has been seen twice in a row. -/
lemma repeated_agrees (hread : Samples h m pos v read) {n k : ℕ} {x : V}
    (hrun : exec h (repeated read n (v k)) m (pos (k + 1)) = (some x, m', w')) :
    ∃ j, k ≤ j ∧ w' = pos (j + 2) ∧ v j = x ∧ v (j + 1) = x := by
  induction n generalizing k with
  | zero => exact absurd (congrArg Prod.fst hrun) nofun
  | succ n ih =>
    by_cases hlast : v (k + 1) = v k
    · rw [repeated_leave hread n hlast] at hrun
      obtain ⟨rfl, -, rfl⟩ : v (k + 1) = x ∧ m = m' ∧ pos (k + 1 + 1) = w' := by simpa using hrun
      exact ⟨k, Nat.le_refl k, rfl, hlast.symm, rfl⟩
    · rw [repeated_again hread n hlast] at hrun
      obtain ⟨j, hj, hrest⟩ := ih hrun
      exact ⟨j, Nat.le_of_succ_le hj, hrest⟩

/-- The loop ends once two samples in a row agree. -/
lemma repeated_ends (hread : Samples h m pos v read) {n k j : ℕ} {last : V} (hj : k ≤ j)
    (hagree : v (j + 1) = v j) (hn : j + 2 ≤ k + n) :
    ∃ x, (exec h (repeated read n last) m (pos k)).1 = some x := by
  induction n generalizing k last with
  | zero => omega
  | succ n ih =>
    by_cases hlast : v k = last
    · rw [repeated_leave hread n hlast]
      exact ⟨_, rfl⟩
    · rw [repeated_again hread n hlast]
      rcases Nat.eq_or_lt_of_le hj with rfl | hlt
      · obtain ⟨n, rfl⟩ : ∃ l, n = l + 1 := Nat.exists_eq_add_one.2 (by omega)
        rw [repeated_leave hread n hagree]
        exact ⟨_, rfl⟩
      · exact ih hlt (by omega)

lemma repeated_mem (hread : Samples h m pos v read) {n k : ℕ} {last : V} :
    (exec h (repeated read n last) m (pos k)).2.1 = m := by
  induction n generalizing k last with
  | zero => rfl
  | succ n ih =>
    by_cases hlast : v k = last
    · rw [repeated_leave hread n hlast]
    · rw [repeated_again hread n hlast]
      exact ih

end repeated

section paired
variable [Zero V]

/-- `do { first = read; if (first != 0) second = read } while (second != first)` -/
def paired (read : Prog M E R V) : ℕ → V → Prog M E R V :=
  loop fun second => do
    let first ← read
    let second ← if first ≠ 0 then read else pure second
    if second = first then return .leave second
    return .again second

lemma paired_skip (hread : Samples h m pos v read) (n : ℕ) {k : ℕ} {second : V} (hfirst : v k = 0)
    (hsecond : second ≠ 0) : exec h (paired read (n + 1) second) m (pos k) =
      exec h (paired read n second) m (pos (k + 1)) := by
  refine exec_loop_again n ((exec_bind (hread k)).trans ?_)
  rw [if_neg (not_not_intro hfirst), hfirst]
  refine (exec_bind rfl).trans ?_
  dsimp only
  rw [if_neg hsecond]
  rfl

lemma paired_zero (hread : Samples h m pos v read) (n : ℕ) {k : ℕ} (hfirst : v k = 0) :
    exec h (paired read (n + 1) 0) m (pos k) = (some 0, m, pos (k + 1)) := by
  refine exec_loop_leave n ((exec_bind (hread k)).trans ?_)
  rw [if_neg (not_not_intro hfirst), hfirst]
  refine (exec_bind rfl).trans ?_
  dsimp only
  rw [if_pos rfl]
  rfl

lemma paired_leave (hread : Samples h m pos v read) (n : ℕ) {k : ℕ} {second : V} (hfirst : v k ≠ 0)
    (hagree : v (k + 1) = v k) : exec h (paired read (n + 1) second) m (pos k) =
      (some (v (k + 1)), m, pos (k + 2)) := by
  refine exec_loop_leave n ((exec_bind (hread k)).trans ?_)
  rw [if_pos hfirst]
  refine (exec_bind (hread (k + 1))).trans ?_
  dsimp only
  rw [if_pos hagree]
  rfl

lemma paired_again (hread : Samples h m pos v read) (n : ℕ) {k : ℕ} {second : V} (hfirst : v k ≠ 0)
    (hagree : v (k + 1) ≠ v k) : exec h (paired read (n + 1) second) m (pos k) =
      exec h (paired read n (v (k + 1))) m (pos (k + 2)) := by
  refine exec_loop_again n ((exec_bind (hread k)).trans ?_)
  rw [if_pos hfirst]
  refine (exec_bind (hread (k + 1))).trans ?_
  dsimp only
  rw [if_neg hagree]
  rfl

variable {k : ℕ} {second : V}

/-- What is returned has been seen twice in a row. -/
lemma paired_agrees (hread : Samples h m pos v read) {n : ℕ} {x : V} (hhead : Head v k second)
    (hrun : exec h (paired read n second) m (pos k) = (some x, m', w')) :
    ∃ j, w' = pos (j + 2) ∧ v j = x ∧ v (j + 1) = x := by
  induction n generalizing k second with
  | zero => exact absurd (congrArg Prod.fst hrun) nofun
  | succ n ih =>
    by_cases hfirst : v k = 0
    · by_cases hsecond : second = 0
      · subst hsecond
        rw [paired_zero hread n hfirst] at hrun
        obtain ⟨rfl, -, rfl⟩ : 0 = x ∧ m = m' ∧ pos (k + 1) = w' := by simpa using hrun
        obtain ⟨j, hj, -, hv, hzero⟩ := hhead.kept
        obtain ⟨i, rfl⟩ := Nat.exists_eq_succ_of_ne_zero (Nat.ne_of_gt (Nat.zero_lt_of_lt hj))
        refine ⟨i, rfl, ?_, hfirst⟩
        rcases Nat.lt_succ_iff_lt_or_eq.1 hj with hlt | rfl
        · exact (hzero i hlt (Nat.lt_succ_self i)).1
        · exact hv
      · rw [paired_skip hread n hfirst hsecond] at hrun
        exact ih (hhead.skip hfirst hsecond) hrun
    · by_cases hagree : v (k + 1) = v k
      · rw [paired_leave hread n hfirst hagree] at hrun
        obtain ⟨rfl, -, rfl⟩ : v (k + 1) = x ∧ m = m' ∧ pos (k + 2) = w' := by simpa using hrun
        exact ⟨k, rfl, hagree.symm, rfl⟩
      · rw [paired_again hread n hfirst hagree] at hrun
        exact ih (hhead.pair hfirst hagree) hrun

/-- The loop ends once the stream is constant, unless it is starved. -/
lemma paired_ends (hread : Samples h m pos v read) {n N : ℕ} {c : V} (hhead : Head v k second)
    (hconst : ∀ j ≥ N, v j = c) (hfed : ¬ Starved v) (hn : 0 < n) (hN : N < k + n) :
    ∃ x, (exec h (paired read n second) m (pos k)).1 = some x := by
  induction n generalizing k second with
  | zero => exact absurd hn (Nat.lt_irrefl 0)
  | succ n ih =>
    by_cases hfirst : v k = 0
    · by_cases hsecond : second = 0
      · subst hsecond
        rw [paired_zero hread n hfirst]
        exact ⟨_, rfl⟩
      · have hk : k < N := by
          by_contra hle
          obtain ⟨j, hj, hsec, rfl, hzero⟩ := hhead.kept
          refine hfed ⟨j, hsec, hsecond, fun i hi => ?_, fun i hi => hhead.going i (Nat.lt_of_le_of_lt hi hj)⟩
          rcases Nat.lt_or_ge i k with hik | hik
          · exact (hzero i hi hik).1
          · rw [hconst i (by omega), ← hconst k (by omega), hfirst]
        rw [paired_skip hread n hfirst hsecond]
        exact ih (hhead.skip hfirst hsecond) (by omega) (by omega)
    · by_cases hagree : v (k + 1) = v k
      · rw [paired_leave hread n hfirst hagree]
        exact ⟨_, rfl⟩
      · have hk : k < N := by
          by_contra hle
          exact hagree ((hconst (k + 1) (by omega)).trans (hconst k (by omega)).symm)
        rw [paired_again hread n hfirst hagree]
        exact ih (hhead.pair hfirst hagree) (by omega) (by omega)

/-- A starved loop goes on for ever. -/
lemma paired_starved (hread : Samples h m pos v read) (hstarved : Starved v) (n : ℕ) (hhead : Head v k second) :
    (exec h (paired read n second) m (pos k)).1 = none := by
  obtain ⟨last, hlast, hne, hafter, hgoing⟩ := hstarved
  have none_after {j : ℕ} (hj : last < j) : ¬ Second v j := by
    obtain ⟨i, rfl⟩ := Nat.exists_eq_succ_of_ne_zero (Nat.ne_of_gt (Nat.zero_lt_of_lt hj))
    rintro ⟨hi, hv⟩
    rcases Nat.lt_succ_iff_lt_or_eq.1 hj with hlt | rfl
    · exact hv (hafter i hlt)
    · exact hi hlast
  induction n generalizing k second with
  | zero => rfl
  | succ n ih =>
    by_cases hfirst : v k = 0
    · have hsecond : second ≠ 0 := by
        rintro rfl
        rcases Nat.lt_or_ge last k with hk | hk
        · obtain ⟨j, hj, hsec, hv, hzero⟩ := hhead.kept
          rcases Nat.lt_trichotomy j last with hlt | rfl | hlt
          · exact (hzero last hlt hk).2 hlast
          · exact hne hv
          · exact none_after hlt hsec
        · exact hgoing k hk (hhead.settled_zero hfirst)
      rw [paired_skip hread n hfirst hsecond]
      exact ih (hhead.skip hfirst hsecond)
    · have hk : k < last := by
        rcases Nat.lt_trichotomy k last with hlt | rfl | hlt
        · exact hlt
        · exact absurd hlast hhead.first
        · exact absurd (hafter k hlt) hfirst
      have hagree : v (k + 1) ≠ v k := fun h => hgoing (k + 1) hk ⟨h, .inl (hhead.second_succ hfirst)⟩
      rw [paired_again hread n hfirst hagree]
      exact ih (hhead.pair hfirst hagree)

/-- A loop whose first sample is not zero returns what it has seen twice in a row. -/
theorem paired_run_agrees (hread : Samples h m pos v read) {n : ℕ} {x : V} (hfirst : v 0 ≠ 0)
    (hrun : exec h (paired read n second) m (pos 0) = (some x, m', w')) :
    ∃ j, w' = pos (j + 2) ∧ v j = x ∧ v (j + 1) = x := by
  cases n with
  | zero => exact absurd (congrArg Prod.fst hrun) nofun
  | succ n =>
    by_cases hagree : v 1 = v 0
    · rw [paired_leave hread n hfirst hagree] at hrun
      obtain ⟨rfl, -, rfl⟩ : v 1 = x ∧ m = m' ∧ pos 2 = w' := by simpa using hrun
      exact ⟨0, rfl, hagree.symm, rfl⟩
    · rw [paired_again hread n hfirst hagree] at hrun
      exact paired_agrees hread (head_pair not_second_zero not_settled_before hfirst hagree) hrun

theorem paired_run_ends (hread : Samples h m pos v read) {n N : ℕ} {c : V} (hfirst : v 0 ≠ 0)
    (hconst : ∀ j ≥ N, v j = c) (hfed : ¬ Starved v) (hn : N + 1 < n) :
    ∃ x, (exec h (paired read n second) m (pos 0)).1 = some x := by
  obtain ⟨n, rfl⟩ := Nat.exists_eq_add_one.2 (Nat.zero_lt_of_lt hn)
  by_cases hagree : v 1 = v 0
  · rw [paired_leave hread n hfirst hagree]
    exact ⟨_, rfl⟩
  · rw [paired_again hread n hfirst hagree]
    exact paired_ends hread (head_pair not_second_zero not_settled_before hfirst hagree) hconst hfed
      (by omega) (by omega)

theorem paired_run_starved (hread : Samples h m pos v read) (hfirst : v 0 ≠ 0) (hstarved : Starved v) (n : ℕ) :
    (exec h (paired read n second) m (pos 0)).1 = none := by
  cases n with
  | zero => rfl
  | succ n =>
    have hagree : v 1 ≠ v 0 := by
      obtain ⟨last, hlast, -, -, hgoing⟩ := hstarved
      cases last with
      | zero => exact hlast.elim
      | succ last => exact fun h => hgoing 1 (Nat.succ_pos last) ⟨h, .inl ⟨not_second_zero, hfirst⟩⟩
    rw [paired_again hread n hfirst hagree]
    exact paired_starved hread hstarved n (head_pair not_second_zero not_settled_before hfirst hagree)

end paired

end IoLibrary.Effects
