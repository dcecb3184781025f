import IoLibrary.Effects.Exec
import IoLibrary.Effects.Locks
import Mathlib.Data.Set.Finite.Lattice
import Mathlib.Order.Preorder.Finite

/-! Tasks that share a memory, an environment and a set of blocking locks. Each task makes calls
of an interface, one after the other; between any two steps of one task the others may run. -/
namespace IoLibrary.Effects
open Prog

variable {ι C L M W E : Type} {R : E → Type} {α : Type}

/-- The call that each task is in, with the rest of it, and the holder of each lock. -/
structure Tasks (ι C L M W E : Type) (R : E → Type) (α : Type) where
  running : ι → Option (C × Prog M E R α)
  owner : L → Option ι
  mem : M
  world : W

/-- No task is in a call. -/
def Tasks.Idle (s : Tasks ι C L M W E R α) : Prop :=
  (∀ i, s.running i = none) ∧ ∀ l, s.owner l = none

section step
variable [DecidableEq ι] [DecidableEq L]

def Tasks.goesOn (s : Tasks ι C L M W E R α) (i : ι) (r : Option (C × Prog M E R α)) :
    Tasks ι C L M W E R α := { s with running := Function.update s.running i r }

def Tasks.own (s : Tasks ι C L M W E R α) (l : L) (o : Option ι) : Tasks ι C L M W E R α :=
  { s with owner := Function.update s.owner l o }

/-- One step of task `i`: it starts a call, updates the memory, is answered, takes a free lock,
releases a lock or returns. A task at a lock that is held makes no step. -/
inductive TaskStep (env : Env M W E R) (act : E → LockAct L) (run : C → Prog M E R α) (i : ι) :
    Tasks ι C L M W E R α → Tasks ι C L M W E R α → Prop
  | start {s} (c : C) (idle : s.running i = none) :
      TaskStep env act run i s (s.goesOn i (some (c, run c)))
  | mem {s c f k} (at_mem : s.running i = some (c, .mem f k)) :
      TaskStep env act run i s { s.goesOn i (some (c, k s.mem)) with mem := f s.mem }
  | call {s c e k x w} (at_call : s.running i = some (c, .call e k)) (plain : act e = .other)
      (answer : env s.mem s.world e x w) :
      TaskStep env act run i s { s.goesOn i (some (c, k x)) with world := w }
  | acquire {s c e k l} (x : R e) (at_call : s.running i = some (c, .call e k))
      (lock : act e = .acquire l) (free : s.owner l = none) :
      TaskStep env act run i s ((s.goesOn i (some (c, k x))).own l (some i))
  | release {s c e k l} (x : R e) (at_call : s.running i = some (c, .call e k))
      (unlock : act e = .release l) :
      TaskStep env act run i s ((s.goesOn i (some (c, k x))).own l none)
  | finish {s c a} (at_ret : s.running i = some (c, .ret a)) :
      TaskStep env act run i s (s.goesOn i none)

/-- The states reached from `s₀` by steps of any tasks in any order. -/
inductive Reached (env : Env M W E R) (act : E → LockAct L) (run : C → Prog M E R α)
    (s₀ : Tasks ι C L M W E R α) : Tasks ι C L M W E R α → Prop
  | start : Reached env act run s₀ s₀
  | step {s s' i} (before : Reached env act run s₀ s) (last : TaskStep env act run i s s') :
      Reached env act run s₀ s'

/-- The step of task `i` against a deterministic environment, for runs that are computed. A task
that waits or rests stays as it is. -/
def Tasks.turn (h : Handler M W E R) (act : E → LockAct L) (i : ι) (s : Tasks ι C L M W E R α) :
    Tasks ι C L M W E R α :=
  match s.running i with
  | some (c, .mem f k) => { s.goesOn i (some (c, k s.mem)) with mem := f s.mem }
  | some (c, .call e k) =>
    let r := h s.mem s.world e
    match act e with
    | .other => { s.goesOn i (some (c, k r.1)) with world := r.2 }
    | .acquire l => if s.owner l = none then (s.goesOn i (some (c, k r.1))).own l (some i) else s
    | .release l => (s.goesOn i (some (c, k r.1))).own l none
  | some (_, .ret _) => s.goesOn i none
  | _ => s

lemma Tasks.turn_step {env : Env M W E R} {h : Handler M W E R} {act : E → LockAct L}
    (allowed : ∀ m w e, env m w e (h m w e).1 (h m w e).2) (run : C → Prog M E R α) (i : ι)
    (s : Tasks ι C L M W E R α) :
    s.turn h act i = s ∨ TaskStep env act run i s (s.turn h act i) := by
  unfold turn
  split
  · next hrun => exact .inr (.mem hrun)
  · next c e k hrun =>
    simp only
    split
    · next hact => exact .inr (.call hrun hact (allowed _ _ _))
    · next l hact =>
      split
      · next hfree => exact .inr (.acquire _ hrun hact hfree)
      · exact .inl rfl
    · next l hact => exact .inr (.release _ hrun hact)
  · next hrun => exact .inr (.finish hrun)
  · exact .inl rfl

end step

/-- Task `i` is about to take lock `l`. -/
def Tasks.Waits (act : E → LockAct L) (s : Tasks ι C L M W E R α) (i : ι) (l : L) : Prop :=
  ∃ c e k, s.running i = some (c, .call e k) ∧ act e = .acquire l

/-- Each task of `D` waits for a lock that a task of `D` holds, or a task that is in no call. -/
def Tasks.Deadlocked (act : E → LockAct L) (s : Tasks ι C L M W E R α) (D : Set ι) : Prop :=
  D.Nonempty ∧ ∀ i ∈ D, ∃ l j, s.Waits act i l ∧ s.owner l = some j ∧ (j ∈ D ∨ s.running j = none)

/-- A task waits for one lock at a time. -/
lemma Tasks.Waits.unique {act : E → LockAct L} {s : Tasks ι C L M W E R α} {i : ι} {l l' : L}
    (h : s.Waits act i l) (h' : s.Waits act i l') : l = l' := by
  obtain ⟨c, e, k, hrun, hact⟩ := h
  obtain ⟨c', e', k', hrun', hact'⟩ := h'
  rw [hrun] at hrun'
  obtain ⟨-, rfl, -⟩ : c = c' ∧ e = e' ∧ HEq k k' := by simpa using hrun'
  exact LockAct.acquire.inj (hact.symm.trans hact')

section discipline
variable [LinearOrder L] {act : E → LockAct L} {env : Env M W E R} {run : C → Prog M E R α}
variable {s s' : Tasks ι C L M W E R α}

/-- The locks that task `i` holds. -/
def Tasks.Holds (s : Tasks ι C L M W E R α) (i : ι) (held : Finset L) : Prop :=
  ∀ l, l ∈ held ↔ s.owner l = some i

/-- Task `i` holds what the rest of its call returns in order, and nothing outside a call. -/
def Tasks.OrderlyAt (act : E → LockAct L) (s : Tasks ι C L M W E R α) (i : ι) : Prop :=
  match s.running i with
  | none => s.Holds i ∅
  | some (_, p) => ∃ held, s.Holds i held ∧ Follows (lockAutomaton act (fun _ => True) fun _ => True)
      p held fun _ held' => held' = ∅

lemma orderlyAt_idle (h : s.Idle) (i : ι) : s.OrderlyAt act i := by
  rw [Tasks.OrderlyAt, h.1 i]
  intro l
  simp [h.2 l]

/-- What a task holds after a call in order. -/
lemma Tasks.OrderlyAt.of_call {i : ι} (h : s.OrderlyAt act i) {c : C} {e : E}
    {k : R e → Prog M E R α} (hrun : s.running i = some (c, .call e k)) :
    ∃ held, s.Holds i held ∧ InOrder act held e ∧ ∀ x,
      Follows (lockAutomaton act (fun _ => True) fun _ => True) (k x) (holding act held e)
        fun _ held' => held' = ∅ := by
  rw [Tasks.OrderlyAt, hrun] at h
  obtain ⟨held, hheld, _, ⟨-, he, rfl⟩, hk⟩ := h
  exact ⟨held, hheld, he, hk⟩

/-- A task that goes on is orderly again if it holds what the rest of its call returns. -/
lemma orderlyAt_of_running {i : ι} {c : C} {p : Prog M E R α} {held : Finset L}
    (hrun : s.running i = some (c, p)) (hheld : s.Holds i held)
    (hp : Follows (lockAutomaton act (fun _ => True) fun _ => True) p held fun _ held' => held' = ∅) :
    s.OrderlyAt act i := by
  rw [Tasks.OrderlyAt, hrun]
  exact ⟨held, hheld, hp⟩

/-- The other tasks do not notice a step that leaves their calls and their locks alone. -/
lemma Tasks.OrderlyAt.other {j : ι} (h : s.OrderlyAt act j) (hrun : s'.running j = s.running j)
    (howner : ∀ l, s'.owner l = some j ↔ s.owner l = some j) : s'.OrderlyAt act j := by
  have hold {held : Finset L} (hs : s.Holds j held) : s'.Holds j held := fun l =>
    (hs l).trans (howner l).symm
  unfold Tasks.OrderlyAt at h ⊢
  rw [hrun]
  split
  · next hnone =>
    rw [hnone] at h
    exact hold h
  · next hsome =>
    rw [hsome] at h
    obtain ⟨held, hheld, hp⟩ := h
    exact ⟨held, hold hheld, hp⟩

variable [DecidableEq ι]

/-- The step lemma: tasks that make orderly calls stay orderly. -/
lemma orderlyAt_step (calls : ∀ c, Returns act (fun _ => True) (fun _ => True) (run c)) {i : ι}
    (h : ∀ j, s.OrderlyAt act j) (last : TaskStep env act run i s s') (j : ι) :
    s'.OrderlyAt act j := by
  by_cases hj : j = i
  · subst hj
    cases last with
    | start c idle =>
      have hheld : s.Holds j ∅ := by simpa [Tasks.OrderlyAt, idle] using h j
      exact orderlyAt_of_running (Function.update_self ..) hheld (calls c)
    | mem at_mem =>
      have hj := h j
      rw [Tasks.OrderlyAt, at_mem] at hj
      obtain ⟨held, hheld, _, ⟨-, rfl⟩, hk⟩ := hj
      exact orderlyAt_of_running (Function.update_self ..) hheld (hk _)
    | call at_call plain answer =>
      obtain ⟨held, hheld, -, hk⟩ := (h j).of_call at_call
      simp only [holding, plain] at hk
      exact orderlyAt_of_running (Function.update_self ..) hheld (hk _)
    | @acquire c e k l x at_call lock free =>
      obtain ⟨held, hheld, -, hk⟩ := (h j).of_call at_call
      simp only [holding, lock] at hk
      refine orderlyAt_of_running (Function.update_self ..) (fun l' => ?_) (hk x)
      by_cases hl : l' = l
      · simp [Tasks.own, hl]
      · simpa [Tasks.own, Tasks.goesOn, hl] using hheld l'
    | @release c e k l x at_call unlock =>
      obtain ⟨held, hheld, -, hk⟩ := (h j).of_call at_call
      simp only [holding, unlock] at hk
      refine orderlyAt_of_running (Function.update_self ..) (fun l' => ?_) (hk x)
      by_cases hl : l' = l
      · simp [Tasks.own, hl]
      · simpa [Tasks.own, Tasks.goesOn, hl] using hheld l'
    | finish at_ret =>
      have hj := h j
      rw [Tasks.OrderlyAt, at_ret] at hj
      obtain ⟨_, hheld, rfl⟩ := hj
      simpa [Tasks.OrderlyAt, Tasks.goesOn, Tasks.Holds] using hheld
  · cases last with
    | @acquire c e k l x at_call lock free =>
      refine (h j).other (Function.update_of_ne hj ..) fun l' => ?_
      by_cases hl : l' = l
      · simp [Tasks.own, hl, free, Ne.symm hj]
      · simp [Tasks.own, Tasks.goesOn, hl]
    | @release c e k l x at_call unlock =>
      -- the lock released is one that the task held
      obtain ⟨held, hheld, hin, -⟩ := (h i).of_call at_call
      simp only [InOrder, unlock] at hin
      have howner : s.owner l = some i := (hheld l).1 hin
      refine (h j).other (Function.update_of_ne hj ..) fun l' => ?_
      by_cases hl : l' = l
      · simp [Tasks.own, hl, howner, Ne.symm hj]
      · simp [Tasks.own, Tasks.goesOn, hl]
    | _ => exact (h j).other (Function.update_of_ne hj ..) fun _ => Iff.rfl

/-- The run lemma. -/
lemma orderlyAt_reached (calls : ∀ c, Returns act (fun _ => True) (fun _ => True) (run c))
    {s₀ : Tasks ι C L M W E R α} (idle : s₀.Idle) (h : Reached env act run s₀ s) (i : ι) :
    s.OrderlyAt act i := by
  induction h generalizing i with
  | start => exact orderlyAt_idle idle i
  | step _ last ih => exact orderlyAt_step calls ih last i

omit [DecidableEq ι] in
/-- A task waits above the locks it holds. -/
lemma Tasks.OrderlyAt.waits_above {i : ι} {l l' : L} (h : s.OrderlyAt act i)
    (hwaits : s.Waits act i l) (howner : s.owner l' = some i) : l' < l := by
  obtain ⟨c, e, k, hrun, hact⟩ := hwaits
  obtain ⟨held, hheld, hin, -⟩ := h.of_call hrun
  simp only [InOrder, hact] at hin
  exact hin l' ((hheld l').2 howner)

/-- Any number of tasks that take their locks in one order cannot deadlock: of the locks waited
for in a deadlock, the holder of the greatest waits for a greater one. -/
theorem no_deadlock [Finite ι] (calls : ∀ c, Returns act (fun _ => True) (fun _ => True) (run c))
    {s₀ : Tasks ι C L M W E R α} (idle : s₀.Idle) (h : Reached env act run s₀ s) (D : Set ι) :
    ¬ s.Deadlocked act D := by
  rintro ⟨⟨i, hi⟩, hD⟩
  have orderly := orderlyAt_reached calls idle h
  let awaited : Set L := {l | ∃ j ∈ D, s.Waits act j l}
  have hfinite : awaited.Finite := by
    have hunion : awaited ⊆ ⋃ j : ι, {l | s.Waits act j l} := fun l ⟨j, _, hj⟩ =>
      Set.mem_iUnion.2 ⟨j, hj⟩
    have hone (j : ι) : {l | s.Waits act j l}.Finite :=
      Set.Subsingleton.finite fun l hl l' hl' => hl.unique hl'
    exact (Set.finite_iUnion hone).subset hunion
  have hawaited : awaited.Nonempty := by
    obtain ⟨l, -, hwaits, -⟩ := hD i hi
    exact ⟨l, i, hi, hwaits⟩
  obtain ⟨l, ⟨j, hj, hwaits⟩, hmax⟩ := hfinite.exists_maximal hawaited
  obtain ⟨l', holder, hwaits', howner, hholder⟩ := hD j hj
  obtain rfl := hwaits.unique hwaits'
  rcases hholder with hholder | hholder
  · obtain ⟨l', -, hwaits', -⟩ := hD holder hholder
    have habove : l < l' := (orderly holder).waits_above hwaits' howner
    exact absurd (hmax ⟨holder, hholder, hwaits'⟩ habove.le) (not_le.2 habove)
  · have hheld := orderly holder
    rw [Tasks.OrderlyAt, hholder] at hheld
    simpa using (hheld l).2 howner

end discipline

end IoLibrary.Effects
