import IoLibrary.Effects.Results
import IoLibrary.Effects.Tasks

/-! Roles: what one of several tasks may call from the place it is at, and where an answer leads
it. A program that plays a role does so whatever the others do to the memory, so that an
invariant over the places of all tasks is kept by every step of any of them. -/
namespace IoLibrary.Effects
open Prog

variable {S M W E L C ι : Type} {R : E → Type} {α β : Type}

structure Role (S E : Type) (R : E → Type) where
  may : S → E → Prop
  next : S → (e : E) → R e → S → Prop

/-- Every call of the program is one that its place allows, and it returns in `Q`. -/
def Plays (A : Role S E R) : Prog M E R α → S → (α → S → Prop) → Prop
  | .ret a, s, Q => Q a s
  | .mem _ k, s, Q => ∀ m, Plays A (k m) s Q
  | .call e k, s, Q => A.may s e ∧ ∀ x s', A.next s e x s' → Plays A (k x) s' Q
  | .cut, _, _ => True

section rules
variable {A : Role S E R} {s : S} {Q Q' : α → S → Prop}

@[simp] lemma plays_pure (a : α) : Plays A (pure a : Prog M E R α) s Q ↔ Q a s := Iff.rfl

@[simp] lemma plays_get {Q : M → S → Prop} :
    Plays A (get : Prog M E R M) s Q ↔ ∀ m, Q m s := Iff.rfl

@[simp] lemma plays_modify (f : M → M) {Q : Unit → S → Prop} :
    Plays A (modify f : Prog M E R Unit) s Q ↔ M → Q () s := Iff.rfl

@[simp] lemma plays_perform (e : E) {Q : R e → S → Prop} :
    Plays A (perform e : Prog M E R (R e)) s Q ↔
      A.may s e ∧ ∀ x s', A.next s e x s' → Q x s' := Iff.rfl

@[simp] lemma plays_bind (p : Prog M E R α) (f : α → Prog M E R β) {Q : β → S → Prop} :
    Plays A (p >>= f) s Q ↔ Plays A p s fun a s => Plays A (f a) s Q := by
  change Plays A (p.bind f) s Q ↔ _
  induction p generalizing s with
  | ret a => rfl
  | mem g k ih => exact forall_congr' fun m => ih m
  | call e k ih => exact and_congr_right fun _ => forall₃_congr fun x _ _ => ih x
  | cut => rfl

@[simp] lemma plays_ite (c : Prop) [Decidable c] (p q : Prog M E R α) :
    Plays A (if c then p else q) s Q ↔ (c → Plays A p s Q) ∧ (¬ c → Plays A q s Q) := by
  by_cases h : c <;> simp [h]

lemma plays_mono {p : Prog M E R α} (h : Plays A p s Q) (hQ : ∀ a s, Q a s → Q' a s) :
    Plays A p s Q' := by
  induction p generalizing s with
  | ret a => exact hQ a s h
  | mem f k ih => exact fun m => ih m (h m)
  | call e k ih => exact ⟨h.1, fun x s' hx => ih x (h.2 x s' hx)⟩
  | cut => trivial

/-- What the program can return joins its postcondition. -/
lemma plays_and_gives {p : Prog M E R α} {P : α → Prop} (h : Plays A p s Q) (hp : Gives P p) :
    Plays A p s fun a s => Q a s ∧ P a := by
  induction p generalizing s with
  | ret a => exact ⟨h, hp⟩
  | mem f k ih => exact fun m => ih m (h m) (hp m)
  | call e k ih => exact ⟨h.1, fun x s' hx => ih x (h.2 x s' hx) (hp x)⟩
  | cut => trivial

/-- The loop rule: `I` is the invariant at the head of each turn. -/
lemma plays_loop {σ : Type} {body : σ → Prog M E R (Turn σ α)} (I : σ → S → Prop)
    (turn : ∀ u s, I u s → Plays A (body u) s fun t s => match t with
      | .again u' => I u' s
      | .leave a => Q a s) (n : ℕ) {u : σ} (h : I u s) : Plays A (loop body n u) s Q := by
  induction n generalizing u s with
  | zero => trivial
  | succ n ih =>
    refine (plays_bind _ _).2 (plays_mono (turn u s h) fun t s ht => ?_)
    cases t with
    | again u' => exact ih ht
    | leave a => exact ht

/-- Calls that the place allows and that do not lead away from it. -/
lemma plays_of_within {U : (M → M) → Prop} {C : E → Prop} {p : Prog M E R α} (hp : Within U C p)
    (hC : ∀ e, C e → A.may s e ∧ ∀ x s', A.next s e x s' → s' = s) :
    Plays A p s fun _ s' => s' = s := by
  induction p with
  | ret a => rfl
  | mem f k ih => exact fun m => ih m (hp.2 m)
  | call e k ih =>
    obtain ⟨hmay, hnext⟩ := hC e hp.1
    refine ⟨hmay, fun x s' hx => ?_⟩
    rw [hnext x s' hx]
    exact ih x (hp.2 x)
  | cut => trivial

end rules

section tasks
variable [DecidableEq ι] [DecidableEq L] {A : Role S E R} {env : Env M W E R}
variable {act : E → LockAct L} {run : C → Prog M E R α}
variable {ok : ι → Tasks ι C L M W E R α → Tasks ι C L M W E R α → Prop}

/-- The states reached while the tasks are in one call each, by steps that `ok` allows. -/
inductive Along (env : Env M W E R) (act : E → LockAct L) (run : C → Prog M E R α)
    (ok : ι → Tasks ι C L M W E R α → Tasks ι C L M W E R α → Prop)
    (s₀ : Tasks ι C L M W E R α) : Tasks ι C L M W E R α → Prop
  | start : Along env act run ok s₀ s₀
  | step {s s' i} (before : Along env act run ok s₀ s) (last : TaskStep env act run i s s')
      (in_call : s'.running i ≠ none) (allowed : ok i s s') : Along env act run ok s₀ s'

/-- Every task is in a call and plays the role from its place. -/
def Tasks.Play (A : Role S E R) (Q : α → S → Prop) (place : ι → S)
    (s : Tasks ι C L M W E R α) : Prop :=
  ∀ i, ∃ c p, s.running i = some (c, p) ∧ Plays A p (place i) Q

/-- What the steps of one task have to keep of an invariant over the places, the holders of the
locks and the world; `K` relates the states before and after. -/
structure Sustains (A : Role S E R) (env : Env M W E R) (act : E → LockAct L)
    (ok : ι → Tasks ι C L M W E R α → Tasks ι C L M W E R α → Prop)
    (I : (ι → S) → (L → Option ι) → W → Prop) (K : (ι → S) → W → (ι → S) → W → Prop) : Prop where
  mem : ∀ place w, K place w place w
  call : ∀ {s : Tasks ι C L M W E R α} {i c e k x w place}, s.running i = some (c, .call e k) →
    act e = .other → env s.mem s.world e x w →
    ok i s { s.goesOn i (some (c, k x)) with world := w } → I place s.owner s.world →
    A.may (place i) e → ∃ p, A.next (place i) e x p ∧ I (Function.update place i p) s.owner w ∧
      K place s.world (Function.update place i p) w
  acquire : ∀ {owner : L → Option ι} {i e l w place} (x : R e), act e = .acquire l → owner l = none →
    I place owner w → A.may (place i) e → ∃ p, A.next (place i) e x p ∧
      I (Function.update place i p) (Function.update owner l (some i)) w ∧
      K place w (Function.update place i p) w
  release : ∀ {owner : L → Option ι} {i e l w place} (x : R e), act e = .release l →
    I place owner w → A.may (place i) e → ∃ p, A.next (place i) e x p ∧
      I (Function.update place i p) (Function.update owner l none) w ∧
      K place w (Function.update place i p) w

variable {Q : α → S → Prop} {I : (ι → S) → (L → Option ι) → W → Prop}
variable {K : (ι → S) → W → (ι → S) → W → Prop} {s s' s₀ : Tasks ι C L M W E R α} {place : ι → S}

omit [DecidableEq L] in
lemma Tasks.Play.goesOn (h : s.Play A Q place) {i : ι} {c : C} {p : Prog M E R α} {u : S}
    (hp : Plays A p u Q) (hrun : s'.running = Function.update s.running i (some (c, p))) :
    s'.Play A Q (Function.update place i u) := by
  intro j
  by_cases hj : j = i
  · subst hj
    exact ⟨c, p, by rw [hrun, Function.update_self], by rwa [Function.update_self]⟩
  · obtain ⟨c', p', hrun', hp'⟩ := h j
    exact ⟨c', p', by rw [hrun, Function.update_of_ne hj, hrun'], by rwa [Function.update_of_ne hj]⟩

/-- The step lemma. -/
lemma play_step (keeps : Sustains A env act ok I K) {i : ι} (hplay : s.Play A Q place)
    (hI : I place s.owner s.world) (last : TaskStep env act run i s s')
    (in_call : s'.running i ≠ none) (allowed : ok i s s') :
    ∃ place', s'.Play A Q place' ∧ I place' s'.owner s'.world ∧ K place s.world place' s'.world := by
  obtain ⟨c, p, hrun, hp⟩ := hplay i
  cases last with
  | start c idle => exact absurd (hrun.symm.trans idle) nofun
  | mem at_mem =>
    obtain ⟨rfl, rfl⟩ := Prod.mk.inj (Option.some.inj (hrun.symm.trans at_mem))
    refine ⟨place, ?_, hI, keeps.mem _ _⟩
    rw [← Function.update_eq_self i place]
    exact hplay.goesOn (hp s.mem) rfl
  | call at_call plain answer =>
    obtain ⟨rfl, rfl⟩ := Prod.mk.inj (Option.some.inj (hrun.symm.trans at_call))
    obtain ⟨u, hu, hI', hK⟩ := keeps.call at_call plain answer allowed hI hp.1
    exact ⟨_, hplay.goesOn (hp.2 _ _ hu) rfl, hI', hK⟩
  | acquire x at_call lock free =>
    obtain ⟨rfl, rfl⟩ := Prod.mk.inj (Option.some.inj (hrun.symm.trans at_call))
    obtain ⟨u, hu, hI', hK⟩ := keeps.acquire x lock free hI hp.1
    exact ⟨_, hplay.goesOn (hp.2 _ _ hu) rfl, hI', hK⟩
  | release x at_call unlock =>
    obtain ⟨rfl, rfl⟩ := Prod.mk.inj (Option.some.inj (hrun.symm.trans at_call))
    obtain ⟨u, hu, hI', hK⟩ := keeps.release x unlock hI hp.1
    exact ⟨_, hplay.goesOn (hp.2 _ _ hu) rfl, hI', hK⟩
  | finish at_ret => exact absurd (Function.update_self ..) in_call

/-- The run lemma: what holds of the places along the way, and of the first and the last. -/
lemma play_along (keeps : Sustains A env act ok I K)
    (trans : ∀ p w p' w' p'' w'', K p w p' w' → K p' w' p'' w'' → K p w p'' w'')
    (hplay : s₀.Play A Q place) (hI : I place s₀.owner s₀.world) (h : Along env act run ok s₀ s) :
    ∃ place', s.Play A Q place' ∧ I place' s.owner s.world ∧ K place s₀.world place' s.world := by
  induction h with
  | start => exact ⟨place, hplay, hI, keeps.mem _ _⟩
  | step _ last in_call allowed ih =>
    obtain ⟨place₁, hplay₁, hI₁, hK₁⟩ := ih
    obtain ⟨place₂, hplay₂, hI₂, hK₂⟩ := play_step keeps hplay₁ hI₁ last in_call allowed
    exact ⟨place₂, hplay₂, hI₂, trans _ _ _ _ _ _ hK₁ hK₂⟩

end tasks

end IoLibrary.Effects
