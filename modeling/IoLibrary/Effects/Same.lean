import IoLibrary.Effects.Program

/-! Programs with the same runs from a memory: the environment cannot tell them apart. -/
namespace IoLibrary.Effects
open Prog

variable {M W E : Type} {R : E → Type} {α β : Type} {env : Env M W E R} {m : M}

def SameRuns (env : Env M W E R) (m : M) (p q : Prog M E R α) : Prop :=
  ∀ w r m' w', Eval env p m w r m' w' ↔ Eval env q m w r m' w'

variable {p q : Prog M E R α}

lemma SameRuns.refl (p : Prog M E R α) : SameRuns env m p p := fun _ _ _ _ => Iff.rfl

lemma SameRuns.of_eq (h : p = q) : SameRuns env m p q := h ▸ .refl p

/-- A run of a sequence is a run of its first part, and one of the second unless the first is cut. -/
lemma eval_bind {f : α → Prog M E R β} {w w' : W} {m' : M} {r : Option β} :
    Eval env (p >>= f) m w r m' w' ↔
      (∃ a m₁ w₁, Eval env p m w (some a) m₁ w₁ ∧ Eval env (f a) m₁ w₁ r m' w') ∨
        r = none ∧ Eval env p m w none m' w' := by
  change Eval env (p.bind f) m w r m' w' ↔ _
  constructor
  · intro run
    induction p generalizing m w with
    | ret a => exact .inl ⟨a, m, w, .ret, run⟩
    | mem g k ih =>
      cases run with
      | mem rest =>
        rcases ih m rest with ⟨a, m₁, w₁, hp, hf⟩ | ⟨hr, hp⟩
        · exact .inl ⟨a, m₁, w₁, .mem hp, hf⟩
        · exact .inr ⟨hr, .mem hp⟩
    | call e k ih =>
      cases run with
      | call step rest =>
        rcases ih _ rest with ⟨a, m₁, w₁, hp, hf⟩ | ⟨hr, hp⟩
        · exact .inl ⟨a, m₁, w₁, .call step hp, hf⟩
        · exact .inr ⟨hr, .call step hp⟩
    | cut =>
      cases run
      exact .inr ⟨rfl, .cut⟩
  · intro run
    induction p generalizing m w with
    | ret a =>
      rcases run with ⟨_, _, _, hp, hf⟩ | ⟨-, hp⟩
      · cases hp
        exact hf
      · cases hp
    | mem g k ih =>
      rcases run with ⟨a, m₁, w₁, hp, hf⟩ | ⟨hr, hp⟩
      · cases hp with
        | mem rest => exact .mem (ih m (.inl ⟨a, m₁, w₁, rest, hf⟩))
      · cases hp with
        | mem rest => exact .mem (ih m (.inr ⟨hr, rest⟩))
    | call e k ih =>
      rcases run with ⟨a, m₁, w₁, hp, hf⟩ | ⟨hr, hp⟩
      · cases hp with
        | call step rest => exact .call step (ih _ (.inl ⟨a, m₁, w₁, rest, hf⟩))
      · cases hp with
        | call step rest => exact .call step (ih _ (.inr ⟨hr, rest⟩))
    | cut =>
      rcases run with ⟨_, _, _, hp, -⟩ | ⟨rfl, hp⟩
      · cases hp
      · cases hp
        exact .cut

lemma SameRuns.bind (h : SameRuns env m p q) (f : α → Prog M E R β) :
    SameRuns env m (p >>= f) (q >>= f) := by
  intro w r m' w'
  simp only [eval_bind, h w]

lemma SameRuns.after_get {f g : M → Prog M E R α} (h : SameRuns env m (f m) (g m)) :
    SameRuns env m (get >>= f) (get >>= g) := by
  intro w r m' w'
  constructor
  · intro run
    cases run with
    | mem rest => exact .mem ((h w r m' w').1 rest)
  · intro run
    cases run with
    | mem rest => exact .mem ((h w r m' w').2 rest)

lemma SameRuns.after_call {e : E} {f g : R e → Prog M E R α} (h : ∀ x, SameRuns env m (f x) (g x)) :
    SameRuns env m (perform e >>= f) (perform e >>= g) := by
  intro w r m' w'
  constructor
  · intro run
    cases run with
    | call step rest => exact .call step ((h _ _ r m' w').1 rest)
  · intro run
    cases run with
    | call step rest => exact .call step ((h _ _ r m' w').2 rest)

lemma SameRuns.ite {c : Prop} [Decidable c] {p' q' : Prog M E R α} (h : c → SameRuns env m p q)
    (h' : ¬ c → SameRuns env m p' q') : SameRuns env m (if c then p else p') (if c then q else q') := by
  by_cases hc : c
  · rw [if_pos hc, if_pos hc]
    exact h hc
  · rw [if_neg hc, if_neg hc]
    exact h' hc

end IoLibrary.Effects
