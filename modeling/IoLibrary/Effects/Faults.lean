import Mathlib.Data.BitVec
import Mathlib.Tactic.Common

/-! Deterministic programs that may fault. `lands tol p Q s` says that `p` returns from `s` in `Q`,
or stops with a fault that `tol` tolerates. There is one rule for each program former and each is
an equivalence, so that rewriting with them gives the exact condition. -/
namespace IoLibrary.Effects

variable {F σ α β : Type} {tol : F → Prop}

def lands (tol : F → Prop) (p : StateT σ (Except F) α) (Q : α → σ → Prop) (s : σ) : Prop :=
  match p s with
  | .ok (a, s') => Q a s'
  | .error f => tol f

variable {Q : α → σ → Prop} {s : σ}

@[simp] lemma lands_pure (a : α) : lands tol (pure a) Q s ↔ Q a s := Iff.rfl

@[simp] lemma lands_get {Q : σ → σ → Prop} : lands tol get Q s ↔ Q s s := Iff.rfl

@[simp] lemma lands_modify (f : σ → σ) {Q : Unit → σ → Prop} :
    lands tol (modify f) Q s ↔ Q () (f s) := Iff.rfl

@[simp] lemma lands_set (s' : σ) {Q : PUnit → σ → Prop} :
    lands tol (set s') Q s ↔ Q ⟨⟩ s' := Iff.rfl

@[simp] lemma lands_throw (f : F) :
    lands tol (throw f : StateT σ (Except F) α) Q s ↔ tol f := Iff.rfl

@[simp] lemma lands_bind (p : StateT σ (Except F) α) (f : α → StateT σ (Except F) β)
    {Q : β → σ → Prop} :
    lands tol (p >>= f) Q s ↔ lands tol p (fun a => lands tol (f a) Q) s := by
  simp only [lands, bind, StateT.bind, Except.bind]
  cases p s with
  | error f => rfl
  | ok r => rfl

@[simp] lemma lands_ite (c : Prop) [Decidable c] (p q : StateT σ (Except F) α) :
    lands tol (if c then p else q) Q s ↔ if c then lands tol p Q s else lands tol q Q s := by
  by_cases h : c <;> simp [h]

/-- A run that lands and stops with no tolerated fault returns. -/
lemma lands_returns {p : StateT σ (Except F) α} :
    lands (fun _ => False) p (fun _ _ => True) s ↔ ∃ a s', p s = .ok (a, s') := by
  simp only [lands]
  cases h : p s with
  | error f => simp
  | ok r => exact ⟨fun _ => ⟨r.1, r.2, rfl⟩, fun _ => trivial⟩

/-- Without a tolerated fault, to land is to return there. -/
lemma lands_iff {p : StateT σ (Except F) α} :
    lands (fun _ => False) p Q s ↔ ∃ a s', p s = .ok (a, s') ∧ Q a s' := by
  simp only [lands]
  cases h : p s with
  | error f => simp
  | ok r =>
    constructor
    · exact fun hQ => ⟨r.1, r.2, rfl, hQ⟩
    · rintro ⟨a, s', hr, hQ⟩
      cases hr
      exact hQ

lemma lands_tolerated {p : StateT σ (Except F) α} :
    lands tol p (fun _ _ => True) s ↔ ∀ f, p s = .error f → tol f := by
  simp only [lands]
  cases h : p s with
  | error f =>
    constructor
    · rintro htol _ ⟨⟩
      exact htol
    · exact fun htol => htol f rfl
  | ok r =>
    refine ⟨fun _ f hf => ?_, fun _ => trivial⟩
    cases hf

end IoLibrary.Effects
