import IoLibrary.Effects.View

/-! What a program can return, whatever its memory and its environment. -/
namespace IoLibrary.Effects
open Prog

variable {M G W E : Type} {R : E → Type} {α β : Type} {P : α → Prop} {P' : β → Prop}

/-- Every result of the program is one of `P`. -/
def Gives (P : α → Prop) : Prog M E R α → Prop
  | .ret a => P a
  | .mem _ k => ∀ m, Gives P (k m)
  | .call _ k => ∀ x, Gives P (k x)
  | .cut => True

@[simp] lemma gives_pure (a : α) : Gives P (pure a : Prog M E R α) ↔ P a := Iff.rfl

lemma gives_all (p : Prog M E R α) : Gives (fun _ => True) p := by
  induction p with
  | ret a => trivial
  | mem f k ih => exact ih
  | call e k ih => exact ih
  | cut => trivial

lemma gives_bind {p : Prog M E R α} {f : α → Prog M E R β} (hp : Gives P p)
    (hf : ∀ a, P a → Gives P' (f a)) : Gives P' (p >>= f) := by
  change Gives P' (p.bind f)
  induction p with
  | ret a => exact hf a hp
  | mem g k ih => exact fun m => ih m (hp m)
  | call e k ih => exact fun x => ih x (hp x)
  | cut => trivial

lemma gives_mono {P₁ : α → Prop} {p : Prog M E R α} (h : Gives P p) (hP : ∀ a, P a → P₁ a) :
    Gives P₁ p := by
  induction p with
  | ret a => exact hP a h
  | mem f k ih => exact fun m => ih m (h m)
  | call e k ih => exact fun x => ih x (h x)
  | cut => trivial

/-- A step whose own result does not matter. -/
lemma gives_then {p : Prog M E R α} {f : α → Prog M E R β} (hf : ∀ a, Gives P' (f a)) :
    Gives P' (p >>= f) := gives_bind (gives_all p) fun a _ => hf a

lemma gives_ite {c : Prop} [Decidable c] {p q : Prog M E R α} (hp : c → Gives P p)
    (hq : ¬ c → Gives P q) : Gives P (if c then p else q) := by
  by_cases h : c
  · rw [if_pos h]
    exact hp h
  · rw [if_neg h]
    exact hq h

/-- A loop gives what its body leaves with. -/
lemma gives_loop {σ : Type} {body : σ → Prog M E R (Turn σ α)}
    (h : ∀ s, Gives (fun t => ∀ a, t = .leave a → P a) (body s)) (n : ℕ) (s : σ) :
    Gives P (loop body n s) := by
  induction n generalizing s with
  | zero => trivial
  | succ n ih =>
    refine gives_bind (h s) fun t ht => ?_
    cases t with
    | again s' => exact ih s'
    | leave a => exact ht a rfl

lemma wpv_of_gives {view : M → G} {env : Env G W E R} {p : Prog M E R α} (h : Gives P p) {g : G}
    {w : W} : wpv view env p (fun a _ _ => P a) (fun _ _ => True) g w := by
  induction p generalizing g w with
  | ret a => exact h
  | mem f k ih => exact fun m _ => ih m (h m)
  | call e k ih => exact fun x w₁ _ => ih x (h x)
  | cut => trivial

end IoLibrary.Effects
