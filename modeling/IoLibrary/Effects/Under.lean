import IoLibrary.Effects.Footprint

/-! Footprints from a part of the memory: the calls that a program can make while its memory is
in that part, and that it stays there. -/
namespace IoLibrary.Effects
open Prog

variable {M W E : Type} {R : E → Type} {α β : Type}

/-- From a memory in `J` every update stays in `J` and every call satisfies `C`. -/
def Under (J : M → Prop) (C : E → Prop) : Prog M E R α → Prop
  | .ret _ => True
  | .mem f k => ∀ m, J m → J (f m) ∧ Under J C (k m)
  | .call e k => C e ∧ ∀ x, Under J C (k x)
  | .cut => True

variable {J : M → Prop} {C : E → Prop}

@[simp] lemma under_pure (a : α) : Under J C (pure a : Prog M E R α) := trivial

@[simp] lemma under_perform (e : E) : Under J C (perform e : Prog M E R (R e)) ↔ C e :=
  and_iff_left fun _ => trivial

lemma under_bind {p : Prog M E R α} {f : α → Prog M E R β} (hp : Under J C p)
    (hf : ∀ a, Under J C (f a)) : Under J C (p >>= f) := by
  change Under J C (p.bind f)
  induction p with
  | ret a => exact hf a
  | mem g k ih => exact fun m hm => ⟨(hp m hm).1, ih m (hp m hm).2⟩
  | call e k ih => exact ⟨hp.1, fun x => ih x (hp.2 x)⟩
  | cut => trivial

/-- What follows a look at the memory may rely on `J`. -/
lemma under_get {f : M → Prog M E R α} (h : ∀ m, J m → Under J C (f m)) :
    Under J C (get >>= f) := fun m hm => ⟨hm, h m hm⟩

lemma under_modify {f : M → M} (h : ∀ m, J m → J (f m)) :
    Under J C (modify f : Prog M E R Unit) := fun m hm => ⟨h m hm, trivial⟩

lemma under_ite {c : Prop} [Decidable c] {p q : Prog M E R α} (hp : c → Under J C p)
    (hq : ¬ c → Under J C q) : Under J C (if c then p else q) := by
  split
  · next h => exact hp h
  · next h => exact hq h

lemma under_loop {σ : Type} {body : σ → Prog M E R (Turn σ α)} (h : ∀ s, Under J C (body s))
    (n : ℕ) (s : σ) : Under J C (loop body n s) := by
  induction n generalizing s with
  | zero => trivial
  | succ n ih =>
    refine under_bind (h s) fun t => ?_
    cases t with
    | again s' => exact ih s'
    | leave a => trivial

lemma under_of_within {U : (M → M) → Prop} {C' : E → Prop} {p : Prog M E R α} (hp : Within U C' p)
    (hU : ∀ f, U f → ∀ m, J m → J (f m)) (hC : ∀ e, C' e → C e) : Under J C p := by
  induction p with
  | ret a => trivial
  | mem f k ih => exact fun m hm => ⟨hU f hp.1 m hm, ih m (hp.2 m)⟩
  | call e k ih => exact ⟨hC e hp.1, fun x => ih x (hp.2 x)⟩
  | cut => trivial

/-- What the calls of the footprint preserve is an invariant of every run from `J`. -/
lemma wp_of_under {env : Env M W E R} {p : Prog M E R α} (hp : Under J C p) (I : W → Prop)
    (hC : ∀ e, C e → ∀ m w x w₁, I w → env m w e x w₁ → I w₁) {m : M} {w : W} (hm : J m) (h : I w) :
    wp env p (fun _ _ => I) (fun _ => I) m w := by
  induction p generalizing m w with
  | ret a => exact h
  | mem f k ih => exact ih m (hp m hm).2 (hp m hm).1 h
  | call e k ih => exact fun x w₁ hx => ih x (hp.2 x) hm (hC e hp.1 m w x w₁ h hx)
  | cut => exact h

end IoLibrary.Effects
