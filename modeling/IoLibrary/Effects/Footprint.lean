import IoLibrary.Effects.Wp

/-! Footprints: which memory updates and which calls occur anywhere in a program,
whatever the environment answers. A property that every update and call of the
footprint preserves is an invariant of every run, cut runs included. -/
namespace IoLibrary.Effects
open Prog

variable {M W E : Type} {R : E → Type} {α β : Type}

/-- Every memory update of the program satisfies `U` and every call satisfies `C`. -/
def Within (U : (M → M) → Prop) (C : E → Prop) : Prog M E R α → Prop
  | .ret _ => True
  | .mem f k => U f ∧ ∀ m, Within U C (k m)
  | .call e k => C e ∧ ∀ x, Within U C (k x)
  | .cut => True

variable {U U' : (M → M) → Prop} {C C' : E → Prop}

@[simp] lemma within_pure (a : α) : Within U C (pure a : Prog M E R α) := trivial

@[simp] lemma within_ret (a : α) : Within U C (.ret a : Prog M E R α) := trivial

@[simp] lemma within_cut : Within U C (.cut : Prog M E R α) := trivial

lemma within_get (h : U id) : Within U C (get : Prog M E R M) := ⟨h, fun _ => trivial⟩

@[simp] lemma within_modify (f : M → M) : Within U C (modify f : Prog M E R Unit) ↔ U f :=
  and_iff_left fun _ => trivial

@[simp] lemma within_perform (e : E) : Within U C (perform e : Prog M E R (R e)) ↔ C e :=
  and_iff_left fun _ => trivial

lemma within_all (p : Prog M E R α) : Within (fun _ => True) (fun _ => True) p := by
  induction p with
  | ret a => trivial
  | mem f k ih => exact ⟨trivial, ih⟩
  | call e k ih => exact ⟨trivial, ih⟩
  | cut => trivial

lemma within_bind {p : Prog M E R α} {f : α → Prog M E R β}
    (hp : Within U C p) (hf : ∀ a, Within U C (f a)) : Within U C (p >>= f) := by
  change Within U C (p.bind f)
  induction p with
  | ret a => exact hf a
  | mem g k ih => exact ⟨hp.1, fun m => ih m (hp.2 m)⟩
  | call e k ih => exact ⟨hp.1, fun x => ih x (hp.2 x)⟩
  | cut => trivial

lemma within_ite {c : Prop} [Decidable c] {p q : Prog M E R α}
    (hp : Within U C p) (hq : Within U C q) : Within U C (if c then p else q) := by
  split
  · exact hp
  · exact hq

lemma within_loop {σ : Type} {body : σ → Prog M E R (Turn σ α)}
    (h : ∀ s, Within U C (body s)) (n : ℕ) (s : σ) : Within U C (loop body n s) := by
  induction n generalizing s with
  | zero => trivial
  | succ n ih =>
    refine within_bind (h s) fun t => ?_
    cases t with
    | again s' => exact ih s'
    | leave a => trivial

lemma within_each {body : ℕ → Prog M E R (Option α)}
    (h : ∀ i, Within U C (body i)) (n i : ℕ) : Within U C (each body n i) := by
  induction n generalizing i with
  | zero => trivial
  | succ n ih =>
    refine within_bind (h i) fun r => ?_
    cases r with
    | some a => trivial
    | none => exact ih (i + 1)

lemma Within.mono {p : Prog M E R α} (h : Within U C p)
    (hU : ∀ f, U f → U' f) (hC : ∀ e, C e → C' e) : Within U' C' p := by
  induction p with
  | ret a => trivial
  | mem f k ih => exact ⟨hU f h.1, fun m => ih m (h.2 m)⟩
  | call e k ih => exact ⟨hC e h.1, fun x => ih x (h.2 x)⟩
  | cut => trivial

/-- The footprint rule: what the footprint preserves is an invariant. -/
lemma wp_of_within {env : Env M W E R} {p : Prog M E R α} (hp : Within U C p)
    (I : M → W → Prop) (hU : ∀ f, U f → ∀ m w, I m w → I (f m) w)
    (hC : ∀ e, C e → ∀ m w x w₁, I m w → env m w e x w₁ → I m w₁) {m : M} {w : W}
    (h : I m w) : wp env p (fun _ => I) I m w := by
  induction p generalizing m w with
  | ret a => exact h
  | mem f k ih => exact ih m (hp.2 m) (hU f hp.1 m w h)
  | call e k ih => exact fun x w₁ hx => ih x (hp.2 x) (hC e hp.1 m w x w₁ h hx)
  | cut => exact h

end IoLibrary.Effects
