import IoLibrary.Effects.Footprint

/-! Reasoning through a view of the memory. A proof about a few fields of a large memory
does not follow the others: `wpv` lets all that the view hides take any value before
each memory step, so its pre- and postconditions speak about the view alone. -/
namespace IoLibrary.Effects
open Prog

variable {M G W E : Type} {R : E → Type} {α β : Type}

/-- An environment that sees the view, as an environment of the memory. -/
def Env.along (env : Env G W E R) (view : M → G) : Env M W E R := fun m => env (view m)

def wpv (view : M → G) (env : Env G W E R) :
    Prog M E R α → (α → G → W → Prop) → (G → W → Prop) → G → W → Prop
  | .ret a, Q, _, g, w => Q a g w
  | .mem f k, Q, H, g, w => ∀ m, view m = g → wpv view env (k m) Q H (view (f m)) w
  | .call e k, Q, H, g, w => ∀ x w₁, env g w e x w₁ → wpv view env (k x) Q H g w₁
  | .cut, _, H, g, w => H g w

variable {view : M → G} {env : Env G W E R}
variable {Q Q' : α → G → W → Prop} {H H' : G → W → Prop} {g : G} {w : W}

@[simp] lemma wpv_pure (a : α) : wpv view env (pure a : Prog M E R α) Q H g w ↔ Q a g w := Iff.rfl

@[simp] lemma wpv_ret (a : α) : wpv view env (.ret a : Prog M E R α) Q H g w ↔ Q a g w := Iff.rfl

@[simp] lemma wpv_cut : wpv view env (.cut : Prog M E R α) Q H g w ↔ H g w := Iff.rfl

@[simp] lemma wpv_get {Q : M → G → W → Prop} :
    wpv view env (get : Prog M E R M) Q H g w ↔ ∀ m, view m = g → Q m g w := by
  refine forall₂_congr fun m hm => ?_
  rw [← hm]
  rfl

@[simp] lemma wpv_modify (f : M → M) {Q : Unit → G → W → Prop} :
    wpv view env (modify f : Prog M E R Unit) Q H g w ↔ ∀ m, view m = g → Q () (view (f m)) w :=
  Iff.rfl

@[simp] lemma wpv_perform (e : E) {Q : R e → G → W → Prop} :
    wpv view env (perform e : Prog M E R (R e)) Q H g w ↔ ∀ x w₁, env g w e x w₁ → Q x g w₁ :=
  Iff.rfl

@[simp] lemma wpv_bind (p : Prog M E R α) (f : α → Prog M E R β) {Q : β → G → W → Prop} :
    wpv view env (p >>= f) Q H g w ↔
      wpv view env p (fun a g w => wpv view env (f a) Q H g w) H g w := by
  change wpv view env (p.bind f) Q H g w ↔ _
  induction p generalizing g w with
  | ret a => rfl
  | mem h k ih => exact forall₂_congr fun m _ => ih m
  | call e k ih => exact forall₃_congr fun x w₁ _ => ih x
  | cut => rfl

@[simp] lemma wpv_map (f : α → β) (p : Prog M E R α) {Q : β → G → W → Prop} :
    wpv view env (f <$> p) Q H g w ↔ wpv view env p (fun a => Q (f a)) H g w :=
  wpv_bind p fun a => pure (f a)

@[simp] lemma wpv_ite (c : Prop) [Decidable c] (p q : Prog M E R α) :
    wpv view env (if c then p else q) Q H g w ↔
      (c → wpv view env p Q H g w) ∧ (¬ c → wpv view env q Q H g w) := by
  by_cases h : c <;> simp [h]

lemma wpv_mono {p : Prog M E R α} (h : wpv view env p Q H g w)
    (hQ : ∀ a g w, Q a g w → Q' a g w) (hH : ∀ g w, H g w → H' g w) :
    wpv view env p Q' H' g w := by
  induction p generalizing g w with
  | ret a => exact hQ _ _ _ h
  | mem f k ih => exact fun m hm => ih m (h m hm)
  | call e k ih => exact fun x w₁ hx => ih x (h x w₁ hx)
  | cut => exact hH _ _ h

lemma wpv_and {p : Prog M E R α} (h : wpv view env p Q H g w) (h' : wpv view env p Q' H' g w) :
    wpv view env p (fun a g w => Q a g w ∧ Q' a g w) (fun g w => H g w ∧ H' g w) g w := by
  induction p generalizing g w with
  | ret a => exact ⟨h, h'⟩
  | mem f k ih => exact fun m hm => ih m (h m hm) (h' m hm)
  | call e k ih => exact fun x w₁ hx => ih x (h x w₁ hx) (h' x w₁ hx)
  | cut => exact ⟨h, h'⟩

/-- Every run ends in what always holds. -/
lemma wpv_any {p : Prog M E R α} (hQ : ∀ a g w, Q a g w) (hH : ∀ g w, H g w) :
    wpv view env p Q H g w := by
  induction p generalizing g w with
  | ret a => exact hQ _ _ _
  | mem f k ih => exact fun m _ => ih m
  | call e k ih => exact fun x w₁ _ => ih x
  | cut => exact hH _ _

/-- The loop rule: `I` is the invariant at the head of each turn. -/
lemma wpv_loop {σ : Type} {body : σ → Prog M E R (Turn σ α)} (I : σ → G → W → Prop)
    (turn : ∀ s g w, I s g w → wpv view env (body s) (fun t g w => match t with
      | .again s' => I s' g w
      | .leave a => Q a g w) H g w)
    (stop : ∀ s g w, I s g w → H g w) (n : ℕ) {s : σ} (h : I s g w) :
    wpv view env (loop body n s) Q H g w := by
  induction n generalizing s g w with
  | zero => exact stop _ _ _ h
  | succ n ih =>
    refine (wpv_bind (body s) _).2 (wpv_mono (turn s g w h) ?_ fun _ _ => id)
    intro t g w ht
    cases t with
    | again s' => exact ih ht
    | leave a => exact ht

/-- A loop that leaves in its first turn, when its bound allows one. -/
lemma wpv_loop_first {σ : Type} {body : σ → Prog M E R (Turn σ α)} {n : ℕ} (hn : 0 < n) {s : σ}
    (h : wpv view env (body s) (fun t g w => ∃ a, t = .leave a ∧ Q a g w) H g w) :
    wpv view env (loop body n s) Q H g w := by
  obtain ⟨n, rfl⟩ := Nat.exists_eq_succ_of_ne_zero (Nat.ne_of_gt hn)
  refine (wpv_bind (body s) _).2 (wpv_mono h ?_ fun _ _ => id)
  rintro _ g w ⟨a, rfl, ha⟩
  exact ha

/-- The first turn of a loop, when its bound allows one. -/
lemma wpv_loop_turn {σ : Type} {body : σ → Prog M E R (Turn σ α)} {n : ℕ} {s : σ}
    (h : wpv view env (body s) (fun t g w => match t with
      | .again s' => wpv view env (loop body n s') Q H g w
      | .leave a => Q a g w) H g w) : wpv view env (loop body (n + 1) s) Q H g w := by
  refine (wpv_bind (body s) _).2 (wpv_mono h ?_ fun _ _ => id)
  intro t g w ht
  cases t with
  | again s' => exact ht
  | leave a => exact ht

/-- The rule for an indexed loop: `I i` holds before index `i`. -/
lemma wpv_each {body : ℕ → Prog M E R (Option α)} {Q : Option α → G → W → Prop}
    (I : ℕ → G → W → Prop) {n i : ℕ}
    (turn : ∀ k g w, k < i + n → I k g w → wpv view env (body k) (fun r g w => match r with
      | some a => Q (some a) g w
      | none => I (k + 1) g w) H g w) (h : I i g w)
    (done : ∀ g w, I (i + n) g w → Q none g w) :
    wpv view env (each body n i) Q H g w := by
  induction n generalizing i g w with
  | zero => exact done _ _ h
  | succ n ih =>
    refine (wpv_bind (body i) _).2 (wpv_mono (turn i g w (by omega) h) ?_ fun _ _ => id)
    intro r g w hr
    cases r with
    | some a => exact hr
    | none =>
      refine ih (fun k g w hk => turn k g w (by omega)) hr fun g w hI => done g w ?_
      rwa [Nat.add_right_comm] at hI

/-- Through the identity nothing is hidden. -/
lemma wpv_id {env : Env M W E R} {p : Prog M E R α} {Q : α → M → W → Prop} {H : M → W → Prop}
    {m : M} : wpv id env p Q H m w ↔ wp env p Q H m w := by
  induction p generalizing m w with
  | ret a => rfl
  | mem f k ih =>
    constructor
    · exact fun h => (ih m).1 (h m rfl)
    · rintro h m rfl
      exact (ih m).2 h
  | call e k ih => exact forall₃_congr fun x w₁ _ => ih x
  | cut => rfl

/-- The rule for an indexed loop, over the whole memory. -/
lemma wp_each {env : Env M W E R} {body : ℕ → Prog M E R (Option α)} {Q : Option α → M → W → Prop}
    {H : M → W → Prop} {m : M} (I : ℕ → M → W → Prop) {n i : ℕ}
    (turn : ∀ k m w, k < i + n → I k m w → wp env (body k) (fun r m w => match r with
      | some a => Q (some a) m w
      | none => I (k + 1) m w) H m w) (h : I i m w)
    (done : ∀ m w, I (i + n) m w → Q none m w) : wp env (each body n i) Q H m w :=
  wpv_id.1 (wpv_each I (fun k m w hk hI => wpv_id.2 (turn k m w hk hI)) h done)

/-- The footprint rule through a view. -/
lemma wpv_of_within {U : (M → M) → Prop} {C : E → Prop} {p : Prog M E R α} (hp : Within U C p)
    (I : G → W → Prop) (hU : ∀ f, U f → ∀ m w, I (view m) w → I (view (f m)) w)
    (hC : ∀ e, C e → ∀ g w x w₁, I g w → env g w e x w₁ → I g w₁) (h : I g w) :
    wpv view env p (fun _ => I) I g w := by
  induction p generalizing g w with
  | ret a => exact h
  | mem f k ih =>
    intro m hm
    subst hm
    exact ih m (hp.2 m) (hU f hp.1 m w h)
  | call e k ih => exact fun x w₁ hx => ih x (hp.2 x) (hC e hp.1 g w x w₁ h hx)
  | cut => exact h

/-- What is proved through a view holds of the memory. -/
theorem wp_of_wpv {p : Prog M E R α} {m : M} (h : wpv view env p Q H (view m) w) :
    wp (env.along view) p (fun a m w => Q a (view m) w) (fun m w => H (view m) w) m w := by
  induction p generalizing m w with
  | ret a => exact h
  | mem f k ih => exact ih m (h m rfl)
  | call e k ih => exact fun x w₁ hx => ih x (h x w₁ hx)
  | cut => exact h

end IoLibrary.Effects
