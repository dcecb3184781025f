import IoLibrary.Effects.Program

/-! Weakest preconditions. `wp env p Q H m w` says that every run of `p` from `m`, `w`
ends in `Q` when it returns and in `H` when it is cut. The rules below are one
for each program former; a loop is proved by induction on its bound. -/
namespace IoLibrary.Effects
open Prog

variable {M W E : Type} {R : E → Type} {α β : Type} {env : Env M W E R}

def wp (env : Env M W E R) :
    Prog M E R α → (α → M → W → Prop) → (M → W → Prop) → M → W → Prop
  | .ret a, Q, _, m, w => Q a m w
  | .mem f k, Q, H, m, w => wp env (k m) Q H (f m) w
  | .call e k, Q, H, m, w => ∀ x w₁, env m w e x w₁ → wp env (k x) Q H m w₁
  | .cut, _, H, m, w => H m w

variable {Q Q' : α → M → W → Prop} {H H' : M → W → Prop} {m : M} {w : W}

@[simp] lemma wp_pure (a : α) : wp env (pure a : Prog M E R α) Q H m w ↔ Q a m w := Iff.rfl

@[simp] lemma wp_ret (a : α) : wp env (.ret a : Prog M E R α) Q H m w ↔ Q a m w := Iff.rfl

@[simp] lemma wp_cut : wp env (.cut : Prog M E R α) Q H m w ↔ H m w := Iff.rfl

@[simp] lemma wp_get {Q : M → M → W → Prop} : wp env (get : Prog M E R M) Q H m w ↔ Q m m w :=
  Iff.rfl

@[simp] lemma wp_modify (f : M → M) {Q : Unit → M → W → Prop} :
    wp env (modify f : Prog M E R Unit) Q H m w ↔ Q () (f m) w := Iff.rfl

@[simp] lemma wp_mem (f : M → M) (k : M → Prog M E R α) :
    wp env (.mem f k) Q H m w ↔ wp env (k m) Q H (f m) w := Iff.rfl

@[simp] lemma wp_perform (e : E) {Q : R e → M → W → Prop} :
    wp env (perform e : Prog M E R (R e)) Q H m w ↔ ∀ x w₁, env m w e x w₁ → Q x m w₁ := Iff.rfl

@[simp] lemma wp_bind (p : Prog M E R α) (f : α → Prog M E R β) {Q : β → M → W → Prop} :
    wp env (p >>= f) Q H m w ↔
      wp env p (fun a m w => wp env (f a) Q H m w) H m w := by
  change wp env (p.bind f) Q H m w ↔ _
  induction p generalizing m w with
  | ret a => rfl
  | mem g k ih => exact ih _
  | call e k ih => exact forall_congr' fun x => forall_congr' fun w₁ => imp_congr_right fun _ => ih x
  | cut => rfl

@[simp] lemma wp_map (f : α → β) (p : Prog M E R α) {Q : β → M → W → Prop} :
    wp env (f <$> p) Q H m w ↔ wp env p (fun a => Q (f a)) H m w :=
  wp_bind p fun a => pure (f a)

@[simp] lemma wp_ite (c : Prop) [Decidable c] (p q : Prog M E R α) :
    wp env (if c then p else q) Q H m w ↔
      (c → wp env p Q H m w) ∧ (¬ c → wp env q Q H m w) := by
  by_cases h : c <;> simp [h]

/-- The rule of consequence. -/
lemma wp_mono {p : Prog M E R α} (h : wp env p Q H m w)
    (hQ : ∀ a m w, Q a m w → Q' a m w) (hH : ∀ m w, H m w → H' m w) : wp env p Q' H' m w := by
  induction p generalizing m w with
  | ret a => exact hQ _ _ _ h
  | mem f k ih => exact ih _ h
  | call e k ih => exact fun x w₁ hx => ih x (h x w₁ hx)
  | cut => exact hH _ _ h

lemma wp_and {p : Prog M E R α} (h : wp env p Q H m w) (h' : wp env p Q' H' m w) :
    wp env p (fun a m w => Q a m w ∧ Q' a m w) (fun m w => H m w ∧ H' m w) m w := by
  induction p generalizing m w with
  | ret a => exact ⟨h, h'⟩
  | mem f k ih => exact ih _ h h'
  | call e k ih => exact fun x w₁ hx => ih x (h x w₁ hx) (h' x w₁ hx)
  | cut => exact ⟨h, h'⟩

/-- The loop rule: `I` is the invariant at the head of each turn. -/
lemma wp_loop {σ : Type} {body : σ → Prog M E R (Turn σ α)} (I : σ → M → W → Prop)
    (turn : ∀ s m w, I s m w → wp env (body s) (fun t m w => match t with
      | .again s' => I s' m w
      | .leave a => Q a m w) H m w)
    (stop : ∀ s m w, I s m w → H m w) (n : ℕ) {s : σ} (h : I s m w) :
    wp env (loop body n s) Q H m w := by
  induction n generalizing s m w with
  | zero => exact stop _ _ _ h
  | succ n ih =>
    refine (wp_bind (body s) _).2 (wp_mono (turn s m w h) ?_ fun _ _ => id)
    intro t m w ht
    cases t with
    | again s' => exact ih ht
    | leave a => exact ht

/-- The rule for a loop that leaves in time: `I n` is the invariant with `n` turns to go. -/
lemma wp_loop_count {σ : Type} {body : σ → Prog M E R (Turn σ α)} (I : ℕ → σ → M → W → Prop)
    (turn : ∀ n s m w, I (n + 1) s m w → wp env (body s) (fun t m w => match t with
      | .again s' => I n s' m w
      | .leave a => Q a m w) H m w)
    (stop : ∀ s m w, I 0 s m w → H m w) (n : ℕ) {s : σ} (h : I n s m w) :
    wp env (loop body n s) Q H m w := by
  induction n generalizing s m w with
  | zero => exact stop _ _ _ h
  | succ n ih =>
    refine (wp_bind (body s) _).2 (wp_mono (turn n s m w h) ?_ fun _ _ => id)
    intro t m w ht
    cases t with
    | again s' => exact ih ht
    | leave a => exact ht

/-- A weakest precondition speaks about exactly the runs of the operational semantics. -/
theorem wp_iff_eval (p : Prog M E R α) :
    wp env p Q H m w ↔ ∀ r m' w', Eval env p m w r m' w' →
      match r with
      | some a => Q a m' w'
      | none => H m' w' := by
  induction p generalizing m w with
  | ret a =>
    constructor
    · intro h r m' w' he
      cases he
      exact h
    · exact fun h => h _ _ _ .ret
  | mem f k ih =>
    constructor
    · intro h r m' w' he
      cases he with
      | mem rest => exact (ih _).1 h _ _ _ rest
    · exact fun h => (ih _).2 fun r m' w' he => h _ _ _ (.mem he)
  | call e k ih =>
    constructor
    · intro h r m' w' he
      cases he with
      | call step rest => exact (ih _).1 (h _ _ step) _ _ _ rest
    · exact fun h x w₁ hx => (ih x).2 fun r m' w' he => h _ _ _ (.call hx he)
  | cut =>
    constructor
    · intro h r m' w' he
      cases he
      exact h
    · exact fun h => h _ _ _ .cut

/-- An environment that always answers lets every program run. -/
lemma exists_eval (total : ∀ m w e, ∃ x w₁, env m w e x w₁) (p : Prog M E R α) (m : M) (w : W) :
    ∃ r m' w', Eval env p m w r m' w' := by
  induction p generalizing m w with
  | ret a => exact ⟨_, _, _, .ret⟩
  | mem f k ih =>
    obtain ⟨r, m', w', h⟩ := ih m (f m) w
    exact ⟨r, m', w', .mem h⟩
  | call e k ih =>
    obtain ⟨x, w₁, hx⟩ := total m w e
    obtain ⟨r, m', w', h⟩ := ih x m w₁
    exact ⟨r, m', w', .call hx h⟩
  | cut => exact ⟨_, _, _, .cut⟩

/-- A run stays one when the environment is allowed more. -/
lemma Eval.mono {env' : Env M W E R} (h : ∀ m w e x w₁, env m w e x w₁ → env' m w e x w₁)
    {p : Prog M E R α} {r : Option α} {m' : M} {w' : W} (run : Eval env p m w r m' w') :
    Eval env' p m w r m' w' := by
  induction run with
  | ret => exact .ret
  | mem rest ih => exact .mem ih
  | call step rest ih => exact .call (h _ _ _ _ _ step) ih
  | cut => exact .cut

lemma wp_returns {p : Prog M E R α} (h : wp env p Q H m w) {a : α} {m' : M} {w' : W}
    (he : Eval env p m w (some a) m' w') : Q a m' w' :=
  (wp_iff_eval p).1 h _ _ _ he

lemma wp_cuts {p : Prog M E R α} (h : wp env p Q H m w) {m' : M} {w' : W}
    (he : Eval env p m w none m' w') : H m' w' :=
  (wp_iff_eval p).1 h _ _ _ he

/-- Every run ends where some run does. -/
lemma wp_eval (env : Env M W E R) (p : Prog M E R α) (m : M) (w : W) :
    wp env p (fun a m' w' => Eval env p m w (some a) m' w')
      (fun m' w' => Eval env p m w none m' w') m w := by
  refine (wp_iff_eval p).2 fun r m' w' h => ?_
  cases r with
  | some a => exact h
  | none => exact h

/-- A run of a program and a function of its result is a run of the program. -/
lemma Eval.of_map {p : Prog M E R α} {f : α → β} {r : β} {m' : M} {w' : W}
    (run : Eval env (p >>= fun a => pure (f a)) m w (some r) m' w') :
    ∃ a, f a = r ∧ Eval env p m w (some a) m' w' := by
  have hspec : wp env (p >>= fun a => pure (f a))
      (fun r m' w' => ∃ a, f a = r ∧ Eval env p m w (some a) m' w') (fun _ _ => True) m w := by
    refine (wp_bind p _).2 (wp_mono (wp_eval env p m w) (fun a m' w' h => ?_) fun _ _ _ => trivial)
    exact ⟨a, rfl, h⟩
  exact wp_returns hspec run

lemma Eval.bind {p : Prog M E R α} {f : α → Prog M E R β} {a : α} {m₁ : M} {w₁ : W}
    {r : Option β} {m' : M} {w' : W} (hp : Eval env p m w (some a) m₁ w₁)
    (hf : Eval env (f a) m₁ w₁ r m' w') : Eval env (p >>= f) m w r m' w' := by
  generalize hx : some a = x at hp
  induction hp with
  | ret =>
    obtain rfl := Option.some.inj hx
    exact hf
  | mem rest ih => exact .mem (ih hf hx)
  | call step rest ih => exact .call step (ih hf hx)
  | cut => exact absurd hx (Option.some_ne_none a)

lemma Eval.bind_cut {p : Prog M E R α} {f : α → Prog M E R β} {m' : M} {w' : W}
    (hp : Eval env p m w none m' w') : Eval env (p >>= f) m w none m' w' := by
  generalize hx : none = x at hp
  induction hp with
  | ret => exact absurd hx.symm (Option.some_ne_none _)
  | mem rest ih => exact .mem (ih hx)
  | call step rest ih => exact .call step (ih hx)
  | cut => exact .cut

lemma Eval.get {f : M → Prog M E R α} {r : Option α} {m' : M} {w' : W}
    (h : Eval env (f m) m w r m' w') : Eval env (Prog.get >>= f) m w r m' w' := .mem h

lemma Eval.pos {c : Prop} [Decidable c] {p q : Prog M E R α} {r : Option α} {m' : M} {w' : W}
    (hc : c) (h : Eval env p m w r m' w') : Eval env (if c then p else q) m w r m' w' := by
  rw [if_pos hc]
  exact h

lemma Eval.neg {c : Prop} [Decidable c] {p q : Prog M E R α} {r : Option α} {m' : M} {w' : W}
    (hc : ¬ c) (h : Eval env q m w r m' w') : Eval env (if c then p else q) m w r m' w' := by
  rw [if_neg hc]
  exact h

/-- A loop whose turns can all go on has a run that is cut: `I n` with `n` turns to go. -/
lemma Eval.loop_cut {σ : Type} {body : σ → Prog M E R (Turn σ α)} (I : ℕ → σ → M → W → Prop)
    (turn : ∀ n s m w, I (n + 1) s m w →
      ∃ s' m' w', Eval env (body s) m w (some (.again s')) m' w' ∧ I n s' m' w')
    (n : ℕ) {s : σ} (h : I n s m w) : ∃ m' w', Eval env (loop body n s) m w none m' w' := by
  induction n generalizing s m w with
  | zero => exact ⟨m, w, .cut⟩
  | succ n ih =>
    obtain ⟨s', m₁, w₁, hturn, hI⟩ := turn n s m w h
    obtain ⟨m', w', hrest⟩ := ih hI
    exact ⟨m', w', Eval.bind hturn hrest⟩

/-- A loop that leaves in time has a run that leaves: `I n` with `n` turns to go. -/
lemma Eval.loop_leave {σ : Type} {body : σ → Prog M E R (Turn σ α)} (I : ℕ → σ → M → W → Prop)
    {Q : α → M → W → Prop}
    (turn : ∀ n s m w, I (n + 1) s m w →
      (∃ s' m' w', Eval env (body s) m w (some (.again s')) m' w' ∧ I n s' m' w') ∨
        ∃ a m' w', Eval env (body s) m w (some (.leave a)) m' w' ∧ Q a m' w')
    (stop : ∀ s m w, ¬ I 0 s m w) (n : ℕ) {s : σ} (h : I n s m w) :
    ∃ a m' w', Eval env (loop body n s) m w (some a) m' w' ∧ Q a m' w' := by
  induction n generalizing s m w with
  | zero => exact absurd h (stop s m w)
  | succ n ih =>
    rcases turn n s m w h with ⟨s', m₁, w₁, hturn, hI⟩ | ⟨a, m₁, w₁, hturn, hQ⟩
    · obtain ⟨a, m', w', hrest, hQ⟩ := ih hI
      exact ⟨a, m', w', Eval.bind hturn hrest, hQ⟩
    · exact ⟨a, m₁, w₁, Eval.bind hturn .ret, hQ⟩

end IoLibrary.Effects
