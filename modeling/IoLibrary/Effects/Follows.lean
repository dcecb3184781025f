import IoLibrary.Effects.Footprint

/-! Automata over programs: what a program may do next depends on what it has done, whatever
the memory holds and the environment answers. A footprint is an automaton with one state. -/
namespace IoLibrary.Effects
open Prog

variable {S M E : Type} {R : E → Type} {α β : Type}

/-- The memory updates and calls allowed in a state, each with the state it leads to, and the
states in which a run may be cut. -/
structure Automaton (S M E : Type) where
  update : S → (M → M) → S → Prop
  call : S → E → S → Prop
  cut : S → Prop := fun _ => True

/-- Every path of the program is one of the automaton, and returns in `Q`. -/
def Follows (A : Automaton S M E) : Prog M E R α → S → (α → S → Prop) → Prop
  | .ret a, s, Q => Q a s
  | .mem f k, s, Q => ∃ s', A.update s f s' ∧ ∀ m, Follows A (k m) s' Q
  | .call e k, s, Q => ∃ s', A.call s e s' ∧ ∀ x, Follows A (k x) s' Q
  | .cut, s, _ => A.cut s

variable {A : Automaton S M E} {s s' : S} {Q Q' : α → S → Prop}

@[simp] lemma follows_pure (a : α) : Follows A (pure a : Prog M E R α) s Q ↔ Q a s := Iff.rfl

lemma follows_perform {e : E} {Q : R e → S → Prop} (h : A.call s e s') (hQ : ∀ x, Q x s') :
    Follows A (perform e : Prog M E R (R e)) s Q := ⟨s', h, hQ⟩

lemma follows_modify {f : M → M} {Q : Unit → S → Prop} (h : A.update s f s') (hQ : Q () s') :
    Follows A (modify f : Prog M E R Unit) s Q := ⟨s', h, fun _ => hQ⟩

lemma follows_bind {p : Prog M E R α} {f : α → Prog M E R β} {Q' : β → S → Prop}
    (hp : Follows A p s Q) (hf : ∀ a s, Q a s → Follows A (f a) s Q') :
    Follows A (p >>= f) s Q' := by
  change Follows A (p.bind f) s Q'
  induction p generalizing s with
  | ret a => exact hf a s hp
  | mem g k ih =>
    obtain ⟨s', hs', hk⟩ := hp
    exact ⟨s', hs', fun m => ih m (hk m)⟩
  | call e k ih =>
    obtain ⟨s', hs', hk⟩ := hp
    exact ⟨s', hs', fun x => ih x (hk x)⟩
  | cut => exact hp

lemma follows_ite {c : Prop} [Decidable c] {p q : Prog M E R α}
    (hp : Follows A p s Q) (hq : Follows A q s Q) : Follows A (if c then p else q) s Q := by
  split
  · exact hp
  · exact hq

lemma follows_mono {p : Prog M E R α} (h : Follows A p s Q) (hQ : ∀ a s, Q a s → Q' a s) :
    Follows A p s Q' := by
  induction p generalizing s with
  | ret a => exact hQ a s h
  | mem f k ih =>
    obtain ⟨s', hs', hk⟩ := h
    exact ⟨s', hs', fun m => ih m (hk m)⟩
  | call e k ih =>
    obtain ⟨s', hs', hk⟩ := h
    exact ⟨s', hs', fun x => ih x (hk x)⟩
  | cut => exact h

/-- The rule for an indexed loop: `I i` holds before index `i`. -/
lemma follows_each {body : ℕ → Prog M E R (Option α)} {Q : Option α → S → Prop} (I : ℕ → S → Prop)
    {n i : ℕ} (turn : ∀ k s, k < i + n → I k s → Follows A (body k) s fun r s => match r with
      | some a => Q (some a) s
      | none => I (k + 1) s) (h : I i s) (done : ∀ s, I (i + n) s → Q none s) :
    Follows A (each body n i) s Q := by
  induction n generalizing i s with
  | zero => exact done s h
  | succ n ih =>
    refine follows_bind (turn i s (by omega) h) fun r s hr => ?_
    cases r with
    | some a => exact hr
    | none =>
      refine ih (fun k s hk => turn k s (by omega)) hr fun s hI => done s ?_
      rwa [Nat.add_right_comm] at hI

/-- What the automaton allows without a change of state. -/
lemma follows_of_within {U : (M → M) → Prop} {C : E → Prop} {p : Prog M E R α}
    (hp : Within U C p) (hU : ∀ f, U f → A.update s f s) (hC : ∀ e, C e → A.call s e s)
    (hcut : A.cut s) : Follows A p s fun _ s' => s' = s := by
  induction p with
  | ret a => rfl
  | mem f k ih => exact ⟨s, hU f hp.1, fun m => ih m (hp.2 m)⟩
  | call e k ih => exact ⟨s, hC e hp.1, fun x => ih x (hp.2 x)⟩
  | cut => exact hcut

/-- The paths of an automaton stay in a footprint that has all its updates and calls. -/
lemma within_of_follows {U : (M → M) → Prop} {C : E → Prop} {p : Prog M E R α}
    (hp : Follows A p s Q) (hU : ∀ s f s', A.update s f s' → U f)
    (hC : ∀ s e s', A.call s e s' → C e) : Within U C p := by
  induction p generalizing s with
  | ret a => trivial
  | mem f k ih =>
    obtain ⟨s', hs', hk⟩ := hp
    exact ⟨hU _ _ _ hs', fun m => ih m (hk m)⟩
  | call e k ih =>
    obtain ⟨s', hs', hk⟩ := hp
    exact ⟨hC _ _ _ hs', fun x => ih x (hk x)⟩
  | cut => trivial

end IoLibrary.Effects
