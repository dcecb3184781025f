import IoLibrary.Effects.View

/-! Histories: calls of an interface one after the other. Each call returns before the
next begins, and the last may still be running. -/
namespace IoLibrary.Effects

variable {ι M G W E : Type} {R : E → Type} {α : Type}

/-- One call of a history with the states around it; it is running when it has no result. -/
structure Step (ι M W α : Type) where
  call : ι
  pre : M × W
  result : Option α
  post : M × W

/-- The environment may depend on the call in progress. -/
inductive History (env : ι → Env M W E R) (run : ι → Prog M E R α) :
    List (Step ι M W α) → M → W → M → W → Prop
  | nil {m w} : History env run [] m w m w
  | call {c a steps m w m₁ w₁ m' w'} (first : Eval (env c) (run c) m w (some a) m₁ w₁)
      (rest : History env run steps m₁ w₁ m' w') :
      History env run (⟨c, (m, w), some a, (m₁, w₁)⟩ :: steps) m w m' w'
  | running {c m w m' w'} (last : Eval (env c) (run c) m w none m' w') :
      History env run [⟨c, (m, w), none, (m', w')⟩] m w m' w'

/-- A step of a history that has returned is a run of its call. -/
lemma History.eval_of_mem {env : ι → Env M W E R} {run : ι → Prog M E R α}
    {steps : List (Step ι M W α)} {m : M} {w : W} {m' : M} {w' : W}
    (h : History env run steps m w m' w') {s : Step ι M W α} (hs : s ∈ steps) {a : α}
    (ha : s.result = some a) :
    Eval (env s.call) (run s.call) s.pre.1 s.pre.2 (some a) s.post.1 s.post.2 := by
  induction h with
  | nil => exact absurd hs List.not_mem_nil
  | call first rest ih =>
    rcases List.mem_cons.1 hs with rfl | hs
    · obtain rfl := Option.some.inj ha
      exact first
    · exact ih hs
  | running last =>
    obtain rfl := List.mem_singleton.1 hs
    exact absurd ha (by simp)

/-- A history ends where its last step does. -/
lemma History.ends {env : ι → Env M W E R} {run : ι → Prog M E R α}
    {steps : List (Step ι M W α)} {m : M} {w : W} {m' : M} {w' : W}
    (h : History env run steps m w m' w') :
    steps = [] ∧ m' = m ∧ w' = w ∨ ∃ before s, steps = before ++ [s] ∧ s.post = (m', w') := by
  induction h with
  | nil => exact .inl ⟨rfl, rfl, rfl⟩
  | @call c a steps m w m₁ w₁ m' w' first rest ih =>
    rcases ih with ⟨rfl, rfl, rfl⟩ | ⟨before, s, rfl, hs⟩
    · exact .inr ⟨[], _, rfl, rfl⟩
    · exact .inr ⟨_ :: before, s, rfl, hs⟩
  | running last => exact .inr ⟨[], _, rfl, rfl⟩

/-- The history rule. `I past` is the invariant between calls, after the steps `past`; `P past`
is what holds of the step that follows them, if `ok past` held of its call and its state. -/
theorem history_rule {env : ι → Env M W E R} {run : ι → Prog M E R α}
    (ok : List (Step ι M W α) → ι → M → W → Prop) (I : List (Step ι M W α) → M → W → Prop)
    (P : List (Step ι M W α) → Step ι M W α → Prop)
    (each : ∀ past c m w, ok past c m w → I past m w →
      wp (env c) (run c)
        (fun a m' w' => P past ⟨c, (m, w), some a, (m', w')⟩ ∧
          I (past ++ [⟨c, (m, w), some a, (m', w')⟩]) m' w')
        (fun m' w' => P past ⟨c, (m, w), none, (m', w')⟩) m w)
    {steps : List (Step ι M W α)} {m : M} {w : W} {m' : M} {w' : W}
    (run_steps : History env run steps m w m' w')
    (past : List (Step ι M W α))
    (oks : ∀ before s after, steps = before ++ s :: after →
      ok (past ++ before) s.call s.pre.1 s.pre.2) (h : I past m w) :
    (∀ before s after, steps = before ++ s :: after → P (past ++ before) s) ∧
      ((∀ s ∈ steps, s.result ≠ none) → I (past ++ steps) m' w') := by
  induction run_steps generalizing past with
  | nil => exact ⟨by simp, fun _ => by simpa using h⟩
  | @call c a steps m w m₁ w₁ m' w' first rest ih =>
    have hok : ok past c m w := by simpa using oks [] _ _ rfl
    obtain ⟨hP, hI⟩ := wp_returns (each past c m w hok h) first
    have hoks : ∀ before s after, steps = before ++ s :: after →
        ok (past ++ [⟨c, (m, w), some a, (m₁, w₁)⟩] ++ before) s.call s.pre.1 s.pre.2 := by
      intro before s after hsplit
      rw [List.append_assoc]
      exact oks (_ :: before) s after (congrArg _ hsplit)
    obtain ⟨hall, hend⟩ := ih _ hoks hI
    refine ⟨fun before s after hsplit => ?_, fun hres => ?_⟩
    · cases before with
      | nil =>
        obtain ⟨rfl, rfl⟩ := List.cons.inj hsplit
        simpa using hP
      | cons b before =>
        obtain ⟨rfl, rfl⟩ := List.cons.inj hsplit
        simpa using hall before s after rfl
    · simpa using hend fun s hs => hres s (List.mem_cons_of_mem _ hs)
  | @running c m w m' w' last =>
    have hok : ok past c m w := by simpa using oks [] _ _ rfl
    have hP := wp_cuts (each past c m w hok h) last
    refine ⟨fun before s after hsplit => ?_, fun hres => absurd rfl (hres _ List.mem_cons_self)⟩
    cases before with
    | nil =>
      obtain ⟨rfl, rfl⟩ := List.cons.inj hsplit
      simpa using hP
    | cons b before => simp at hsplit

end IoLibrary.Effects
