import IoLibrary.Effects.History

/-! Execution against a deterministic environment, for runs that are computed. -/
namespace IoLibrary.Effects
open Prog

variable {ι M W E : Type} {R : E → Type} {α : Type}

/-- A deterministic environment: the answer to a call and the environment's next state. -/
def Handler (M W E : Type) (R : E → Type) : Type := M → W → (e : E) → R e × W

def exec (h : Handler M W E R) : Prog M E R α → M → W → Option α × M × W
  | .ret a, m, w => (some a, m, w)
  | .mem f k, m, w => exec h (k m) (f m) w
  | .call e k, m, w => exec h (k (h m w e).1) m (h m w e).2
  | .cut, m, w => (none, m, w)

/-- A computed run is a run, whenever the environment allows what the handler answers. -/
theorem eval_exec {env : Env M W E R} {h : Handler M W E R}
    (allowed : ∀ m w e, env m w e (h m w e).1 (h m w e).2) (p : Prog M E R α) (m : M) (w : W) :
    Eval env p m w (exec h p m w).1 (exec h p m w).2.1 (exec h p m w).2.2 := by
  induction p generalizing m w with
  | ret a => exact .ret
  | mem f k ih => exact .mem (ih m (f m) w)
  | call e k ih => exact .call (allowed m w e) (ih _ m _)
  | cut => exact .cut

/-- The calls `cs` run one after the other, up to one that is cut. -/
def replay (h : ι → Handler M W E R) (run : ι → Prog M E R α) :
    List ι → M → W → List (Step ι M W α) × M × W
  | [], m, w => ([], m, w)
  | c :: cs, m, w =>
    let r := exec (h c) (run c) m w
    match r.1 with
    | some a =>
      let rest := replay h run cs r.2.1 r.2.2
      (⟨c, (m, w), some a, (r.2.1, r.2.2)⟩ :: rest.1, rest.2)
    | none => ([⟨c, (m, w), none, (r.2.1, r.2.2)⟩], r.2)

theorem history_replay {env : ι → Env M W E R} {h : ι → Handler M W E R}
    (allowed : ∀ c m w e, env c m w e (h c m w e).1 (h c m w e).2) (run : ι → Prog M E R α)
    (cs : List ι) (m : M) (w : W) :
    History env run (replay h run cs m w).1 m w (replay h run cs m w).2.1
      (replay h run cs m w).2.2 := by
  induction cs generalizing m w with
  | nil => exact .nil
  | cons c cs ih =>
    have hrun := eval_exec (allowed c) (run c) m w
    simp only [replay]
    split
    · next a ha =>
      rw [ha] at hrun
      exact .call hrun (ih _ _)
    · next ha =>
      rw [ha] at hrun
      exact .running hrun

/-- The steps of a computed run are of the given calls, in order. -/
lemma calls_replay (h : ι → Handler M W E R) (run : ι → Prog M E R α) (cs : List ι) (m : M)
    (w : W) : (replay h run cs m w).1.map Step.call <+: cs := by
  induction cs generalizing m w with
  | nil => exact List.prefix_rfl
  | cons c cs ih =>
    simp only [replay]
    split
    · rw [List.map_cons]
      exact (List.prefix_cons_inj c).2 (ih _ _)
    · exact (List.prefix_cons_inj c).2 List.nil_prefix

end IoLibrary.Effects
