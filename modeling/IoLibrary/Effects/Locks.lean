import IoLibrary.Effects.Follows
import IoLibrary.Effects.Trace
import Mathlib.Data.Finset.Basic
import Mathlib.Order.Defs.LinearOrder

/-! Lock discipline: locks are taken in ascending order, none twice, and what is taken is
released. The order on the locks is a parameter. -/
namespace IoLibrary.Effects
open Prog

variable {L M E : Type} {R : E → Type} {α β : Type}

/-- What a call does to the locks. -/
inductive LockAct (L : Type) : Type
  | acquire (l : L)
  | release (l : L)
  | other

variable [LinearOrder L] (act : E → LockAct L)

/-- The locks held after a call made with `held`. -/
def holding (held : Finset L) (e : E) : Finset L :=
  match act e with
  | .acquire l => insert l held
  | .release l => held.erase l
  | .other => held

/-- A lock is acquired above all that are held, and released while it is held. -/
def InOrder (held : Finset L) (e : E) : Prop :=
  match act e with
  | .acquire l => ∀ j ∈ held, j < l
  | .release l => l ∈ held
  | .other => True

def heldAfter (calls : List E) : Finset L := calls.foldl (holding act) ∅

/-- Every call of the sequence is in order. -/
def LocksInOrder (calls : List E) : Prop :=
  ∀ before e after, calls = before ++ e :: after → InOrder act (heldAfter act before) e

@[simp] lemma heldAfter_nil : heldAfter act [] = ∅ := rfl

@[simp] lemma heldAfter_snoc (calls : List E) (e : E) :
    heldAfter act (calls ++ [e]) = holding act (heldAfter act calls) e := by simp [heldAfter]

lemma locksInOrder_nil : LocksInOrder act [] := by
  intro before e after h
  simp at h

lemma LocksInOrder.snoc {calls : List E} {e : E} (h : LocksInOrder act calls)
    (he : InOrder act (heldAfter act calls) e) : LocksInOrder act (calls ++ [e]) := by
  intro before u after hsplit
  rcases append_cons_of_snoc hsplit with ⟨rfl, rfl, -⟩ | ⟨after', -, hcalls⟩
  · exact he
  · exact h before u after' hcalls

/-- The automaton of the discipline, within a footprint. -/
def lockAutomaton (U : (M → M) → Prop) (C : E → Prop) : Automaton (Finset L) M E where
  update held f held' := U f ∧ held' = held
  call held e held' := C e ∧ InOrder act held e ∧ held' = holding act held e

/-- The program takes its locks in order from `held`, returns in `Q`, and stays in its footprint. -/
abbrev Orderly (U : (M → M) → Prop) (C : E → Prop) (p : Prog M E R α) (held : Finset L)
    (Q : α → Finset L → Prop) : Prop := Follows (lockAutomaton act U C) p held Q

/-- The program returns every lock it takes. -/
abbrev Returns (U : (M → M) → Prop) (C : E → Prop) (p : Prog M E R α) : Prop :=
  Orderly act U C p ∅ fun _ held => held = ∅

variable {act} {U U' : (M → M) → Prop} {C C' : E → Prop} {held : Finset L}

lemma orderly_of_within {p : Prog M E R α} (hp : Within U C' p)
    (hC : ∀ e, C' e → C e ∧ act e = .other) : Orderly act U C p held fun _ held' => held' = held := by
  refine follows_of_within hp (fun _ hf => ⟨hf, rfl⟩) (fun e he => ?_) trivial
  obtain ⟨hCe, hact⟩ := hC e he
  exact ⟨hCe, by simp [InOrder, hact], by simp [holding, hact]⟩

lemma returns_of_within {p : Prog M E R α} (hp : Within U C' p)
    (hC : ∀ e, C' e → C e ∧ act e = .other) : Returns act U C p := orderly_of_within hp hC

/-- A body between a lock and its unlock. -/
lemma orderly_section {e e' : E} {l : L} {body : Prog M E R α} {f : α → Prog M E R β}
    {Q : β → Finset L → Prop} (hlock : act e = .acquire l) (hunlock : act e' = .release l)
    (hC : C e ∧ C e') (above : ∀ j ∈ held, j < l)
    (hbody : Orderly act U C body (insert l held) fun _ held' => held' = insert l held)
    (hf : ∀ a, Orderly act U C (f a) held Q) :
    Orderly act U C (do let _ ← perform e; let a ← body; let _ ← perform e'; f a) held Q := by
  have fresh : l ∉ held := fun h => lt_irrefl l (above l h)
  refine follows_bind (Q := fun _ h => h = insert l held) ?_ ?_
  · refine follows_perform ⟨hC.1, ?_, rfl⟩ fun _ => ?_
    · simpa [InOrder, hlock] using above
    · simp [holding, hlock]
  · rintro _ _ rfl
    refine follows_bind hbody ?_
    rintro a _ rfl
    refine follows_bind (Q := fun _ h => h = held) ?_ ?_
    · refine follows_perform ⟨hC.2, ?_, rfl⟩ fun _ => ?_
      · simp [InOrder, hunlock]
      · simp [holding, hunlock, fresh]
    · rintro _ _ rfl
      exact hf a

lemma within_of_orderly {p : Prog M E R α} {Q : α → Finset L → Prop}
    (hp : Orderly act U C p held Q) : Within U C p :=
  within_of_follows hp (fun _ _ _ h => h.1) fun _ _ _ h => h.1

lemma orderly_weaken {p : Prog M E R α} {Q : α → Finset L → Prop} (hp : Orderly act U C p held Q)
    (hU : ∀ f, U f → U' f) (hC : ∀ e, C e → C' e) : Orderly act U' C' p held Q := by
  induction p generalizing held with
  | ret a => exact hp
  | mem f k ih =>
    obtain ⟨held', hf, hk⟩ := hp
    exact ⟨held', ⟨hU f hf.1, hf.2⟩, fun m => ih m (hk m)⟩
  | call e k ih =>
    obtain ⟨held', he, hk⟩ := hp
    exact ⟨held', ⟨hC e he.1, he.2⟩, fun x => ih x (hk x)⟩
  | cut => trivial

/-- The calls of a trace. -/
def Trace.calls {G : Type} (t : Trace G E R) : List E := t.map Event.call

/-- A call that is no lock callback leaves the held locks alone. -/
lemma heldAfter_calls_snoc {G : Type} {t : Trace G E R} {v : Event G E R} (hv : act v.call = .other) :
    heldAfter act (Trace.calls (t ++ [v])) = heldAfter act t.calls := by
  rw [Trace.calls, List.map_append, List.map_singleton, heldAfter_snoc, holding, hv]
  rfl

/-- Every run of an orderly program makes its calls in order, whatever it is answered. -/
theorem wp_locksInOrder {G : Type} {env : Env M (Trace G E R) E R} {p : Prog M E R α}
    {Q : α → Finset L → Prop} {t : Trace G E R}
    (record : ∀ m t e x t', env m t e x t' → ∃ g, t' = t ++ [⟨g, e, x⟩])
    (m : M) (hp : Orderly act U C p (heldAfter act t.calls) Q) (h : LocksInOrder act t.calls) :
    wp env p (fun a _ t' => LocksInOrder act t'.calls ∧ Q a (heldAfter act t'.calls))
      (fun _ t' => LocksInOrder act t'.calls) m t := by
  induction p generalizing m t with
  | ret a => exact ⟨h, hp⟩
  | mem f k ih =>
    obtain ⟨held', ⟨-, rfl⟩, hk⟩ := hp
    exact ih m _ (hk m) h
  | call e k ih =>
    obtain ⟨held', ⟨-, he, rfl⟩, hk⟩ := hp
    intro x t' hx
    obtain ⟨g, rfl⟩ := record _ _ _ _ _ hx
    have hcalls : Trace.calls (t ++ [⟨g, e, x⟩]) = t.calls ++ [e] := by simp [Trace.calls]
    refine ih x m ?_ ?_
    · rw [hcalls, heldAfter_snoc]
      exact hk x
    · rw [hcalls]
      exact h.snoc act he
  | cut => exact h

end IoLibrary.Effects
