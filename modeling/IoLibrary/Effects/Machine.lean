import Mathlib.Data.BitVec
import Mathlib.Data.List.Basic

/-! Machines that take one input after the other and answer each of them. A run is the list of its
inputs. -/
namespace IoLibrary.Effects

/-- What a machine becomes on an input, and its answer. -/
abbrev Machine (S I O : Type*) := S → I → S × O

namespace Machine
variable {S I O : Type*} (step : Machine S I O)

/-- The state after the inputs. -/
def after (s : S) (inputs : List I) : S := inputs.foldl (fun s i => (step s i).1) s

/-- `P` of each input of a run and the state it comes in. -/
def Each (s : S) (inputs : List I) (P : S → I → Prop) : Prop :=
  ∀ before i rest, inputs = before ++ i :: rest → P (step.after s before) i

/-- The machine with the answers it has given so far. -/
def recorded : Machine (S × List O) I O := fun s i =>
  (((step s.1 i).1, s.2 ++ [(step s.1 i).2]), (step s.1 i).2)

variable {step}
variable {s : S} {inputs : List I} {P Q : S → I → Prop}

@[simp] lemma after_nil : step.after s [] = s := rfl

@[simp] lemma after_cons (i : I) :
    step.after s (i :: inputs) = step.after (step s i).1 inputs := rfl

@[simp] lemma each_nil : step.Each s [] P := by
  intro before i rest hsplit
  simp at hsplit

@[simp] lemma each_cons (i : I) :
    step.Each s (i :: inputs) P ↔ P s i ∧ step.Each (step s i).1 inputs P := by
  constructor
  · intro h
    refine ⟨h [] i inputs rfl, fun before j rest hsplit => ?_⟩
    rw [hsplit] at h
    exact h (i :: before) j rest rfl
  · intro h before j rest hsplit
    cases before with
    | nil =>
      obtain ⟨rfl, rfl⟩ := List.cons.inj hsplit
      exact h.1
    | cons b before =>
      obtain ⟨rfl, rfl⟩ := List.cons.inj hsplit
      exact h.2 before j rest rfl

lemma after_rule (inv : S → Prop) (hs : inv s) (hstep : ∀ s i, inv s → inv (step s i).1) :
    inv (step.after s inputs) := by
  induction inputs generalizing s with
  | nil => exact hs
  | cons i inputs ih => exact ih (hstep s i hs)

/-- Conditions that are equivalent under an invariant hold of the same runs, if the steps that meet
them keep the invariant. -/
lemma each_congr (inv : S → Prop) (hs : inv s)
    (hstep : ∀ s, ∀ i ∈ inputs, inv s → Q s i → inv (step s i).1)
    (h : ∀ s, ∀ i ∈ inputs, inv s → (P s i ↔ Q s i)) :
    step.Each s inputs P ↔ step.Each s inputs Q := by
  induction inputs generalizing s with
  | nil => simp
  | cons i inputs ih =>
    rw [each_cons, each_cons, h s i List.mem_cons_self hs]
    apply and_congr_right
    intro hQ
    apply ih (hstep s i List.mem_cons_self hs hQ)
    · intro s j hj
      exact hstep s j (List.mem_cons_of_mem i hj)
    · intro s j hj
      exact h s j (List.mem_cons_of_mem i hj)

/-- A condition that does not look at the answers. -/
lemma each_recorded (past : List O) :
    step.recorded.Each (s, past) inputs (fun s i => P s.1 i) ↔ step.Each s inputs P := by
  induction inputs generalizing s past with
  | nil => simp
  | cons i inputs ih => rw [each_cons, each_cons, ← ih (past ++ [(step s i).2]), recorded]

end Machine

end IoLibrary.Effects
