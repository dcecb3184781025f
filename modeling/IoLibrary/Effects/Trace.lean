import IoLibrary.Effects.History

/-! Traces: an environment that keeps every call with its answer and the memory it was made
from, and allows an answer by the calls before it. -/
namespace IoLibrary.Effects
open Prog

variable {M G E : Type} {R : E → Type} {α : Type}

structure Event (G E : Type) (R : E → Type) where
  mem : G
  call : E
  answer : R call

abbrev Trace (G E : Type) (R : E → Type) := List (Event G E R)

def traceEnv (allowed : Trace G E R → (e : E) → R e → Prop) : Env G (Trace G E R) E R :=
  fun g t e x t' => allowed t e x ∧ t' = t ++ [⟨g, e, x⟩]

/-- The trace `t'` extends `t` by events of which `P` holds. -/
def Extends (P : Event G E R → Prop) (t t' : Trace G E R) : Prop :=
  ∃ added, t' = t ++ added ∧ ∀ v ∈ added, P v

variable {P P' : Event G E R → Prop} {t t₁ t₂ : Trace G E R}

lemma Extends.refl : Extends P t t := ⟨[], by simp, by simp⟩

lemma Extends.snoc {v : Event G E R} (h : Extends P t t₁) (hv : P v) :
    Extends P t (t₁ ++ [v]) := by
  obtain ⟨added, rfl, hP⟩ := h
  refine ⟨added ++ [v], by simp, fun u hu => ?_⟩
  rcases List.mem_append.1 hu with hu | hu
  · exact hP u hu
  · rw [List.mem_singleton.1 hu]
    exact hv

lemma Extends.trans (h : Extends P t t₁) (h' : Extends P t₁ t₂) : Extends P t t₂ := by
  obtain ⟨added, rfl, hP⟩ := h
  obtain ⟨more, rfl, hP'⟩ := h'
  refine ⟨added ++ more, by simp, fun u hu => ?_⟩
  rcases List.mem_append.1 hu with hu | hu
  · exact hP u hu
  · exact hP' u hu

lemma Extends.mono (h : Extends P t t₁) (hP : ∀ v, P v → P' v) : Extends P' t t₁ := by
  obtain ⟨added, rfl, hadded⟩ := h
  exact ⟨added, rfl, fun v hv => hP v (hadded v hv)⟩

lemma Extends.mem {v : Event G E R} (h : Extends P t t₁) (hv : v ∈ t₁) : v ∈ t ∨ P v := by
  obtain ⟨added, rfl, hP⟩ := h
  rcases List.mem_append.1 hv with hv | hv
  · exact .inl hv
  · exact .inr (hP v hv)

/-- A place in a list that has grown by one is an old place or the new one. -/
lemma append_cons_of_snoc {β : Type} {l before after : List β} {u v : β}
    (h : l ++ [v] = before ++ u :: after) :
    (before = l ∧ u = v ∧ after = []) ∨ ∃ after', after = after' ++ [v] ∧ l = before ++ u :: after' := by
  rcases List.eq_nil_or_concat after with rfl | ⟨after', w, rfl⟩
  · obtain ⟨hbefore, hlast⟩ := List.append_inj' h rfl
    obtain ⟨hv, -⟩ := List.cons.inj hlast
    exact .inl ⟨hbefore.symm, hv.symm, rfl⟩
  · have h' : l ++ [v] = (before ++ u :: after') ++ [w] := by simpa using h
    obtain ⟨hl, hlast⟩ := List.append_inj' h' rfl
    obtain ⟨hv, -⟩ := List.cons.inj hlast
    exact .inr ⟨after', by rw [hv, List.concat_eq_append], hl⟩

/-- Some `U` has happened, and no `S` since. -/
def Since (U S : Event G E R → Prop) (t : Trace G E R) : Prop :=
  ∃ before u after, t = before ++ u :: after ∧ U u ∧ ∀ v ∈ after, ¬ S v

lemma Since.snoc {U S : Event G E R → Prop} {v : Event G E R} (h : Since U S t) (hv : ¬ S v) :
    Since U S (t ++ [v]) := by
  obtain ⟨before, u, after, rfl, hu, hafter⟩ := h
  refine ⟨before, u, after ++ [v], by simp, hu, fun w hw => ?_⟩
  rcases List.mem_append.1 hw with hw | hw
  · exact hafter w hw
  · rw [List.mem_singleton.1 hw]
    exact hv

lemma since_now {U S : Event G E R → Prop} {v : Event G E R} (h : U v) : Since U S (t ++ [v]) :=
  ⟨t, v, [], rfl, h, by simp⟩

/-- A program adds to the trace only calls of its footprint. -/
lemma wpv_extends {view : M → G} {allowed : Trace G E R → (e : E) → R e → Prop} {g : G}
    {U : (M → M) → Prop} {C : E → Prop} {p : Prog M E R α} (hp : Within U C p)
    (t : Trace G E R) :
    wpv view (traceEnv allowed) p (fun _ _ t' => Extends (fun v => C v.call) t t')
      (fun _ t' => Extends (fun v => C v.call) t t') g t := by
  refine wpv_of_within hp (fun _ t' => Extends (fun v => C v.call) t t') ?_ ?_ .refl
  · exact fun _ _ _ _ h => h
  · rintro e he g t' x _ h ⟨-, rfl⟩
    exact h.snoc he

/-- The trace has grown, by a `P` among others. -/
def Adds (P : Event G E R → Prop) (t t' : Trace G E R) : Prop := ∃ added, t' = t ++ added ∧ ∃ v ∈ added, P v

lemma Adds.snoc {P : Event G E R → Prop} {t t' : Trace G E R} (h : Adds P t t') (v : Event G E R) :
    Adds P t (t' ++ [v]) := by
  obtain ⟨added, rfl, u, hu, hP⟩ := h
  exact ⟨added ++ [v], List.append_assoc t added [v], u, List.mem_append_left _ hu, hP⟩

lemma Extends.adds {P Q : Event G E R → Prop} {t t' : Trace G E R} (h : Extends Q t t') {v : Event G E R}
    (hv : P v) : Adds P t (t' ++ [v]) := by
  obtain ⟨added, rfl, -⟩ := h
  exact ⟨added ++ [v], List.append_assoc t added [v], v, List.mem_append_right _ (List.mem_singleton_self v), hv⟩

/-- What has been added stays in every run. -/
lemma wpv_adds {view : M → G} {allowed : Trace G E R → (e : E) → R e → Prop} {g : G}
    {P : Event G E R → Prop} {t t₁ : Trace G E R} {p : Prog M E R α} (h : Adds P t t₁) :
    wpv view (traceEnv allowed) p (fun _ _ t' => Adds P t t') (fun _ t' => Adds P t t') g t₁ := by
  refine wpv_of_within (within_all p) (fun _ t' => Adds P t t') (fun _ _ _ _ h => h) ?_ h
  rintro e - g' t' x _ h ⟨-, rfl⟩
  exact h.snoc _

end IoLibrary.Effects
