import IoLibrary.FrameRules
import IoLibrary.LifecycleFootprints

/-! The rule for a reset of the chip: one fact until the reset bit is written, one from then
on, and one after the version has been read. -/
namespace IoLibrary
open Effects

variable {W : Type} {env : Env Driver W Io Io.Res} {H : Driver → W → Prop}

/-- `K` after a status of 0, `F` after an error. -/
def Outcome (K F : Driver → W → Prop) (r : ℤ) (m : Driver) (w : W) : Prop :=
  (r = 0 → K m w) ∧ (r ≠ 0 → F m w)

lemma outcome_same {I : Driver → W → Prop} {r : ℤ} {m : Driver} {w : W} (h : I m w) :
    Outcome I I r m w := ⟨fun _ => h, fun _ => h⟩

/-- The source's way to go on: return an error, or do the rest. -/
lemma wp_unless {K K' F : Driver → W → Prop} {r e : ℤ} {rest : Drv ℤ} {m : Driver} {w : W}
    (he : e ≠ 0) (h : Outcome K F r m w)
    (next : K m w → wp env rest (Outcome K' F) H m w) :
    wp env (if r ≠ 0 then return e else rest) (Outcome K' F) H m w := by
  by_cases hr : r = 0
  · rw [if_neg (not_not.2 hr)]
    exact next (h.1 hr)
  · rw [if_pos hr]
    exact ⟨fun h0 => absurd h0 he, fun _ => h.2 hr⟩

/-- A reset, from rules for its transfers and for the wait for the version. -/
theorem wp_wizchipSwResetLocked_outcome (K₀ K₁ : Driver → W → Prop)
    {K₂ F : Driver → W → Prop} {b : Build} {m : Driver} {w : W}
    (link : ∀ m w, K₀ m w → K₀ { m with previousLink := -1 } w)
    (read : ∀ a len m w, a.block = .common → K₀ m w →
      wp env (wizchipReadBufChecked b a len) (fun r => Outcome K₀ F r.1) H m w)
    (reset : ∀ m w, K₀ m w → wp env (wizchipWrite8Checked b Reg.mr mrRST) (Outcome K₁ F) H m w)
    (ack : ∀ m w, K₁ m w →
      wp env (wizchipRead8CheckedOut b Reg.mr) (fun r => Outcome K₁ F r.1) H m w)
    (write : ∀ a data m w, a ∈ [Reg.shar, Reg.gar, Reg.subr, Reg.sipr] → K₁ m w →
      wp env (wizchipWriteBufChecked b a data) (Outcome K₁ F) H m w)
    (version : ∀ m w, K₁ m w → wp env (versionWait b) (Outcome K₂ F) H m w) (h : K₀ m w) :
    wp env (wizchipSwResetLocked b) (Outcome K₂ F) H m w := by
  have io : sockerrIo ≠ 0 := by decide
  simp only [wizchipSwResetLocked, wp_bind, wp_modify]
  refine wp_mono (read _ _ _ _ rfl (link m w h)) ?_ fun _ _ => id
  refine fun _ m w h => wp_unless io h fun h => ?_
  refine (wp_bind _ _).2 (wp_mono (read _ _ _ _ rfl h) ?_ fun _ _ => id)
  refine fun _ m w h => wp_unless io h fun h => ?_
  refine (wp_bind _ _).2 (wp_mono (read _ _ _ _ rfl h) ?_ fun _ _ => id)
  refine fun _ m w h => wp_unless io h fun h => ?_
  refine (wp_bind _ _).2 (wp_mono (read _ _ _ _ rfl h) ?_ fun _ _ => id)
  refine fun _ m w h => wp_unless io h fun h => ?_
  refine (wp_bind _ _).2 (wp_mono (reset _ _ h) ?_ fun _ _ => id)
  refine fun _ m w h => wp_unless io h fun h => ?_
  refine (wp_bind _ _).2 (wp_mono (ack _ _ h) ?_ fun _ _ => id)
  refine fun _ m w h => wp_unless io h fun h => ?_
  refine (wp_bind _ _).2 (wp_mono (write _ _ _ _ (by simp) h) ?_ fun _ _ => id)
  refine fun _ m w h => wp_unless io h fun h => ?_
  refine (wp_bind _ _).2 (wp_mono (write _ _ _ _ (by simp) h) ?_ fun _ _ => id)
  refine fun _ m w h => wp_unless io h fun h => ?_
  refine (wp_bind _ _).2 (wp_mono (write _ _ _ _ (by simp) h) ?_ fun _ _ => id)
  refine fun _ m w h => wp_unless io h fun h => ?_
  refine (wp_bind _ _).2 (wp_mono (write _ _ _ _ (by simp) h) ?_ fun _ _ => id)
  refine fun _ m w h => wp_unless io h fun h => ?_
  exact version m w h

end IoLibrary
