import IoLibrary.Callbacks.Caught

/-! When the callbacks of the application run outside the locks of the driver. -/
namespace IoLibrary.Callbacks
open Effects LockDiscipline

/-- No callback was called with a lock held. -/
def Outside (t : IoTrace) : Prop := ∀ before v after, t = before ++ v :: after → Callback v.call →
  heldAfter Io.lockAct (Trace.calls before) = ∅

/-- Every run of the call calls the application outside the locks. -/
def OutsideLocks (b : Build) (call : PublicCall) (m : Driver) : Prop :=
  ∀ r m' t, Eval anyChip (call.run b) m [] r m' t → Outside t

section outside
variable {b : Build} {call : PublicCall} {m : Driver} {t : IoTrace}

lemma AllCalm.outside (h : AllCalm t) : Outside t := by
  rintro before v after rfl hv
  exact absurd hv (h v (by simp))

lemma Caught.not_outside (h : Caught t) : ¬ Outside t := by
  obtain ⟨before, v, after, rfl, hv, hheld⟩ := h
  exact fun houtside => hheld.ne_empty (houtside before v after rfl hv)

lemma heldAfter_lockless {calls : List Io} (h : ∀ e ∈ calls, Lockless e) : heldAfter Io.lockAct calls = ∅ := by
  induction calls using List.reverseRecOn with
  | nil => rfl
  | append_singleton calls e ih =>
    have hlast : e.lockAct = .other := h e (by simp)
    rw [heldAfter_snoc, ih fun e he => h e (List.mem_append_left _ he), Effects.holding, hlast]

/-- The PHY link is read without a lock. -/
lemma outside_getPhylink : OutsideLocks b (.ctlwizchip (.getPhylink true)) m := by
  have free : Free (PublicCall.run b (.ctlwizchip (.getPhylink true))) := by
    refine within_bind (within_bind (free_wizphyGetphylink b) fun tmp => ?_) fun _ => within_pure _
    exact within_ite (within_pure _) (within_pure _)
  have run : wp anyChip (PublicCall.run b (.ctlwizchip (.getPhylink true)))
      (fun _ _ t => ∀ v ∈ t, Lockless v.call) (fun _ t => ∀ v ∈ t, Lockless v.call) m [] := by
    refine wp_mono (wp_of_wpg (wpv_extends free [])) ?_ ?_
    · exact fun _ _ _ hext v hv => (hext.mem hv).resolve_left List.not_mem_nil
    · exact fun _ _ hext v hv => (hext.mem hv).resolve_left List.not_mem_nil
  intro r m' t h before v after hsplit _
  have lockless : ∀ v ∈ t, Lockless v.call := by
    have ends := (wp_iff_eval _).1 run r m' t h
    cases r with
    | none => exact ends
    | some r => exact ends
  refine heldAfter_lockless fun e he => ?_
  obtain ⟨u, hu, rfl⟩ := List.mem_map.1 he
  exact lockless u (hsplit ▸ List.mem_append_left _ hu)

lemma outside_of_calm (h : CalmRun (call.run b) m []) : OutsideLocks b call m := by
  intro r m' t hrun
  have ends := (wp_iff_eval _).1 h r m' t hrun
  cases r with
  | none => exact AllCalm.outside ends
  | some r => exact AllCalm.outside ends

lemma stubborn_total (c : Stubborn) (sn : ℕ) (m : Driver) (t : IoTrace) (e : Io) :
    ∃ x t', chipEnv (c.Shows sn) m t e x t' := by
  have answers : ∃ x : e.Res, c.Shows sn t e x := by
    cases e with
    | read8 a =>
      by_cases hcr : a = Reg.snCR sn
      · subst hcr
        have others : Reg.snCR sn ≠ Reg.snSR sn ∧ Reg.snCR sn ≠ Reg.snIR sn ∧
            Reg.snCR sn ≠ Reg.snKPALVTR sn ∧ Reg.snCR sn ≠ Reg.phycfgr := by
          simp [Reg.snCR, Reg.snSR, Reg.snIR, Reg.snKPALVTR, Reg.phycfgr]
        obtain ⟨hsr, hir, hkeep, hphy⟩ := others
        have decided : ∃ v : Byte, v = 0 ↔ c.Takes sn t := by
          by_cases htakes : c.Takes sn t
          · exact ⟨0, iff_of_true rfl htakes⟩
          · exact ⟨1, iff_of_false (by decide) htakes⟩
        obtain ⟨v, hv⟩ := decided
        exact ⟨(v, false), fun h => absurd h hsr, fun h => absurd h hir, fun _ => hv, fun h => absurd h hkeep,
          fun h => absurd h hphy⟩
      · refine ⟨(if a = Reg.snSR sn then c.status else if a = Reg.snIR sn then c.events
          else if a = Reg.phycfgr then 0xFF else 0, false), ?_, ?_, fun h => absurd h hcr, ?_, ?_⟩
        · exact fun h => if_pos h
        · rintro rfl
          simp [Reg.snIR, Reg.snSR]
        · rintro rfl
          simp [Reg.snKPALVTR, Reg.snIR, Reg.snSR, Reg.phycfgr]
        · rintro rfl
          simp [Reg.phycfgr, Reg.snIR, Reg.snSR]
    | readBuf a len =>
      refine ⟨(if a = Reg.snTXFSR sn then frameBytes len (bytes16 c.free.toNat)
        else if a = Reg.snRXRSR sn then frameBytes len (bytes16 c.received.toNat)
        else if a = Reg.sipr then .replicate len 1 else .replicate len 0, false), rfl, ?_, ?_, ?_, ?_⟩
      · exact fun h => if_pos h
      · rintro rfl
        simp [Reg.snRXRSR, Reg.snTXFSR]
      · rintro rfl
        simp [Reg.sipr, Reg.snRXRSR, Reg.snTXFSR]
      · intro hblock
        have common : a ≠ Reg.snTXFSR sn ∧ a ≠ Reg.snRXRSR sn ∧ a ≠ Reg.sipr := by
          refine ⟨?_, ?_, ?_⟩
          all_goals
            rintro rfl
            exact absurd hblock (by rintro ⟨⟩)
        rw [if_neg common.1, if_neg common.2.1, if_neg common.2.2]
    | write8 a v => exact ⟨false, trivial⟩
    | writeBuf a data => exact ⟨false, trivial⟩
    | now => exact ⟨0, trivial⟩
    | _ => exact ⟨(), trivial⟩
  obtain ⟨x, hx⟩ := answers
  exact ⟨x, _, hx, rfl⟩

lemma not_outside (hreg : Registered m.toGlobals) (hreach : Reaches m call) (hfits : Fits call) :
    ¬ OutsideLocks b call m := by
  intro houtside
  obtain ⟨c, sn, catches⟩ := caught_call (b := b) (t := []) hreg hreach hfits
  obtain ⟨r, m', t, hrun⟩ := exists_eval (stubborn_total c sn) (call.run b) m []
  have caught : Caught t := by
    have ends := (wp_iff_eval _).1 catches r m' t hrun
    cases r with
    | none => exact ends
    | some r => exact ends
  refine caught.not_outside (houtside r m' t (hrun.mono ?_))
  exact fun _ _ _ _ _ hx => ⟨trivial, hx.2⟩

end outside

/-- The callbacks of a call run outside the locks exactly when no wait callback is registered, or the
call is stopped before a wait that may go on, or has none. -/
theorem outside_iff {b : Build} {call : PublicCall} {m : Driver} (hfits : Fits call) :
    OutsideLocks b call m ↔ ¬ (Registered m.toGlobals ∧ Reaches m call) := by
  constructor
  · rintro houtside ⟨hreg, hreach⟩
    exact not_outside hreg hreach hfits houtside
  · intro hnot
    by_cases hlink : call = .ctlwizchip (.getPhylink true)
    · subst hlink
      exact outside_getPhylink
    by_cases hreg : Registered m.toGlobals
    · exact outside_of_calm (calm_call b hlink (fun hreach => hnot ⟨hreg, hreach⟩) allCalm_nil)
    · exact outside_of_calm (calm_unregistered b hlink hreg allCalm_nil)

theorem outside_iff_send : OutsideLocks .oneTurn (.on 0 (.send 1 (some #v[7]))) Nonblocking.connected ↔
    ¬ (Registered Nonblocking.connected.toGlobals ∧
      Reaches Nonblocking.connected (.on 0 (.send 1 (some #v[7])))) :=
  outside_iff (show 1 < 2 ^ 16 by decide)

/-- The memory after a wait callback was registered. -/
def waiting : Driver := { Driver.boot 1000 1000 with waitUs := true }

/-- listen waits through the callback with the lock of its socket held. -/
theorem listen_waits_locked :
    ¬ ∀ (b : Build) (call : PublicCall) (m : Driver), Fits call → OutsideLocks b call m := by
  intro claim
  have hreach : Reaches waiting (.on 0 .listen) := ⟨by decide, by decide, by decide⟩
  exact not_outside (.inl rfl) hreach trivial (claim .oneTurn (.on 0 .listen) waiting trivial)

end IoLibrary.Callbacks
