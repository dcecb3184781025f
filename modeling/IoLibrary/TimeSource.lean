import IoLibrary.Deadline
import IoLibrary.Effects.Exec
import IoLibrary.WrapCounter

/-! The 64-bit time of the driver against the true time of its source. -/
namespace IoLibrary.TimeSource
open Effects WrapCounter

/-- The true microseconds at each sample of the source, less than a period apart. -/
structure Timeline (t : ℕ → ℕ) : Prop where
  mono : ∀ i, t i ≤ t (i + 1)
  close : ∀ i, t (i + 1) < t i + 2 ^ 32

/-- The true time that the driver calls 0: the whole periods before the first sample. -/
def origin (t : ℕ → ℕ) : ℕ := t 0 / 2 ^ 32 * 2 ^ 32

/-- The source counts its samples and answers the low 32 bits of the true time. -/
def clock (t : ℕ → ℕ) : Env Driver ℕ Io Io.Res := fun _ i e x i' =>
  match e, x with
  | .now, raw => raw % 2 ^ 32 = t i % 2 ^ 32 ∧ i' = i + 1
  | _, _ => i' = i

/-- The registration of a time source, of one of the two callback kinds. -/
inductive Registration
  | timeCb (wait : Bool)
  | timeHookCb (wait : Bool)
  | timeUsCb

def Registration.apply : Registration → Driver → Driver
  | .timeCb wait => Driver.regTimeCbfunc true wait
  | .timeHookCb wait => Driver.regTimeHookCbfunc true wait
  | .timeUsCb => Driver.regTimeUsCbfunc true

inductive Call
  | timeNow
  | deadlineAbs (timeoutUs : ℕ)
  | deadlineExpired (deadlineUs : ℕ)

/-- wizchip_deadline_expired returns 1 or 0. -/
def Call.run : Call → Drv ℕ
  | .timeNow => wizchipTimeNow
  | .deadlineAbs timeoutUs => wizchipDeadlineAbs timeoutUs
  | .deadlineExpired deadlineUs => do
    let expired ← wizchipDeadlineExpired deadlineUs
    return if expired then 1 else 0

abbrev Run := Step Call Driver ℕ ℕ

/-- The result of a call that samples the source at `now`, in the driver's time. -/
def Call.answer (now : ℕ) : Call → ℕ
  | .timeNow => now
  | .deadlineAbs timeoutUs => (now + timeoutUs) % 2 ^ 64
  | .deadlineExpired deadlineUs => if deadlineUs ≤ now then 1 else 0

/-- The true time of a step, in the driver's count. -/
def since (t : ℕ → ℕ) (s : Run) : ℕ := t s.pre.2 - origin t

def Driver.total (m : Driver) : Total := ⟨m.wrapBaseUs, m.wrapLastRawUs⟩

/-- Before sample `i`: a source is registered, and the total follows the timeline. -/
structure Follows (t : ℕ → ℕ) (m : Driver) (i : ℕ) : Prop where
  active : m.timeSourceActive = true
  fresh : i = 0 → Driver.total m = ⟨0, 0⟩
  tracks : ∀ j, i = j + 1 → Tracks (2 ^ 32) (2 ^ 64) (origin t) (t j) (Driver.total m)

section rules
variable {t : ℕ → ℕ} {m : Driver} {i : ℕ} {H : Driver → ℕ → Prop}

lemma Timeline.origin_le (ht : Timeline t) (i : ℕ) : origin t ≤ t i := by
  induction i with
  | zero => exact Nat.div_mul_le_self _ _
  | succ i ih => exact ih.trans (ht.mono i)

lemma Timeline.monotone (ht : Timeline t) : Monotone t := monotone_nat_of_le_succ ht.mono

lemma follows_registered (r : Registration) (m : Driver) : Follows t (r.apply m) 0 := by
  refine ⟨?_, fun _ => ?_, nofun⟩
  · cases r <;> simp [Registration.apply, Driver.regTimeCbfunc, Driver.regTimeHookCbfunc,
      Driver.regTimeUsCbfunc, Driver.timeSourceReset, Globals.timeSourceActive]
  · cases r <;> rfl

/-- One sample moves the total to the time of the sample. -/
lemma Follows.sampled (ht : Timeline t) (h : Follows t m i) {raw : ℕ}
    (hraw : raw % 2 ^ 32 = t i % 2 ^ 32) :
    Follows t (m.sampled raw) (i + 1) ∧
      ((m.sampled raw).wrapBaseUs + (m.sampled raw).wrapLastRawUs) % 2 ^ 64 =
        (t i - origin t) % 2 ^ 64 := by
  have htotal : Driver.total (m.sampled raw) =
      (Driver.total m).sample (2 ^ 32) (2 ^ 64) (t i % 2 ^ 32) := by
    simp only [Driver.total, Driver.sampled, Total.sample, hraw]
    rfl
  have htracks : Tracks (2 ^ 32) (2 ^ 64) (origin t) (t i) (Driver.total (m.sampled raw)) := by
    rw [htotal]
    cases i with
    | zero =>
      rw [h.fresh rfl]
      exact tracks_first (t 0)
    | succ j => exact (h.tracks j rfl).sample (ht.mono j) (ht.close j)
  refine ⟨⟨h.active, by rintro ⟨⟩, ?_⟩, htracks.value (ht.origin_le i)⟩
  rintro j hj
  obtain rfl : i = j := Nat.succ.inj hj
  exact htracks

/-- wizchip_time_now takes one sample and returns its true time, less the constant. -/
lemma wp_wizchipTimeNow {Q : ℕ → Driver → ℕ → Prop} (ht : Timeline t) (h : Follows t m i)
    (hQ : ∀ m', Follows t m' (i + 1) → Q ((t i - origin t) % 2 ^ 64) m' (i + 1)) :
    wp (clock t) wizchipTimeNow Q H m i := by
  simp only [wizchipTimeNow, wp_bind, wp_get, h.active, if_true, wp_perform, wp_modify, wp_pure]
  rintro raw _ ⟨hraw, rfl⟩
  obtain ⟨hfollows, hvalue⟩ := h.sampled ht hraw
  rw [hvalue]
  exact hQ _ hfollows

/-- The step rule: every call takes one sample and answers in its time. -/
lemma wp_call {Q : ℕ → Driver → ℕ → Prop} (ht : Timeline t) (h : Follows t m i) (c : Call)
    (hQ : ∀ m', Follows t m' (i + 1) → Q (c.answer ((t i - origin t) % 2 ^ 64)) m' (i + 1)) :
    wp (clock t) c.run Q H m i := by
  cases c with
  | timeNow => exact wp_wizchipTimeNow ht h hQ
  | deadlineAbs timeoutUs =>
    simp only [Call.run, wizchipDeadlineAbs, wp_bind, wp_get, h.active, if_true, wp_pure]
    exact wp_wizchipTimeNow ht h hQ
  | deadlineExpired deadlineUs =>
    simp only [Call.run, wizchipDeadlineExpired, wp_bind, wp_get, h.active, if_true, wp_pure]
    refine wp_wizchipTimeNow ht h fun m' hm' => ?_
    simpa only [Call.answer, decide_eq_true_eq] using hQ m' hm'

/-- The run rule. -/
lemma answers {steps : List Run} {m' : Driver} {i' : ℕ} (ht : Timeline t) (h : Follows t m i)
    (run : History (fun _ => clock t) Call.run steps m i m' i') :
    ∀ s ∈ steps, s.result = some (s.call.answer (since t s % 2 ^ 64)) := by
  intro s hs
  obtain ⟨before, after, hsplit⟩ := List.append_of_mem hs
  refine (history_rule (fun _ _ _ _ => True) (fun _ m i => Follows t m i)
    (fun _ s => s.result = some (s.call.answer (since t s % 2 ^ 64)))
    (fun past c m i _ hm => ?_) run [] (fun _ _ _ _ => trivial) h).1 before s after hsplit
  exact wp_call ht hm c fun m' hm' => ⟨rfl, hm'⟩

end rules

/-- A source that follows a true timeline, registered with either callback kind: the driver's
time is the true time less a constant, in 64 bits. As long as those hold it, a deadline has
expired exactly when its true time has come, and an expired deadline stays expired. -/
theorem time_follows_timeline {t : ℕ → ℕ} (ht : Timeline t) (r : Registration) (m : Driver)
    {steps : List Run} {m' : Driver} {i' : ℕ}
    (run : History (fun _ => clock t) Call.run steps (r.apply m) 0 m' i') :
    (∀ s ∈ steps, s.call = .timeNow → s.result = some (since t s % 2 ^ 64)) ∧
    (∀ s ∈ steps, ∀ late ∈ steps, ∀ timeoutUs deadlineUs,
      s.call = .deadlineAbs timeoutUs → s.result = some deadlineUs →
      late.call = .deadlineExpired deadlineUs →
      since t s + timeoutUs < 2 ^ 64 → since t late < 2 ^ 64 →
      (late.result = some 1 ↔ t s.pre.2 + timeoutUs ≤ t late.pre.2)) ∧
    (∀ s ∈ steps, ∀ late ∈ steps, ∀ deadlineUs, s.call = .deadlineExpired deadlineUs →
      late.call = .deadlineExpired deadlineUs → s.pre.2 ≤ late.pre.2 → since t late < 2 ^ 64 →
      s.result = some 1 → late.result = some 1) := by
  have answer := answers ht (follows_registered r m) run
  refine ⟨fun s hs hcall => ?_, ?_, ?_⟩
  · rw [answer s hs, hcall]
    rfl
  · intro s hs late hlate timeoutUs deadlineUs hcall hresult hexpired hfits hlatefits
    have hdeadline : since t s + timeoutUs = deadlineUs := by
      have hanswer := answer s hs
      rw [hcall, hresult, Call.answer, Nat.mod_eq_of_lt (by omega : since t s < 2 ^ 64),
        Nat.mod_eq_of_lt hfits] at hanswer
      exact (Option.some.inj hanswer).symm
    have htrue : since t s + timeoutUs ≤ since t late ↔ t s.pre.2 + timeoutUs ≤ t late.pre.2 := by
      have := ht.origin_le s.pre.2
      have := ht.origin_le late.pre.2
      simp only [since]
      omega
    rw [answer late hlate, hexpired, Call.answer, Nat.mod_eq_of_lt hlatefits, ← hdeadline, ← htrue]
    by_cases hlate_expired : since t s + timeoutUs ≤ since t late
    · simp [hlate_expired]
    · simp [hlate_expired]
  · intro s hs late hlate deadlineUs hcall hlatecall hle hfits hresult
    have hmono := ht.monotone hle
    rw [answer s hs, hcall, Call.answer] at hresult
    rw [answer late hlate, hlatecall, Call.answer, Nat.mod_eq_of_lt hfits]
    have hsince : since t s ≤ since t late := Nat.sub_le_sub_right hmono _
    rw [Nat.mod_eq_of_lt (Nat.lt_of_le_of_lt hsince hfits)] at hresult
    by_cases hexpired : deadlineUs ≤ since t s
    · rw [if_pos (hexpired.trans hsince)]
    · rw [if_neg hexpired] at hresult
      exact absurd hresult (by decide)

/-- A source one microsecond on at each sample. -/
def ticking (start : ℕ) : Handler Driver ℕ Io Io.Res := fun _ i e =>
  match e with
  | .now => (start + i, i + 1)
  | .read8 _ => ((0, false), i)
  | .write8 _ _ => (false, i)
  | .readBuf _ len => ((frameBytes len [], false), i)
  | .writeBuf _ _ => (false, i)
  | .wait | .phyLink _ | .sockLock _ | .sockUnlock _ | .globalLock | .globalUnlock => ((), i)

lemma timeline_ticking (start : ℕ) : Timeline (start + ·) :=
  ⟨fun _ => Nat.le_succ _, fun _ => Nat.add_lt_add_left (by decide : 1 < 2 ^ 32) _⟩

@[irreducible] def ticked (start : ℕ) (calls : List Call) : List Run × Driver × ℕ :=
  replay (fun _ => ticking start) Call.run calls (Registration.timeUsCb.apply (.boot 1 1)) 0

lemma history_ticked (start : ℕ) (calls : List Call) :
    History (fun _ => clock (start + ·)) Call.run (ticked start calls).1
      (Registration.timeUsCb.apply (.boot 1 1)) 0 (ticked start calls).2.1
      (ticked start calls).2.2 := by
  unfold ticked
  refine history_replay (fun _ m i e => ?_) _ _ _ _
  cases e <;> simp [clock, ticking]

lemma ticked_two (start : ℕ) {x y : ℕ} {a b : Call}
    (facts : (ticked start [a, b]).1.map (fun s => (s.pre.2, s.result)) =
      [(0, some x), (1, some y)]) :
    ∃ s ∈ (ticked start [a, b]).1, ∃ late ∈ (ticked start [a, b]).1,
      s.call = a ∧ late.call = b ∧ s.pre.2 = 0 ∧ late.pre.2 = 1 ∧
        s.result = some x ∧ late.result = some y := by
  have calls : (ticked start [a, b]).1.map Step.call <+: [a, b] := by
    unfold ticked
    exact calls_replay _ _ _ _ _
  generalize (ticked start [a, b]).1 = steps at facts calls
  obtain ⟨s, rest, rfl, hs, hrest⟩ := List.map_eq_cons_iff.1 facts
  obtain ⟨late, after, rfl, hlate, hafter⟩ := List.map_eq_cons_iff.1 hrest
  obtain rfl := List.map_eq_nil_iff.1 hafter
  simp only [Prod.mk.injEq] at hs hlate
  have hcalls := List.IsPrefix.eq_of_length calls rfl
  simp only [List.map_cons, List.map_nil, List.cons.injEq, and_true] at hcalls
  exact ⟨s, by simp, late, by simp, hcalls.1, hcalls.2, hs.1, hlate.1, hs.2, hlate.2⟩

/-- A deadline of one microsecond across a wrap of the source. -/
theorem time_follows_timeline_wrap :
    ∃ s ∈ (ticked (2 ^ 32 - 1) [.deadlineAbs 1, .deadlineExpired (2 ^ 32)]).1,
      ∃ late ∈ (ticked (2 ^ 32 - 1) [.deadlineAbs 1, .deadlineExpired (2 ^ 32)]).1,
        (late.result = some 1 ↔ 2 ^ 32 - 1 + s.pre.2 + 1 ≤ 2 ^ 32 - 1 + late.pre.2) := by
  obtain ⟨s, hs, late, hlate, hcall, hlatecall, hpre, hlatepre, hresult, -⟩ :=
    ticked_two (2 ^ 32 - 1) (x := 2 ^ 32) (y := 1) (a := .deadlineAbs 1)
      (b := .deadlineExpired (2 ^ 32)) (by unfold ticked; decide +kernel)
  refine ⟨s, hs, late, hlate, ?_⟩
  refine (time_follows_timeline (timeline_ticking _) _ _ (history_ticked _ _)).2.1 s hs late hlate
    1 (2 ^ 32) hcall hresult hlatecall ?_ ?_
  · rw [since, hpre]
    decide
  · rw [since, hlatepre]
    decide

/-- The longest timeout a caller can ask for has expired at once: the sum wraps at 64 bits. -/
theorem longest_deadline_expires :
    ¬ ∀ (t : ℕ → ℕ) (r : Registration) (m m' : Driver) (i' : ℕ) (steps : List Run), Timeline t →
      History (fun _ => clock t) Call.run steps (r.apply m) 0 m' i' →
      ∀ s ∈ steps, ∀ late ∈ steps, ∀ timeoutUs < 2 ^ 64, ∀ deadlineUs,
        s.call = .deadlineAbs timeoutUs → s.result = some deadlineUs →
        late.call = .deadlineExpired deadlineUs → s.pre.2 ≤ late.pre.2 →
        (late.result = some 1 ↔ t s.pre.2 + timeoutUs ≤ t late.pre.2) := by
  intro claim
  obtain ⟨s, hs, late, hlate, hcall, hlatecall, hpre, hlatepre, hresult, hexpired⟩ :=
    ticked_two 1 (x := 0) (y := 1) (a := .deadlineAbs (2 ^ 64 - 1))
      (b := .deadlineExpired 0) (by unfold ticked; decide +kernel)
  have hlate_true := (claim _ _ _ _ _ _ (timeline_ticking 1) (history_ticked 1 _) s hs late hlate
    (2 ^ 64 - 1) (by decide) 0 hcall hresult hlatecall (by rw [hpre]; exact Nat.zero_le _)).1 hexpired
  rw [hpre, hlatepre] at hlate_true
  exact absurd hlate_true (by decide)

end IoLibrary.TimeSource
