import IoLibrary.Calls
import IoLibrary.ControlFootprints
import IoLibrary.Effects.Exec
import IoLibrary.Effects.Tasks

/-! The locks of the public interface: every call takes them in order and returns them, so that
tasks which share the driver cannot deadlock. -/
namespace IoLibrary.LockDiscipline
open Effects

/-- The public functions of socket.c, the control functions, the lifecycle and the setters. -/
inductive PublicCall
  | on (sn : ℕ) (op : Op)
  | socketStateResetOne (sn : ℕ)
  | socketStateReset
  | ctlwizchip (cwtype : CtlwizchipType)
  | ctlnetwork (cntype : CtlnetworkType)
  | init (txsize rxsize : Option (ℕ → ℕ))
  | swReset
  | setTxBufSize (sn sizeKb : ℕ)
  | setRxBufSize (sn sizeKb : ℕ)
  | setOperationTimeoutUs (timeoutUs : ℕ)
  | setTimeoutConfig (config : Option TimeoutConfig)
  | timeoutConfigSet (timeoutUs : ℕ)
  | settimeout (nettime : NetTimeout)

def PublicCall.run (b : Build) : PublicCall → Drv ℤ
  | .on sn op => op.run b sn
  | .socketStateResetOne sn => do
    wizchipSocketStateResetOne sn
    return 0
  | .socketStateReset => do
    wizchipSocketStateReset
    return 0
  | .ctlwizchip cwtype => do
    let r ← IoLibrary.ctlwizchip b cwtype
    return r.1
  | .ctlnetwork cntype => do
    let r ← IoLibrary.ctlnetwork b cntype
    return r.1
  | .init txsize rxsize => wizchipInit b txsize rxsize
  | .swReset => wizchipSwReset b
  | .setTxBufSize sn sizeKb => wizchipSetTxBufSize b sn sizeKb
  | .setRxBufSize sn sizeKb => wizchipSetRxBufSize b sn sizeKb
  | .setOperationTimeoutUs timeoutUs => wizchipSetOperationTimeoutUs b timeoutUs
  | .setTimeoutConfig config => wizchipSetTimeoutConfig b config
  | .timeoutConfigSet timeoutUs => wizchipTimeoutConfigSet timeoutUs
  | .settimeout nettime => do
    wizchipSettimeout b nettime
    return 0

/-- Calls no lock callback. -/
abbrev Free {α : Type} (p : Drv α) : Prop := Within (fun _ => True) Lockless p

/-- Takes its locks in order and returns them all. -/
abbrev Sound {α : Type} (p : Drv α) : Prop := Balanced (fun _ => True) (fun _ => True) p

section phy
variable (b : Build) {α : Type}

lemma sound_free {p : Drv α} (hp : Free p) : Sound p :=
  balanced_of_within hp fun _ he => ⟨trivial, he⟩

lemma sound_globalLocked {body : Drv α} (hbody : Free body) : Sound (globalLocked body) :=
  balanced_globalLocked ⟨trivial, trivial⟩ hbody fun _ he => ⟨trivial, he⟩

lemma free_transfers {p : Drv α} (hp : Transfers p) : Free p :=
  hp.mono (fun _ h => h) fun _ => lockless_of_transfer

lemma free_pure (a : α) : Free (pure a) := within_pure a

lemma free_get : Free (Prog.get : Drv Driver) := within_get trivial

lemma free_read (a : Addr) : Free (wizchipRead b a) := free_transfers (transfers_read b a)

lemma free_write (a : Addr) (v : Byte) : Free (wizchipWrite b a v) :=
  free_transfers (transfers_write b a v)

lemma free_deadlineAbs (t : ℕ) : Free (wizchipDeadlineAbs t) :=
  within_wizchipDeadlineAbs (fun _ _ => trivial) (show Lockless .now from rfl) t

lemma free_deadlineExpired (d : ℕ) : Free (wizchipDeadlineExpired d) :=
  within_wizchipDeadlineExpired (fun _ _ => trivial) (show Lockless .now from rfl) d

lemma free_wait : Free (ask .wait) := (within_perform _).2 rfl

lemma free_wizphyGetphylink : Free (wizphyGetphylink b) := by
  refine within_bind (free_read b _) fun _ => within_bind free_get fun m => within_ite ?_ (free_pure _)
  refine within_bind (free_transfers (transfers_modify _)) fun _ => ?_
  exact within_bind ((within_perform _).2 rfl) fun _ => free_pure _

lemma free_wizphyWaitUntil (d : ℕ) : Free (wizphyWaitUntil b d) := by
  refine within_bind free_get fun m => within_ite (within_ite (free_pure _) ?_) ?_
  · exact within_bind free_wait fun _ => free_pure _
  · refine within_loop (fun polls => ?_) _ _
    refine within_bind (free_deadlineExpired d) fun late => within_ite (free_pure _) ?_
    refine within_bind free_get fun m => within_ite (free_pure _) ?_
    exact within_bind free_wait fun _ => within_ite (free_pure _) (free_pure _)

lemma free_wizphyWaitReadback (expected : Byte) : Free (wizphyWaitReadback b expected) := by
  refine within_bind free_get fun m => within_bind (free_deadlineAbs _) fun d => ?_
  refine within_loop (fun polls => ?_) _ _
  refine within_bind (free_read b _) fun phycfgr => within_ite (free_pure _) ?_
  refine within_ite (free_pure _) (within_bind free_wait fun _ => within_ite (free_pure _) ?_)
  refine within_ite (free_pure _) ?_
  exact within_bind (free_deadlineExpired d) fun late => free_pure _

lemma free_wizphyResetLocked (configured : Byte) : Free (wizphyResetLocked b configured) := by
  refine within_bind (free_write b _ _) fun _ => ?_
  refine within_bind (free_wizphyWaitReadback b _) fun ret => within_ite (free_pure _) ?_
  refine within_bind (free_deadlineAbs _) fun d => ?_
  refine within_bind (free_wizphyWaitUntil b d) fun ret => within_ite (free_pure _) ?_
  exact within_bind (free_write b _ _) fun _ => free_wizphyWaitReadback b _

lemma sound_wizphyReset : Sound (wizphyReset b) :=
  sound_globalLocked (within_bind (free_read b _) fun _ => free_wizphyResetLocked b _)

lemma sound_wizphySetphyconf (phyconf : Option PhyConf) : Sound (wizphySetphyconf b phyconf) := by
  cases phyconf with
  | none => exact balanced_pure _
  | some c =>
    refine balanced_ite (balanced_pure _) (sound_globalLocked ?_)
    refine within_bind (free_read b _) fun tmp => within_bind (free_write b _ _) fun _ => ?_
    exact free_wizphyResetLocked b _

lemma sound_wizphySetphypmode (pmode : Byte) : Sound (wizphySetphypmode b pmode) := by
  refine balanced_ite (balanced_pure _) (sound_globalLocked ?_)
  refine within_bind (free_read b _) fun tmp => within_ite (free_pure _) ?_
  exact within_bind (free_write b _ _) fun _ => free_wizphyResetLocked b _

lemma sound_map {β : Type} {p : Drv α} (f : α → β) (hp : Sound p) :
    Sound (do let a ← p; return f a) := tidy_map f hp

lemma sound_ctlwizchip (cwtype : CtlwizchipType) : Sound (ctlwizchip b cwtype) := by
  have settled (h : cwtype.Settled) : Sound (ctlwizchip b cwtype) := tidy_ctlwizchip (fun _ _ => trivial) b h
  cases cwtype with
  | resetPhy => exact sound_map _ (sound_wizphyReset b)
  | setPhyconf arg => exact sound_map _ (sound_wizphySetphyconf b arg)
  | setPhypowmode arg =>
    cases arg with
    | none => exact settled trivial
    | some pmode => exact sound_map _ (sound_wizphySetphypmode b pmode)
  | getPhylink arg =>
    cases arg with
    | false => exact settled trivial
    | true =>
      exact sound_free (within_bind (free_wizphyGetphylink b) fun tmp =>
        within_ite (free_pure _) (free_pure _))
  | _ => exact settled trivial

/-- Every public function takes its locks in order and returns them all. -/
lemma sound_call (c : PublicCall) : Sound (c.run b) := by
  have any : ∀ e, Transfer e ∨ Locks e → True := fun _ _ => trivial
  cases c with
  | on sn op => exact orderly_weaken (balanced_others b sn op) (fun _ _ => trivial) fun _ _ => trivial
  | socketStateResetOne sn =>
    exact sound_map _ (tidy_transfers any (transfers_wizchipSocketStateResetOne sn))
  | socketStateReset => exact sound_map _ (tidy_transfers any transfers_wizchipSocketStateReset)
  | ctlwizchip cwtype => exact sound_map _ (sound_ctlwizchip b cwtype)
  | ctlnetwork cntype => exact sound_map _ (tidy_ctlnetwork any b cntype)
  | init txsize rxsize => exact tidy_wizchipInit any b txsize rxsize
  | swReset => exact tidy_wizchipSwReset any b
  | setTxBufSize sn sizeKb => exact tidy_wizchipSetBufSize any b .tx sn sizeKb
  | setRxBufSize sn sizeKb => exact tidy_wizchipSetBufSize any b .rx sn sizeKb
  | setOperationTimeoutUs timeoutUs => exact tidy_setOperationTimeoutUs any b timeoutUs
  | setTimeoutConfig config => exact tidy_setTimeoutConfig any b config
  | timeoutConfigSet timeoutUs => exact tidy_timeoutConfigSet any timeoutUs
  | settimeout nettime => exact sound_map _ (tidy_globalLocked any (transfers_settimeout b nettime))

end phy

section tasks

/-- Every run of every public function takes each lock above those it holds, so none twice, and
releases what it took, once. Tasks which make such calls in any order cannot deadlock. -/
theorem locks_disciplined (b : Build) :
    (∀ (c : PublicCall) (m : Driver) r m' (t : IoTrace), Eval anyChip (c.run b) m [] r m' t →
      LocksInOrder Io.lockAct t.calls ∧ (r ≠ none → heldAfter Io.lockAct t.calls = ∅)) ∧
    ∀ (ι W : Type) [DecidableEq ι] [Finite ι] (env : Env Driver W Io Io.Res)
      (s₀ s : Tasks ι PublicCall Lock Driver W Io Io.Res ℤ), s₀.Idle →
      Reached env Io.lockAct (PublicCall.run b) s₀ s → ∀ D, ¬ s.Deadlocked Io.lockAct D := by
  refine ⟨fun c m r m' t h => ?_, fun ι W _ _ env s₀ s idle h D => ?_⟩
  · have record (m : Driver) (t : IoTrace) (e : Io) (x : e.Res) (t' : IoTrace)
        (h : anyChip m t e x t') : ∃ g, t' = t ++ [⟨g, e, x⟩] := ⟨m.toGlobals, h.2⟩
    have start : LocksInOrder Io.lockAct (Trace.calls ([] : IoTrace)) := locksInOrder_nil _
    have run := wp_locksInOrder record m (sound_call b c) start
    cases r with
    | none => exact ⟨wp_cuts run h, fun h => absurd rfl h⟩
    | some a =>
      obtain ⟨inOrder, returned⟩ := wp_returns run h
      exact ⟨inOrder, fun _ => returned⟩
  · exact no_deadlock (sound_call b) idle h D

/-- A bus on which every transfer fails. -/
def failure : (e : Io) → e.Res
  | .read8 _ => (0, true)
  | .readBuf _ len => (frameBytes len [], true)
  | .write8 _ _ | .writeBuf _ _ => true
  | .now => 0
  | .wait | .phyLink _ | .sockLock _ | .sockUnlock _ | .globalLock | .globalUnlock => ()

def deadBus : Handler Driver IoTrace Io Io.Res := fun m t e =>
  (failure e, t ++ [⟨m.toGlobals, e, failure e⟩])

/-- A reset that fails at its first transfer. -/
@[irreducible] def failedReset : Option ℤ × Driver × IoTrace :=
  exec deadBus (PublicCall.run .oneTurn .swReset) (Driver.boot 1000 1000) []

lemma eval_failedReset : Eval anyChip (PublicCall.run .oneTurn .swReset) (Driver.boot 1000 1000) []
    failedReset.1 failedReset.2.1 failedReset.2.2 := by
  unfold failedReset
  exact eval_exec (fun _ _ _ => ⟨trivial, rfl⟩) _ _ _

lemma failedReset_result : failedReset.1 = some sockerrIo := by
  unfold failedReset
  decide +kernel

/-- The tasks before their first call. -/
def resting : Tasks (Fin 2) PublicCall Lock Driver Unit Io Io.Res ℤ :=
  ⟨fun _ => none, fun _ => none, Driver.boot 1000 1000, ()⟩

def afterGlobalLock : Drv ℤ :=
  match PublicCall.run .oneTurn .swReset with
  | .call .globalLock k => k ()
  | p => p

/-- Two resets of the chip, the first with the global lock. -/
def contended : Tasks (Fin 2) PublicCall Lock Driver Unit Io Io.Res ℤ :=
  let started := ((resting.goesOn 0 (some (.swReset, PublicCall.run .oneTurn .swReset))).goesOn 1
    (some (.swReset, PublicCall.run .oneTurn .swReset)))
  (started.goesOn 0 (some (.swReset, afterGlobalLock))).own .global (some 0)

/-- A chip of which nothing is kept. -/
def anyAnswer : Env Driver Unit Io Io.Res := fun _ _ _ _ _ => True

lemma reached_contended :
    Reached anyAnswer Io.lockAct (PublicCall.run .oneTurn) resting contended := by
  refine .step (i := 0) (.step (.step .start (.start (i := 0) .swReset rfl)) (.start (i := 1) .swReset rfl)) ?_
  exact .acquire (c := PublicCall.swReset) (e := .globalLock) (k := fun _ => afterGlobalLock)
    (l := Lock.global) () rfl rfl rfl

theorem locks_disciplined_contended :
    (LocksInOrder Io.lockAct failedReset.2.2.calls ∧ heldAfter Io.lockAct failedReset.2.2.calls = ∅) ∧
    contended.Waits Io.lockAct 1 .global ∧ contended.owner .global = some 0 ∧
    ¬ contended.Deadlocked Io.lockAct {0, 1} := by
  have disciplined := locks_disciplined .oneTurn
  obtain ⟨inOrder, returned⟩ := disciplined.1 .swReset _ _ _ _ eval_failedReset
  refine ⟨⟨inOrder, returned ?_⟩, ⟨.swReset, .globalLock, fun _ => afterGlobalLock, rfl, rfl⟩, rfl, ?_⟩
  · rw [failedReset_result]
    simp
  · exact disciplined.2 _ _ anyAnswer resting contended ⟨fun _ => rfl, fun _ => rfl⟩
      reached_contended {0, 1}

end tasks

end IoLibrary.LockDiscipline
