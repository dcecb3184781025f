import IoLibrary.Control
import IoLibrary.Effects.Exec
import IoLibrary.LifecycleRules

/-! The operation timeout against the time the chip itself may take: the retransmissions that
RTR and RCR allow, which configuration calls and resets of the chip both change. -/
namespace IoLibrary.TimeoutFloor
open Effects

/-- RTR and RCR in the chip. -/
structure RetryRegs where
  rtr : BitVec 16
  rcr : Byte

/-- Their values after a reset. -/
def RetryRegs.reset : RetryRegs := ⟨2000, 8⟩

/-- The floor for these values. -/
def RetryRegs.window (s : RetryRegs) : ℕ := retryWindowUs s.rtr.toNat s.rcr.toNat

def RetryRegs.written (s : RetryRegs) (a : Addr) (v : Byte) : RetryRegs :=
  if a = Reg.mr ∧ v &&& mrRST ≠ 0 then .reset
  else if a = Reg.rcr then { s with rcr := v }
  else s

def RetryRegs.writtenBuf (s : RetryRegs) (a : Addr) (data : List Byte) : RetryRegs :=
  if a = Reg.rtr ∧ data.length = 2 then
    { s with rtr := BitVec.ofNat 16 (word16 (byteAt data 0) (byteAt data 1)) }
  else s

/-- A failed read answers anything, a failed write may or may not have taken effect. -/
def chip (mayFail : Driver → Io → Prop) : Env Driver RetryRegs Io Io.Res := fun m s e x s' =>
  match e, x with
  | .read8 a, x => s' = s ∧ (x.2 → mayFail m (.read8 a)) ∧ (x.2 = false → a = Reg.rcr → x.1 = s.rcr)
  | .readBuf a len, x => s' = s ∧ (x.2 → mayFail m (.readBuf a len)) ∧
      (x.2 = false → a = Reg.rtr → len = 2 → x.1.toList = bytes16 s.rtr.toNat)
  | .write8 a v, x => (x → mayFail m (.write8 a v)) ∧ (s' = s.written a v ∨ x ∧ s' = s)
  | .writeBuf a data, x =>
      (x → mayFail m (.writeBuf a data)) ∧ (s' = s.writtenBuf a data ∨ x ∧ s' = s)
  | _, _ => s' = s

/-- The transfers of RTR, RCR and MR. -/
def TimeoutIo : Io → Prop
  | .read8 a => a = Reg.rcr
  | .readBuf a _ | .writeBuf a _ => a = Reg.rtr
  | .write8 a _ => a = Reg.rcr ∨ a = Reg.mr
  | _ => False

/-- Of these transfers none fails unless the build looks at its status. -/
abbrev noticing (b : Build) : Env Driver RetryRegs Io Io.Res :=
  chip fun m e => TimeoutIo e → Noticed b m e

inductive Call
  | setTimeoutConfig (config : Option TimeoutConfig)
  | setOperationTimeoutUs (timeoutUs : ℕ)
  | settimeout (nettime : NetTimeout)
  | cnSetTimeout (arg : NetTimeout)
  | swReset
  | init (txsize rxsize : Option (ℕ → ℕ))

def Call.run (b : Build) : Call → Drv ℤ
  | .setTimeoutConfig config => wizchipSetTimeoutConfig b config
  | .setOperationTimeoutUs timeoutUs => wizchipSetOperationTimeoutUs b timeoutUs
  | .settimeout nettime => do
    wizchipSettimeout b nettime
    return 0
  | .cnSetTimeout arg => do
    let r ← ctlnetwork b (.setTimeout arg)
    return r.1
  | .swReset => wizchipSwReset b
  | .init txsize rxsize => wizchipInit b txsize rxsize

/-- The operation timeout that the call asks for, unless it is refused. -/
def Call.request : Call → Option ℕ
  | .setTimeoutConfig (some c) =>
    if c.commandTimeoutUs = 0 ∨ c.operationTimeoutUs = 0 ∨ c.phyTimeoutUs = 0 then none
    else some c.operationTimeoutUs
  | .setOperationTimeoutUs timeoutUs => if timeoutUs = 0 then none else some timeoutUs
  | _ => none

/-- The last timeout asked for by a sequence of calls, or the one before it. -/
def lastRequest (before : ℕ) (steps : List (Step Call Driver RetryRegs ℤ)) : ℕ :=
  steps.foldl (fun last t => t.call.request.getD last) before

/-- A reset or an init that is not refused finds a timeout that covers the reset values. -/
def Call.Safe (m : Driver) : Call → Prop
  | .swReset => RetryRegs.reset.window ≤ m.operationTimeoutUs
  | .init txsize rxsize => txsize.all sizesValid → rxsize.all sizesValid →
      RetryRegs.reset.window ≤ m.operationTimeoutUs
  | _ => True

/-- The timeout is at least what was asked for, and covers the chip when that is ready. -/
structure Covered (m : Driver) (s : RetryRegs) : Prop where
  requested : m.requestedOperationTimeoutUs ≤ m.operationTimeoutUs
  window : m.chipState = .ready → s.window ≤ m.operationTimeoutUs

section registers
variable {mayFail : Driver → Io → Prop} {m : Driver} {s s' : RetryRegs}

/-- Frames that leave RTR and RCR alone. -/
def Leaves : Io → Prop
  | .write8 a _ => a ≠ Reg.rcr ∧ a ≠ Reg.mr
  | .writeBuf a _ => a ≠ Reg.rtr
  | _ => True

lemma chip_leaves {e : Io} {x : e.Res} (he : Leaves e) (hx : chip mayFail m s e x s') : s' = s := by
  cases e with
  | read8 a => exact hx.1
  | readBuf a len => exact hx.1
  | write8 a v =>
    have hsame : s.written a v = s := by simp [RetryRegs.written, he.1, he.2]
    rcases hx.2 with h | h
    · rw [h, hsame]
    · exact h.2
  | writeBuf a data =>
    have hsame : s.writtenBuf a data = s := if_neg fun h => he h.1
    rcases hx.2 with h | h
    · rw [h, hsame]
    · exact h.2
  | _ => exact hx

/-- An update that leaves the two timeouts alone and makes the chip at most faulted. -/
def KeepsTimeouts (f : Driver → Driver) : Prop := ∀ m,
  (f m).operationTimeoutUs = m.operationTimeoutUs ∧
  (f m).requestedOperationTimeoutUs = m.requestedOperationTimeoutUs ∧
  ((f m).chipState = m.chipState ∨ (f m).chipState = .faulted)

lemma keeps_noise {f : Driver → Driver} (hf : Noise f) : KeepsTimeouts f := fun m =>
  ⟨congrArg Globals.operationTimeoutUs (hf m).1,
    congrArg Globals.requestedOperationTimeoutUs (hf m).1, (hf m).2⟩

lemma keeps_setMax (d : Dir) (sn v : ℕ) : KeepsTimeouts fun m => m.setMax d sn v := by
  intro m
  cases d with
  | tx => exact ⟨rfl, rfl, .inl rfl⟩
  | rx => exact ⟨rfl, rfl, .inl rfl⟩

/-- Within a transaction that began in `m₀`. -/
structure Began (m₀ m : Driver) : Prop where
  state : m.chipState ≠ .ready
  timeout : m.operationTimeoutUs = m₀.operationTimeoutUs
  requested : m.requestedOperationTimeoutUs = m₀.requestedOperationTimeoutUs

lemma Began.update {m₀ : Driver} (h : Began m₀ m) {f : Driver → Driver} (hf : KeepsTimeouts f) :
    Began m₀ (f m) := by
  obtain ⟨htimeout, hrequested, hstate⟩ := hf m
  refine ⟨?_, htimeout.trans h.timeout, hrequested.trans h.requested⟩
  rcases hstate with hsame | hfaulted
  · rw [hsame]
    exact h.state
  · rw [hfaulted]
    decide

/-- What a transaction does apart from the reset bit. -/
lemma wp_keeps {α : Type} {p : Drv α} {m₀ : Driver} (P : RetryRegs → Prop)
    (hp : Within KeepsTimeouts Leaves p) (h : Began m₀ m ∧ P s) :
    wp (chip mayFail) p (fun _ m s => Began m₀ m ∧ P s) (fun _ _ => True) m s := by
  refine wp_mono (wp_of_within hp (fun m s => Began m₀ m ∧ P s) ?_ ?_ h) (fun _ _ _ => id)
    fun _ _ _ => trivial
  · exact fun f hf m s hI => ⟨hI.1.update hf, hI.2⟩
  · intro e he m s x s₁ hI hx
    rw [chip_leaves he hx]
    exact hI

end registers

section transaction
variable {b : Build} {m m₀ : Driver} {s : RetryRegs}

/-- A reset that returns 0 has left the reset values in the chip. -/
lemma wp_wizchipSwResetLocked (h : Began m₀ m) :
    wp (noticing b) (wizchipSwResetLocked b)
      (Outcome (fun m s => Began m₀ m ∧ s = .reset) fun m _ => Began m₀ m)
      (fun _ _ => True) m s := by
  have noise : ∀ f, Noise f → KeepsTimeouts f := fun _ => keeps_noise
  have kept {α : Type} {p : Drv α} {Q : α → Prop} [DecidablePred Q] {m : Driver} {s : RetryRegs}
      (hp : Within KeepsTimeouts Leaves p) (h : Began m₀ m ∧ s = .reset) :
      wp (noticing b) p (fun r m s => (Q r → Began m₀ m ∧ s = .reset) ∧ (¬ Q r → Began m₀ m))
        (fun _ _ => True) m s :=
    wp_mono (wp_keeps (· = .reset) hp h) (fun _ _ _ h => ⟨fun _ => h, fun _ => h.1⟩) fun _ _ => id
  let K₀ : Driver → RetryRegs → Prop := fun m _ => Began m₀ m
  let K₁ : Driver → RetryRegs → Prop := fun m s => Began m₀ m ∧ s = .reset
  refine wp_wizchipSwResetLocked_outcome K₀ K₁ ?_ ?_ ?_ ?_ ?_ ?_ h
  · exact fun m _ h => ⟨h.state, h.timeout, h.requested⟩
  · intro a len m s _ h
    have body : Within KeepsTimeouts Leaves (wizchipReadBufChecked b a len) :=
      within_wizchipReadBufChecked noise b trivial
    exact wp_mono (wp_keeps (fun _ => True) body ⟨h, trivial⟩) (fun _ _ _ h => outcome_same h.1)
      fun _ _ => id
  · intro m s h
    refine wp_wizchipWrite8Checked b _ _ fun x s₁ hx => ⟨fun hok => ⟨fun _ => ?_, ?_⟩, fun _ _ => ?_⟩
    · have hclean : ¬ x = true := fun hf => hok ⟨hf, hx.1 hf (.inr rfl)⟩
      refine ⟨⟨h.state, h.timeout, h.requested⟩, ?_⟩
      exact hx.2.resolve_right fun hf => hclean hf.1
    · exact fun hne => absurd rfl hne
    · refine ⟨fun h0 => absurd h0 (by decide), fun _ => ?_⟩
      exact ⟨by simp [Driver.spiFaulted], h.timeout, h.requested⟩
  · intro m s h
    have body : Within KeepsTimeouts Leaves (wizchipRead8CheckedOut b Reg.mr) :=
      within_wizchipRead8CheckedOut noise b trivial
    exact kept body h
  · intro a data m s ha h
    have hne : a ≠ Reg.rtr := by
      rintro rfl
      revert ha
      decide
    have body : Within KeepsTimeouts Leaves (wizchipWriteBufChecked b a data) :=
      within_wizchipWriteBufChecked noise b hne
    exact kept body h
  · intro m s h
    exact kept (within_versionWait noise b trivial) h

lemma leaves_locks {e : Io} (he : Locks e) : Leaves e := by
  cases e <;> first | exact he.elim | exact trivial

lemma sizeReg_leaves (d : Dir) (sn : ℕ) (v : Byte) : Leaves (.write8 (d.sizeReg sn) v) := by
  cases d <;> exact ⟨nofun, nofun⟩

lemma wp_wizchipTransactionBegin (m : Driver) (s : RetryRegs) :
    wp (noticing b) wizchipTransactionBegin (fun _ m' _ => Began m m') (fun _ _ => True) m s := by
  refine (wp_bind _ _).2 (wp_mono (wp_of_within within_wizchipTransactionLock (fun m' _ => m' = m)
    (fun _ hf => hf.elim) (fun _ _ _ _ _ _ h _ => h) rfl) ?_ fun _ _ _ => trivial)
  rintro _ _ _ rfl
  simp only [wp_bind, wp_modify]
  exact ⟨by simp [Driver.socketsReset], rfl, rfl⟩

/-- What a transaction leaves, when the timeout it began with covers the reset values. -/
lemma wp_wizchipTransactionFinish {r : ℤ} (h : Began m₀ m) (hreset : r = 0 → s = .reset)
    (requested : m₀.requestedOperationTimeoutUs ≤ m₀.operationTimeoutUs) (safe : RetryRegs.reset.window ≤ m₀.operationTimeoutUs) :
    wp (noticing b) (wizchipTransactionFinish r)
      (fun _ m s => Covered m s ∧ m.requestedOperationTimeoutUs = m₀.requestedOperationTimeoutUs)
      (fun _ _ => True) m s := by
  refine (wp_bind _ _).2 (wp_mono (wp_of_within within_wizchipTransactionUnlock
    (fun m' s' => m' = m ∧ s' = s) (fun _ hf => hf.elim) ?_ ⟨rfl, rfl⟩) ?_ fun _ _ _ => trivial)
  · rintro e he m' s' x s₁ ⟨rfl, rfl⟩ hx
    exact ⟨rfl, chip_leaves (leaves_locks he) hx⟩
  · rintro _ _ _ ⟨rfl, rfl⟩
    simp only [wp_bind, wp_modify, wp_pure, Driver.transactionFinished]
    split
    · next hr =>
      refine ⟨⟨?_, fun _ => ?_⟩, h.requested⟩
      · simpa [h.timeout, h.requested] using requested
      · simpa [hreset hr, h.timeout] using safe
    · refine ⟨⟨?_, by rintro ⟨⟩⟩, h.requested⟩
      simpa [h.timeout, h.requested] using requested

lemma wp_wizchipSwReset (covered : Covered m s)
    (safe : RetryRegs.reset.window ≤ m.operationTimeoutUs) :
    wp (noticing b) (wizchipSwReset b)
      (fun _ m' s => Covered m' s ∧ m'.requestedOperationTimeoutUs = m.requestedOperationTimeoutUs)
      (fun _ _ => True) m s := by
  refine (wp_bind _ _).2 (wp_mono (wp_wizchipTransactionBegin m s) ?_ fun _ _ => id)
  refine fun _ m₁ s h => (wp_bind _ _).2 (wp_mono (wp_wizchipSwResetLocked h) ?_ fun _ _ => id)
  intro r m₁ s h
  by_cases hr : r = 0
  · rw [if_neg (not_not.2 hr)]
    have refresh : Within KeepsTimeouts Leaves (wizchipRefreshSocketCaches b) :=
      within_wizchipRefreshSocketCaches (fun _ => keeps_noise) b keeps_setMax fun _ _ => trivial
    refine (wp_bind _ _).2 (wp_mono (wp_keeps (· = .reset) refresh (h.1 hr)) ?_ fun _ _ => id)
    exact fun r m₁ s h => wp_wizchipTransactionFinish h.1 (fun _ => h.2) covered.requested safe
  · rw [if_pos hr]
    exact wp_wizchipTransactionFinish (h.2 hr) (fun h0 => absurd h0 hr) covered.requested safe

/-- After the reset an init writes no register of the timeouts. -/
lemma wp_initLocked {txsize rxsize : Option (ℕ → ℕ)} (h : Began m₀ m) :
    wp (noticing b) (initLocked b txsize rxsize)
      (fun r m s => Began m₀ m ∧ (r = 0 → s = .reset)) (fun _ _ => True) m s := by
  have sizes (d : Dir) (size : Option (ℕ → ℕ)) : Within KeepsTimeouts Leaves (writeSizes b d size) :=
    within_writeSizes (fun _ => keeps_noise) b keeps_setMax d size fun _ _ => sizeReg_leaves _ _ _
  refine (wp_bind _ _).2 (wp_mono (wp_wizchipSwResetLocked h) ?_ fun _ _ => id)
  intro r m s h
  refine (wp_ite _ _ _).2 ⟨fun hr => ⟨h.2 hr, fun h0 => absurd h0 hr⟩, fun hr => ?_⟩
  refine (wp_bind _ _).2 (wp_mono (wp_keeps (· = .reset) (sizes .tx txsize) (h.1 (not_not.1 hr)))
    ?_ fun _ _ => id)
  rintro (_ | r) m s h
  · refine (wp_bind _ _).2 (wp_mono (wp_keeps (· = .reset) (sizes .rx rxsize) h) ?_ fun _ _ => id)
    rintro (_ | r) m s h
    · have verify : Within KeepsTimeouts Leaves (initVerify b) :=
        within_initVerify (fun _ => keeps_noise) b fun _ _ => trivial
      exact wp_mono (wp_keeps (· = .reset) verify h) (fun _ _ _ h => ⟨h.1, fun _ => h.2⟩) fun _ _ => id
    · exact ⟨h.1, fun _ => h.2⟩
  · exact ⟨h.1, fun _ => h.2⟩

lemma wp_wizchipInit {txsize rxsize : Option (ℕ → ℕ)} (covered : Covered m s)
    (safe : txsize.all sizesValid → rxsize.all sizesValid →
      RetryRegs.reset.window ≤ m.operationTimeoutUs) :
    wp (noticing b) (wizchipInit b txsize rxsize)
      (fun _ m' s => Covered m' s ∧ m'.requestedOperationTimeoutUs = m.requestedOperationTimeoutUs)
      (fun _ _ => True) m s := by
  refine (wp_ite _ _ _).2 ⟨fun _ => ⟨covered, rfl⟩, fun htx => ?_⟩
  refine (wp_ite _ _ _).2 ⟨fun _ => ⟨covered, rfl⟩, fun hrx => ?_⟩
  refine (wp_bind _ _).2 (wp_mono (wp_wizchipTransactionBegin m s) ?_ fun _ _ => id)
  refine fun _ m₁ s h => (wp_bind _ _).2 (wp_mono (wp_initLocked h) ?_ fun _ _ => id)
  intro r m₁ s h
  exact wp_wizchipTransactionFinish h.1 h.2 covered.requested
    (safe (not_not.1 htx) (not_not.1 hrx))

end transaction

section setters
variable {b : Build} {m : Driver} {s : RetryRegs}

/-- After a transfer the globals are what they were in `m`, and a chip that is still ready was
ready before, with the fact `P` about what the transfer did. -/
structure After (m : Driver) (P : Prop) (m' : Driver) : Prop where
  globals : m'.toGlobals = m.toGlobals
  ready : m'.chipState = .ready → m.chipState = .ready ∧ P

lemma after_faulted {m m' : Driver} {P : Prop} (h : m'.toGlobals = m.toGlobals) :
    After m P m'.spiFaulted := ⟨h, fun hready => absurd hready (by simp [Driver.spiFaulted])⟩

lemma wp_getRTR :
    wp (noticing b) (getRTR b) (fun v m' s' => s' = s ∧ After m (v = s.rtr.toNat) m')
      (fun _ _ => True) m s := by
  refine wp_wizchipRead16Value b Reg.rtr fun x s' hx => ?_
  obtain ⟨rfl, hnoticed, hread⟩ := hx
  refine ⟨fun hok healthy => ⟨rfl, rfl, fun hready => ⟨hready, ?_⟩⟩, ?_⟩
  · have hclean : x.2 = false := Bool.eq_false_iff.2 fun hf => hok ⟨hf, hnoticed hf rfl⟩
    exact word16_of_toList (hread hclean rfl rfl) s'.rtr.isLt
  · exact fun _ _ => ⟨rfl, after_faulted rfl⟩

lemma wp_getRCR :
    wp (noticing b) (getRCR b) (fun v m' s' => s' = s ∧ After m (v = s.rcr) m')
      (fun _ _ => True) m s := by
  refine (wp_bind _ _).2 (wp_wizchipRead8CheckedOut b Reg.rcr fun x s' hx => ?_)
  obtain ⟨rfl, hnoticed, hread⟩ := hx
  refine ⟨fun hok healthy => ⟨rfl, rfl, fun hready => ⟨hready, ?_⟩⟩, ?_⟩
  · have hclean : x.2 = false := Bool.eq_false_iff.2 fun hf => hok ⟨hf, hnoticed hf rfl⟩
    exact hread hclean rfl
  · exact fun _ _ => ⟨rfl, after_faulted rfl⟩

lemma wp_setRTR (v : BitVec 16) :
    wp (noticing b) (setRTR b v) (fun _ m' s' => After m (s' = { s with rtr := v }) m')
      (fun _ _ => True) m s := by
  have hwritten : s.writtenBuf Reg.rtr (bytes16 v.toNat) = { s with rtr := v } := by
    have hword : word16 (byteAt (bytes16 v.toNat) 0) (byteAt (bytes16 v.toNat) 1) = v.toNat :=
      word16_bytes16 v.isLt
    rw [RetryRegs.writtenBuf, if_pos ⟨rfl, rfl⟩, hword]
    simp
  refine (wp_bind _ _).2 (wp_wizchipWriteBufChecked b Reg.rtr (List.cons_ne_nil _ _) ?_)
  intro x s' hx
  refine ⟨fun hok => ⟨rfl, fun hready => ⟨hready, ?_⟩⟩, fun _ _ => ?_⟩
  · have hclean : ¬ x = true := fun hf => hok ⟨hf, hx.1 hf rfl⟩
    rw [← hwritten]
    exact hx.2.resolve_right fun hf => hclean hf.1
  · exact (after_faulted rfl : After m _ (m.health false).spiFaulted)

lemma wp_setRCR (v : Byte) :
    wp (noticing b) (setRCR b v) (fun _ m' s' => After m (s' = { s with rcr := v }) m')
      (fun _ _ => True) m s := by
  refine (wp_bind _ _).2 (wp_wizchipWrite8Checked b Reg.rcr v fun x s' hx => ?_)
  refine ⟨fun hok => ⟨rfl, fun hready => ⟨hready, ?_⟩⟩, fun _ _ => ?_⟩
  · have hclean : ¬ x = true := fun hf => hok ⟨hf, hx.1 hf (.inl rfl)⟩
    exact hx.2.resolve_right fun hf => hclean hf.1
  · exact (after_faulted rfl : After m _ (m.health false).spiFaulted)

/-- An update of the floor with the values in the chip covers it. -/
lemma covered_floor {rtr rcr : ℕ} (h : m.chipState = .ready → s.window = retryWindowUs rtr rcr) :
    Covered (m.timeoutFloorUpdated rtr rcr) s := by
  have hmax : (m.timeoutFloorUpdated rtr rcr).operationTimeoutUs =
      max m.requestedOperationTimeoutUs (retryWindowUs rtr rcr) := by
    simp only [Driver.timeoutFloorUpdated]
    split <;> omega
  refine ⟨?_, fun hready => ?_⟩
  · rw [hmax]
    exact Nat.le_max_left _ _
  · rw [hmax, h hready]
    exact Nat.le_max_right _ _

/-- Both setters of the configuration: read RTR and RCR, store the request, and update. -/
lemma wp_configured (store : Driver → Driver) (hstore : ∀ m, (store m).chipState = m.chipState) :
    wp (noticing b) (globalLocked do
        let rtr ← getRTR b
        let rcr ← getRCR b
        Prog.modify fun m => (store m).timeoutFloorUpdated rtr rcr.toNat
        return (0 : ℤ))
      (fun _ m' s' => Covered m' s' ∧ ∃ m₁ : Driver, m₁.toGlobals = m.toGlobals ∧
        m'.requestedOperationTimeoutUs = (store m₁).requestedOperationTimeoutUs)
      (fun _ _ => True) m s := by
  simp only [globalLocked, globalLock, globalUnlock, wp_bind, wp_perform, wp_modify, wp_pure]
  rintro - _ rfl
  refine wp_mono wp_getRTR ?_ fun _ _ => id
  rintro rtr m₁ _ ⟨rfl, hrtr⟩
  refine wp_mono wp_getRCR ?_ fun _ _ => id
  rintro rcr m₂ _ ⟨rfl, hrcr⟩ - _ rfl
  refine ⟨covered_floor fun hready => ?_, m₂, hrcr.globals.trans hrtr.globals, rfl⟩
  obtain ⟨hready, hval⟩ := hrcr.ready (hstore m₂ ▸ hready)
  rw [RetryRegs.window, hval, (hrtr.ready hready).2]

lemma wp_wizchipSetOperationTimeoutUs (timeoutUs : ℕ) (covered : Covered m s) :
    wp (noticing b) (wizchipSetOperationTimeoutUs b timeoutUs) (fun _ m' s' => Covered m' s' ∧
        m'.requestedOperationTimeoutUs =
          (if timeoutUs = 0 then none else some timeoutUs).getD m.requestedOperationTimeoutUs)
      (fun _ _ => True) m s := by
  refine (wp_ite _ _ _).2 ⟨fun h0 => ⟨covered, by simp [h0]⟩, fun h0 => ?_⟩
  refine wp_mono (wp_configured (fun m => { m with requestedOperationTimeoutUs := timeoutUs })
    fun _ => rfl) ?_ fun _ _ => id
  rintro _ m' s' ⟨hcovered, _, -, hrequested⟩
  exact ⟨hcovered, by simpa [h0] using hrequested⟩

lemma wp_wizchipSetTimeoutConfig (config : Option TimeoutConfig) (covered : Covered m s) :
    wp (noticing b) (wizchipSetTimeoutConfig b config) (fun _ m' s' => Covered m' s' ∧
        m'.requestedOperationTimeoutUs =
          (Call.setTimeoutConfig config).request.getD m.requestedOperationTimeoutUs)
      (fun _ _ => True) m s := by
  cases config with
  | none => exact ⟨covered, rfl⟩
  | some c =>
    refine (wp_ite _ _ _).2 ⟨fun h0 => ⟨covered, by simp [Call.request, h0]⟩, fun h0 => ?_⟩
    refine wp_mono (wp_configured (fun m => { m with
      commandTimeoutUs := c.commandTimeoutUs
      operationTimeoutUs := c.operationTimeoutUs
      phyTimeoutUs := c.phyTimeoutUs
      requestedOperationTimeoutUs := c.operationTimeoutUs }) fun _ => rfl) ?_ fun _ _ => id
    rintro _ m' s' ⟨hcovered, _, -, hrequested⟩
    exact ⟨hcovered, by simpa [Call.request, h0] using hrequested⟩

lemma wp_wizchipSettimeout (nettime : NetTimeout) :
    wp (noticing b) (wizchipSettimeout b nettime) (fun _ m' s' => Covered m' s' ∧
        m'.requestedOperationTimeoutUs = m.requestedOperationTimeoutUs) (fun _ _ => True) m s := by
  simp only [wizchipSettimeout, wizchipSettimeoutLocked, globalLocked, globalLock, globalUnlock,
    wp_bind, wp_perform, wp_modify, wp_pure]
  rintro - _ rfl
  refine wp_mono (wp_setRTR _) ?_ fun _ _ => id
  intro _ m₁ s₁ hrtr
  refine wp_mono (wp_setRCR _) ?_ fun _ _ => id
  rintro _ m₂ s₂ hrcr - _ rfl
  refine ⟨covered_floor fun hready => ?_, ?_⟩
  · obtain ⟨hready, rfl⟩ := hrcr.ready hready
    obtain ⟨-, rfl⟩ := hrtr.ready hready
    rfl
  · have hglobals : m₂.toGlobals = m.toGlobals := hrcr.globals.trans hrtr.globals
    change m₂.requestedOperationTimeoutUs = m.requestedOperationTimeoutUs
    rw [hglobals]

/-- The step rule. -/
lemma wp_call (c : Call) (covered : Covered m s) (safe : c.Safe m) :
    wp (noticing b) (c.run b) (fun _ m' s' => Covered m' s' ∧
        m'.requestedOperationTimeoutUs = c.request.getD m.requestedOperationTimeoutUs)
      (fun _ _ => True) m s := by
  cases c with
  | setTimeoutConfig config => exact wp_wizchipSetTimeoutConfig config covered
  | setOperationTimeoutUs timeoutUs => exact wp_wizchipSetOperationTimeoutUs timeoutUs covered
  | settimeout nettime =>
    exact (wp_bind _ _).2 (wp_mono (wp_wizchipSettimeout nettime) (fun _ _ _ => id) fun _ _ => id)
  | cnSetTimeout arg =>
    refine (wp_bind _ _).2 ((wp_bind _ _).2 ?_)
    exact wp_mono (wp_wizchipSettimeout arg) (fun _ _ _ => id) fun _ _ => id
  | swReset => exact wp_wizchipSwReset covered safe
  | init txsize rxsize => exact wp_wizchipInit covered safe

end setters

/-- In every sequence of configuration calls and resets, in which each reset finds a timeout that
covers the reset values and no transfer of RTR, RCR or MR fails unnoticed, the timeout of a ready
chip covers the values in the chip and the last request. -/
theorem timeout_covers {b : Build} {steps : List (Step Call Driver RetryRegs ℤ)} {m m' : Driver}
    {s s' : RetryRegs} (run : History (fun _ => noticing b) (Call.run b) steps m s m' s')
    (fresh : m.chipState ≠ .ready) (start : m.requestedOperationTimeoutUs ≤ m.operationTimeoutUs)
    (returned : ∀ t ∈ steps, t.result ≠ none) (safe : ∀ t ∈ steps, t.call.Safe t.pre.1)
    (ready : m'.chipState = .ready) :
    s'.window ≤ m'.operationTimeoutUs ∧
      lastRequest m.requestedOperationTimeoutUs steps ≤ m'.operationTimeoutUs := by
  have covered : Covered m s := ⟨start, fun hready => absurd hready fresh⟩
  have last : Covered m' s' ∧
      m'.requestedOperationTimeoutUs = lastRequest m.requestedOperationTimeoutUs steps := by
    clear fresh start ready
    induction run with
    | nil => exact ⟨covered, rfl⟩
    | @call c r steps m s m₁ s₁ m' s' first rest ih =>
      have hstep := wp_returns (wp_call c covered (safe _ List.mem_cons_self)) first
      have htail := ih (fun t ht => returned t (List.mem_cons_of_mem _ ht))
        (fun t ht => safe t (List.mem_cons_of_mem _ ht)) hstep.1
      refine ⟨htail.1, htail.2.trans ?_⟩
      rw [hstep.2]
      rfl
    | running last => exact absurd rfl (returned _ List.mem_cons_self)
  refine ⟨last.1.window ready, ?_⟩
  rw [← last.2]
  exact last.1.requested

/-- A chip that answers every frame. -/
def soundChip : Handler Driver RetryRegs Io Io.Res := fun _ s e =>
  match e with
  | .read8 a => ((if a = Reg.rcr then s.rcr else if a = Reg.versionr then 4 else 0, false), s)
  | .write8 a v => (false, s.written a v)
  | .readBuf a len =>
    ((frameBytes len (if a = Reg.rtr then bytes16 s.rtr.toNat else []), false), s)
  | .writeBuf a data => (false, s.writtenBuf a data)
  | .now => (0, s)
  | .wait | .phyLink _ | .sockLock _ | .sockUnlock _ | .globalLock | .globalUnlock => ((), s)

lemma soundChip_allowed (mayFail : Driver → Io → Prop) (m : Driver) (s : RetryRegs) (e : Io) :
    chip mayFail m s e (soundChip m s e).1 (soundChip m s e).2 := by
  cases e with
  | read8 a => exact ⟨rfl, nofun, fun _ ha => if_pos ha⟩
  | readBuf a len =>
    refine ⟨rfl, nofun, fun _ ha hlen => ?_⟩
    subst hlen
    simp [soundChip, ha]
  | write8 a v => exact ⟨nofun, .inl rfl⟩
  | writeBuf a data => exact ⟨nofun, .inl rfl⟩
  | _ => rfl

/-- The calls of an application that starts with the default configuration. -/
@[irreducible] def configured (calls : List Call) :
    List (Step Call Driver RetryRegs ℤ) × Driver × RetryRegs :=
  replay (fun _ => soundChip) (Call.run .oneTurn) calls (Driver.boot 10000 2000000) .reset

lemma history_configured (mayFail : Driver → Io → Prop) (calls : List Call) :
    History (fun _ => chip mayFail) (Call.run .oneTurn) (configured calls).1
      (Driver.boot 10000 2000000) .reset (configured calls).2.1 (configured calls).2.2 := by
  unfold configured
  exact history_replay (fun _ => soundChip_allowed mayFail) _ _ _ _

instance (m : Driver) (c : Call) : Decidable (c.Safe m) := by
  cases c <;> unfold Call.Safe <;> infer_instance

/-- A longer retransmission time raises the timeout over the request. -/
theorem timeout_covers_raised :
    (configured [.init none none, .setOperationTimeoutUs 3000000, .settimeout ⟨4, 10000⟩]).2.2.window ≤
      (configured [.init none none, .setOperationTimeoutUs 3000000,
        .settimeout ⟨4, 10000⟩]).2.1.operationTimeoutUs := by
  have each : (configured [.init none none, .setOperationTimeoutUs 3000000,
      .settimeout ⟨4, 10000⟩]).1.all (fun t => t.result.isSome ∧ t.call.Safe t.pre.1) = true := by
    unfold configured
    decide +kernel
  have ready : (configured [.init none none, .setOperationTimeoutUs 3000000,
      .settimeout ⟨4, 10000⟩]).2.1.chipState = .ready := by
    unfold configured
    decide +kernel
  have each := fun t ht => of_decide_eq_true (List.all_eq_true.1 each t ht)
  exact (timeout_covers (history_configured _ _) (by decide) (Nat.le_refl _)
    (fun t ht => Option.isSome_iff_ne_none.1 (each t ht).1) (fun t ht => (each t ht).2) ready).1

/-- A short timeout over short retransmissions, and a reset brings the long ones back. -/
theorem reset_outgrows :
    ¬ ∀ (steps : List (Step Call Driver RetryRegs ℤ)) (m' : Driver) (s' : RetryRegs),
      History (fun _ => chip fun _ _ => False) (Call.run .oneTurn) steps
        (Driver.boot 10000 2000000) .reset m' s' →
      (∀ t ∈ steps, t.result ≠ none) → m'.chipState = .ready →
      s'.window ≤ m'.operationTimeoutUs ∧ lastRequest 2000000 steps ≤ m'.operationTimeoutUs := by
  intro claim
  have each : (configured [.init none none, .settimeout ⟨1, 1⟩, .setOperationTimeoutUs 1,
      .swReset]).1.all (fun t => t.result.isSome) = true := by
    unfold configured
    decide +kernel
  have ready : (configured [.init none none, .settimeout ⟨1, 1⟩, .setOperationTimeoutUs 1,
      .swReset]).2.1.chipState = .ready := by
    unfold configured
    decide +kernel
  have short : ¬ (configured [.init none none, .settimeout ⟨1, 1⟩, .setOperationTimeoutUs 1,
      .swReset]).2.2.window ≤ (configured [.init none none, .settimeout ⟨1, 1⟩,
        .setOperationTimeoutUs 1, .swReset]).2.1.operationTimeoutUs := by
    unfold configured
    decide +kernel
  exact short (claim _ _ _ (history_configured _ _)
    (fun t ht => Option.isSome_iff_ne_none.1 (List.all_eq_true.1 each t ht)) ready).1

end IoLibrary.TimeoutFloor
