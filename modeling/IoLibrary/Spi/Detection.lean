import IoLibrary.Effects.Exec
import IoLibrary.Spi.Bus

/-! Transport errors: the status flag of the transport stays up from a failing transfer to
the next clear, and a checked call looks at it or does not. -/
namespace IoLibrary.Spi.Detection
open Effects

/-- The status flag of the transport, and how many transfers have failed so far. -/
structure Status where
  flag : Bool
  failures : ℕ

def Status.failed (s : Status) : Status := ⟨true, s.failures + 1⟩

/-- Any bus transfer may fail. A transport is only busy after a check when one has. -/
def stickyEnv : Env Driver Status BusIo BusIo.Res := fun _ s e x s' =>
  match e, x with
  | .writeByte _, _ | .writeBurst _, _ | .readByte, _ | .readBurst _, _ => s' = s ∨ s' = s.failed
  | .clear, _ => s' = { s with flag := false }
  | .checkBusy, busy => s' = s ∧ (busy = true → s.flag = true)
  | .checkError, error => s' = s ∧ error = s.flag
  | .enter, _ | .exit, _ | .select, _ | .deselect, _ => s' = s

/-- The checked calls; `false` and `none` are null pointers. -/
inductive Call
  | read8 (addr : BitVec 32) (out : Bool)
  | write8 (addr : BitVec 32) (data : Byte)
  | readBuf (addr : BitVec 32) (buf : Bool) (len : ℕ)
  | writeBuf (addr : BitVec 32) (len : ℕ) (buf : Option (Vector Byte len))

def Call.run (c : Config) : Call → Bus ℤ
  | .read8 addr out => do
    let r ← wizchipRead8CheckedOut c addr out
    return r.1
  | .write8 addr data => wizchipWrite8Checked c addr data
  | .readBuf addr buf len => do
    let r ← wizchipReadBufChecked c addr buf len
    return r.1
  | .writeBuf addr len buf => wizchipWriteBufChecked c addr len buf

def Call.reads : Call → Bool
  | .read8 _ _ | .readBuf _ _ _ => true
  | _ => false

/-- The call passes its argument checks. -/
def Call.transfers : Call → Bool
  | .read8 _ out => out
  | .write8 _ _ => true
  | .readBuf _ buf len => buf && len != 0
  | .writeBuf _ len buf => buf.isSome && len != 0

abbrev Run := Step Call Driver Status ℤ

/-- Some transfer of the call failed. -/
def Fails (s : Run) : Prop := s.pre.2.failures < s.post.2.failures

instance (s : Run) : Decidable (Fails s) := inferInstanceAs (Decidable (_ < _))

/-- The call returned SOCKERR_IO and left the chip FAULTED. -/
def Reports (s : Run) : Prop := s.result = some sockerrIo ∧ s.post.1.chipState = .faulted

instance (s : Run) : Decidable (Reports s) := inferInstanceAs (Decidable (_ ∧ _))

/-- The transport is known to be healthy after the steps: some read has succeeded since the
last write, or there was none and it was known before. -/
def known (healthy : Bool) (steps : List Run) : Bool :=
  steps.foldl (fun h s =>
    if s.call.transfers then if s.call.reads then h || !decide (Fails s) else false else h) healthy

/-- `s` fails after the steps `before`, and `r` is the next checked read. -/
structure Awaited (steps before : List Run) (s : Run) (between : List Run) (r : Run) : Prop where
  split : ∃ after, steps = before ++ s :: between ++ r :: after
  fails : Fails s
  reads : r.call.reads = true
  first : ∀ x ∈ between, x.call.reads = false

/-- The status after `s`, or after the read that follows, is looked at while it tells of a
failure: `s` is itself a read of a transport not known to be healthy, or the next one fails too. -/
def LookedAt (healthy : Bool) (before : List Run) (s : Run) (between : List Run) (r : Run) : Prop :=
  (s.call.reads = true ∧ known healthy before = false) ∨
    (Fails r ∧ known healthy (before ++ s :: between) = false)

/-- What one call does to the status it finds. -/
structure Spec (s : Run) : Prop where
  reported : Reports s ↔ s.call.reads = true ∧ Fails s ∧ s.pre.1.transportHealthy = false
  health : s.post.1.transportHealthy = known s.pre.1.transportHealthy [s]

section frames
variable {α β : Type}

/-- A program between the clear and the check of a call: it returns, leaves the memory alone,
and keeps what a failing transfer keeps. -/
structure Framed (p : Bus α) : Prop where
  wp : ∀ {m : Driver} {w : Status} {I : Status → Prop} {Q : α → Driver → Status → Prop}
    {H : Driver → Status → Prop}, (∀ w, I w → I w.failed) → I w → (∀ a w, I w → Q a m w) →
    wp stickyEnv p Q H m w

lemma framed_pure (a : α) : Framed (pure a : Bus α) := ⟨fun _ h hQ => hQ a _ h⟩

lemma Framed.bind {p : Bus α} {f : α → Bus β} (hp : Framed p) (hf : ∀ a, Framed (f a)) :
    Framed (p >>= f) :=
  ⟨fun keeps h hQ => (wp_bind _ _).2 (hp.wp keeps h fun a _ ha => (hf a).wp keeps ha hQ)⟩

/-- The bus callbacks between the clear and the check of one call. -/
def InFrame : BusIo → Prop
  | .writeByte _ | .writeBurst _ | .readByte | .readBurst _ | .select | .deselect => True
  | _ => False

lemma framed_bus (e : BusIo) (he : InFrame e) : Framed (bus e) := by
  refine ⟨fun {m w I Q H} keeps h hQ => (wp_perform e).2 fun x w' hx => hQ x w' ?_⟩
  cases e with
  | select | deselect =>
    obtain rfl : w' = w := hx
    exact h
  | writeByte v | writeBurst v | readByte | readBurst v =>
    rcases hx with rfl | rfl
    · exact h
    · exact keeps w h
  | _ => exact he.elim

lemma framed_writeData (c : Config) (data : List Byte) : Framed (writeData c data) := by
  have each : Framed (writeEach data) := by
    induction data with
    | nil => exact framed_pure ()
    | cons v data ih => exact (framed_bus (.writeByte v) trivial).bind fun _ => ih
  unfold writeData
  split
  · exact framed_bus (.writeBurst data) trivial
  · exact each

lemma framed_readData (c : Config) (len : ℕ) : Framed (readData c len) := by
  have each : Framed (readEach len) := by
    induction len with
    | zero => exact framed_pure []
    | succ n ih => exact (framed_bus .readByte trivial).bind fun _ => ih.bind fun _ => framed_pure _
  unfold readData
  split
  · exact (framed_bus (.readBurst len) trivial).bind fun _ => framed_pure _
  · exact each

lemma framed_selected {body : Bus α} (h : Framed body) : Framed (selected body) :=
  (framed_bus .select trivial).bind fun _ =>
    h.bind fun _ => (framed_bus .deselect trivial).bind fun _ => framed_pure _

lemma framed_readFrame (c : Config) (addr : BitVec 32) {data : Bus α} (h : Framed data) :
    Framed (readFrame c addr data) :=
  framed_selected ((framed_writeData c _).bind fun _ => h)

end frames

section calls
variable {α : Type} {H : Driver → Status → Prop} {m : Driver} {w : Status}

/-- `w` is a status after the clear of a call that began with `n` failures. -/
def Tracked (n : ℕ) (w : Status) : Prop := n ≤ w.failures ∧ (w.flag = true ↔ n < w.failures)

lemma tracked_cleared (w : Status) : Tracked w.failures { w with flag := false } :=
  ⟨Nat.le_refl _, by simp⟩

lemma Tracked.failed {n : ℕ} (h : Tracked n w) : Tracked n w.failed := by
  obtain ⟨hle, -⟩ := h
  exact ⟨Nat.le_succ_of_le hle, by simpa [Status.failed] using Nat.lt_succ_of_le hle⟩

lemma wp_statusCheck {Q : Bool → Driver → Status → Prop} (h : Q w.flag m w) :
    wp stickyEnv statusCheck Q H m w := by
  simp only [statusCheck, wp_bind, wp_perform, wp_ite, wp_pure]
  rintro busy _ ⟨rfl, hbusy⟩
  refine ⟨fun hb => ?_, ?_⟩
  · rwa [hbusy hb] at h
  · rintro - error _ ⟨rfl, rfl⟩
    exact h

/-- A read is looked at when the transport is not known to be healthy. -/
lemma wp_readExit {Q : ℤ → Driver → Status → Prop} {c : Config} (hc : c.safeSpi = false)
    (healthy : m.transportHealthy = true → Q 0 m w)
    (passed : w.flag = false → Q 0 { m with transportHealthy := true } w)
    (caught : m.transportHealthy = false → w.flag = true →
      Q sockerrIo { m with chipState := .faulted, chipLastError := sockerrIo } w) :
    wp stickyEnv (readExit c) Q H m w := by
  simp only [readExit, hc, Bool.false_eq_true, if_false, wp_bind, wp_get, wp_ite]
  refine ⟨fun hm => ?_, fun hm => ?_⟩
  · simp only [uncheckedExit, wp_bind, wp_perform, wp_pure]
    rintro _ _ rfl
    exact healthy hm
  · refine (wp_bind _ _).2 (wp_statusCheck ?_)
    cases hflag : w.flag
    · simp only [Bool.false_eq_true, if_false, wp_bind, wp_modify, wp_perform, wp_pure]
      rintro _ _ rfl
      exact passed hflag
    · simp only [if_true, wp_bind, wp_perform, wizchipSpiFault, wp_modify, wp_pure]
      rintro _ _ rfl
      exact caught (by simpa using hm) hflag

/-- A checked read that passes its argument checks. -/
lemma wp_read {Q : ℤ × α → Driver → Status → Prop} {c : Config} (hc : c.safeSpi = false)
    {frame : Bus α} (hframe : Framed frame)
    (healthy : ∀ x w', m.transportHealthy = true → Tracked w.failures w' → Q (0, x) m w')
    (passed : ∀ x w', Tracked w.failures w' → w'.failures = w.failures →
      Q (0, x) { m with transportHealthy := true } w')
    (caught : ∀ x w', m.transportHealthy = false → w.failures < w'.failures →
      Q (sockerrIo, x) { m with chipState := .faulted, chipLastError := sockerrIo } w') :
    wp stickyEnv (do
      bus .enter
      bus .clear
      let x ← frame
      let r ← readExit c
      return (r, x)) Q H m w := by
  refine (wp_bind _ _).2 ((wp_perform _).2 ?_)
  rintro _ w rfl
  refine (wp_bind _ _).2 ((wp_perform _).2 ?_)
  rintro _ _ rfl
  refine (wp_bind _ _).2 (hframe.wp (I := Tracked w.failures) (fun _ => Tracked.failed)
    (tracked_cleared w) fun x w' hw' => (wp_bind _ _).2 (wp_readExit hc ?_ ?_ ?_))
  · exact fun hm => healthy x w' hm hw'
  · intro hflag
    have hfailed : ¬ w.failures < w'.failures := fun h => by simp [hw'.2.2 h] at hflag
    exact passed x w' hw' (Nat.le_antisymm (Nat.le_of_not_lt hfailed) hw'.1)
  · exact fun hm hflag => caught x w' hm (hw'.2.1 hflag)

/-- A checked write that passes its argument checks: its status is never looked at. -/
lemma wp_write {Q : ℤ → Driver → Status → Prop} {c : Config} (hc : c.safeSpi = false)
    {frame : Bus Unit} (hframe : Framed frame)
    (h : ∀ w', Q 0 { m with transportHealthy := false } w') :
    wp stickyEnv (do
      bus .enter
      Prog.modify fun m => { m with transportHealthy := false }
      bus .clear
      frame
      writeExit c) Q H m w := by
  simp only [wp_bind, wp_perform, wp_modify]
  rintro _ _ rfl _ _ rfl
  refine hframe.wp (I := fun _ => True) (fun _ => id) trivial fun _ w' _ => ?_
  simp only [writeExit, hc, Bool.false_eq_true, if_false, uncheckedExit, wp_bind, wp_perform,
    wp_pure]
  rintro _ _ rfl
  exact h _

end calls

section steps
variable {c : Config} {m : Driver} {w : Status}

/-- A read either passes or is caught, and says so only when it is looked at. -/
lemma spec_read (hc : c.safeSpi = false) {α : Type} {call : Call} {frame : Bus α}
    (hframe : Framed frame) (hreads : call.reads = true) (htransfers : call.transfers = true) :
    wp stickyEnv (do
      bus .enter
      bus .clear
      let x ← frame
      let r ← readExit c
      return (r, x)) (fun r m' w' => Spec ⟨call, (m, w), some r.1, (m', w')⟩)
      (fun _ _ => False) m w := by
  refine wp_read hc hframe ?_ ?_ ?_
  · intro x w' hm hw'
    constructor <;> simp [Reports, known, sockerrIo, hreads, htransfers, hm]
  · intro x w' hw' hsame
    constructor <;> simp [Reports, Fails, known, sockerrIo, hreads, htransfers, hsame]
  · intro x w' hm hfail
    constructor <;> simp [Reports, Fails, known, hreads, htransfers, hm, hfail]

lemma spec_write (hc : c.safeSpi = false) {call : Call} {frame : Bus Unit} (hframe : Framed frame)
    (hreads : call.reads = false) (htransfers : call.transfers = true) :
    wp stickyEnv (do
      bus .enter
      Prog.modify fun m => { m with transportHealthy := false }
      bus .clear
      frame
      writeExit c) (fun r m' w' => Spec ⟨call, (m, w), some r, (m', w')⟩)
      (fun _ _ => False) m w := by
  refine wp_write hc hframe fun w' => ?_
  constructor <;> simp [Reports, known, sockerrIo, hreads, htransfers]

/-- A call that stops at its argument checks makes no transfer and reports no failure. -/
lemma spec_refused {call : Call} {r : ℤ} (hr : r ≠ sockerrIo) (htransfers : call.transfers = false) :
    Spec ⟨call, (m, w), some r, (m, w)⟩ := by
  constructor <;> simp [Reports, Fails, known, hr, htransfers]

/-- The step rule: each call does what `Spec` says. -/
lemma spec_call (hc : c.safeSpi = false) (call : Call) :
    wp stickyEnv (call.run c) (fun r m' w' => Spec ⟨call, (m, w), some r, (m', w')⟩)
      (fun _ _ => False) m w := by
  cases call with
  | read8 addr out =>
    refine (wp_bind _ _).2 ?_
    unfold wizchipRead8CheckedOut
    cases out with
    | false => exact spec_refused (by decide) rfl
    | true => exact spec_read hc (framed_readFrame c addr (framed_bus .readByte trivial)) rfl rfl
  | write8 addr data => exact spec_write hc (framed_selected (framed_writeData c _)) rfl rfl
  | readBuf addr buf len =>
    refine (wp_bind _ _).2 ?_
    unfold wizchipReadBufChecked
    by_cases hlen : len = 0
    · simp only [hlen, if_true]
      exact spec_refused (by decide) (by simp [Call.transfers])
    · simp only [hlen, if_false]
      cases buf with
      | false => exact spec_refused (by decide) rfl
      | true =>
        refine spec_read hc (framed_readFrame c addr (framed_readData c len)) rfl ?_
        simpa [Call.transfers] using hlen
  | writeBuf addr len buf =>
    unfold Call.run wizchipWriteBufChecked
    by_cases hlen : len = 0
    · simp only [hlen, if_true]
      exact spec_refused (by decide) (by simp [Call.transfers, hlen])
    · simp only [hlen, if_false]
      cases buf with
      | none => exact spec_refused (by decide) rfl
      | some buf =>
        refine spec_write hc ?_ rfl (by simpa [Call.transfers] using hlen)
        exact framed_selected ((framed_writeData c _).bind fun _ => framed_writeData c _)

end steps

/-- The run rule: every call does what `Spec` says, and what is known of the transport is what
the calls before it have found. -/
lemma spec_run {c : Config} (hc : c.safeSpi = false) {steps : List Run} {m m' : Driver}
    {w w' : Status} (run : History (fun _ => stickyEnv) (Call.run c) steps m w m' w')
    {before after : List Run} {s : Run} (split : steps = before ++ s :: after) :
    Spec s ∧ s.pre.1.transportHealthy = known m.transportHealthy before := by
  have hall := (history_rule (fun _ _ _ _ => True)
    (fun past m₁ _ => m₁.transportHealthy = known m.transportHealthy past)
    (fun past s => Spec s ∧ s.pre.1.transportHealthy = known m.transportHealthy past)
    (fun past call m₁ w₁ _ hpast => ?_) run [] (fun _ _ _ _ => trivial) rfl).1 before s after split
  · simpa using hall
  · refine wp_mono (spec_call hc call) ?_ fun _ _ => False.elim
    intro r m₂ w₂ hspec
    refine ⟨⟨hspec, hpast⟩, ?_⟩
    have health := hspec.health
    rw [hpast] at health
    rw [health]
    simp [known]

/-- A failing transfer is reported, by its own call or by the next checked read, exactly when
one of the two is looked at while it tells of a failure. -/
theorem reported_iff_looked_at (readBurst writeBurst : Bool) {steps : List Run} {m m' : Driver}
    {w w' : Status}
    (run : History (fun _ => stickyEnv) (Call.run ⟨false, readBurst, writeBurst⟩) steps m w m' w') :
    ∀ before s between r, Awaited steps before s between r →
      (Reports s ∨ Reports r ↔ LookedAt m.transportHealthy before s between r) := by
  intro before s between r h
  obtain ⟨after, split⟩ := h.split
  have hs : Spec s ∧ s.pre.1.transportHealthy = known m.transportHealthy before :=
    spec_run rfl run (split.trans (by rw [List.append_assoc, List.cons_append]))
  have hr : Spec r ∧ r.pre.1.transportHealthy = known m.transportHealthy (before ++ s :: between) :=
    spec_run rfl run split
  have own : Reports s ↔ s.call.reads = true ∧ known m.transportHealthy before = false := by
    rw [hs.1.reported, hs.2]
    exact and_congr_right fun _ => and_iff_right h.fails
  have next : Reports r ↔ Fails r ∧ known m.transportHealthy (before ++ s :: between) = false := by
    rw [hr.1.reported, hr.2]
    exact and_iff_right h.reads
  exact or_congr own next

/-- A transport on which the transfers of one call fail, without burst callbacks. -/
def failing (fails : Bool) : Handler Driver Status BusIo BusIo.Res := fun _ w e =>
  match e with
  | .writeByte _ => ((), if fails then w.failed else w)
  | .writeBurst _ => ((), if fails then w.failed else w)
  | .readByte => (0, w)
  | .readBurst len => (Vector.replicate len 0, w)
  | .clear => ((), { w with flag := false })
  | .checkBusy => (false, w)
  | .checkError => (w.flag, w)
  | .enter => ((), w)
  | .exit => ((), w)
  | .select => ((), w)
  | .deselect => ((), w)

/-- Only writes fail. -/
def failingWrites (c : Call) : Handler Driver Status BusIo BusIo.Res := failing (!c.reads)

lemma failingWrites_allowed (c : Call) (m : Driver) (w : Status) (e : BusIo) :
    stickyEnv m w e (failingWrites c m w e).1 (failingWrites c m w e).2 := by
  cases e <;> cases hc : c.reads <;> simp [stickyEnv, failingWrites, failing, hc]

/-- A write of the socket interrupt mask fails, and a read of it follows. -/
@[irreducible] def lostWrite : List Run × Driver × Status :=
  replay failingWrites (Call.run ⟨false, false, false⟩)
    [.write8 0x00001800 0xFF, .read8 0x00001800 true] (Driver.boot 1 1) ⟨false, 0⟩

lemma lostWrite_history :
    History (fun _ => stickyEnv) (Call.run ⟨false, false, false⟩) lostWrite.1 (Driver.boot 1 1)
      ⟨false, 0⟩ lostWrite.2.1 lostWrite.2.2 := by
  unfold lostWrite
  exact history_replay failingWrites_allowed _ _ _ _

lemma lostWrite_awaited :
    ∃ s r, Awaited lostWrite.1 [] s [] r ∧ ¬ Reports s ∧ ¬ Reports r := by
  have facts : lostWrite.1.map (fun s => (decide (Fails s), s.call.reads, decide (Reports s))) =
      [(true, false, false), (false, true, false)] := by
    unfold lostWrite
    decide +kernel
  obtain ⟨s, rest, hsteps, hs, hrest⟩ := List.map_eq_cons_iff.1 facts
  obtain ⟨r, after, rfl, hr, -⟩ := List.map_eq_cons_iff.1 hrest
  simp only [Prod.mk.injEq, decide_eq_true_eq, decide_eq_false_iff_not] at hs hr
  have split : lostWrite.1 = [] ++ s :: [] ++ r :: after := by simpa using hsteps
  exact ⟨s, r, ⟨⟨after, split⟩, hs.1, hr.2.1, by simp⟩, hs.2.2, hr.2.2⟩

theorem reported_iff_looked_at_lost_write :
    ∃ s r, Awaited lostWrite.1 [] s [] r ∧
      (Reports s ∨ Reports r ↔ LookedAt (Driver.boot 1 1).transportHealthy [] s [] r) := by
  obtain ⟨s, r, h, -, -⟩ := lostWrite_awaited
  exact ⟨s, r, h, reported_iff_looked_at false false lostWrite_history [] s [] r h⟩

/-- The status of a failing write is cleared by the read that follows it. -/
theorem failed_write_forgotten :
    ¬ ∀ (readBurst writeBurst : Bool) (steps : List Run) (m m' : Driver) (w w' : Status),
      History (fun _ => stickyEnv) (Call.run ⟨false, readBurst, writeBurst⟩) steps m w m' w' →
      ∀ before s between r, Awaited steps before s between r → Reports s ∨ Reports r := by
  intro claim
  obtain ⟨s, r, h, hs, hr⟩ := lostWrite_awaited
  exact (claim false false _ _ _ _ _ lostWrite_history [] s [] r h).elim hs hr

end IoLibrary.Spi.Detection
