import IoLibrary.Control
import IoLibrary.Effects.Sampling

/-! The PHY reset against what PHYCFGR shows and what the clock says: the values that are left in
PHYCFGR by the functions that write it. -/
namespace IoLibrary.Phy
open Effects

section power
variable (b : Build)

def wizphyPowerdown : Drv ℤ := do
  setPHYCFGR b phycfgrOpmdcPdown
  setPHYCFGR b (phycfgrOpmdcPdown ||| phycfgrOpmd)
  return 0

def wizphyPowerup : Drv ℤ := do
  setPHYCFGR b phycfgrOpmdcAlla
  setPHYCFGR b (phycfgrOpmdcAlla ||| phycfgrOpmd)
  return 0

end power

inductive Entry
  | reset
  | setphyconf (phyconf : Option PhyConf)
  | setphypmode (pmode : Byte)
  | powerdown
  | powerup

def Entry.run (b : Build) : Entry → Drv ℤ
  | .reset => wizphyReset b
  | .setphyconf phyconf => wizphySetphyconf b phyconf
  | .setphypmode pmode => wizphySetphypmode b pmode
  | .powerdown => wizphyPowerdown b
  | .powerup => wizphyPowerup b

/-- How many values of PHYCFGR and samples of the clock have been used, and what PHYCFGR was written. -/
structure Log where
  reads : ℕ := 0
  samples : ℕ := 0
  written : List Byte := []

/-- The values that PHYCFGR shows, the samples of the clock, and the transfers that fail. -/
structure Outside where
  readback : ℕ → Byte
  clock : ℕ → ℕ
  fault : Log → Bool

def phy (o : Outside) : Handler Driver Log Io Io.Res := fun _ w e => match e with
  | .read8 a => ((o.readback w.reads, o.fault w), if a = Reg.phycfgr then { w with reads := w.reads + 1 } else w)
  | .write8 a v => (o.fault w, if a = Reg.phycfgr then { w with written := w.written ++ [v] } else w)
  | .readBuf _ len => ((.replicate len 0, false), w)
  | .writeBuf _ _ => (false, w)
  | .now => (o.clock w.samples, { w with samples := w.samples + 1 })
  | .wait | .phyLink _ | .sockLock _ | .sockUnlock _ | .globalLock | .globalUnlock => ((), w)

/-- The memory after some samples. -/
def ticked (m : Driver) (o : Outside) : ℕ → Driver
  | 0 => m
  | n + 1 => (ticked m o n).sampled (o.clock n)

/-- What wizchip_time_now returns at a sample. -/
def time (m : Driver) (o : Outside) (n : ℕ) : ℕ :=
  ((ticked m o (n + 1)).wrapBaseUs + (ticked m o (n + 1)).wrapLastRawUs) % 2 ^ 64

/-- `m'` has the configuration of `m` and its clock where the log says. -/
structure At (o : Outside) (m m' : Driver) (w : Log) : Prop where
  globals : m'.toGlobals = m.toGlobals
  base : m'.wrapBaseUs = (ticked m o w.samples).wrapBaseUs
  last : m'.wrapLastRawUs = (ticked m o w.samples).wrapLastRawUs

section steps
variable {b : Build} {o : Outside} {m m' : Driver} {w : Log}

lemma At.faulted (h : At o m m' w) : At o m { m' with chipState := .faulted, chipLastError := sockerrIo } w :=
  ⟨h.globals, h.base, h.last⟩

lemma exec_readStatus (fault : Bool) (h : At o m m' w) :
    ∃ r m₁, exec (phy o) (readStatus b fault) m' w = (some r, m₁, w) ∧ At o m m₁ w := by
  cases hs : b.safeSpi with
  | true =>
    rw [readStatus, if_pos hs]
    cases fault with
    | true => exact ⟨_, _, rfl, h.faulted⟩
    | false => exact ⟨_, _, rfl, h⟩
  | false =>
    have hunsafe : ¬ b.safeSpi = true := by simp [hs]
    rw [readStatus, if_neg hunsafe]
    by_cases hhealthy : m'.transportHealthy = true
    · exact ⟨0, m', congrArg (exec (phy o) · m' w) (if_pos hhealthy), h⟩
    · cases fault with
      | true =>
        exact ⟨sockerrIo, _, congrArg (exec (phy o) · m' w) (if_neg hhealthy), h.faulted⟩
      | false =>
        exact ⟨0, { m' with transportHealthy := true }, congrArg (exec (phy o) · m' w) (if_neg hhealthy),
          h.globals, h.base, h.last⟩

lemma exec_writeStatus (fault : Bool) (h : At o m m' w) :
    ∃ r m₁, exec (phy o) (writeStatus b fault) m' w = (some r, m₁, w) ∧ At o m m₁ w := by
  by_cases hfault : b.safeSpi ∧ fault
  · rw [writeStatus, if_pos hfault]
    exact ⟨_, _, rfl, h.faulted⟩
  · rw [writeStatus, if_neg hfault]
    exact ⟨_, _, rfl, h⟩

/-- A read of PHYCFGR takes the next value. -/
lemma exec_getPHYCFGR (h : At o m m' w) : ∃ m₁,
    exec (phy o) (getPHYCFGR b) m' w = (some (o.readback w.reads), m₁, { w with reads := w.reads + 1 }) ∧
      At o m m₁ { w with reads := w.reads + 1 } := by
  have hread : At o m m' { w with reads := w.reads + 1 } := ⟨h.globals, h.base, h.last⟩
  obtain ⟨r, m₁, hstatus, hm₁⟩ := exec_readStatus (b := b) (o.fault w) hread
  have hchecked : exec (phy o) (wizchipRead8CheckedOut b Reg.phycfgr) m' w =
      (some (r, o.readback w.reads), m₁, { w with reads := w.reads + 1 }) := exec_bind hstatus
  exact ⟨m₁, exec_bind hchecked, hm₁⟩

lemma exec_setPHYCFGR (v : Byte) (h : At o m m' w) : ∃ m₁,
    exec (phy o) (setPHYCFGR b v) m' w = (some (), m₁, { w with written := w.written ++ [v] }) ∧
      At o m m₁ { w with written := w.written ++ [v] } := by
  have hwrite : At o m { m' with transportHealthy := false } { w with written := w.written ++ [v] } :=
    ⟨h.globals, h.base, h.last⟩
  obtain ⟨r, m₁, hstatus, hm₁⟩ := exec_writeStatus (b := b) (o.fault w) hwrite
  have hchecked : exec (phy o) (wizchipWrite8Checked b Reg.phycfgr v) m' w =
      (some r, m₁, { w with written := w.written ++ [v] }) := hstatus
  exact ⟨m₁, exec_bind hchecked, hm₁⟩

lemma At.sampled (h : At o m m' w) :
    At o m (m'.sampled (o.clock w.samples)) { w with samples := w.samples + 1 } := by
  refine ⟨h.globals, ?_, ?_⟩
  · simp only [Driver.sampled, ticked, h.base, h.last]
  · simp only [Driver.sampled, ticked]

lemma exec_wizchipTimeNow (hactive : m.timeSourceActive = true) (h : At o m m' w) : ∃ m₁,
    exec (phy o) wizchipTimeNow m' w = (some (time m o w.samples), m₁, { w with samples := w.samples + 1 }) ∧
      At o m m₁ { w with samples := w.samples + 1 } := by
  have hactive' : m'.timeSourceActive = true := by rw [h.globals, hactive]
  refine ⟨m'.sampled (o.clock w.samples), ?_, h.sampled⟩
  refine (congrArg (exec (phy o) · m' w) (if_pos hactive')).trans ?_
  show (some (((m'.sampled (o.clock w.samples)).wrapBaseUs + (m'.sampled (o.clock w.samples)).wrapLastRawUs) % 2 ^ 64), _, _) = _
  rw [h.sampled.base, h.sampled.last]
  rfl

/-- An absolute deadline takes one sample, where there is a time source. -/
lemma exec_wizchipDeadlineAbs (timeout : ℕ) (h : At o m m' w) : ∃ m₁ d,
    exec (phy o) (wizchipDeadlineAbs timeout) m' w =
      (some d, m₁, { w with samples := w.samples + if m.timeSourceActive then 1 else 0 }) ∧
    At o m m₁ { w with samples := w.samples + if m.timeSourceActive then 1 else 0 } ∧
    (m.timeSourceActive = true → d = (time m o w.samples + timeout) % 2 ^ 64) := by
  have hglobals : m'.timeSourceActive = m.timeSourceActive := by rw [h.globals]
  by_cases hactive : m.timeSourceActive = true
  · obtain ⟨m₁, hnow, hm₁⟩ := exec_wizchipTimeNow hactive h
    rw [if_pos hactive]
    refine ⟨m₁, _, (congrArg (exec (phy o) · m' w) (if_pos (hglobals.trans hactive))).trans ?_, hm₁, fun _ => rfl⟩
    exact exec_bind hnow
  · rw [if_neg hactive]
    refine ⟨m'.pollsReset timeout, 0, congrArg (exec (phy o) · m' w) (if_neg ?_), ⟨h.globals, h.base, h.last⟩,
      fun h => absurd h hactive⟩
    rwa [hglobals]

lemma exec_wizchipDeadlineExpired (d : ℕ) (hactive : m.timeSourceActive = true) (h : At o m m' w) : ∃ m₁,
    exec (phy o) (wizchipDeadlineExpired d) m' w =
      (some (decide (d ≤ time m o w.samples)), m₁, { w with samples := w.samples + 1 }) ∧
      At o m m₁ { w with samples := w.samples + 1 } := by
  have hactive' : m'.timeSourceActive = true := by rw [h.globals, hactive]
  obtain ⟨m₁, hnow, hm₁⟩ := exec_wizchipTimeNow hactive h
  refine ⟨m₁, (congrArg (exec (phy o) · m' w) (if_pos hactive')).trans ?_, hm₁⟩
  exact exec_bind hnow

end steps

section waits
variable (m : Driver) (o : Outside)

/-- A wait callback of either kind. -/
def Hooked (g : Globals) : Prop := g.waitUs ∨ g.waitHook

def pollLimit (g : Globals) : ℕ :=
  if ¬ g.nowUs ∧ g.waitUs ∧ g.phyTimeoutUs < pollMax then g.phyTimeoutUs else pollMax

def Shows (expected : Byte) (n : ℕ) : Prop := o.readback n &&& wizphyResetMask = expected &&& wizphyResetMask

/-- The time at which a wait that opens at a sample is over. -/
def deadline (s timeout : ℕ) : ℕ := (time m o s + timeout) % 2 ^ 64

/-- The samples that a deadline takes. -/
def opening : ℕ := if m.timeSourceActive then 1 else 0

/-- Look `i` of a readback wait, at the samples from `s` on, is not the last one. -/
def More (s d i : ℕ) : Prop :=
  Hooked m.toGlobals ∧ i + 1 < pollLimit m.toGlobals ∧ (m.nowUs → time m o (s + i) < d)

/-- The clock is past the deadline at poll `i` of a hold. -/
def Past (s d i : ℕ) : Prop := d ≤ time m o (s + i)

/-- A readback wait that opens at sample `s` sees the value at its look `k`, the reads counted from `r`. -/
def Seen (expected : Byte) (r s k : ℕ) : Prop :=
  Searching (fun i => Shows o expected (r + i)) (More m o (s + opening m) (deadline m o s m.phyTimeoutUs)) k ∧
    Shows o expected (r + k)

/-- The reset hold that opens at sample `s` passes: the clock gets past it within the polls, or without
a clock there is a callback to wait. -/
def Held (s : ℕ) : Prop :=
  if m.nowUs then ∃ k, Searching (Past m o (s + 1) (deadline m o s wizphyResetHoldUs))
    (fun i => Hooked m.toGlobals ∧ i + 1 < pollMax) k ∧ Past m o (s + 1) (deadline m o s wizphyResetHoldUs) k
  else m.waitUs

/-- The reset of configuration `v` gets to the write that releases it. -/
def Released (v : Byte) : Prop :=
  ∃ k, Seen m o (v &&& ~~~wizphyRstBit) 1 0 k ∧ Held m o (opening m + if m.nowUs then k else 0)

variable {m o} {m' m₁ : Driver} {w w₁ : Log} {b : Build} {x : ℤ}

lemma active_of_clock (hclock : m.nowUs = true) : m.timeSourceActive = true := by
  simp [Globals.timeSourceActive, hclock]

/-- A turn of wizphy_wait_readback. -/
def readbackTurn (b : Build) (g : Globals) (expected : Byte) (d polls : ℕ) : Drv (Prog.Turn ℕ ℤ) := do
  let phycfgr ← getPHYCFGR b
  if phycfgr &&& wizphyResetMask = expected &&& wizphyResetMask then return .leave 0
  if ¬ (g.waitUs ∨ g.waitHook) then return .leave wizphyDeadlineError
  ask .wait
  if pollLimit g ≤ polls + 1 then return .leave wizphyDeadlineError
  if ¬ g.nowUs then return .again (polls + 1)
  let late ← wizchipDeadlineExpired d
  return if late then .leave wizphyDeadlineError else .again (polls + 1)

/-- The log of a wait for a value before look `i`. -/
structure Looking (m : Driver) (o : Outside) (r s : ℕ) (written : List Byte) (i : ℕ) (m' : Driver) (w : Log) : Prop where
  at_log : At o m m' w
  reads : w.reads = r + i
  samples : w.samples = s + if m.nowUs then i else 0
  written : w.written = written

/-- The log after a wait. -/
structure Waited (m : Driver) (o : Outside) (s : ℕ) (written : List Byte) (i : ℕ) (m' : Driver) (w : Log) : Prop where
  at_log : At o m m' w
  samples : w.samples = s + if m.nowUs then i else 0
  written : w.written = written

lemma turn_readback {r s d : ℕ} {expected : Byte} {written : List Byte} (i : ℕ) (m' : Driver) (w : Log)
    (h : Looking m o r s written i m' w) : ∃ t m₁ w₁,
      exec (phy o) (readbackTurn b m.toGlobals expected d i) m' w = (some t, m₁, w₁) ∧
        Sought (fun i => Shows o expected (r + i)) (More m o s d) 0 wizphyDeadlineError (Looking m o r s written)
          (Waited m o s written) (fun m' w => At o m m' w ∧ w.written = written) i t m₁ w₁ := by
  obtain ⟨hat, hreads, hsamples, hwritten⟩ := h
  obtain ⟨m₁, hread, hm₁⟩ := exec_getPHYCFGR (b := b) hat
  have hvalue : o.readback w.reads = o.readback (r + i) := congrArg o.readback hreads
  rw [readbackTurn, exec_bind hread, hvalue]
  by_cases hshown : o.readback (r + i) &&& wizphyResetMask = expected &&& wizphyResetMask
  · rw [if_pos hshown]
    exact ⟨_, m₁, _, rfl, .found hshown ⟨hm₁, hsamples, hwritten⟩⟩
  rw [if_neg hshown]
  by_cases hhooked : m.waitUs ∨ m.waitHook
  swap
  · rw [if_pos hhooked]
    exact ⟨_, m₁, _, rfl, .stopped hshown (fun h => hhooked h.1) ⟨hm₁, hwritten⟩⟩
  have hwait : exec (phy o) (ask .wait) m₁ { w with reads := w.reads + 1 } = (some (), m₁, { w with reads := w.reads + 1 }) := rfl
  rw [if_neg (not_not.2 hhooked), exec_bind hwait]
  by_cases hlast : pollLimit m.toGlobals ≤ i + 1
  · rw [if_pos hlast]
    exact ⟨_, m₁, _, rfl, .stopped hshown (fun h => absurd h.2.1 (Nat.not_lt.2 hlast)) ⟨hm₁, hwritten⟩⟩
  rw [if_neg hlast]
  by_cases hclock : m.nowUs
  swap
  · rw [if_pos hclock]
    rw [if_neg hclock] at hsamples
    have hmore : More m o s d i := ⟨hhooked, Nat.not_le.1 hlast, fun h => absurd h hclock⟩
    exact ⟨_, m₁, _, rfl, .again hshown hmore ⟨hm₁, congrArg (· + 1) hreads, by rwa [if_neg hclock], hwritten⟩⟩
  rw [if_pos hclock] at hsamples
  obtain ⟨m₂, hexpired, hm₂⟩ := exec_wizchipDeadlineExpired d (active_of_clock hclock) hm₁
  rw [if_neg (not_not.2 hclock), exec_bind hexpired]
  by_cases hlate : d ≤ time m o w.samples
  · rw [if_pos (decide_eq_true hlate)]
    refine ⟨_, m₂, _, rfl, .stopped hshown (fun h => ?_) ⟨hm₂, hwritten⟩⟩
    exact absurd (hsamples ▸ hlate) (Nat.not_le.2 (h.2.2 hclock))
  · rw [if_neg (by simpa using hlate)]
    have hmore : More m o s d i := ⟨hhooked, Nat.not_le.1 hlast, fun _ => Nat.not_le.1 (hsamples ▸ hlate)⟩
    refine ⟨_, m₂, _, rfl, .again hshown hmore ⟨hm₂, congrArg (· + 1) hreads, ?_, hwritten⟩⟩
    rw [if_pos hclock]
    exact congrArg (· + 1) hsamples

/-- A turn of wizphy_wait_until, with a time callback. -/
def holdTurn (d polls : ℕ) : Drv (Prog.Turn ℕ ℤ) := do
  let late ← wizchipDeadlineExpired d
  if late then return .leave 0
  let m ← Prog.get
  if ¬ (m.waitUs ∨ m.waitHook) then return .leave wizphyDeadlineError
  ask .wait
  if pollMax ≤ polls + 1 then return .leave wizphyDeadlineError
  return .again (polls + 1)

lemma turn_hold {s d : ℕ} {written : List Byte} (hclock : m.nowUs = true) (i : ℕ) (m' : Driver) (w : Log)
    (h : Waited m o s written i m' w) : ∃ t m₁ w₁,
      exec (phy o) (holdTurn d i) m' w = (some t, m₁, w₁) ∧
        Sought (Past m o s d) (fun i => Hooked m.toGlobals ∧ i + 1 < pollMax) 0 wizphyDeadlineError
          (Waited m o s written) (fun _ m' w => At o m m' w ∧ w.written = written)
          (fun m' w => At o m m' w ∧ w.written = written) i t m₁ w₁ := by
  obtain ⟨hat, hsamples, hwritten⟩ := h
  rw [if_pos hclock] at hsamples
  have hpast : Past m o s d i ↔ d ≤ time m o w.samples := by rw [Past, hsamples]
  obtain ⟨m₁, hexpired, hm₁⟩ := exec_wizchipDeadlineExpired d (active_of_clock hclock) hat
  rw [holdTurn, exec_bind hexpired]
  by_cases hlate : d ≤ time m o w.samples
  · rw [if_pos (decide_eq_true hlate)]
    exact ⟨_, m₁, _, rfl, .found (hpast.2 hlate) ⟨hm₁, hwritten⟩⟩
  have hearly : ¬ Past m o s d i := fun h => hlate (hpast.1 h)
  rw [if_neg (by simpa using hlate)]
  have hget : exec (phy o) Prog.get m₁ { w with samples := w.samples + 1 } =
      (some m₁, m₁, { w with samples := w.samples + 1 }) := rfl
  rw [exec_bind hget]
  by_cases hhooked : m₁.waitUs ∨ m₁.waitHook
  swap
  · rw [if_pos hhooked]
    rw [hm₁.globals] at hhooked
    exact ⟨_, m₁, _, rfl, .stopped hearly (fun h => hhooked h.1) ⟨hm₁, hwritten⟩⟩
  have hwait : exec (phy o) (ask .wait) m₁ { w with samples := w.samples + 1 } =
      (some (), m₁, { w with samples := w.samples + 1 }) := rfl
  rw [if_neg (not_not.2 hhooked), exec_bind hwait]
  rw [hm₁.globals] at hhooked
  by_cases hlast : pollMax ≤ i + 1
  · rw [if_pos hlast]
    exact ⟨_, m₁, _, rfl, .stopped hearly (fun h => absurd h.2 (Nat.not_lt.2 hlast)) ⟨hm₁, hwritten⟩⟩
  · rw [if_neg hlast]
    refine ⟨_, m₁, _, rfl, .again hearly ⟨hhooked, Nat.not_le.1 hlast⟩ ⟨hm₁, ?_, hwritten⟩⟩
    rw [if_pos hclock]
    exact congrArg (· + 1) hsamples

lemma wait_readback {expected : Byte} (hat : At o m m' w)
    (run : exec (phy o) (wizphyWaitReadback b expected) m' w = (some x, m₁, w₁)) :
    x = 0 ∧ (∃ k, Seen m o expected w.reads w.samples k ∧ Waited m o (w.samples + opening m) w.written k m₁ w₁) ∨
      x = wizphyDeadlineError ∧ (∀ k, ¬ Seen m o expected w.reads w.samples k) ∧ w₁.written = w.written := by
  obtain ⟨m₂, d, habs, hm₂, hd⟩ := exec_wizchipDeadlineAbs m.phyTimeoutUs hat
  have hloop : exec (phy o) (do
      let d ← wizchipDeadlineAbs m'.phyTimeoutUs
      Prog.loop (readbackTurn b m'.toGlobals expected d) b.turns 0) m' w = (some x, m₁, w₁) := run
  rw [hat.globals, exec_bind habs] at hloop
  have hmore : More m o (w.samples + opening m) d =
      More m o (w.samples + opening m) (deadline m o w.samples m.phyTimeoutUs) := by
    funext i
    refine congrArg (Hooked m.toGlobals ∧ i + 1 < pollLimit m.toGlobals ∧ ·) (forall_congr fun hclock => ?_)
    rw [hd (active_of_clock hclock)]
    rfl
  have hstart : Looking m o w.reads (w.samples + opening m) w.written 0 m₂
      { w with samples := w.samples + opening m } := ⟨hm₂, rfl, by simp, rfl⟩
  rcases search_ends turn_readback hstart (fun i hi => absurd hi (Nat.not_lt_zero i)) hloop with
    ⟨rfl, k, hk, hshown, hwaited⟩ | ⟨rfl, hnone, hlost⟩
  · exact .inl ⟨rfl, k, ⟨hmore ▸ hk, hshown⟩, hwaited⟩
  · exact .inr ⟨rfl, fun k hk => hnone k (hmore ▸ hk.1) hk.2, hlost.2⟩

lemma hold (hat : At o m m' w) (run : exec (phy o) (do
      let d ← wizchipDeadlineAbs wizphyResetHoldUs
      wizphyWaitUntil b d) m' w = (some x, m₁, w₁)) :
    x = 0 ∧ Held m o w.samples ∧ At o m m₁ w₁ ∧ w₁.written = w.written ∨
      x = wizphyDeadlineError ∧ ¬ Held m o w.samples ∧ w₁.written = w.written := by
  obtain ⟨m₂, d, habs, hm₂, hd⟩ := exec_wizchipDeadlineAbs wizphyResetHoldUs hat
  rw [exec_bind habs] at run
  have hrest : exec (phy o) (if ¬ m₂.toGlobals.nowUs then do
        if ¬ m₂.toGlobals.waitUs then return wizphyDeadlineError
        ask .wait
        return 0
      else Prog.loop (holdTurn d) b.turns 0) m₂ { w with samples := w.samples + opening m } = (some x, m₁, w₁) := run
  rw [hm₂.globals] at hrest
  by_cases hclock : m.nowUs
  · have hopening : opening m = 1 := if_pos (active_of_clock hclock)
    have hheld : Held m o w.samples ↔ ∃ k, Searching (Past m o (w.samples + 1) d)
        (fun i => Hooked m.toGlobals ∧ i + 1 < pollMax) k ∧ Past m o (w.samples + 1) d k := by
      rw [Held, if_pos hclock, hd (active_of_clock hclock)]
      rfl
    rw [if_neg (not_not.2 hclock), hopening] at hrest
    have hstart : Waited m o (w.samples + 1) w.written 0 m₂ { w with samples := w.samples + 1 } :=
      ⟨hopening ▸ hm₂, by simp, rfl⟩
    rcases search_ends (turn_hold hclock) hstart (fun i hi => absurd hi (Nat.not_lt_zero i)) hrest with
      ⟨rfl, k, hk, hpast, hend⟩ | ⟨rfl, hnone, hlost⟩
    · exact .inl ⟨rfl, hheld.2 ⟨k, hk, hpast⟩, hend⟩
    · exact .inr ⟨rfl, fun h => (hheld.1 h).elim fun k hk => hnone k hk.1 hk.2, hlost.2⟩
  · have hheld : Held m o w.samples ↔ m.waitUs = true := by rw [Held, if_neg hclock]
    rw [if_pos hclock] at hrest
    by_cases hwait : m.waitUs = true
    · rw [if_neg (not_not.2 hwait)] at hrest
      have hend : exec (phy o) (pure 0 : Drv ℤ) m₂ { w with samples := w.samples + opening m } = (some x, m₁, w₁) := hrest
      obtain ⟨rfl, rfl, rfl⟩ := exec_returned hend
      exact .inl ⟨rfl, hheld.2 hwait, hm₂, rfl⟩
    · rw [if_pos hwait] at hrest
      obtain ⟨rfl, rfl, rfl⟩ := exec_returned hrest
      exact .inr ⟨rfl, fun h => hwait (hheld.1 h), rfl⟩

/-- A reset writes PHYCFGR once, and a second time where it is released. -/
lemma reset_writes {v : Byte} (hat : At o m m' w) (hreads : w.reads = 1) (hsamples : w.samples = 0)
    (run : exec (phy o) (wizphyResetLocked b v) m' w = (some x, m₁, w₁)) :
    Released m o v ∧ w₁.written = w.written ++ [v &&& ~~~wizphyRstBit, v ||| wizphyRstBit] ∨
      ¬ Released m o v ∧ w₁.written = w.written ++ [v &&& ~~~wizphyRstBit] := by
  obtain ⟨m₂, hlow, hm₂⟩ := exec_setPHYCFGR (b := b) (v &&& ~~~wizphyRstBit) hat
  rw [wizphyResetLocked, exec_bind hlow] at run
  obtain ⟨r, m₃, w₃, hwait, run⟩ := exec_split run
  have hseen := wait_readback hm₂ hwait
  simp only [hreads, hsamples] at hseen
  rcases hseen with ⟨rfl, k, hk, hwaited⟩ | ⟨rfl, hnone, hwritten⟩
  swap
  · rw [if_pos (by decide)] at run
    obtain ⟨-, -, rfl⟩ := exec_returned run
    exact .inr ⟨fun ⟨k, hk, _⟩ => hnone k hk, hwritten⟩
  have hopened : w₃.samples = opening m + if m.nowUs then k else 0 := by rw [hwaited.samples, Nat.zero_add]
  have released : Held m o w₃.samples ↔ Released m o v := by
    rw [hopened]
    refine ⟨fun h => ⟨k, hk, h⟩, fun ⟨j, hj, h⟩ => ?_⟩
    rwa [hj.1.unique hk.1 hj.2 hk.2] at h
  rw [if_neg (by decide), ← bind_assoc] at run
  obtain ⟨r, m₄, w₄, hhold, run⟩ := exec_split run
  rcases hold hwaited.at_log hhold with ⟨rfl, hheld, hm₄, hwritten⟩ | ⟨rfl, hnot, hwritten⟩
  · obtain ⟨m₅, hhigh, hm₅⟩ := exec_setPHYCFGR (b := b) (v ||| wizphyRstBit) hm₄
    rw [if_neg (by decide), exec_bind hhigh] at run
    have hlast : w₁.written = w₄.written ++ [v ||| wizphyRstBit] := by
      rcases wait_readback hm₅ run with ⟨-, k, -, hwaited⟩ | ⟨-, -, hwritten⟩
      · exact hwaited.written
      · exact hwritten
    refine .inl ⟨released.1 hheld, ?_⟩
    rw [hlast, hwritten, hwaited.written, List.append_assoc]
    rfl
  · rw [if_pos (by decide)] at run
    obtain ⟨-, -, rfl⟩ := exec_returned run
    exact .inr ⟨fun h => hnot (released.2 h), hwritten.trans hwaited.written⟩

end waits

/-- What has been written to PHYCFGR leaves the PHY running: the last value has the reset released and,
outside the operation mode, the bits of `v₀`, and a value that asserts the reset is followed by the one
that releases it. -/
structure Runs (v₀ : Byte) (written : List Byte) : Prop where
  released : ∀ v, written.getLast? = some v → v &&& wizphyRstBit ≠ 0
  kept : ∀ v, written.getLast? = some v →
    v &&& ~~~(phycfgrOpmd ||| phycfgrOpmdcAlla) = v₀ &&& ~~~(phycfgrOpmd ||| phycfgrOpmdcAlla)
  paired : ∀ before v after, written = before ++ v :: after → v &&& wizphyRstBit = 0 →
    after.head? = some (v ||| wizphyRstBit)

section bits
variable {v v₀ : Byte}

lemma low_asserted : ∀ v : Byte, (v &&& ~~~wizphyRstBit) &&& wizphyRstBit = 0 := by decide

lemma high_of_low : ∀ v : Byte, v &&& ~~~wizphyRstBit ||| wizphyRstBit = v ||| wizphyRstBit := by decide

lemma high_eq : ∀ v : Byte, v &&& wizphyRstBit ≠ 0 → v ||| wizphyRstBit = v := by decide

lemma released_of_kept : ∀ v v₀ : Byte, v &&& ~~~(phycfgrOpmd ||| phycfgrOpmdcAlla) =
    v₀ &&& ~~~(phycfgrOpmd ||| phycfgrOpmdcAlla) → v &&& wizphyRstBit = v₀ &&& wizphyRstBit := by
  intro v v₀ h
  have hbit (u : Byte) : u &&& wizphyRstBit = u &&& ~~~(phycfgrOpmd ||| phycfgrOpmdcAlla) &&& wizphyRstBit := by
    rw [BitVec.and_assoc]
    rfl
  rw [hbit v, hbit v₀, h]

lemma runs_nil : Runs v₀ [] := ⟨nofun, nofun, fun _ _ _ h => absurd h (by simp)⟩

lemma Runs.cons {u : Byte} {written : List Byte} (hu : u &&& wizphyRstBit ≠ 0) (hne : written ≠ [])
    (h : Runs v₀ written) : Runs v₀ (u :: written) := by
  obtain ⟨w, ws, rfl⟩ := List.exists_cons_of_ne_nil hne
  refine ⟨fun v hv => h.released v ?_, fun v hv => h.kept v ?_, fun before v after heq hv => ?_⟩
  · rwa [List.getLast?_cons_cons] at hv
  · rwa [List.getLast?_cons_cons] at hv
  · cases before with
    | nil =>
      obtain ⟨rfl, -⟩ := List.cons.inj heq
      exact absurd hv hu
    | cons _ before => exact h.paired before v after (List.cons.inj heq).2 hv

/-- A finished reset of a configuration that keeps the other bits. -/
lemma runs_reset (hstart : v₀ &&& wizphyRstBit ≠ 0)
    (hkept : v &&& ~~~(phycfgrOpmd ||| phycfgrOpmdcAlla) = v₀ &&& ~~~(phycfgrOpmd ||| phycfgrOpmdcAlla)) :
    Runs v₀ [v &&& ~~~wizphyRstBit, v ||| wizphyRstBit] := by
  have hv : v &&& wizphyRstBit ≠ 0 := by rwa [released_of_kept v v₀ hkept]
  rw [high_eq v hv]
  refine ⟨fun u hu => ?_, fun u hu => ?_, fun before u after heq hu => ?_⟩
  · obtain rfl : v = u := Option.some.inj hu
    exact hv
  · obtain rfl : v = u := Option.some.inj hu
    exact hkept
  · rcases before with _ | ⟨_, _ | ⟨_, before⟩⟩
    · obtain ⟨rfl, rfl⟩ := List.cons.inj heq
      rw [high_of_low, high_eq v hv]
      rfl
    · obtain ⟨-, rfl, -⟩ : v &&& ~~~wizphyRstBit = _ ∧ v = u ∧ [] = after := by simpa using heq
      exact absurd hu hv
    · simp at heq

lemma not_runs_low (before : List Byte) : ¬ Runs v₀ (before ++ [v &&& ~~~wizphyRstBit]) := by
  intro h
  exact h.released _ List.getLast?_concat (low_asserted v)

end bits

/-- The configuration that wizphy_setphyconf writes. -/
def configured (c : PhyConf) (tmp : Byte) : Byte :=
  let tmp := tmp &&& ~~~(phycfgrOpmd ||| phycfgrOpmdcAlla)
  let tmp := if c.confBy = phyConfbySw then tmp ||| phycfgrOpmd else tmp
  tmp ||| c.opmdc

/-- The configuration that wizphy_setphypmode writes. -/
def powered (pmode tmp : Byte) : Byte :=
  (tmp &&& ~~~phycfgrOpmdcAlla) ||| if pmode = phyPowerDown then phycfgrOpmdcPdown else phycfgrOpmdcAlla

/-- The call is turned down before it writes, or its reset gets to the end. The power functions do neither. -/
def Entry.Meets (m : Driver) (o : Outside) : Entry → Prop
  | .reset => Released m o (o.readback 0)
  | .setphyconf none => True
  | .setphyconf (some c) => ¬ c.valid ∨ Released m o (configured c (o.readback 0))
  | .setphypmode pmode => (pmode ≠ phyPowerNorm ∧ pmode ≠ phyPowerDown) ∨ o.readback 0 &&& phycfgrOpmd = 0 ∨
      Released m o (powered pmode (o.readback 0))
  | .powerdown => False
  | .powerup => False

section entries
variable {m m' : Driver} {o : Outside} {w : Log} {b : Build} {r : ℤ}

lemma configured_kept (c : PhyConf) : ∀ v : Byte, configured c v &&& ~~~(phycfgrOpmd ||| phycfgrOpmdcAlla) =
    v &&& ~~~(phycfgrOpmd ||| phycfgrOpmdcAlla) := by
  simp only [configured, PhyConf.opmdc]
  split_ifs <;> decide

lemma powered_kept (pmode : Byte) : ∀ v : Byte, powered pmode v &&& ~~~(phycfgrOpmd ||| phycfgrOpmdcAlla) =
    v &&& ~~~(phycfgrOpmd ||| phycfgrOpmdcAlla) := by
  unfold powered
  split <;> decide

/-- The start of an entry: nothing has been read or written. -/
lemma at_start : At o m m {} := ⟨rfl, rfl, rfl⟩

lemma unlocked {w' : Log} {body : Drv ℤ} (run : exec (phy o) (globalLocked body) m w = (some r, m', w')) :
    exec (phy o) body m w = (some r, m', w') := by
  have hrest : exec (phy o) (body >>= fun r => globalUnlock >>= fun _ => pure r) m w = (some r, m', w') := run
  obtain ⟨a, m₁, w₁, hbody, hend⟩ := exec_split hrest
  obtain ⟨rfl, rfl, rfl⟩ := exec_returned (show exec (phy o) (pure a : Drv ℤ) m₁ w₁ = (some r, m', w') from hend)
  exact hbody

/-- The rest of an entry from its read of PHYCFGR on. -/
lemma read_start {f : Byte → Drv ℤ} (run : exec (phy o) (globalLocked (getPHYCFGR b >>= f)) m {} = (some r, m', w)) :
    ∃ m₁, At o m m₁ { reads := 1 } ∧ exec (phy o) (f (o.readback 0)) m₁ { reads := 1 } = (some r, m', w) := by
  obtain ⟨m₁, hread, hm₁⟩ := exec_getPHYCFGR (b := b) (at_start (o := o) (m := m))
  have hrun := unlocked run
  rw [exec_bind hread] at hrun
  exact ⟨m₁, hm₁, hrun⟩

/-- The end of an entry that writes a configuration and resets. -/
lemma runs_write {v : Byte} {m₁ : Driver} (hat : At o m m₁ { reads := 1 })
    (hstart : o.readback 0 &&& wizphyRstBit ≠ 0)
    (hkept : v &&& ~~~(phycfgrOpmd ||| phycfgrOpmdcAlla) = o.readback 0 &&& ~~~(phycfgrOpmd ||| phycfgrOpmdcAlla))
    (run : exec (phy o) (do
      setPHYCFGR b v
      wizphyResetLocked b v) m₁ { reads := 1 } = (some r, m', w)) :
    Runs (o.readback 0) w.written ↔ Released m o v := by
  obtain ⟨m₂, hwrite, hm₂⟩ := exec_setPHYCFGR (b := b) v hat
  rw [exec_bind hwrite] at run
  have hv : v &&& wizphyRstBit ≠ 0 := by rwa [released_of_kept v _ hkept]
  rcases reset_writes hm₂ rfl rfl run with ⟨hreleased, hwritten⟩ | ⟨hnot, hwritten⟩
  · rw [hwritten]
    exact iff_of_true ((runs_reset hstart hkept).cons hv (by simp)) hreleased
  · rw [hwritten]
    exact iff_of_false (not_runs_low [v]) hnot

/-- The power functions leave the reset asserted. -/
lemma not_runs_power {u v : Byte} (hv : v &&& wizphyRstBit = 0) (run : exec (phy o) (do
      setPHYCFGR b u
      setPHYCFGR b v
      return (0 : ℤ)) m {} = (some r, m', w)) : ¬ Runs (o.readback 0) w.written := by
  obtain ⟨m₁, hfirst, hm₁⟩ := exec_setPHYCFGR (b := b) u (at_start (o := o) (m := m))
  rw [exec_bind hfirst] at run
  obtain ⟨m₂, hsecond, hm₂⟩ := exec_setPHYCFGR (b := b) v hm₁
  rw [exec_bind hsecond] at run
  obtain ⟨-, -, rfl⟩ := exec_returned run
  exact fun h => h.released v rfl hv

end entries

/-- From a PHYCFGR with the reset released, an entry leaves the PHY running exactly when it is turned
down before it writes or its reset is released. -/
theorem runs_iff {m m' : Driver} {o : Outside} {b : Build} {entry : Entry} {r : ℤ} {w : Log}
    (hstart : o.readback 0 &&& wizphyRstBit ≠ 0) (run : exec (phy o) (entry.run b) m {} = (some r, m', w)) :
    Runs (o.readback 0) w.written ↔ entry.Meets m o := by
  cases entry with
  | reset =>
    obtain ⟨m₁, hm₁, hrest⟩ := read_start run
    rcases reset_writes hm₁ rfl rfl hrest with ⟨hreleased, hwritten⟩ | ⟨hnot, hwritten⟩
    · rw [hwritten]
      exact iff_of_true (runs_reset hstart rfl) hreleased
    · rw [hwritten]
      exact iff_of_false (not_runs_low []) hnot
  | setphyconf phyconf =>
    cases phyconf with
    | none =>
      obtain ⟨-, -, rfl⟩ := exec_returned run
      exact iff_of_true runs_nil trivial
    | some c =>
      by_cases hvalid : c.valid
      · have hrest : exec (phy o) (globalLocked (getPHYCFGR b >>= fun tmp => do
            setPHYCFGR b (configured c tmp)
            wizphyResetLocked b (configured c tmp))) m {} = (some r, m', w) := by
          rw [← run]
          exact (congrArg (exec (phy o) · m {}) (if_neg (not_not.2 hvalid))).symm
        obtain ⟨m₁, hm₁, hrest⟩ := read_start hrest
        rw [Entry.Meets, or_iff_right (not_not.2 hvalid)]
        exact runs_write hm₁ hstart (configured_kept c _) hrest
      · have hrest : exec (phy o) (pure (-1) : Drv ℤ) m {} = (some r, m', w) := by
          rw [← run]
          exact (congrArg (exec (phy o) · m {}) (if_pos hvalid)).symm
        obtain ⟨-, -, rfl⟩ := exec_returned hrest
        exact iff_of_true runs_nil (.inl hvalid)
  | setphypmode pmode =>
    rw [Entry.run, wizphySetphypmode] at run
    by_cases hmode : pmode ≠ phyPowerNorm ∧ pmode ≠ phyPowerDown
    · rw [if_pos hmode] at run
      obtain ⟨-, -, rfl⟩ := exec_returned run
      exact iff_of_true runs_nil (.inl hmode)
    rw [if_neg hmode] at run
    obtain ⟨m₁, hm₁, hrest⟩ := read_start run
    by_cases hopmd : o.readback 0 &&& phycfgrOpmd = 0
    · rw [if_pos hopmd] at hrest
      obtain ⟨-, -, rfl⟩ := exec_returned hrest
      exact iff_of_true runs_nil (.inr (.inl hopmd))
    · rw [if_neg hopmd] at hrest
      rw [Entry.Meets, or_iff_right hmode, or_iff_right hopmd]
      exact runs_write hm₁ hstart (powered_kept pmode _) hrest
  | powerdown => exact iff_of_false (not_runs_power (by decide) run) id
  | powerup => exact iff_of_false (not_runs_power (by decide) run) id

/-- PHYCFGR shows the reset released throughout. -/
def stuck : Outside := ⟨fun _ => 0xF8, fun _ => 0, fun _ => false⟩

/-- Without a wait callback the one look at the asserted reset has to see it. -/
lemma exec_stuck : exec (phy stuck) (Entry.reset.run .oneTurn) (Driver.boot 1000 1000) {} =
    (some wizphyDeadlineError, (exec (phy stuck) (Entry.reset.run .oneTurn) (Driver.boot 1000 1000) {}).2.1,
      { reads := 2, samples := 1, written := [0x78] }) := by
  rfl

theorem runs_iff_stuck : (0xF8 : Byte) &&& wizphyRstBit ≠ 0 ∧
    (Runs 0xF8 [0x78] ↔ Entry.reset.Meets (Driver.boot 1000 1000) stuck) :=
  ⟨by decide, runs_iff (by decide) exec_stuck⟩

/-- The reset that is not seen is not released. -/
theorem reset_left_asserted : ¬ ∀ (entry : Entry) m m' o b r w, o.readback 0 &&& wizphyRstBit ≠ 0 →
    exec (phy o) (entry.run b) m {} = (some r, m', w) → Runs (o.readback 0) w.written := by
  intro claim
  have hruns := claim _ _ _ _ _ _ _ (by decide) exec_stuck
  exact not_runs_low (v := 0xF8) [] hruns

end IoLibrary.Phy
