import IoLibrary.Transport

/-! The time source of wizchip_conf.c, absolute deadlines and polls. The source is a
32-bit counter whatever callback supplies it; wraps are added up in `wrapBaseUs`. -/
namespace IoLibrary
open Effects

def Globals.timeSourceActive (m : Globals) : Bool := m.timeUsCb || m.nowUs

/-- wizchip_time_source_reset -/
def Driver.timeSourceReset (m : Driver) : Driver := { m with wrapLastRawUs := 0, wrapBaseUs := 0 }

/-- reg_wizchip_time_cbfunc; the flags say which callbacks are not null. -/
def Driver.regTimeCbfunc (now wait : Bool) (m : Driver) : Driver :=
  Driver.timeSourceReset
    { m with nowUs := now, waitUs := wait, waitHook := false, timeUsCb := false }

/-- reg_wizchip_time_hook_cbfunc -/
def Driver.regTimeHookCbfunc (now wait : Bool) (m : Driver) : Driver :=
  Driver.timeSourceReset
    { m with nowUs := now, waitUs := false, waitHook := wait, timeUsCb := false }

/-- reg_wizchip_time_us_cbfunc -/
def Driver.regTimeUsCbfunc (now : Bool) (m : Driver) : Driver :=
  Driver.timeSourceReset { m with timeUsCb := now }

/-- The memory after a sample `raw` of the source. -/
def Driver.sampled (m : Driver) (raw : ℕ) : Driver :=
  { m with
    wrapBaseUs := if raw % 2 ^ 32 < m.wrapLastRawUs then (m.wrapBaseUs + 2 ^ 32) % 2 ^ 64
      else m.wrapBaseUs
    wrapLastRawUs := raw % 2 ^ 32 }

def wizchipTimeNow : Drv ℕ := do
  let m ← Prog.get
  if m.timeSourceActive then
    let raw ← ask .now
    Prog.modify fun m => m.sampled raw
    let m ← Prog.get
    return (m.wrapBaseUs + m.wrapLastRawUs) % 2 ^ 64
  else return m.pollCounter

/-- The memory after a deadline is opened with no time source. -/
def Driver.pollsReset (m : Driver) (timeoutUs : ℕ) : Driver :=
  { m with pollCounter := 0, configuredTimeoutUs := min timeoutUs (2 ^ 32 - 1) }

def wizchipDeadlineAbs (timeoutUs : ℕ) : Drv ℕ := do
  let m ← Prog.get
  if m.timeSourceActive then
    let now ← wizchipTimeNow
    return (now + timeoutUs) % 2 ^ 64
  else
    Prog.modify fun m => m.pollsReset timeoutUs
    return 0

def Driver.pollCounted (m : Driver) : Driver :=
  { m with pollCounter := (m.pollCounter + 1) % 2 ^ 32 }

def wizchipDeadlineExpired (deadlineUs : ℕ) : Drv Bool := do
  let m ← Prog.get
  if m.timeSourceActive then
    let now ← wizchipTimeNow
    return deadlineUs ≤ now
  else
    Prog.modify fun m => m.pollCounted
    let m ← Prog.get
    return deadlineUs ≤ m.pollCounter

def Globals.deadlineConfigValid (m : Globals) : Bool :=
  m.timeSourceActive && m.commandTimeoutUs != 0 && m.operationTimeoutUs != 0

/-- wizchip_deadline_t; its `deadline_us` is stored by the source and never read. -/
structure Poll where
  startedUs : ℕ
  timeoutUs : ℕ
  polls : ℕ

/-- The wait callback, or the wait hook when only that one is registered. -/
def waitCallback : Drv Unit := do
  let m ← Prog.get
  if m.waitUs || m.waitHook then ask .wait else return ()

/-- `true` stands for the result -16. -/
def wizchipDeadlinePoll (poll : Poll) : Drv (Bool × Poll) := do
  waitCallback
  let poll := { poll with polls := poll.polls + 1 }
  if pollMax ≤ poll.polls then return (true, poll)
  let m ← Prog.get
  if m.timeSourceActive then
    let now ← wizchipTimeNow
    return (poll.timeoutUs ≤ (now + 2 ^ 64 - poll.startedUs) % 2 ^ 64, poll)
  else return (false, poll)

def waitPollInit : Drv Poll := do
  let now ← wizchipTimeNow
  return ⟨now, 2 ^ 64 - 1, 0⟩

/-- wait_poll_expired: `true` stands for SOCKERR_DEADLINE. -/
def waitPollExpired (poll : Poll) (deadline : ℕ) : Drv (Bool × Poll) := do
  let (late, poll) ← wizchipDeadlinePoll poll
  if late then return (true, poll)
  let late ← wizchipDeadlineExpired deadline
  return (late, poll)

/-- The deadline of an invocation, `none` for SOCKERR_TIMEOUT. -/
def sockDeadlineBegin (budgetUs : ℕ) : Drv (Option ℕ) := do
  let m ← Prog.get
  if m.deadlineConfigValid then
    let deadline ← wizchipDeadlineAbs budgetUs
    return some deadline
  else return none

/-- A wait for the time of one deadline: look, and go on until a look has a result or the
deadline has passed. -/
def clockLoop {α : Type} (b : Build) (deadline : ℕ) (look : Drv (Option α)) (expired : Drv α) :
    Drv α :=
  Prog.loop (fun _ : Unit => do
    match ← look with
    | some a => return .leave a
    | none =>
      let late ← wizchipDeadlineExpired deadline
      if late then
        let a ← expired
        return .leave a
      return .again ()) b.turns ()

/-- A wait that counts its polls too. -/
def pollLoop {α : Type} (b : Build) (deadline : ℕ) (poll : Poll) (look : Drv (Option α))
    (expired : Drv α) : Drv α :=
  Prog.loop (fun poll => do
    match ← look with
    | some a => return .leave a
    | none =>
      let (late, poll) ← waitPollExpired poll deadline
      if late then
        let a ← expired
        return .leave a
      return .again poll) b.turns poll

/-- One turn of the size reads: up to three samples, until two in a row agree. -/
def sizeLook (b : Build) (a : Addr) : Drv (Option (Except ℤ ℕ)) := do
  let some first ← wizchipRead16 b a | return some (.error sockerrIo)
  let some second ← wizchipRead16 b a | return some (.error sockerrIo)
  if first = second then return some (.ok second)
  let some third ← wizchipRead16 b a | return some (.error sockerrIo)
  if second = third then return some (.ok third)
  return none

/-- getSn_TX_FSR_stable and getSn_RX_RSR_stable differ in the register only. -/
def stableSize (b : Build) (a : Addr) : Drv (Except ℤ ℕ) := do
  let opened ← wizchipDeadlineAbs pollMax
  let deadline := if opened = 0 then pollMax else opened
  clockLoop b deadline (sizeLook b a) (return .error sockerrDeadline)

def getSnTXFSRStable (b : Build) (sn : ℕ) : Drv (Except ℤ ℕ) := stableSize b (Reg.snTXFSR sn)
def getSnRXRSRStable (b : Build) (sn : ℕ) : Drv (Except ℤ ℕ) := stableSize b (Reg.snRXRSR sn)

/-- read_sn_tx_fsr; the source turns SOCK_OK into 0 and passes the rest on. -/
def readSnTxFsr (b : Build) (sn : ℕ) : Drv (Except ℤ ℕ) := getSnTXFSRStable b sn
def readSnRxRsr (b : Build) (sn : ℕ) : Drv (Except ℤ ℕ) := getSnRXRSRStable b sn

end IoLibrary
