import IoLibrary.Deadline

/-! The waits of socket.c that more than one operation uses. -/
namespace IoLibrary
open Effects

def Sock.cleared (_ : Sock) : Sock :=
  { ioMode := false, isSending := false, health := .healthy, txState := .idle
    txPendingLen := 0, remainedSize := 0, packInfo := packNone, mode := 0 }

def sockStateReset (sn : ℕ) : Drv Unit := modifySock sn Sock.cleared

def Sock.faulted (s : Sock) : Sock := { s with health := .faulted }

def markFaulted (sn : ℕ) : Drv Unit := modifySock sn Sock.faulted

/-- What the expiry of a budget comes to: the socket is faulted. -/
def faultedTimeout (sn : ℕ) : Drv ℤ := do
  markFaulted sn
  return sockerrTimeout

/-- wait_cr_accepted and wait_sr_reached differ in the register they poll and the value
they wait for. -/
def waitRegister (b : Build) (sn : ℕ) (a : Addr) (wanted : Byte) (deadline : ℕ) : Drv ℤ := do
  let poll ← waitPollInit
  pollLoop b deadline poll look (faultedTimeout sn)
where
  look : Drv (Option ℤ) := do
    let v ← wizchipRead b a
    if v = wanted then return some sockOk
    return none

def waitCrAccepted (b : Build) (sn deadline : ℕ) : Drv ℤ :=
  waitRegister b sn (Reg.snCR sn) 0 deadline

def waitSrReached (b : Build) (sn : ℕ) (wanted : Byte) (deadline : ℕ) : Drv ℤ :=
  waitRegister b sn (Reg.snSR sn) wanted deadline

/-- One look at the TIMEOUT bit: whether it was set, and is now cleared. -/
def takeTimeout (b : Build) (sn : ℕ) : Drv Bool := do
  let ir ← getSnIR b sn
  if ir &&& snIrTimeout ≠ 0 then
    setSnIR b sn snIrTimeout
    return true
  return false

/-- One look of wait_datagram_cr_accepted, and of SO_KEEPALIVESEND. -/
def crOrTimeoutLook (b : Build) (sn : ℕ) : Drv (Option ℤ) := do
  let cr ← getSnCR b sn
  if cr = 0 then return some sockOk
  let timeout ← takeTimeout b sn
  if timeout then return some sockerrTimeout
  return none

def waitDatagramCrAccepted (b : Build) (sn timeoutUs : ℕ) (nonblocking : Bool) : Drv ℤ := do
  match ← crOrTimeoutLook b sn with
  | some r => return r
  | none =>
    if nonblocking then return sockBusy
    let deadline ← wizchipDeadlineAbs timeoutUs
    let poll ← waitPollInit
    pollLoop b deadline poll (crOrTimeoutLook b sn) (faultedTimeout sn)

def socketOpenStatus (protocol : Byte) : Byte :=
  let p := protocol &&& 0x0F
  if p = snMrTcp then sockInit
  else if p = snMrUdp then sockUdp
  else if p = snMrIpraw then sockIpraw
  else if p = snMrMacraw then sockMacraw
  else sockClosed

def sockModeCachedOrRead (b : Build) (sn : ℕ) : Drv Byte := do
  let m ← Prog.get
  if (m.sock sn).mode = 0 then getSnMR b sn else return (m.sock sn).mode

end IoLibrary
