import IoLibrary.Socket.Wait

/-! socket and close. -/
namespace IoLibrary
open Effects

/-- The effects of close_internal between its entry checks and close_clear_state. -/
def closeCommand (b : Build) (sn deadline : ℕ) : Drv ℤ := do
  let m ← Prog.get
  if (m.sock sn).health = .faulted then return sockOk
  let sr ← getSnSR b sn
  if sr = sockClosed then return sockOk
  setSnCR b sn snCrClose
  let ret ← waitCrAccepted b sn deadline
  if ret ≠ sockOk then return ret
  setSnIR b sn 0xFF
  waitSrReached b sn sockClosed deadline

/-- close_clear_state -/
def closeClearState (sn : ℕ) (ret : ℤ) : Drv ℤ := do
  sockStateReset sn
  if ret = sockerrTimeout then
    markFaulted sn
    return ret
  return ret

/-- close_internal with under_lock = 1, as every caller of the W5500 build passes it;
an inherited deadline of 0 makes this call open its own. -/
def closeInternal (b : Build) (sn inheritedDeadline : ℕ) : Drv ℤ := do
  if sockNum ≤ sn then return sockerrSocknum
  if inheritedDeadline = 0 then
    let m ← Prog.get
    let some deadline ← sockDeadlineBegin m.commandTimeoutUs
      | closeClearState sn sockerrTimeout
    let ret ← closeCommand b sn deadline
    closeClearState sn ret
  else
    let ret ← closeCommand b sn inheritedDeadline
    closeClearState sn ret

def close (b : Build) (sn : ℕ) : Drv ℤ := do
  if sockNum ≤ sn then return sockerrSocknum
  locked sn (closeInternal b sn 0)

/-- The argument checks of socket, `none` when they pass. -/
def socketArgCheck (sn : ℕ) (protocol flag : Byte) : Option ℤ :=
  let p := protocol &&& 0x0F
  if sockNum ≤ sn then some sockerrSocknum
  else if p ≠ snMrTcp ∧ p ≠ snMrUdp ∧ p ≠ snMrMacraw ∧ p ≠ snMrIpraw then some sockerrSockmode
  else if sn ≠ 0 ∧ p = snMrMacraw then some sockerrSockmode
  else
    let validFlagMask :=
      if p = snMrTcp then sfTcpValidMask
      else if p = snMrUdp then sfUdpValidMask
      else if p = snMrMacraw then sfMacrawValidMask
      else sfIprawValidMask
    if flag &&& ~~~validFlagMask ≠ 0 then some sockerrSockflag
    else if p = snMrUdp ∧ flag &&& (sfIgmpVer2 ||| sfUniBlock) ≠ 0 ∧ flag &&& sfMultiEnable = 0 then
      some sockerrSockflag
    else none

/-- The source port: the caller's, or the next automatic one for port 0. -/
def sourcePort (port : ℕ) : Drv ℕ :=
  if port ≠ 0 then return port
  else do
    globalLock
    let m ← Prog.get
    let next := (m.sockAnyPort + 1) % 65536
    Prog.modify fun m => { m with sockAnyPort := if next = 0xFFF0 then 0xC000 else next }
    globalUnlock
    return m.sockAnyPort

/-- The state socket leaves behind on success. -/
def Sock.opened (protocol flag : Byte) (_ : Sock) : Sock :=
  { ioMode := flag &&& sfIoNonblock ≠ 0, isSending := false, health := .healthy, txState := .idle
    txPendingLen := 0, remainedSize := 0, packInfo := packCompleted
    mode := protocol ||| (flag &&& ~~~sfIoNonblock &&& 0xF0) }

/-- From the address check to the published state; everything socket does once the
hardware socket is closed. -/
def socketOpenClosed (b : Build) (sn : ℕ) (protocol flag : Byte) (port deadline : ℕ) : Drv ℤ := do
  if protocol &&& 0x0F = snMrTcp then
    let sipr ← wizchipReadBuf b Reg.sipr 4
    if sipr.all (· = 0) then return sockerrSockinit
    openCommand
  else openCommand
where
  openCommand : Drv ℤ := do
    setSnMR b sn (protocol ||| (flag &&& ~~~sfIoNonblock &&& 0xF0))
    setSnPORT b sn port
    setSnCR b sn snCrOpen
    let ret ← waitCrAccepted b sn deadline
    if ret ≠ sockOk then return ret
    let ret ← waitSrReached b sn (socketOpenStatus protocol) deadline
    if ret ≠ sockOk then return ret
    modifySock sn (Sock.opened protocol flag)
    return sn

/-- The body of socket under the socket lock. -/
def socketLocked (b : Build) (sn : ℕ) (protocol flag : Byte) (port : ℕ) (statusBeforeLock : Byte) :
    Drv ℤ := do
  let m ← Prog.get
  if (m.sock sn).health = .faulted then return sockerrNotready
  let some deadline ← sockDeadlineBegin m.commandTimeoutUs | return sockerrTimeout
  let sr ← getSnSR b sn
  if sr = sockClosed then socketOpenClosed b sn protocol flag port deadline
  else if statusBeforeLock = sockClosed then return sockerrSockstatus
  else
    let ret ← closeInternal b sn deadline
    if ret ≠ sockOk then return ret
    socketOpenClosed b sn protocol flag port deadline

def socket (b : Build) (sn : ℕ) (protocol : Byte) (port : ℕ) (flag : Byte) : Drv ℤ := do
  if let some e := socketArgCheck sn protocol flag then return e
  let m ← Prog.get
  if m.chipState ≠ .ready then
    Prog.modify fun m => { m with chipLastError := sockerrNotready }
    return sockerrNotready
  let statusBeforeLock ← getSnSR b sn
  let port ← sourcePort port
  locked sn (socketLocked b sn protocol flag port statusBeforeLock)

end IoLibrary
