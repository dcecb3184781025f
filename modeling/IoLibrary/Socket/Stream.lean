import IoLibrary.Socket.Open

/-! The TCP operations: listen, connect, disconnect, send and recv. -/
namespace IoLibrary
open Effects

def listenLocked (b : Build) (sn : ℕ) : Drv ℤ := do
  let m ← Prog.get
  if (m.sock sn).health = .faulted then return sockerrIo
  let sr ← getSnSR b sn
  if sr ≠ sockInit then return sockerrSockinit
  let m ← Prog.get
  let some deadline ← sockDeadlineBegin m.commandTimeoutUs | return sockerrTimeout
  setSnCR b sn snCrListen
  let ret ← waitCrAccepted b sn deadline
  if ret ≠ sockOk then return ret
  waitSrReached b sn sockListen deadline

def listen (b : Build) (sn : ℕ) : Drv ℤ := do
  if sockNum ≤ sn then return sockerrSocknum
  locked sn (listenLocked b sn)

/-- One look of connect_IO_6 for ESTABLISHED. -/
def connectLook (b : Build) (sn : ℕ) : Drv (Option ℤ) := do
  let status ← getSnSR b sn
  if status = sockEstablished then return some sockOk
  let timeout ← takeTimeout b sn
  if timeout then return some sockerrTimeout
  if status = sockClosed then return some sockerrSockclosed
  return none

/-- The end of the operation budget of connect and disconnect. -/
def faultedIo (sn : ℕ) : Drv ℤ := do
  markFaulted sn
  return sockerrIo

def connectLocked (b : Build) (sn : ℕ) (addr : Vector Byte 4) (port addrlen : ℕ) : Drv ℤ := do
  let m ← Prog.get
  if m.chipState ≠ .ready then return sockerrNotready
  if (m.sock sn).health = .faulted then return sockerrIo
  if (m.sock sn).mode &&& 0x03 ≠ 0x01 then return sockerrSockmode
  let sr ← getSnSR b sn
  if sr ≠ sockInit then return sockerrSockinit
  if addrlen = 16 then return sockerrSockmode
  setSnDPORT b sn port
  setSnDIPR b sn addr
  setSnCR b sn snCrConnect
  let m ← Prog.get
  if ¬ m.deadlineConfigValid then return sockerrTimeout
  let deadline ← wizchipDeadlineAbs m.commandTimeoutUs
  let ret ← waitCrAccepted b sn deadline
  if ret ≠ sockOk then return ret
  let deadline ← wizchipDeadlineAbs m.operationTimeoutUs
  clockLoop b deadline (connectLook b sn) (faultedIo sn)

/-- connect_IO_6. A null `addr` is `none`. -/
def connect (b : Build) (sn : ℕ) (addr : Option (Vector Byte 4)) (port addrlen : ℕ) : Drv ℤ := do
  if sockNum ≤ sn then return sockerrSocknum
  let some addr := addr | return sockerrArg
  if port = 0 then return sockerrPortzero
  if addrlen ≠ 4 ∧ addrlen ≠ 16 then return sockerrIpinvalid
  if addrlen = 4 ∧ (addr.all (· = 0xFF) ∨ addr.all (· = 0)) then
    return sockerrIpinvalid
  locked sn (connectLocked b sn addr port addrlen)

/-- One look of disconnect for CLOSED. -/
def disconnectLook (b : Build) (sn : ℕ) : Drv (Option ℤ) := do
  let status ← getSnSR b sn
  if status = sockClosed then return some sockOk
  let timeout ← takeTimeout b sn
  if timeout then
    markFaulted sn
    return some sockerrTimeout
  return none

/-- DISCON on an open connection, `sockOk` when it was accepted. -/
def disconnectCommand (b : Build) (sn : ℕ) : Drv ℤ := do
  setSnCR b sn snCrDiscon
  let m ← Prog.get
  if ¬ m.deadlineConfigValid then return sockerrTimeout
  let deadline ← wizchipDeadlineAbs m.commandTimeoutUs
  waitCrAccepted b sn deadline

def Sock.notSending (s : Sock) : Sock := { s with isSending := false }

def disconnectFinish (b : Build) (sn : ℕ) : Drv ℤ := do
  modifySock sn Sock.notSending
  let m ← Prog.get
  if ¬ m.deadlineConfigValid then return sockerrTimeout
  let deadline ← wizchipDeadlineAbs m.operationTimeoutUs
  clockLoop b deadline (disconnectLook b sn) (faultedIo sn)

def disconnectLocked (b : Build) (sn : ℕ) : Drv ℤ := do
  let m ← Prog.get
  if m.chipState ≠ .ready then return sockerrNotready
  if (m.sock sn).health = .faulted then return sockerrIo
  if (m.sock sn).mode &&& 0x03 ≠ 0x01 then return sockerrSockmode
  let tmp ← getSnSR b sn
  if tmp = sockClosed then return sockOk
  if tmp = sockEstablished ∨ tmp = sockCloseWait then
    let ret ← disconnectCommand b sn
    if ret ≠ sockOk then return ret
    disconnectFinish b sn
  else disconnectFinish b sn

def disconnect (b : Build) (sn : ℕ) : Drv ℤ := do
  if sockNum ≤ sn then return sockerrSocknum
  locked sn (disconnectLocked b sn)

/-- One look of send for the end of the previous SEND; `.ok` lets it go on. -/
def sentLook (b : Build) (sn : ℕ) (nonblocking : Bool) : Drv (Option (Except ℤ Unit)) := do
  let ir ← getSnIR b sn
  if ir &&& snIrSendok ≠ 0 then
    setSnIR b sn snIrSendok
    modifySock sn Sock.notSending
    return some (.ok ())
  if ir &&& snIrTimeout ≠ 0 then
    setSnIR b sn snIrTimeout
    markFaulted sn
    return some (.error sockerrTimeout)
  let sr ← getSnSR b sn
  if sr ≠ sockEstablished ∧ sr ≠ sockCloseWait then
    modifySock sn Sock.notSending
    return some (.error (if sr = sockClosed then sockerrSockclosed else sockerrSockstatus))
  if nonblocking then return some (.error sockBusy)
  return none

def sendWaitSent (b : Build) (sn : ℕ) (nonblocking : Bool) (deadline : ℕ) :
    Drv (Except ℤ Unit) := do
  let poll ← waitPollInit
  pollLoop b deadline poll (sentLook b sn nonblocking) do
    let e ← faultedTimeout sn
    return .error e

/-- One look of send for `len` free bytes. -/
def freeLook (b : Build) (sn len : ℕ) (nonblocking : Bool) : Drv (Option (Except ℤ Unit)) := do
  match ← readSnTxFsr b sn with
  | .error e => return some (.error e)
  | .ok freesize =>
    let sr ← getSnSR b sn
    if sr ≠ sockEstablished ∧ sr ≠ sockCloseWait then
      if sr = sockClosed then
        let _ ← closeInternal b sn 0
        return some (.error sockerrSockstatus)
      return some (.error sockerrSockstatus)
    if nonblocking ∧ freesize < len then return some (.error sockBusy)
    if len ≤ freesize then return some (.ok ())
    return none

def sendWaitFree (b : Build) (sn len : ℕ) (nonblocking : Bool) (deadline : ℕ) :
    Drv (Except ℤ Unit) := do
  let poll ← waitPollInit
  pollLoop b deadline poll (freeLook b sn len nonblocking) (return .error sockerrTimeout)

def Sock.sending (s : Sock) : Sock := { s with isSending := true }

/-- Issue SEND for the `len` bytes copied and wait for its acceptance. -/
def sendCommand (b : Build) (sn len commandTimeoutUs : ℕ) : Drv ℤ := do
  setSnCR b sn snCrSend
  let deadline ← wizchipDeadlineAbs commandTimeoutUs
  let ret ← waitCrAccepted b sn deadline
  if ret ≠ sockOk then
    markFaulted sn
    return ret
  modifySock sn Sock.sending
  return len

/-- send once no SEND is outstanding. -/
def sendReady (b : Build) (sn : ℕ) (buf : List Byte) (len : ℕ) : Drv ℤ := do
  let m ← Prog.get
  let len := min len (m.txmaxCache sn)
  let deadline ← wizchipDeadlineAbs m.operationTimeoutUs
  match ← sendWaitFree b sn len (m.sock sn).ioMode deadline with
  | .error e => return e
  | .ok _ =>
    wizSendData b sn (buf.take len)
    sendCommand b sn (buf.take len).length m.commandTimeoutUs

def sendLocked (b : Build) (sn : ℕ) (buf : List Byte) (len : ℕ) : Drv ℤ := do
  let m ← Prog.get
  if (m.sock sn).health = .faulted then return sockerrIo
  if ¬ m.deadlineConfigValid then return sockerrTimeout
  if (m.sock sn).mode &&& 0x03 ≠ 0x01 then return sockerrSockmode
  let sr ← getSnSR b sn
  if sr ≠ sockEstablished ∧ sr ≠ sockCloseWait then return sockerrSockstatus
  if (m.sock sn).isSending then
    let deadline ← wizchipDeadlineAbs m.operationTimeoutUs
    match ← sendWaitSent b sn (m.sock sn).ioMode deadline with
    | .error e => return e
    | .ok _ => sendReady b sn buf len
  else sendReady b sn buf len

/-- A null `buf` is `none`; otherwise it holds `len` bytes. -/
def send (b : Build) (sn len : ℕ) (buf : Option (Vector Byte len)) : Drv ℤ := do
  if len = 0 then return 0
  let some buf := buf | return sockerrArg
  if sockNum ≤ sn then return sockerrSocknum
  let m ← Prog.get
  if m.chipState ≠ .ready then return sockerrNotready
  locked sn (sendLocked b sn buf.toList len)

/-- What recv does in CLOSE_WAIT with nothing received: close once the TX buffer is empty. -/
def recvPeerClosed (b : Build) (sn : ℕ) : Drv (Option (Except ℤ ℕ)) := do
  match ← readSnTxFsr b sn with
  | .error e => return some (.error e)
  | .ok freesize =>
    let m ← Prog.get
    if freesize = m.txmaxCache sn then
      let _ ← closeInternal b sn 0
      return some (.error sockerrSockstatus)
    return none

/-- One look of recv for received bytes; `.ok` carries their number. -/
def recvLook (b : Build) (sn : ℕ) (nonblocking : Bool) : Drv (Option (Except ℤ ℕ)) := do
  match ← readSnRxRsr b sn with
  | .error e => return some (.error e)
  | .ok recvsize =>
    let sr ← getSnSR b sn
    if sr = sockCloseWait then
      if recvsize ≠ 0 then return some (.ok recvsize)
      recvPeerClosed b sn
    else if sr ≠ sockEstablished then
      let _ ← closeInternal b sn 0
      return some (.error sockerrSockstatus)
    else
      if recvsize ≠ 0 then return some (.ok recvsize)
      if nonblocking then return some (.error sockBusy)
      return none

def recvWait (b : Build) (sn : ℕ) (nonblocking : Bool) (deadline : ℕ) : Drv (Except ℤ ℕ) := do
  let poll ← waitPollInit
  pollLoop b deadline poll (recvLook b sn nonblocking) (return .error sockerrTimeout)

/-- Copy `len` received bytes out, issue RECV and wait for its acceptance. -/
def recvCommit (b : Build) (sn len commandTimeoutUs : ℕ) : Drv (ℤ × List Byte) := do
  let data ← wizRecvData b sn len
  setSnCR b sn snCrRecv
  let deadline ← wizchipDeadlineAbs commandTimeoutUs
  let ret ← waitCrAccepted b sn deadline
  if ret ≠ sockOk then
    markFaulted sn
    return (ret, data)
  return (len, data)

def recvLocked (b : Build) (sn len : ℕ) : Drv (ℤ × List Byte) := do
  let m ← Prog.get
  if (m.sock sn).health = .faulted then return (sockerrIo, [])
  if ¬ m.deadlineConfigValid then return (sockerrTimeout, [])
  if (m.sock sn).mode &&& 0x03 ≠ 0x01 then return (sockerrSockmode, [])
  let len := min len (m.rxmaxCache sn)
  let deadline ← wizchipDeadlineAbs m.operationTimeoutUs
  match ← recvWait b sn (m.sock sn).ioMode deadline with
  | .error e => return (e, [])
  | .ok recvsize => recvCommit b sn (min len recvsize) m.commandTimeoutUs

/-- The result and the bytes written to `buf`; `buf` says whether it is not null. -/
def recv (b : Build) (sn : ℕ) (buf : Bool) (len : ℕ) : Drv (ℤ × List Byte) := do
  if len = 0 then return (0, [])
  if ¬ buf then return (sockerrArg, [])
  if sockNum ≤ sn then return (sockerrSocknum, [])
  let m ← Prog.get
  if m.chipState ≠ .ready then return (sockerrNotready, [])
  locked sn (recvLocked b sn len)

end IoLibrary
