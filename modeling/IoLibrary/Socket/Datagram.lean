import IoLibrary.Socket.Open

/-! The datagram operations: sendto and recvfrom. -/
namespace IoLibrary
open Effects

/-- sendto while a SEND is pending: inspect one interrupt and return. -/
def sendtoPending (b : Build) (sn : ℕ) : Drv ℤ := do
  let tmp ← getSnIR b sn
  if tmp &&& snIrSendok ≠ 0 then
    setSnIR b sn snIrSendok
    let m ← Prog.get
    modifySock sn fun s => { s with txPendingLen := 0, txState := .idle }
    return (m.sock sn).txPendingLen
  if tmp &&& snIrTimeout ≠ 0 then
    setSnIR b sn snIrTimeout
    modifySock sn fun s => { s with txPendingLen := 0, txState := .idle }
    return sockerrTimeout
  return sockBusy

/-- The destination checks of sendto with their register writes. MACRAW does not read
`addr`, which may be null there. -/
def sendtoAddress (b : Build) (sn : ℕ) (mode : Byte) (addr : Vector Byte 4) (port addrlen : ℕ) :
    Drv (Except ℤ Unit) := do
  let m := mode &&& 0x0F
  if m ≠ snMrUdp ∧ m ≠ snMrMacraw ∧ m ≠ snMrIpraw ∧ m ≠ snMrIpraw6 then
    return .error sockerrSockmode
  if mode ≠ snMrMacraw then
    if addrlen = 16 then return .error sockerrSockmode
    else if addrlen = 4 then
      if mode = snMrUdp6 ∨ mode = snMrIpraw6 then return .error sockerrSockmode
      setSnDIPR b sn addr
      portCheck m
    else return .error sockerrIpinvalid
  else portCheck m
where
  portCheck (m : Byte) : Drv (Except ℤ Unit) := do
    if mode &&& 0x03 = 0x02 then
      if port ≠ 0 then
        setSnDPORT b sn port
        statusCheck m
      else return .error sockerrPortzero
    else statusCheck m
  statusCheck (m : Byte) : Drv (Except ℤ Unit) := do
    if m = snMrMacraw then return .ok ()
    let zero := addr.all (· = 0)
    if zero ∧ mode &&& snMrMacraw ≠ snMrMacraw then return .error sockerrIpinvalid
    if port = 0 ∧ mode &&& snMrMacraw ≠ snMrMacraw then return .error sockerrPortzero
    let sr ← getSnSR b sn
    if sr ≠ sockMacraw ∧ sr ≠ sockUdp ∧ sr ≠ sockIpraw then return .error sockerrSockstatus
    setSnDIPR b sn addr
    setSnDPORT b sn port
    return .ok ()

/-- One look of sendto for `len` free bytes. -/
def sendtoFreeLook (b : Build) (sn len : ℕ) (nonblocking : Bool) :
    Drv (Option (Except ℤ Unit)) := do
  match ← readSnTxFsr b sn with
  | .error e => return some (.error e)
  | .ok freesize =>
    let sr ← getSnSR b sn
    if sr = sockClosed then return some (.error sockerrSockclosed)
    if len ≤ freesize then return some (.ok ())
    if nonblocking then return some (.error sockBusy)
    return none

/-- MACRAW does not wait for space and only looks at the status. -/
def sendtoWaitFree (b : Build) (sn len : ℕ) (isMacraw nonblocking : Bool)
    (operationTimeoutUs : ℕ) : Drv (Except ℤ Unit) := do
  if isMacraw then
    let sr ← getSnSR b sn
    return if sr = sockClosed then .error sockerrSockclosed else .ok ()
  else
    let deadline ← wizchipDeadlineAbs operationTimeoutUs
    let poll ← waitPollInit
    pollLoop b deadline poll (sendtoFreeLook b sn len nonblocking) (return .error sockerrTimeout)

/-- One look of a blocking sendto for the end of its SEND. -/
def sendtoSentLook (b : Build) (sn len : ℕ) : Drv (Option ℤ) := do
  let tmp ← getSnIR b sn
  if tmp &&& snIrSendok ≠ 0 then
    setSnIR b sn snIrSendok
    return some (len : ℤ)
  if tmp &&& snIrTimeout ≠ 0 then
    setSnIR b sn snIrTimeout
    return some sockerrTimeout
  return none

def sendtoWaitSent (b : Build) (sn len deadline : ℕ) : Drv ℤ := do
  let poll ← waitPollInit
  pollLoop b deadline poll (sendtoSentLook b sn len) (faultedTimeout sn)

def setTxState (sn : ℕ) (t : SockTxState) : Drv Unit := modifySock sn fun s => { s with txState := t }

/-- Clear stale events, copy the payload, issue SEND, wait for its acceptance and, in
blocking mode, for its end. -/
def sendtoCommit (b : Build) (sn : ℕ) (data : List Byte) (nonblocking : Bool) : Drv ℤ := do
  setSnIR b sn (snIrSendok ||| snIrTimeout)
  wizSendData b sn data
  setSnCR b sn snCrSend
  let m ← Prog.get
  let some deadline ← sockDeadlineBegin m.commandTimeoutUs | do
    setTxState sn .localFault
    return sockerrTimeout
  let ret ← waitCrAccepted b sn deadline
  if ret ≠ sockOk then
    setTxState sn .localFault
    return ret
  modifySock sn fun s => { s with txPendingLen := data.length }
  if nonblocking then
    setTxState sn .dgramPending
    return sockBusy
  let deadline ← wizchipDeadlineAbs m.operationTimeoutUs
  sendtoWaitSent b sn data.length deadline

/-- sendto with no SEND pending. -/
def sendtoIdle (b : Build) (sn : ℕ) (buf : List Byte) (len : ℕ) (addr : Vector Byte 4)
    (port addrlen : ℕ) : Drv ℤ := do
  let m ← Prog.get
  let mode := (m.sock sn).mode
  match ← sendtoAddress b sn mode addr port addrlen with
  | .error e => return e
  | .ok _ =>
    let len := min len (m.txmaxCache sn)
    match ← sendtoWaitFree b sn len (mode &&& 0x0F = snMrMacraw) (m.sock sn).ioMode
      m.operationTimeoutUs with
    | .error e => return e
    | .ok _ => sendtoCommit b sn (buf.take len) (m.sock sn).ioMode

def sendtoLocked (b : Build) (sn : ℕ) (buf : List Byte) (len : ℕ) (addr : Vector Byte 4)
    (port addrlen : ℕ) : Drv ℤ := do
  let m ← Prog.get
  if (m.sock sn).txState = .localFault then return sockerrTimeout
  if (m.sock sn).health = .faulted then return sockerrIo
  if ¬ m.deadlineConfigValid then return sockerrTimeout
  if (m.sock sn).txState = .dgramPending then sendtoPending b sn
  else sendtoIdle b sn buf len addr port addrlen

/-- sendto_IO_6, and sendto_W5x00 with `addrlen` 4. A null `buf` is `none`; otherwise it
holds `len` bytes. -/
def sendto (b : Build) (sn len : ℕ) (buf : Option (Vector Byte len)) (addr : Vector Byte 4)
    (port addrlen : ℕ) : Drv ℤ := do
  if len = 0 then return 0
  let some buf := buf | return sockerrArg
  if sockNum ≤ sn then return sockerrSocknum
  locked sn (sendtoLocked b sn buf.toList len addr port addrlen)

/-- What a call of recvfrom hands back: its result, the bytes written to `buf`, and what
was written to `addr` and `port`. -/
structure Received where
  ret : ℤ
  bytes : List Byte := []
  addr : Option (List Byte) := none
  port : Option ℕ := none
  deriving DecidableEq, Repr

/-- One look of recvfrom for a packet; `.ok` carries the received size it saw. -/
def recvfromLook (b : Build) (sn : ℕ) (nonblocking : Bool) : Drv (Option (Except ℤ ℕ)) := do
  match ← readSnRxRsr b sn with
  | .error e => return some (.error e)
  | .ok packLen =>
    let sr ← getSnSR b sn
    if sr = sockClosed then return some (.error sockerrSockclosed)
    if packLen ≠ 0 then return some (.ok packLen)
    if nonblocking then return some (.error sockBusy)
    return none

def recvfromWait (b : Build) (sn : ℕ) (nonblocking : Bool) (deadline : ℕ) :
    Drv (Except ℤ ℕ) := do
  let poll ← waitPollInit
  pollLoop b deadline poll (recvfromLook b sn nonblocking) (return .error sockerrTimeout)

/-- Read `n` header bytes and have them dropped by RECV; the result is that of the wait. -/
def recvHeader (b : Build) (sn n : ℕ) (nonblocking : Bool) : Drv (ℤ × List Byte) := do
  let m ← Prog.get
  let head ← wizRecvData b sn n
  setSnCR b sn snCrRecv
  let ret ← waitDatagramCrAccepted b sn m.commandTimeoutUs nonblocking
  return (ret, head)

/-- RECV for the `packLen` bytes just copied out, and the accounting after it. -/
def recvfromFinish (b : Build) (sn packLen : ℕ) (nonblocking : Bool) (out : Received) :
    Drv Received := do
  setSnCR b sn snCrRecv
  let m ← Prog.get
  let ret ← waitDatagramCrAccepted b sn m.commandTimeoutUs nonblocking
  if ret ≠ sockOk then return { out with ret := ret }
  modifySock sn fun s =>
    let rest := (s.remainedSize + 65536 - packLen) % 65536
    { s with
      remainedSize := rest
      packInfo := s.packInfo ||| (if rest ≠ 0 then packRemained else packCompleted) }
  return { out with ret := packLen }

/-- Copy out the next chunk of the current packet, then finish. -/
def recvfromChunk (b : Build) (sn len : ℕ) (nonblocking : Bool) (out : Received) :
    Drv Received := do
  let m ← Prog.get
  let packLen := min len (m.sock sn).remainedSize
  let data ← wizRecvData b sn packLen
  recvfromFinish b sn packLen nonblocking { out with bytes := data }

def startPacket (sn size : ℕ) : Drv Unit :=
  modifySock sn fun s => { s with remainedSize := size, packInfo := packFirst }

def recvfromUdp (b : Build) (sn len : ℕ) (nonblocking : Bool) : Drv Received := do
  let m ← Prog.get
  if (m.sock sn).remainedSize = 0 then
    let (ret, head) ← recvHeader b sn 8 nonblocking
    if ret ≠ sockOk then return { ret := ret }
    startPacket sn (word16 (byteAt head 6) (byteAt head 7))
    recvfromChunk b sn len nonblocking
      { ret := 0, addr := some (head.take 4), port := some (word16 (byteAt head 4) (byteAt head 5)) }
  else recvfromChunk b sn len nonblocking { ret := 0 }

/-- The MACRAW header holds the frame length, itself included; the source stores it in
`sock_remained_size` byte by byte before it checks it. -/
def recvfromMacraw (b : Build) (sn len : ℕ) (nonblocking : Bool) : Drv Received := do
  let m ← Prog.get
  if (m.sock sn).remainedSize = 0 then
    let (ret, head) ← recvHeader b sn 2 nonblocking
    if ret ≠ sockOk then return { ret := ret }
    modifySock sn fun s => { s with remainedSize := (byteAt head 0).toNat }
    let pktLen := word16 (byteAt head 0) (byteAt head 1)
    if pktLen < 2 then
      let _ ← closeInternal b sn 0
      return { ret := sockfatalPacklen }
    modifySock sn fun s => { s with remainedSize := pktLen - 2 }
    if 1514 < pktLen - 2 then
      let _ ← closeInternal b sn 0
      return { ret := sockfatalPacklen }
    modifySock sn fun s => { s with packInfo := packFirst }
    recvfromChunk b sn len nonblocking { ret := 0 }
  else recvfromChunk b sn len nonblocking { ret := 0 }

/-- An IPRAW packet without payload copies nothing, and `pack_len` keeps the received
size read by the wait. -/
def recvfromIpraw (b : Build) (sn len packLen : ℕ) (nonblocking : Bool) : Drv Received := do
  let m ← Prog.get
  if (m.sock sn).remainedSize = 0 then
    let (ret, head) ← recvHeader b sn 6 nonblocking
    if ret ≠ sockOk then return { ret := ret }
    startPacket sn (word16 (byteAt head 4) (byteAt head 5))
    payload { ret := 0, addr := some (head.take 4) }
  else payload { ret := 0 }
where
  payload (out : Received) : Drv Received := do
    let m ← Prog.get
    if 0 < (m.sock sn).remainedSize then recvfromChunk b sn len nonblocking out
    else recvfromFinish b sn packLen nonblocking out

/-- The switch on the mode. The source's default case is unreachable: only UDP, MACRAW and
IPRAW pass the mode check before it. -/
def recvfromPacket (b : Build) (sn len packLen : ℕ) (mode : Byte) (nonblocking addrPort : Bool) :
    Drv Received :=
  if ¬ addrPort then return { ret := sockerrArg }
  else if mode &&& 0x07 = snMrUdp then recvfromUdp b sn len nonblocking
  else if mode &&& 0x07 = snMrMacraw then recvfromMacraw b sn len nonblocking
  else recvfromIpraw b sn len packLen nonblocking

def recvfromLocked (b : Build) (sn len : ℕ) (addrPort : Bool) : Drv Received := do
  let m ← Prog.get
  if (m.sock sn).health = .faulted then return { ret := sockerrIo }
  if ¬ m.deadlineConfigValid then return { ret := sockerrTimeout }
  let mode := (m.sock sn).mode
  let p := mode &&& 0x0F
  if p ≠ snMrUdp ∧ p ≠ snMrIpraw ∧ p ≠ snMrIpraw6 ∧ p ≠ snMrMacraw then
    return { ret := sockerrSockmode }
  if (m.sock sn).remainedSize = 0 then
    let deadline ← wizchipDeadlineAbs m.operationTimeoutUs
    match ← recvfromWait b sn (m.sock sn).ioMode deadline with
    | .error e => return { ret := e }
    | .ok packLen => recvfromPacket b sn len packLen mode (m.sock sn).ioMode addrPort
  else recvfromPacket b sn len 0 mode (m.sock sn).ioMode addrPort

/-- recvfrom_IO_6; `buf` says whether the buffer, `addrPort` whether both `addr` and
`port` are not null. -/
def recvfrom (b : Build) (sn : ℕ) (buf : Bool) (len : ℕ) (addrPort : Bool) : Drv Received := do
  if len = 0 then return { ret := 0 }
  if ¬ buf then return { ret := sockerrArg }
  if sockNum ≤ sn then return { ret := sockerrSocknum }
  locked sn (recvfromLocked b sn len addrPort)

end IoLibrary
