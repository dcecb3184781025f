import IoLibrary.W5300.Socket
import IoLibrary.Socket.Stream

/-! recv and recvfrom as the W5300 build compiles them. The RX memory is a FIFO of 16-bit words; the
byte of a word that a call has not taken stays in sock_remained_byte, which the calls get and give
back here. -/
namespace IoLibrary.W5300
open Effects

def snRXFIFOR (n : ℕ) : Addr := atOffset (sregBlock n + 0x30)

def mrFS : BitVec 16 := 0x0100
def snMrAlign : BitVec 16 := 0x0100

def getMR : Drv (BitVec 16) := wizchipRead (atOffset 0)

/-- Whether Sn_MR has the ALIGN bit. -/
def aligned (sn : ℕ) : Drv Bool := do
  let mr ← wizchipRead (snMR sn)
  return mr &&& snMrAlign ≠ 0

/-- The loop of wiz_recv_data with `len` bytes to go from byte `i`; `rd` is the last word read. -/
def recvBytes (sn : ℕ) : ℕ → ℕ → BitVec 16 → Drv (List Byte × BitVec 16)
  | 0, _, rd => return ([], rd)
  | len + 1, i, rd =>
    if i % 2 = 0 then do
      let rd ← wizchipRead (snRXFIFOR sn)
      let (data, rd') ← recvBytes sn len (i + 1) rd
      return ((rd >>> 8).setWidth 8 :: data, rd')
    else do
      let (data, rd') ← recvBytes sn len (i + 1) rd
      return (rd.setWidth 8 :: data, rd')

/-- wiz_recv_data: the bytes and sock_remained_byte. -/
def wizRecvData (sn len : ℕ) (remainedByte : Byte) : Drv (List Byte × Byte) :=
  if len = 0 then return ([], remainedByte)
  else do
    let (data, rd) ← recvBytes sn len 0 0
    return (data, rd.setWidth 8)

/-- read_sn_rx_rsr, which cannot fail here. -/
def readSnRxRsr (b : Build) (sn : ℕ) : Drv ℕ := do
  let v ← getSnRXRSR b sn
  return (v.setWidth 16).toNat

/-- The byte that is left of a FIFO word goes out first. -/
def takeCarried (sn : ℕ) (remainedByte : Byte) : Drv (List Byte) := do
  let m ← Prog.get
  if (m.sock sn).packInfo &&& packFifobyte ≠ 0 then
    modifySock sn fun s =>
      { s with
        packInfo := s.packInfo &&& ~~~packFifobyte
        remainedSize := (s.remainedSize + 65535) % 65536 }
    return [remainedByte]
  else return []

section recv
variable (b : Build) (sn : ℕ)

def recvLook (nonblocking : Bool) : Drv (Option (Except ℤ ℕ)) := do
  let recvsize ← readSnRxRsr b sn
  let sr ← getSnSR sn
  if sr = sockCloseWait then
    if recvsize ≠ 0 then return some (.ok recvsize)
    let freesize ← readSnTxFsr b sn
    let m ← Prog.get
    if freesize = m.txmaxCache sn then
      let _ ← closeInternal b sn 0
      return some (.error sockerrSockstatus)
    return none
  else if sr ≠ sockEstablished then
    let _ ← closeInternal b sn 0
    return some (.error sockerrSockstatus)
  else
    if recvsize ≠ 0 then return some (.ok recvsize)
    if nonblocking then return some (.error sockBusy)
    return none

def recvWait (nonblocking : Bool) (deadline : ℕ) : Drv (Except ℤ ℕ) := do
  let poll ← waitPollInit
  pollLoop b deadline poll (recvLook b sn nonblocking) (return .error sockerrTimeout)

/-- The size of a packet is in its header, unless the socket is in aligned mode. -/
def recvStart (recvsize : ℕ) (remainedByte : Byte) : Drv Byte := do
  let m ← Prog.get
  let start ← if (m.sock sn).remainedSize = 0 then pure true else aligned sn
  if start then
    let mr ← getMR
    if ← aligned sn then
      modifySock sn fun s => { s with remainedSize := recvsize }
      return remainedByte
    else
      let (head, remainedByte) ← wizRecvData sn 2 remainedByte
      let size := if mr &&& mrFS ≠ 0 then word16 (byteAt head 1) (byteAt head 0)
        else word16 (byteAt head 0) (byteAt head 1)
      modifySock sn fun s => { s with remainedSize := size, packInfo := packFirst }
      return remainedByte
  else return remainedByte

/-- The accounting for `recvsize` bytes of the FIFO. -/
def recvFinish (recvsize : ℕ) : Drv Unit := do
  modifySock sn fun s =>
    let rest := (s.remainedSize + 65536 - recvsize) % 65536
    { s with
      remainedSize := rest
      packInfo := if rest ≠ 0 then s.packInfo ||| packRemained ||| (if recvsize % 2 = 1 then packFifobyte else 0)
        else packCompleted }
  if ← aligned sn then modifySock sn fun s => { s with remainedSize := 0 }

/-- Copy out and drop; a single byte that is left of a word takes no RECV. -/
def recvCommit (len commandTimeoutUs : ℕ) (remainedByte : Byte) : Drv (Received × Byte) := do
  let m ← Prog.get
  let len := min len (m.sock sn).remainedSize
  let first ← takeCarried sn remainedByte
  let recvsize := (len + 65536 - first.length) % 65536
  if recvsize ≠ 0 then
    let (data, remainedByte) ← wizRecvData sn recvsize remainedByte
    setSnCR sn snCrRecv
    let deadline ← wizchipDeadlineAbs commandTimeoutUs
    let ret ← waitCrAccepted b sn deadline
    if ret ≠ sockOk then
      markFaulted sn
      return ({ ret := ret, bytes := first ++ data }, remainedByte)
    recvFinish sn recvsize
    return ({ ret := len, bytes := first ++ data }, remainedByte)
  else
    recvFinish sn 0
    return ({ ret := len, bytes := first }, remainedByte)

def recvLocked (len : ℕ) (remainedByte : Byte) : Drv (Received × Byte) := do
  let m ← Prog.get
  if (m.sock sn).health = .faulted then return ({ ret := sockerrIo }, remainedByte)
  if ¬ m.deadlineConfigValid then return ({ ret := sockerrTimeout }, remainedByte)
  if (m.sock sn).mode &&& 0x03 ≠ 0x01 then return ({ ret := sockerrSockmode }, remainedByte)
  let len := min len (m.rxmaxCache sn)
  if (m.sock sn).remainedSize = 0 then
    let deadline ← wizchipDeadlineAbs m.operationTimeoutUs
    match ← recvWait b sn (m.sock sn).ioMode deadline with
    | .error e => return ({ ret := e }, remainedByte)
    | .ok recvsize =>
      let remainedByte ← recvStart sn recvsize remainedByte
      recvCommit b sn len m.commandTimeoutUs remainedByte
  else
    let remainedByte ← recvStart sn (m.rxmaxCache sn) remainedByte
    recvCommit b sn len m.commandTimeoutUs remainedByte

/-- `buf` says whether the buffer is not null; the second result is sock_remained_byte. -/
def recv (buf : Bool) (len : ℕ) (remainedByte : Byte) : Drv (Received × Byte) := do
  if len = 0 then return ({ ret := 0 }, remainedByte)
  if ¬ buf then return ({ ret := sockerrArg }, remainedByte)
  if sockNum ≤ sn then return ({ ret := sockerrSocknum }, remainedByte)
  let m ← Prog.get
  if m.chipState ≠ .ready then return ({ ret := sockerrNotready }, remainedByte)
  locked sn (recvLocked b sn len remainedByte)

end recv

section recvfrom
variable (b : Build) (sn : ℕ)

def crOrTimeoutLook : Drv (Option ℤ) := do
  let cr ← getSnCR sn
  if cr = 0 then return some sockOk
  let ir ← getSnIR sn
  if ir &&& snIrTimeout ≠ 0 then
    setSnIR sn snIrTimeout
    return some sockerrTimeout
  return none

def waitDatagramCrAccepted (timeoutUs : ℕ) (nonblocking : Bool) : Drv ℤ := do
  match ← crOrTimeoutLook sn with
  | some r => return r
  | none =>
    if nonblocking then return sockBusy
    let deadline ← wizchipDeadlineAbs timeoutUs
    let poll ← waitPollInit
    pollLoop b deadline poll (crOrTimeoutLook sn) (faultedTimeout sn)

def recvfromLook (nonblocking : Bool) : Drv (Option (Except ℤ ℕ)) := do
  let packLen ← readSnRxRsr b sn
  let sr ← getSnSR sn
  if sr = sockClosed then return some (.error sockerrSockclosed)
  if packLen ≠ 0 then return some (.ok packLen)
  if nonblocking then return some (.error sockBusy)
  return none

def recvfromWait (nonblocking : Bool) (deadline : ℕ) : Drv (Except ℤ ℕ) := do
  let poll ← waitPollInit
  pollLoop b deadline poll (recvfromLook b sn nonblocking) (return .error sockerrTimeout)

/-- Read `n` header bytes and have them dropped by RECV; the first result is that of the wait. -/
def recvHeader (n : ℕ) (nonblocking : Bool) (remainedByte : Byte) : Drv (ℤ × List Byte × Byte) := do
  let m ← Prog.get
  let (head, remainedByte) ← wizRecvData sn n remainedByte
  setSnCR sn snCrRecv
  let ret ← waitDatagramCrAccepted b sn m.commandTimeoutUs nonblocking
  return (ret, head, remainedByte)

/-- RECV for the `packLen` bytes that came from the FIFO, and the accounting after it; `len` is returned. -/
def recvfromFinish (packLen len : ℕ) (nonblocking : Bool) (out : Received) : Drv Received := do
  setSnCR sn snCrRecv
  let m ← Prog.get
  let ret ← waitDatagramCrAccepted b sn m.commandTimeoutUs nonblocking
  if ret ≠ sockOk then return { out with ret := ret }
  modifySock sn fun s =>
    let rest := (s.remainedSize + 65536 - packLen) % 65536
    { s with
      remainedSize := rest
      packInfo := s.packInfo ||| (if rest ≠ 0 then packRemained ||| (if packLen % 2 = 1 then packFifobyte else 0)
        else packCompleted) }
  return { out with ret := len }

/-- The payload of a UDP packet. -/
def recvfromUdpChunk (len : ℕ) (nonblocking : Bool) (remainedByte : Byte) (out : Received) : Drv (Received × Byte) := do
  let m ← Prog.get
  let len := min len (m.sock sn).remainedSize
  let first ← takeCarried sn remainedByte
  let packLen := (len + 65536 - first.length) % 65536
  let (data, remainedByte) ← wizRecvData sn packLen remainedByte
  let out ← recvfromFinish b sn packLen len nonblocking { out with bytes := first ++ data }
  return (out, remainedByte)

/-- The FIFO swap bit of MR turns the bytes of each header word around. -/
def recvfromUdp (mr : BitVec 16) (len : ℕ) (nonblocking : Bool) (remainedByte : Byte) : Drv (Received × Byte) := do
  let m ← Prog.get
  if (m.sock sn).remainedSize = 0 then
    let (ret, head, remainedByte) ← recvHeader b sn 8 nonblocking remainedByte
    if ret ≠ sockOk then return ({ ret := ret }, remainedByte)
    let at' (i : ℕ) : Byte := if mr &&& mrFS ≠ 0 then byteAt head (if i % 2 = 0 then i + 1 else i - 1) else byteAt head i
    startPacket sn (word16 (at' 6) (at' 7))
    recvfromUdpChunk b sn len nonblocking remainedByte
      { ret := 0, addr := some ((List.range 4).map at'), port := some (word16 (at' 4) (at' 5)) }
  else recvfromUdpChunk b sn len nonblocking remainedByte { ret := 0 }

/-- The payload of the other packets; the length that was asked for is returned. -/
def recvfromChunk (len : ℕ) (nonblocking : Bool) (remainedByte : Byte) (out : Received) : Drv (Received × Byte) := do
  let m ← Prog.get
  let packLen := min len (m.sock sn).remainedSize
  let (data, remainedByte) ← wizRecvData sn packLen remainedByte
  let out ← recvfromFinish b sn packLen len nonblocking { out with bytes := data }
  return (out, remainedByte)

/-- The frame length counts its padding and four bytes more. -/
def recvfromMacraw (len : ℕ) (nonblocking : Bool) (remainedByte : Byte) : Drv (Received × Byte) := do
  let m ← Prog.get
  if (m.sock sn).remainedSize = 0 then
    let (ret, head, remainedByte) ← recvHeader b sn 2 nonblocking remainedByte
    if ret ≠ sockOk then return ({ ret := ret }, remainedByte)
    modifySock sn fun s => { s with remainedSize := (byteAt head 0).toNat }
    let pktLen := word16 (byteAt head 0) (byteAt head 1)
    if pktLen < 2 then
      let _ ← closeInternal b sn 0
      return ({ ret := sockfatalPacklen }, remainedByte)
    let size := pktLen - 2
    let size := if size % 2 = 1 then (size + 1 + 65536 - 4) % 65536 else (size + 65536 - 4) % 65536
    modifySock sn fun s => { s with remainedSize := size }
    if 1514 < size then
      let _ ← closeInternal b sn 0
      return ({ ret := sockfatalPacklen }, remainedByte)
    modifySock sn fun s => { s with packInfo := packFirst }
    recvfromChunk b sn len nonblocking remainedByte { ret := 0 }
  else recvfromChunk b sn len nonblocking remainedByte { ret := 0 }

def recvfromIpraw (len packLen : ℕ) (nonblocking : Bool) (remainedByte : Byte) : Drv (Received × Byte) := do
  let m ← Prog.get
  if (m.sock sn).remainedSize = 0 then
    let (ret, head, remainedByte) ← recvHeader b sn 6 nonblocking remainedByte
    if ret ≠ sockOk then return ({ ret := ret }, remainedByte)
    startPacket sn (word16 (byteAt head 4) (byteAt head 5))
    payload remainedByte { ret := 0, addr := some (head.take 4) }
  else payload remainedByte { ret := 0 }
where
  payload (remainedByte : Byte) (out : Received) : Drv (Received × Byte) := do
    let m ← Prog.get
    if 0 < (m.sock sn).remainedSize then recvfromChunk b sn len nonblocking remainedByte out
    else
      let out ← recvfromFinish b sn packLen len nonblocking out
      return (out, remainedByte)

/-- The switch on the mode, as in the other builds. -/
def recvfromPacket (mr : BitVec 16) (len packLen : ℕ) (mode : Byte) (nonblocking addrPort : Bool) (remainedByte : Byte) :
    Drv (Received × Byte) :=
  if ¬ addrPort then return ({ ret := sockerrArg }, remainedByte)
  else if mode &&& 0x07 = snMrUdp then recvfromUdp b sn mr len nonblocking remainedByte
  else if mode &&& 0x07 = snMrMacraw then recvfromMacraw b sn len nonblocking remainedByte
  else recvfromIpraw b sn len packLen nonblocking remainedByte

def recvfromLocked (len : ℕ) (addrPort : Bool) (remainedByte : Byte) : Drv (Received × Byte) := do
  let m ← Prog.get
  if (m.sock sn).health = .faulted then return ({ ret := sockerrIo }, remainedByte)
  if ¬ m.deadlineConfigValid then return ({ ret := sockerrTimeout }, remainedByte)
  let mr ← getMR
  let mode := (m.sock sn).mode
  let p := mode &&& 0x0F
  if p ≠ snMrUdp ∧ p ≠ snMrIpraw ∧ p ≠ snMrIpraw6 ∧ p ≠ snMrMacraw then
    return ({ ret := sockerrSockmode }, remainedByte)
  if (m.sock sn).remainedSize = 0 then
    let deadline ← wizchipDeadlineAbs m.operationTimeoutUs
    match ← recvfromWait b sn (m.sock sn).ioMode deadline with
    | .error e => return ({ ret := e }, remainedByte)
    | .ok packLen => recvfromPacket b sn mr len packLen mode (m.sock sn).ioMode addrPort remainedByte
  else recvfromPacket b sn mr len 0 mode (m.sock sn).ioMode addrPort remainedByte

def recvfrom (buf : Bool) (len : ℕ) (addrPort : Bool) (remainedByte : Byte) : Drv (Received × Byte) := do
  if len = 0 then return ({ ret := 0 }, remainedByte)
  if ¬ buf then return ({ ret := sockerrArg }, remainedByte)
  if sockNum ≤ sn then return ({ ret := sockerrSocknum }, remainedByte)
  locked sn (recvfromLocked b sn len addrPort remainedByte)

end recvfrom

end IoLibrary.W5300
