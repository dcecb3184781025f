import IoLibrary.Ipv6.Chip

/-! sendto and recvfrom on the chips with IPv6. -/
namespace IoLibrary.Ipv6
open Effects

/-- sendto while a SEND is pending: inspect one interrupt and return. -/
def sendtoPending : Drv ℤ := do
  let tmp ← ask .ir
  if tmp &&& snIrSendok ≠ 0 then
    ask (.clearIr snIrSendok)
    let c ← Prog.get
    modifySock fun s => { s with txPendingLen := 0, txState := .idle }
    return c.sock.txPendingLen
  if tmp &&& snIrTimeout ≠ 0 then
    ask (.clearIr snIrTimeout)
    modifySock fun s => { s with txPendingLen := 0, txState := .idle }
    return sockerrTimeout
  return sockBusy

/-- The destination checks of sendto with their register writes; `.ok` carries the command. The
error of a 16-byte address is returned by every mode: the jump behind it is not part of its else,
and `ret` is not set where the mode does support IPv6. That value is `undefined`. -/
def sendtoAddress (undefined : ℤ) (mode : Byte) (addr : List Byte) (port addrlen : ℕ) :
    Drv (Except ℤ Byte) := do
  let m := mode &&& 0x0F
  if m ≠ snMrUdp4 ∧ m ≠ snMrMacraw ∧ m ≠ snMrIpraw4 ∧ m ≠ snMrIpraw6 then
    return .error sockerrSockmode
  if mode ≠ snMrMacraw then
    if addrlen = 16 then
      if mode &&& 0x08 ≠ 0 then
        ask (.setDip6r addr)
        return .error undefined
      return .error sockerrSockmode
    else if addrlen = 4 then
      if mode = snMrUdp6 ∨ mode = snMrIpraw6 then return .error sockerrSockmode
      ask (.setDipr addr)
      portCheck
    else return .error sockerrIpinvalid
  else portCheck
where
  portCheck : Drv (Except ℤ Byte) := do
    if mode &&& 0x03 = 0x02 then
      if port ≠ 0 then
        ask (.setDportr port)
        return .ok snCrSend
      return .error sockerrPortzero
    return .ok snCrSend

/-- One look of sendto for `len` free bytes. -/
def sendtoFreeLook (len : ℕ) (nonblocking : Bool) : Drv (Option (Except ℤ Unit)) := do
  let freesize ← ask .txFsr
  let sr ← ask .sr
  if sr = sockClosed then return some (.error sockerrSockclosed)
  if len ≤ freesize then return some (.ok ())
  if nonblocking then return some (.error sockBusy)
  return none

def sendtoWaitFree (turns len : ℕ) (isMacraw nonblocking : Bool) : Drv (Except ℤ Unit) := do
  if isMacraw then
    let sr ← ask .sr
    return if sr = sockClosed then .error sockerrSockclosed else .ok ()
  else pollLoop turns (sendtoFreeLook len nonblocking) (return .error sockerrTimeout)

/-- One look of a blocking sendto for the end of its SEND. -/
def sendtoSentLook (len : ℕ) : Drv (Option ℤ) := do
  let tmp ← ask .ir
  if tmp &&& snIrSendok ≠ 0 then
    ask (.clearIr snIrSendok)
    return some (len : ℤ)
  if tmp &&& snIrTimeout ≠ 0 then
    ask (.clearIr snIrTimeout)
    return some sockerrTimeout
  return none

def setTxState (t : SockTxState) : Drv Unit := modifySock fun s => { s with txState := t }

/-- Clear stale events, copy the payload, issue the command and wait for it. -/
def sendtoCommit (turns : ℕ) (data : List Byte) (tcmd : Byte) (nonblocking : Bool) : Drv ℤ := do
  ask (.clearIr (snIrSendok ||| snIrTimeout))
  ask (.sendData data)
  ask (.setCr tcmd)
  let c ← Prog.get
  if ¬ c.configValid then
    setTxState .localFault
    return sockerrTimeout
  let ret ← waitCrAccepted turns
  if ret ≠ sockOk then
    setTxState .localFault
    return ret
  modifySock fun s => { s with txPendingLen := data.length }
  if nonblocking then
    setTxState .dgramPending
    return sockBusy
  pollLoop turns (sendtoSentLook data.length) faultedTimeout

/-- sendto with no SEND pending. -/
def sendtoIdle (undefined : ℤ) (turns : ℕ) (buf addr : List Byte) (port addrlen : ℕ) : Drv ℤ := do
  let c ← Prog.get
  match ← sendtoAddress undefined c.sock.mode addr port addrlen with
  | .error e => return e
  | .ok tcmd =>
    let len := min buf.length c.txmaxCache
    match ← sendtoWaitFree turns len (c.sock.mode &&& 0x0F = snMrMacraw) c.sock.ioMode with
    | .error e => return e
    | .ok _ => sendtoCommit turns (buf.take len) tcmd c.sock.ioMode

/-- sendto_W6x00 and sendto_IO_6 for a buffer that is not null. -/
def sendto (undefined : ℤ) (turns sn : ℕ) (buf addr : List Byte) (port addrlen : ℕ) : Drv ℤ := do
  if buf.length = 0 then return 0
  if sockNum ≤ sn then return sockerrSocknum
  let c ← Prog.get
  if c.sock.txState = .localFault then return sockerrTimeout
  if c.sock.health = .faulted then return sockerrIo
  if ¬ c.configValid then return sockerrTimeout
  if c.sock.txState = .dgramPending then sendtoPending
  else sendtoIdle undefined turns buf addr port addrlen

/-- What a call of recvfrom hands back: its result and the bytes written to `buf`. -/
structure Received where
  ret : ℤ
  bytes : List Byte := []

/-- One look of recvfrom for a packet. -/
def recvfromLook (nonblocking : Bool) : Drv (Option (Except ℤ Unit)) := do
  let packLen ← ask .rxRsr
  let sr ← ask .sr
  if sr = sockClosed then return some (.error sockerrSockclosed)
  if packLen ≠ 0 then
    modifySock fun s => { s with packInfo := packNone }
    return some (.ok ())
  if nonblocking then return some (.error sockBusy)
  return none

/-- Read `n` bytes and have them dropped by RECV; the result is that of the wait. -/
def recvPart (turns n : ℕ) (part : Part) (nonblocking : Bool) : Drv (ℤ × List Byte) := do
  let data ← ask (.recvData n part)
  ask (.setCr snCrRecv)
  let ret ← waitDatagramCrAccepted turns nonblocking
  return (ret, data.toList)

/-- The end of recvfrom: the payload bytes that fit the buffer, and the accounting. -/
def recvfromPayload (turns len : ℕ) (nonblocking : Bool) : Drv Received := do
  let c ← Prog.get
  let packLen := min len c.sock.remainedSize
  let (ret, data) ← recvPart turns packLen .payload nonblocking
  if ret ≠ sockOk then return ⟨ret, data⟩
  modifySock fun s =>
    let rest := s.remainedSize - packLen
    { s with
      remainedSize := rest
      packInfo := s.packInfo ||| (if rest ≠ 0 then packRemained else packCompleted) }
  return ⟨packLen, data⟩

/-- recvfrom behind its switch: the size of the packet, the port of a UDP packet, the payload. -/
def recvfromRest (turns len packLen : ℕ) (mode : Byte) (port nonblocking : Bool) :
    Drv Received := do
  modifySock fun s => { s with remainedSize := packLen, packInfo := s.packInfo ||| packFirst }
  if mode &&& 0x03 = 0x02 then
    if ¬ port then return ⟨sockerrArg, []⟩
    let (ret, _) ← recvPart turns 2 .port nonblocking
    if ret ≠ sockOk then return ⟨ret, []⟩
    recvfromPayload turns len nonblocking
  else recvfromPayload turns len nonblocking

/-- The address of a packet whose packet info begins with `head`. -/
def recvfromAddress (turns : ℕ) (head : Byte) (nonblocking : Bool) : Drv ℤ := do
  modifySock fun s => { s with packInfo := head &&& 0xF8 }
  let (ret, _) ← recvPart turns (if head &&& packIpv6 ≠ 0 then 16 else 4) .address nonblocking
  return ret

/-- The MACRAW case takes the packet info for a length that counts its own two bytes, and copies
as many bytes as recvfromPayload copies after them, over them. -/
def recvfromMacraw (turns len info : ℕ) : Drv (Except ℤ ℕ) := do
  let c ← Prog.get
  if c.sock.remainedSize = 0 then
    if info < 2 then
      let _ ← closeInternal turns
      return .error sockfatalPacklen
    modifySock fun s => { s with remainedSize := info - 2 }
    if 1514 < info - 2 then
      let _ ← closeInternal turns
      return .error sockfatalPacklen
    modifySock fun s => { s with packInfo := packFirst }
    copy
  else copy
where
  copy : Drv (Except ℤ ℕ) := do
    let c ← Prog.get
    let packLen := min len c.sock.remainedSize
    let _ ← ask (.recvData packLen .payload)
    return .ok packLen

/-- The caller's pointers: the first byte of `addr`, `none` for a null pointer, and whether `port`
is not null. -/
structure Dest where
  addr : Option Byte
  port : Bool

/-- The switch on the mode; a null `addr` is not checked before its use in the IPRAW case, and
what its use answers is `undefined`. -/
def recvfromPacket (undefined : ℤ) (turns len : ℕ) (head : List Byte) (mode : Byte) (dest : Dest)
    (nonblocking : Bool) : Drv Received := do
  let packLen := (byteAt head 0 &&& 0x07).toNat * 256 + (byteAt head 1).toNat
  if mode &&& 0x07 = snMrUdp4 then
    if dest.addr = none then return ⟨sockerrArg, []⟩
    let ret ← recvfromAddress turns (byteAt head 0) nonblocking
    if ret ≠ sockOk then return ⟨ret, []⟩
    recvfromRest turns len packLen mode dest.port nonblocking
  else if mode &&& 0x07 = snMrMacraw then
    match ← recvfromMacraw turns len (word16 (byteAt head 0) (byteAt head 1)) with
    | .error e => return ⟨e, []⟩
    | .ok packLen => recvfromRest turns len packLen mode dest.port nonblocking
  else
    let c ← Prog.get
    if c.sock.remainedSize = 0 then
      match dest.addr with
      | none => return ⟨undefined, []⟩
      | some 0 => return ⟨sockerrArg, []⟩
      | some _ =>
        let ret ← recvfromAddress turns (byteAt head 0) nonblocking
        if ret ≠ sockOk then return ⟨ret, []⟩
        recvfromRest turns len packLen mode dest.port nonblocking
    else recvfromRest turns len packLen mode dest.port nonblocking

/-- The packet info is read by every call, whatever is left of the packet before. -/
def recvfromInfo (undefined : ℤ) (turns len : ℕ) (dest : Dest) : Drv Received := do
  let c ← Prog.get
  let (ret, head) ← recvPart turns 2 .info c.sock.ioMode
  if ret ≠ sockOk then return ⟨ret, []⟩
  recvfromPacket undefined turns len head c.sock.mode dest c.sock.ioMode

/-- recvfrom_W6x00 and recvfrom_IO_6 for a buffer that is not null. -/
def recvfrom (undefined : ℤ) (turns sn len : ℕ) (dest : Dest) : Drv Received := do
  if len = 0 then return ⟨0, []⟩
  if sockNum ≤ sn then return ⟨sockerrSocknum, []⟩
  let c ← Prog.get
  if c.sock.health = .faulted then return ⟨sockerrIo, []⟩
  if ¬ c.configValid then return ⟨sockerrTimeout, []⟩
  let m := c.sock.mode &&& 0x0F
  if m ≠ snMrUdp4 ∧ m ≠ snMrIpraw4 ∧ m ≠ snMrIpraw6 ∧ m ≠ snMrMacraw then
    return ⟨sockerrSockmode, []⟩
  if c.sock.remainedSize = 0 then
    match ← pollLoop turns (recvfromLook c.sock.ioMode) (return .error sockerrTimeout) with
    | .error e => return ⟨e, []⟩
    | .ok _ => recvfromInfo undefined turns len dest
  else recvfromInfo undefined turns len dest

end IoLibrary.Ipv6
