import IoLibrary.Socket.Wait

/-! ctlsocket, setsockopt and getsockopt. -/
namespace IoLibrary
open Effects

inductive CtlsockType
  | setIomode | getIomode | getMaxtxbuf | getMaxrxbuf | clrInterrupt | getInterrupt
  | setPrefer | getPrefer | setIntmask | getIntmask | getTxState
  deriving DecidableEq, Repr

inductive SockoptType
  | flag | ttl | tos | mss | destip | destport | keepalivesend | keepaliveauto
  | sendbuf | recvbuf | status | extstatus | mode | remainsize | packinfo
  deriving DecidableEq, Repr

/-- The memory behind a non-null `arg`, as each access of the source reads it. -/
structure ArgMem where
  u8 : Byte
  u16 : ℕ
  ip : Vector Byte 4

/-- What an option call stores behind `arg`. -/
inductive ArgOut
  | none
  | u8 (v : Byte)
  | u16 (v : ℕ)
  | ip (v : List Byte)
  | txState (v : SockTxState)
  deriving DecidableEq, Repr

/-- Store a result and return SOCK_OK. -/
def answered (out : ArgOut) : Drv (ℤ × ArgOut) := return (sockOk, out)

def refused (e : ℤ) : Drv (ℤ × ArgOut) := return (e, .none)

def ctlsocketLocked (b : Build) (sn : ℕ) (cstype : CtlsockType) (arg : ArgMem) :
    Drv (ℤ × ArgOut) := do
  let m ← Prog.get
  if cstype = .getTxState then return (sockOk, .txState (m.sock sn).txState)
  if (m.sock sn).health = .faulted then return (sockerrIo, .none)
  match cstype with
  | .setIomode =>
    if arg.u8 = 1 then
      modifySock sn fun s => { s with ioMode := true }
      answered .none
    else if arg.u8 = 0 then
      modifySock sn fun s => { s with ioMode := false }
      answered .none
    else refused sockerrArg
  | .getIomode => answered (.u8 (if (m.sock sn).ioMode then 1 else 0))
  | .getMaxtxbuf => answered (.u16 (m.txmaxCache sn))
  | .getMaxrxbuf => answered (.u16 (m.rxmaxCache sn))
  | .clrInterrupt =>
    if sikAll.toNat < arg.u8.toNat then refused sockerrArg
    else
      setSnIR b sn arg.u8
      answered .none
  | .getInterrupt =>
    let v ← getSnIR b sn
    answered (.u8 v)
  | .setIntmask =>
    if sikAll.toNat < arg.u8.toNat then refused sockerrArg
    else
      setSnIMR b sn arg.u8
      answered .none
  | .getIntmask =>
    let v ← getSnIMR b sn
    answered (.u8 v)
  | _ => refused sockerrArg

def ctlsocket (b : Build) (sn : ℕ) (cstype : CtlsockType) (arg : Option ArgMem) :
    Drv (ℤ × ArgOut) := do
  if sockNum ≤ sn then return (sockerrSocknum, .none)
  let some arg := arg | return (sockerrArg, .none)
  locked sn (ctlsocketLocked b sn cstype arg)

def keepaliveSend (b : Build) (sn : ℕ) : Drv ℤ := do
  let m ← Prog.get
  if (m.sock sn).mode &&& 0x03 ≠ 0x01 then return sockerrSockmode
  let kpalvtr ← wizchipRead b (Reg.snKPALVTR sn)
  if kpalvtr ≠ 0 then return sockerrSockopt
  let m ← Prog.get
  if ¬ m.deadlineConfigValid then return sockerrTimeout
  let deadline ← wizchipDeadlineAbs m.commandTimeoutUs
  let poll ← waitPollInit
  setSnCR b sn snCrSendKeep
  pollLoop b deadline poll (crOrTimeoutLook b sn) (faultedTimeout sn)

def setsockoptLocked (b : Build) (sn : ℕ) (sotype : SockoptType) (arg : ArgMem) : Drv ℤ := do
  let m ← Prog.get
  if (m.sock sn).health = .faulted then return sockerrIo
  match sotype with
  | .ttl =>
    wizchipWrite b (Reg.snTTL sn) arg.u8
    return sockOk
  | .tos =>
    wizchipWrite b (Reg.snTOS sn) arg.u8
    return sockOk
  | .mss =>
    let _ ← wizchipWrite16 b (Reg.snMSSR sn) arg.u16
    return sockOk
  | .destip =>
    setSnDIPR b sn arg.ip
    return sockOk
  | .destport =>
    setSnDPORT b sn arg.u16
    return sockOk
  | .keepalivesend => keepaliveSend b sn
  | .keepaliveauto =>
    if (m.sock sn).mode &&& 0x03 ≠ 0x01 then return sockerrSockmode
    wizchipWrite b (Reg.snKPALVTR sn) arg.u8
    return sockOk
  | _ => return sockerrArg

/-- `arg` may be null for SO_KEEPALIVESEND only, which does not read it. -/
def setsockopt (b : Build) (sn : ℕ) (sotype : SockoptType) (arg : Option ArgMem) : Drv ℤ := do
  if sockNum ≤ sn then return sockerrSocknum
  if arg.isNone ∧ sotype ≠ .keepalivesend then return sockerrArg
  locked sn (setsockoptLocked b sn sotype (arg.getD ⟨0, 0, .replicate 4 0⟩))

/-- SO_SENDBUF, SO_RECVBUF and the TCP case of SO_REMAINSIZE. -/
def sizeOption (read : Drv (Except ℤ ℕ)) : Drv (ℤ × ArgOut) := do
  let r ← read
  match r with
  | .error _ => return (sockerrIo, .none)
  | .ok v => return (sockOk, .u16 v)

def getsockoptLocked (b : Build) (sn : ℕ) (sotype : SockoptType) : Drv (ℤ × ArgOut) := do
  let m ← Prog.get
  if (m.sock sn).health = .faulted ∧ sotype ≠ .status then return (sockerrIo, .none)
  match sotype with
  | .flag =>
    let mode ← sockModeCachedOrRead b sn
    answered (.u8 ((mode &&& 0xF0) ||| (if (m.sock sn).ioMode then 0x08 else 0)))
  | .ttl =>
    let v ← wizchipRead b (Reg.snTTL sn)
    answered (.u8 v)
  | .tos =>
    let v ← wizchipRead b (Reg.snTOS sn)
    answered (.u8 v)
  | .mss =>
    let v ← wizchipRead16Value b (Reg.snMSSR sn)
    answered (.u16 v)
  | .destip =>
    let v ← wizchipReadBuf b (Reg.snDIPR sn) 4
    answered (.ip v)
  | .destport =>
    let v ← wizchipRead16Value b (Reg.snDPORT sn)
    answered (.u16 v)
  | .keepaliveauto =>
    if (m.sock sn).mode &&& 0x03 ≠ 0x01 then return (sockerrSockmode, .none)
    let v ← wizchipRead b (Reg.snKPALVTR sn)
    answered (.u8 v)
  | .sendbuf => sizeOption (readSnTxFsr b sn)
  | .recvbuf => sizeOption (readSnRxRsr b sn)
  | .status =>
    let v ← getSnSR b sn
    answered (.u8 v)
  | .remainsize =>
    let mode ← sockModeCachedOrRead b sn
    if mode &&& 0x0F = snMrTcp then sizeOption (readSnRxRsr b sn)
    else answered (.u16 (m.sock sn).remainedSize)
  | .packinfo =>
    let mode ← sockModeCachedOrRead b sn
    if mode &&& 0x0F = snMrTcp then return (sockerrSockmode, .none)
    answered (.u8 (m.sock sn).packInfo)
  | _ => return (sockerrSockopt, .none)

/-- `arg` says whether the caller's pointer is not null. -/
def getsockopt (b : Build) (sn : ℕ) (sotype : SockoptType) (arg : Bool) : Drv (ℤ × ArgOut) := do
  if sockNum ≤ sn then return (sockerrSocknum, .none)
  if ¬ arg then return (sockerrArg, .none)
  locked sn (getsockoptLocked b sn sotype)

end IoLibrary
