import IoLibrary.Driver

/-! socket.c as it is built for the chips with IPv6. One socket is used by one task, so that its
lock does nothing; a poll of a deadline is a call that answers whether the budget is over. -/
namespace IoLibrary.Ipv6
open Effects

def snMrTcp4 : Byte := 0x01
def snMrUdp4 : Byte := 0x02
def snMrIpraw4 : Byte := 0x03
def snMrMacraw : Byte := 0x07
def snMrTcp6 : Byte := 0x09
def snMrTcpd : Byte := 0x0D
def snMrUdpd : Byte := 0x0E

def snCrSend6 : Byte := 0xA0

def sockIpraw6 : Byte := 0x33

def sfMultiEnable : Byte := 0x80
def sfUniBlock : Byte := 0x10
def sfDhaManual : Byte := 0x02
def sfForceArp : Byte := 0x01
def sfIoNonblock : Byte := 0x08

def packIpv6 : Byte := 0x80
def packCompleted : Byte := 0x08
def packRemained : Byte := 0x04
def packFirst : Byte := 0x02

/-- The globals of socket.c and wizchip_conf.c that the operations on the socket use. -/
structure Cpu where
  sock : Sock
  sockAnyPort : ℕ
  ready : Bool
  lastError : ℤ
  configValid : Bool
  txmaxCache : ℕ

/-- What bytes of the RX memory are read for. -/
inductive Part
  | info
  | address
  | port
  | payload
  deriving DecidableEq

inductive Io
  | cr
  | ir
  | sr
  | txFsr
  | rxRsr
  | sipr
  | llar
  | setMr (v : Byte)
  | setMr2 (v : Byte)
  | setPortr (port : ℕ)
  | setCr (v : Byte)
  | clearIr (v : Byte)
  | setDipr (addr : List Byte)
  | setDip6r (addr : List Byte)
  | setDportr (port : ℕ)
  | sendData (data : List Byte)
  | recvData (len : ℕ) (part : Part)
  | expired

@[reducible] def Io.Res : Io → Type
  | .cr | .ir | .sr => Byte
  | .txFsr | .rxRsr => ℕ
  | .sipr => Vector Byte 4
  | .llar => Vector Byte 16
  | .recvData len _ => Vector Byte len
  | .expired => Bool
  | _ => Unit

abbrev Drv := Prog Cpu Io Io.Res

abbrev ask (e : Io) : Drv e.Res := Prog.perform e

def modifySock (f : Sock → Sock) : Drv Unit := Prog.modify fun c => { c with sock := f c.sock }

/-- The error that the expiry of a command's budget comes to. -/
def faultedTimeout : Drv ℤ := do
  modifySock fun s => { s with health := .faulted }
  return sockerrTimeout

/-- A wait for the time of one deadline, cut after `turns` turns. -/
def pollLoop {α : Type} (turns : ℕ) (look : Drv (Option α)) (expired : Drv α) : Drv α :=
  Prog.loop (fun _ : Unit => do
    match ← look with
    | some a => return .leave a
    | none =>
      let late ← ask .expired
      if late then
        let a ← expired
        return .leave a
      return .again ()) turns ()

def waitCrAccepted (turns : ℕ) : Drv ℤ :=
  pollLoop turns (do
    let cr ← ask .cr
    return if cr = 0 then some sockOk else none) faultedTimeout

def waitSrReached (turns : ℕ) (wanted : Byte) : Drv ℤ :=
  pollLoop turns (do
    let sr ← ask .sr
    return if sr = wanted then some sockOk else none) faultedTimeout

/-- One look of wait_datagram_cr_accepted. -/
def crOrTimeoutLook : Drv (Option ℤ) := do
  let cr ← ask .cr
  if cr = 0 then return some sockOk
  let ir ← ask .ir
  if ir &&& snIrTimeout ≠ 0 then
    ask (.clearIr snIrTimeout)
    return some sockerrTimeout
  return none

def waitDatagramCrAccepted (turns : ℕ) (nonblocking : Bool) : Drv ℤ := do
  match ← crOrTimeoutLook with
  | some r => return r
  | none =>
    if nonblocking then return sockBusy
    pollLoop turns crOrTimeoutLook faultedTimeout

def socketOpenStatus (protocol : Byte) : Byte :=
  let p := protocol &&& 0x0F
  if p = snMrTcp4 then sockInit
  else if p = snMrUdp4 then sockUdp
  else if p = snMrIpraw4 then sockIpraw
  else if p = snMrMacraw then sockMacraw
  else sockClosed

def Sock.cleared (_ : Sock) : Sock :=
  { ioMode := false, isSending := false, health := .healthy, txState := .idle
    txPendingLen := 0, remainedSize := 0, packInfo := packNone, mode := 0 }

/-- The command of close_internal and its waits. -/
def closeCommand (turns : ℕ) : Drv ℤ := do
  let c ← Prog.get
  if c.sock.health = .faulted then return sockOk
  let sr ← ask .sr
  if sr = sockClosed then return sockOk
  ask (.setCr snCrClose)
  let ret ← waitCrAccepted turns
  if ret ≠ sockOk then return ret
  ask (.clearIr 0xFF)
  waitSrReached turns sockClosed

/-- close_internal under the lock and under the caller's deadline. -/
def closeInternal (turns : ℕ) : Drv ℤ := do
  let ret ← closeCommand turns
  modifySock Sock.cleared
  if ret = sockerrTimeout then
    modifySock fun s => { s with health := .faulted }
    return ret
  return ret

/-- The protocols of the mode switch of socket. -/
def protocols : List Byte :=
  [snMrTcp4, snMrTcp6, snMrTcpd, snMrUdp4, snMrUdp6, snMrUdpd, snMrMacraw, snMrIpraw4, snMrIpraw6]

/-- The argument checks of socket, `none` when they pass. -/
def socketArgCheck (sn : ℕ) (protocol flag : Byte) : Option ℤ :=
  if sockNum ≤ sn then some sockerrSocknum
  else if protocol &&& 0x0F ∉ protocols then some sockerrSockmode
  else if flag &&& 0x04 ≠ 0 then some sockerrSockflag
  else if protocol = snMrMacraw ∧ flag &&& (sfDhaManual ||| sfForceArp) ≠ 0 then
    some sockerrSockflag
  else if (protocol = snMrTcp4 ∨ protocol = snMrTcp6 ∨ protocol = snMrTcpd) ∧
      flag &&& (sfMultiEnable ||| sfUniBlock) ≠ 0 then some sockerrSockflag
  else if (protocol = snMrIpraw4 ∨ protocol = snMrIpraw6) ∧ flag ≠ 0 then some sockerrSockflag
  else none

/-- The source port: the caller's, or the next automatic one for port 0. -/
def sourcePort (port : ℕ) : Drv ℕ :=
  if port ≠ 0 then return port
  else do
    let c ← Prog.get
    let next := (c.sockAnyPort + 1) % 65536
    Prog.modify fun c => { c with sockAnyPort := if next = 0xFFF0 then 0xC000 else next }
    return c.sockAnyPort

def openedMode (protocol flag : Byte) : Byte := protocol ||| (flag &&& ~~~sfIoNonblock &&& 0xF0)

def Sock.opened (protocol flag : Byte) (_ : Sock) : Sock :=
  { ioMode := flag &&& sfIoNonblock ≠ 0, isSending := false, health := .healthy, txState := .idle
    txPendingLen := 0, remainedSize := 0, packInfo := packCompleted
    mode := openedMode protocol flag }

/-- The source address checks of the TCP modes: `none` when they pass. -/
def addressCheck (protocol : Byte) : Drv (Option ℤ) := do
  let p := protocol &&& 0x0F
  if p = snMrTcp4 ∨ p = snMrTcpd then
    let sipr ← ask .sipr
    if sipr.all (· = 0) then return some sockerrSockinit
    llarCheck p
  else llarCheck p
where
  llarCheck (p : Byte) : Drv (Option ℤ) := do
    if p = snMrTcp6 ∨ p = snMrTcpd then
      let llar ← ask .llar
      return if llar.all (· = 0) then some sockerrSockinit else none
    return none

/-- From the address checks to the published state. -/
def socketOpenClosed (turns sn : ℕ) (protocol : Byte) (port : ℕ) (flag : Byte) : Drv ℤ := do
  match ← addressCheck protocol with
  | some e => return e
  | none =>
    ask (.setMr (openedMode protocol flag))
    ask (.setMr2 (flag &&& 0x03))
    ask (.setPortr port)
    ask (.setCr snCrOpen)
    let ret ← waitCrAccepted turns
    if ret ≠ sockOk then return ret
    let ret ← waitSrReached turns (socketOpenStatus protocol)
    if ret ≠ sockOk then return ret
    modifySock (Sock.opened protocol flag)
    return sn

def socketLocked (turns sn : ℕ) (protocol : Byte) (port : ℕ) (flag statusBeforeLock : Byte) :
    Drv ℤ := do
  let c ← Prog.get
  if c.sock.health = .faulted then return sockerrNotready
  if ¬ c.configValid then return sockerrTimeout
  let sr ← ask .sr
  if sr = sockClosed then socketOpenClosed turns sn protocol port flag
  else if statusBeforeLock = sockClosed then return sockerrSockstatus
  else
    let ret ← closeInternal turns
    if ret ≠ sockOk then return ret
    socketOpenClosed turns sn protocol port flag

def socket (turns sn : ℕ) (protocol : Byte) (port : ℕ) (flag : Byte) : Drv ℤ := do
  match socketArgCheck sn protocol flag with
  | some e => return e
  | none =>
    let c ← Prog.get
    if ¬ c.ready then
      Prog.modify fun c => { c with lastError := sockerrNotready }
      return sockerrNotready
    let statusBeforeLock ← ask .sr
    let port ← sourcePort port
    socketLocked turns sn protocol port flag statusBeforeLock

end IoLibrary.Ipv6
