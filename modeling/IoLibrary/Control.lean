import IoLibrary.Lifecycle

/-! The control functions of wizchip_conf.c: interrupts, the PHY, the network settings and
the timeouts, with ctlwizchip and ctlnetwork in front of them. -/
namespace IoLibrary
open Effects

/-- The body of a control function between the global lock and its single unlock. -/
def globalLocked {α : Type} (body : Drv α) : Drv α := do
  globalLock
  let r ← body
  globalUnlock
  return r

section interrupts
variable (b : Build)

/-- An intr_kind: the sockets in the high byte, the chip in the low one. -/
abbrev IntrKind := BitVec 16

def wizchipClrinterrupt (intr : IntrKind) : Drv Unit := do
  wizchipWrite b Reg.ir (intr.setWidth 8 &&& 0xF0)
  let _ ← eachSocket fun sn => do
    if (intr >>> 8).getLsbD sn then setSnIR b sn 0xFF
    return none
  return ()

def wizchipGetinterrupt : Drv IntrKind := do
  let tmp3 ← wizchipReadBuf b Reg.ir 3
  return byteAt tmp3 2 ++ byteAt tmp3 0

def wizchipSetinterruptmaskLocked (intr : IntrKind) : Drv Unit := do
  wizchipWrite b Reg.imr (intr.setWidth 8)
  wizchipWrite b Reg.simr ((intr >>> 8).setWidth 8)

def wizchipGetinterruptmaskLocked : Drv IntrKind := do
  let imr ← wizchipRead b Reg.imr
  let simr ← wizchipRead b Reg.simr
  return simr ++ imr

def wizchipSetinterruptmask (intr : IntrKind) : Drv Unit :=
  globalLocked (wizchipSetinterruptmaskLocked b intr)

def wizchipGetinterruptmask : Drv IntrKind := globalLocked (wizchipGetinterruptmaskLocked b)

end interrupts

/-- wiz_PhyConf; `confBy` is its field `by`. -/
structure PhyConf where
  confBy : Byte
  mode : Byte
  speed : Byte
  duplex : Byte

def phyConfbyHw : Byte := 0
def phyConfbySw : Byte := 1
def phyModeManual : Byte := 0
def phyModeAutonego : Byte := 1
def phySpeed10 : Byte := 0
def phySpeed100 : Byte := 1
def phyDuplexHalf : Byte := 0
def phyDuplexFull : Byte := 1
def phyPowerNorm : Byte := 0
def phyPowerDown : Byte := 1
def phyLinkOff : ℤ := 0
def phyLinkOn : ℤ := 1

def wizphyResetHoldUs : ℕ := 200
def wizphyDeadlineError : ℤ := -16
def wizphyResetMask : Byte := wizphyRstBit ||| phycfgrOpmd ||| phycfgrOpmdcAlla

section phy
variable (b : Build)

def getPHYCFGR : Drv Byte := wizchipRead b Reg.phycfgr
def setPHYCFGR (v : Byte) : Drv Unit := wizchipWrite b Reg.phycfgr v

def wizphyGetphylink : Drv ℤ := do
  let phycfgr ← getPHYCFGR b
  let tmp := if phycfgr &&& phycfgrLnkOn ≠ 0 then phyLinkOn else phyLinkOff
  let m ← Prog.get
  if tmp ≠ m.previousLink then
    Prog.modify fun m => { m with previousLink := tmp }
    ask (.phyLink (tmp = phyLinkOn))
  return tmp

def wizphyGetphypmode : Drv Byte := do
  let phycfgr ← getPHYCFGR b
  return if phycfgr &&& phycfgrOpmdcAlla = phycfgrOpmdcPdown then phyPowerDown else phyPowerNorm

/-- Without a time callback the wait callback is given the whole delay at once. -/
def wizphyWaitUntil (deadlineUs : ℕ) : Drv ℤ := do
  let m ← Prog.get
  if ¬ m.nowUs then
    if ¬ m.waitUs then return wizphyDeadlineError
    ask .wait
    return 0
  Prog.loop (fun polls : ℕ => do
    let late ← wizchipDeadlineExpired deadlineUs
    if late then return .leave 0
    let m ← Prog.get
    if ¬ (m.waitUs ∨ m.waitHook) then return .leave wizphyDeadlineError
    ask .wait
    if pollMax ≤ polls + 1 then return .leave wizphyDeadlineError
    return .again (polls + 1)) b.turns 0

def wizphyWaitReadback (expected : Byte) : Drv ℤ := do
  let m ← Prog.get
  let deadlineUs ← wizchipDeadlineAbs m.phyTimeoutUs
  let pollLimit := if ¬ m.nowUs ∧ m.waitUs ∧ m.phyTimeoutUs < pollMax then m.phyTimeoutUs else pollMax
  Prog.loop (fun polls : ℕ => do
    let phycfgr ← getPHYCFGR b
    if phycfgr &&& wizphyResetMask = expected &&& wizphyResetMask then return .leave 0
    if ¬ (m.waitUs ∨ m.waitHook) then return .leave wizphyDeadlineError
    ask .wait
    if pollLimit ≤ polls + 1 then return .leave wizphyDeadlineError
    if ¬ m.nowUs then return .again (polls + 1)
    let late ← wizchipDeadlineExpired deadlineUs
    return if late then .leave wizphyDeadlineError else .again (polls + 1)) b.turns 0

def wizphyResetLocked (configured : Byte) : Drv ℤ := do
  let resetLow := configured &&& ~~~wizphyRstBit
  let resetHigh := configured ||| wizphyRstBit
  setPHYCFGR b resetLow
  let ret ← wizphyWaitReadback b resetLow
  if ret ≠ 0 then return wizphyDeadlineError
  let holdDeadlineUs ← wizchipDeadlineAbs wizphyResetHoldUs
  let ret ← wizphyWaitUntil b holdDeadlineUs
  if ret ≠ 0 then return wizphyDeadlineError
  setPHYCFGR b resetHigh
  wizphyWaitReadback b resetHigh

def wizphyReset : Drv ℤ := globalLocked do
  let configured ← getPHYCFGR b
  wizphyResetLocked b configured

def PhyConf.valid (c : PhyConf) : Bool :=
  c.confBy ≤ phyConfbySw && c.mode ≤ phyModeAutonego && c.speed ≤ phySpeed100 &&
    c.duplex ≤ phyDuplexFull

def PhyConf.opmdc (c : PhyConf) : Byte :=
  if c.mode = phyModeAutonego then phycfgrOpmdcAlla
  else if c.duplex = phyDuplexFull then
    if c.speed = phySpeed100 then phycfgrOpmdc100F else phycfgrOpmdc10F
  else if c.speed = phySpeed100 then phycfgrOpmdc100H else phycfgrOpmdc10H

def wizphySetphyconf (phyconf : Option PhyConf) : Drv ℤ :=
  match phyconf with
  | none => return -1
  | some c => do
    if ¬ c.valid then return -1
    globalLocked do
      let tmp ← getPHYCFGR b
      let tmp := tmp &&& ~~~(phycfgrOpmd ||| phycfgrOpmdcAlla)
      let tmp := if c.confBy = phyConfbySw then tmp ||| phycfgrOpmd else tmp
      let tmp := tmp ||| c.opmdc
      setPHYCFGR b tmp
      wizphyResetLocked b tmp

/-- What PHYCFGR says about the configuration. -/
def PhyConf.ofPhycfgr (tmp : Byte) : PhyConf :=
  let opmdc := tmp &&& phycfgrOpmdcAlla
  { confBy := if tmp &&& phycfgrOpmd ≠ 0 then phyConfbySw else phyConfbyHw
    mode := if opmdc = phycfgrOpmdcAlla ∨ opmdc = phycfgrOpmdc100FA then phyModeAutonego
      else phyModeManual
    speed := if opmdc = phycfgrOpmdc100FA ∨ opmdc = phycfgrOpmdc100F ∨ opmdc = phycfgrOpmdc100H
      then phySpeed100 else phySpeed10
    duplex := if opmdc = phycfgrOpmdc100FA ∨ opmdc = phycfgrOpmdc100F ∨ opmdc = phycfgrOpmdc10F
      then phyDuplexFull else phyDuplexHalf }

def wizphyGetphyconf (phyconf : Option PhyConf) : Drv (ℤ × Option PhyConf) := do
  if phyconf.isNone then return (-1, none)
  let tmp ← globalLocked (getPHYCFGR b)
  return (0, some (.ofPhycfgr tmp))

def wizphyGetphystat (phyconf : Option PhyConf) : Drv (ℤ × Option PhyConf) :=
  match phyconf with
  | none => return (-1, none)
  | some c => do
    let tmp ← globalLocked (getPHYCFGR b)
    let c := { c with
      duplex := if tmp &&& phycfgrDpxFull ≠ 0 then phyDuplexFull else phyDuplexHalf
      speed := if tmp &&& phycfgrSpd100 ≠ 0 then phySpeed100 else phySpeed10 }
    return (if tmp &&& phycfgrLnkOn ≠ 0 then phyLinkOn else phyLinkOff, some c)

/-- The early exit unlocks like the end does. -/
def wizphySetphypmode (pmode : Byte) : Drv ℤ := do
  if pmode ≠ phyPowerNorm ∧ pmode ≠ phyPowerDown then return -1
  globalLocked do
    let tmp ← getPHYCFGR b
    if tmp &&& phycfgrOpmd = 0 then return -1
    let tmp := tmp &&& ~~~phycfgrOpmdcAlla
    let tmp := tmp ||| if pmode = phyPowerDown then phycfgrOpmdcPdown else phycfgrOpmdcAlla
    setPHYCFGR b tmp
    wizphyResetLocked b tmp

end phy

/-- wiz_NetInfo -/
structure NetInfo where
  mac : Vector Byte 6
  ip : Vector Byte 4
  sn : Vector Byte 4
  gw : Vector Byte 4
  dns : Vector Byte 4
  dhcp : Byte

/-- NM_WAKEONLAN, NM_PPPOE, NM_PINGBLOCK and NM_FORCEARP together. -/
def netmodeMask : BitVec 32 := 0x3A

section network
variable (b : Build)

def getMR : Drv Byte := wizchipRead b Reg.mr
def setMR (v : Byte) : Drv Unit := wizchipWrite b Reg.mr v

def wizchipSetnetinfoLocked (info : NetInfo) : Drv Unit := do
  wizchipWriteBuf b Reg.shar info.mac.toList
  wizchipWriteBuf b Reg.gar info.gw.toList
  wizchipWriteBuf b Reg.subr info.sn.toList
  wizchipWriteBuf b Reg.sipr info.ip.toList
  Prog.modify fun m => { m with dns := info.dns, dhcp := info.dhcp }

def wizchipGetnetinfoLocked : Drv NetInfo := do
  let mac ← wizchipReadBuf b Reg.shar 6
  let gw ← wizchipReadBuf b Reg.gar 4
  let sn ← wizchipReadBuf b Reg.subr 4
  let ip ← wizchipReadBuf b Reg.sipr 4
  let m ← Prog.get
  return { mac := frameBytes 6 mac, ip := frameBytes 4 ip, sn := frameBytes 4 sn
           gw := frameBytes 4 gw, dns := m.dns, dhcp := m.dhcp }

def wizchipSetnetinfo (info : NetInfo) : Drv Unit := globalLocked (wizchipSetnetinfoLocked b info)
def wizchipGetnetinfo : Drv NetInfo := globalLocked (wizchipGetnetinfoLocked b)

def wizchipSetnetmode (netmode : BitVec 32) : Drv ℤ := do
  if netmode &&& ~~~netmodeMask ≠ 0 then return -1
  let tmp ← getMR b
  setMR b ((tmp &&& ~~~netmodeMask.setWidth 8) ||| netmode.setWidth 8)
  return 0

def wizchipGetnetmode : Drv Byte := getMR b

end network

/-- wiz_NetTimeout -/
structure NetTimeout where
  retryCnt : Byte
  time100us : BitVec 16

/-- wizchip_timeout_config_t -/
structure TimeoutConfig where
  commandTimeoutUs : ℕ
  operationTimeoutUs : ℕ
  phyTimeoutUs : ℕ

def wizchipRetryMarginUs : ℕ := 100000

/-- The time after which the chip gives up, with a margin, as a uint32_t. -/
def retryWindowUs (rtr rcr : ℕ) : ℕ :=
  min (wizchipRetryMarginUs + rtr * 100 * (rcr + 1)) (2 ^ 32 - 1)

/-- The memory after wizchip_update_timeout_floor_locked. -/
def Driver.timeoutFloorUpdated (rtr rcr : ℕ) (m : Driver) : Driver :=
  let timeout := if m.requestedOperationTimeoutUs < retryWindowUs rtr rcr then retryWindowUs rtr rcr
    else m.requestedOperationTimeoutUs
  { m with operationTimeoutUs := timeout, configuredTimeoutUs := timeout }

section timeouts
variable (b : Build)

def getRTR : Drv ℕ := wizchipRead16Value b Reg.rtr
def getRCR : Drv Byte := wizchipRead b Reg.rcr

def setRTR (v : BitVec 16) : Drv Unit := do
  let _ ← wizchipWrite16 b Reg.rtr v.toNat
  return ()

def setRCR (v : Byte) : Drv Unit := wizchipWrite b Reg.rcr v

def wizchipSetOperationTimeoutUs (timeoutUs : ℕ) : Drv ℤ := do
  if timeoutUs = 0 then return -1
  globalLocked do
    let rtr ← getRTR b
    let rcr ← getRCR b
    Prog.modify fun m => Driver.timeoutFloorUpdated rtr rcr.toNat
      { m with requestedOperationTimeoutUs := timeoutUs }
    return 0

def wizchipSetTimeoutConfig (config : Option TimeoutConfig) : Drv ℤ :=
  match config with
  | none => return -1
  | some c => do
    if c.commandTimeoutUs = 0 ∨ c.operationTimeoutUs = 0 ∨ c.phyTimeoutUs = 0 then return -1
    globalLocked do
      let rtr ← getRTR b
      let rcr ← getRCR b
      Prog.modify fun m => Driver.timeoutFloorUpdated rtr rcr.toNat
        { m with
          commandTimeoutUs := c.commandTimeoutUs
          operationTimeoutUs := c.operationTimeoutUs
          phyTimeoutUs := c.phyTimeoutUs
          requestedOperationTimeoutUs := c.operationTimeoutUs }
      return 0

/-- wizchip_timeout_config_set -/
def wizchipTimeoutConfigSet (timeoutUs : ℕ) : Drv ℤ := do
  if timeoutUs = 0 then return 1
  globalLocked do
    Prog.modify fun m => { m with configuredTimeoutUs := timeoutUs }
    return 0

def wizchipSettimeoutLocked (nettime : NetTimeout) : Drv Unit := do
  let retryCnt := if nettime.retryCnt < 1 then 1 else nettime.retryCnt
  let time100us := if nettime.time100us < 1 then 1 else nettime.time100us
  setRTR b time100us
  setRCR b retryCnt
  Prog.modify fun m => m.timeoutFloorUpdated time100us.toNat retryCnt.toNat

def wizchipGettimeoutLocked : Drv NetTimeout := do
  let retryCnt ← getRCR b
  let time100us ← getRTR b
  return ⟨retryCnt, BitVec.ofNat 16 time100us⟩

def wizchipSettimeout (nettime : NetTimeout) : Drv Unit :=
  globalLocked (wizchipSettimeoutLocked b nettime)

def wizchipGettimeout : Drv NetTimeout := globalLocked (wizchipGettimeoutLocked b)

end timeouts

/-- A ctlwizchip_type with what its argument points to; `none` and `false` stand for a null
argument. -/
inductive CtlwizchipType
  | resetWizchip
  | initWizchip (arg : Option (ℕ → Byte))
  | clrInterrupt (arg : Option IntrKind)
  | getInterrupt (arg : Bool)
  | setIntrmask (arg : Option IntrKind)
  | getIntrmask (arg : Bool)
  | setIntrtime (arg : BitVec 16)
  | getIntrtime
  | getId
  | resetPhy
  | setPhyconf (arg : Option PhyConf)
  | getPhyconf (arg : Option PhyConf)
  | getPhystatus (arg : Option PhyConf)
  | setPhypowmode (arg : Option Byte)
  | getPhypowmode (arg : Bool)
  | getPhylink (arg : Bool)
  | other

/-- What ctlwizchip stores through its argument. -/
inductive CtlwizchipOut
  | nothing
  | intr (v : IntrKind)
  | time (v : ℕ)
  | id (v : List Byte)
  | phyconf (v : Option PhyConf)
  | byte (v : Byte)

/-- "W5500" with its terminator. -/
def wizchipId : List Byte := [0x57, 0x35, 0x35, 0x30, 0x30, 0, 0]

def ctlwizchip (b : Build) : CtlwizchipType → Drv (ℤ × CtlwizchipOut)
  | .resetWizchip => do
    let ret ← wizchipSwReset b
    return (ret, .nothing)
  | .initWizchip arg => do
    -- the sizes of the receive buffers follow those of the transmit buffers
    let ret ← wizchipInit b (arg.map fun p i => (p i).toNat) (arg.map fun p i => (p (sockNum + i)).toNat)
    return (ret, .nothing)
  | .clrInterrupt none | .setIntrmask none | .getInterrupt false | .getIntrmask false =>
    return (-1, .nothing)
  | .clrInterrupt (some intr) => do
    globalLocked (wizchipClrinterrupt b intr)
    return (0, .nothing)
  | .getInterrupt true => do
    let intr ← globalLocked (wizchipGetinterrupt b)
    return (0, .intr intr)
  | .setIntrmask (some intr) => do
    globalLocked (wizchipSetinterruptmaskLocked b intr)
    return (0, .nothing)
  | .getIntrmask true => do
    let intr ← globalLocked (wizchipGetinterruptmaskLocked b)
    return (0, .intr intr)
  | .setIntrtime arg => do
    let _ ← wizchipWrite16 b Reg.intlevel arg.toNat
    return (0, .nothing)
  | .getIntrtime => do
    let v ← wizchipRead16Value b Reg.intlevel
    return (0, .time v)
  | .getId => return (0, .id wizchipId)
  | .resetPhy => do
    let ret ← wizphyReset b
    return (ret, .nothing)
  | .setPhyconf arg => do
    let ret ← wizphySetphyconf b arg
    return (ret, .nothing)
  | .getPhyconf arg => do
    let (ret, c) ← wizphyGetphyconf b arg
    return (ret, .phyconf c)
  | .getPhystatus arg => do
    let (ret, c) ← wizphyGetphystat b arg
    return (ret, .phyconf c)
  | .setPhypowmode none | .getPhypowmode false | .getPhylink false => return (-1, .nothing)
  | .setPhypowmode (some pmode) => do
    let ret ← wizphySetphypmode b pmode
    return (ret, .nothing)
  | .getPhypowmode true => do
    let tmp ← wizphyGetphypmode b
    if tmp.toInt = -1 then return (-1, .nothing)
    return (0, .byte tmp)
  | .getPhylink true => do
    let tmp ← wizphyGetphylink b
    if tmp = -1 then return (-1, .nothing)
    return (0, .byte (BitVec.ofInt 8 tmp))
  | .other => return (-1, .nothing)

/-- A ctlnetwork_type with what its argument points to, which is never null. -/
inductive CtlnetworkType
  | setNetinfo (arg : NetInfo)
  | getNetinfo
  | setNetmode (arg : BitVec 32)
  | getNetmode
  | setTimeout (arg : NetTimeout)
  | getTimeout
  | other

/-- What ctlnetwork stores through its argument. -/
inductive CtlnetworkOut
  | nothing
  | netInfo (v : NetInfo)
  | netMode (v : Byte)
  | timeout (v : NetTimeout)

def ctlnetwork (b : Build) : CtlnetworkType → Drv (ℤ × CtlnetworkOut)
  | .setNetinfo arg => do
    globalLocked (wizchipSetnetinfoLocked b arg)
    return (0, .nothing)
  | .getNetinfo => do
    let v ← globalLocked (wizchipGetnetinfoLocked b)
    return (0, .netInfo v)
  | .setNetmode arg => do
    let ret ← wizchipSetnetmode b arg
    return (ret, .nothing)
  | .getNetmode => do
    let v ← wizchipGetnetmode b
    return (0, .netMode v)
  | .setTimeout arg => do
    globalLocked (wizchipSettimeoutLocked b arg)
    return (0, .nothing)
  | .getTimeout => do
    let v ← globalLocked (wizchipGettimeoutLocked b)
    return (0, .timeout v)
  | .other => return (-1, .nothing)

end IoLibrary
