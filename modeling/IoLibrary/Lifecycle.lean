import IoLibrary.Socket.Wait

/-! The lifecycle of the chip: wizchip_init, wizchip_sw_reset and the buffer sizes. -/
namespace IoLibrary
open Effects

/-- The buffer sizes the W5500 accepts, in KB. -/
def sizeKbValid (kb : ℕ) : Bool := kb = 0 || kb = 2 || kb = 4 || kb = 8 || kb = 16

/-- The check of a size array; the source tests the running total, which only grows. -/
def sizesValid (size : ℕ → ℕ) : Bool :=
  (List.range sockNum).all (fun i => sizeKbValid (size i)) &&
    ((List.range sockNum).map size).sum ≤ 16

/-- The two directions of a socket's buffer memory. -/
inductive Dir
  | tx
  | rx
  deriving DecidableEq, Repr

def Dir.sizeReg : Dir → ℕ → Addr
  | .tx => Reg.snTXBUFSIZE
  | .rx => Reg.snRXBUFSIZE

/-- wizchip_txmax_cache and wizchip_rxmax_cache -/
def Globals.maxCache (g : Globals) : Dir → ℕ → ℕ
  | .tx => g.txmaxCache
  | .rx => g.rxmaxCache

def Driver.setMax (m : Driver) (d : Dir) (sn v : ℕ) : Driver :=
  match d with
  | .tx => { m with txmaxCache := Function.update m.txmaxCache sn v }
  | .rx => { m with rxmaxCache := Function.update m.rxmaxCache sn v }

lemma maxCache_setMax (m : Driver) (d : Dir) (sn v : ℕ) (d' : Dir) (k : ℕ) :
    (m.setMax d sn v).maxCache d' k = if d' = d ∧ k = sn then v else m.maxCache d' k := by
  cases d <;> cases d' <;> by_cases h : k = sn <;>
    simp [Driver.setMax, Globals.maxCache, h]

def setBufSizeLocked (b : Build) (d : Dir) (sn sizeKb : ℕ) : Drv ℤ := do
  let result ← wizchipWrite8Checked b (d.sizeReg sn) (BitVec.ofNat 8 sizeKb)
  if result ≠ 0 then return result
  let (result, readback) ← wizchipRead8CheckedOut b (d.sizeReg sn)
  if result ≠ 0 then return result
  if readback ≠ BitVec.ofNat 8 sizeKb then return -1
  Prog.modify fun m => m.setMax d sn (sizeKb * 1024)
  return 0

/-- wizchip_set_buf_size -/
def wizchipSetBufSize (b : Build) (d : Dir) (sn sizeKb : ℕ) : Drv ℤ := do
  if sockNum ≤ sn ∨ ¬ sizeKbValid sizeKb then return -1
  globalLock
  let result ← setBufSizeLocked b d sn sizeKb
  globalUnlock
  return result

def wizchipSetTxBufSize (b : Build) (sn sizeKb : ℕ) : Drv ℤ := wizchipSetBufSize b .tx sn sizeKb
def wizchipSetRxBufSize (b : Build) (sn sizeKb : ℕ) : Drv ℤ := wizchipSetBufSize b .rx sn sizeKb

/-- One body for each socket, in ascending order, up to the first nonzero result. -/
def eachSocket (body : ℕ → Drv (Option ℤ)) : Drv (Option ℤ) := Prog.each body sockNum 0

def wizchipTransactionLock : Drv Unit := do
  globalLock
  let _ ← eachSocket fun sn => do
    sockLock sn
    return none
  return ()

/-- The socket locks are released in descending order. -/
def wizchipTransactionUnlock : Drv Unit := do
  let _ ← eachSocket fun i => do
    sockUnlock (sockNum - 1 - i)
    return none
  globalUnlock

def wizchipSocketStateResetOne (sn : ℕ) : Drv Unit :=
  if sn < sockNum then modifySock sn Sock.cleared else return ()

def wizchipSocketStateReset : Drv Unit := do
  let _ ← eachSocket fun sn => do
    modifySock sn Sock.cleared
    return none
  return ()

/-- The memory after wizchip_transaction_reset_socket_state. -/
def Driver.socketsReset (m : Driver) : Driver :=
  { m with
    sock := fun sn => if sn < sockNum then (m.sock sn).cleared else m.sock sn
    txmaxCache := fun sn => if sn < sockNum then 0 else m.txmaxCache sn
    rxmaxCache := fun sn => if sn < sockNum then 0 else m.rxmaxCache sn }

def wizchipTransactionBegin : Drv Unit := do
  wizchipTransactionLock
  Prog.modify fun m => { m with chipState := .uninit, chipLastError := 0 }
  Prog.modify Driver.socketsReset

def Driver.transactionFinished (ret : ℤ) (m : Driver) : Driver :=
  if ret = 0 then { m with chipState := .ready, chipLastError := 0 }
  else { m with
    chipState := .faulted
    chipLastError := if m.chipLastError = 0 then ret else m.chipLastError }

def wizchipTransactionFinish (ret : ℤ) : Drv ℤ := do
  wizchipTransactionUnlock
  Prog.modify (Driver.transactionFinished ret)
  return ret

/-- The capacity of a buffer whose size register holds `v`, as a uint16_t. -/
def capacity (v : Byte) : ℕ := v.toNat * 1024 % 65536

def wizchipRefreshSocketCaches (b : Build) : Drv (Option ℤ) :=
  eachSocket fun sn => do
    let (r, txSize) ← wizchipRead8CheckedOut b (Reg.snTXBUFSIZE sn)
    if r ≠ 0 then return some sockerrIo
    let (r, rxSize) ← wizchipRead8CheckedOut b (Reg.snRXBUFSIZE sn)
    if r ≠ 0 then return some sockerrIo
    Prog.modify fun m => m.setMax .tx sn (capacity txSize)
    Prog.modify fun m => m.setMax .rx sn (capacity rxSize)
    return none

/-- Poll VERSIONR until it reads 0x04; at most _WIZCHIP_POLL_MAX_ reads. -/
def versionWait (b : Build) : Drv ℤ :=
  Prog.loop (fun poll : ℕ => do
    let (r, version) ← wizchipRead8CheckedOut b Reg.versionr
    if r ≠ 0 then return .leave sockerrIo
    if version = 0x04 then return .leave 0
    if poll + 1 < pollMax then return .again (poll + 1)
    return .leave (-1)) b.turns 0

def wizchipSwResetLocked (b : Build) : Drv ℤ := do
  Prog.modify fun m => { m with previousLink := -1 }
  let (r, mac) ← wizchipReadBufChecked b Reg.shar 6
  if r ≠ 0 then return sockerrIo
  let (r, gw) ← wizchipReadBufChecked b Reg.gar 4
  if r ≠ 0 then return sockerrIo
  let (r, sn) ← wizchipReadBufChecked b Reg.subr 4
  if r ≠ 0 then return sockerrIo
  let (r, sip) ← wizchipReadBufChecked b Reg.sipr 4
  if r ≠ 0 then return sockerrIo
  let r ← wizchipWrite8Checked b Reg.mr mrRST
  if r ≠ 0 then return sockerrIo
  let (r, _) ← wizchipRead8CheckedOut b Reg.mr
  if r ≠ 0 then return sockerrIo
  let r ← wizchipWriteBufChecked b Reg.shar mac
  if r ≠ 0 then return sockerrIo
  let r ← wizchipWriteBufChecked b Reg.gar gw
  if r ≠ 0 then return sockerrIo
  let r ← wizchipWriteBufChecked b Reg.subr sn
  if r ≠ 0 then return sockerrIo
  let r ← wizchipWriteBufChecked b Reg.sipr sip
  if r ≠ 0 then return sockerrIo
  versionWait b

def wizchipSwReset (b : Build) : Drv ℤ := do
  wizchipTransactionBegin
  let ret ← wizchipSwResetLocked b
  if ret ≠ 0 then wizchipTransactionFinish ret
  else
    let r ← wizchipRefreshSocketCaches b
    wizchipTransactionFinish (r.getD 0)

/-- The loop of wizchip_init over one size array; a null array is skipped. -/
def writeSizes (b : Build) (d : Dir) (size : Option (ℕ → ℕ)) : Drv (Option ℤ) :=
  match size with
  | none => return none
  | some size => eachSocket fun sn => do
    let r ← wizchipWrite8Checked b (d.sizeReg sn) (BitVec.ofNat 8 (size sn))
    if r ≠ 0 then return some r
    Prog.modify fun m => m.setMax d sn (size sn * 1024)
    return none

/-- The last checks of wizchip_init: the version again, and the link state. -/
def initVerify (b : Build) : Drv ℤ := do
  let (r, version) ← wizchipRead8CheckedOut b Reg.versionr
  if r ≠ 0 then return r
  if version ≠ 0x04 then return -1
  let (r, phycfgr) ← wizchipRead8CheckedOut b Reg.phycfgr
  if r ≠ 0 then return sockerrIo
  Prog.modify fun m => { m with previousLink := if phycfgr &&& phycfgrLnkOn ≠ 0 then 1 else 0 }
  return 0

def initLocked (b : Build) (txsize rxsize : Option (ℕ → ℕ)) : Drv ℤ := do
  let r ← wizchipSwResetLocked b
  if r ≠ 0 then return r
  let r ← writeSizes b .tx txsize
  match r with
  | some r => return r
  | none =>
    let r ← writeSizes b .rx rxsize
    match r with
    | some r => return r
    | none => initVerify b

/-- The totals are tested once more under the locks by the source, which cannot fail
after the check on entry. -/
def wizchipInit (b : Build) (txsize rxsize : Option (ℕ → ℕ)) : Drv ℤ := do
  if ¬ txsize.all sizesValid then return -1
  if ¬ rxsize.all sizesValid then return -1
  wizchipTransactionBegin
  let ret ← initLocked b txsize rxsize
  wizchipTransactionFinish ret

/-- wizchip_recover; the status it clears is cleared again before every frame. -/
def wizchipRecover : Drv ℤ := do
  let m ← Prog.get
  if m.chipState = .ready then
    Prog.modify fun m => { m with chipLastError := 0 }
    return 0
  if m.chipState ≠ .faulted then return -1
  Prog.modify fun m => { m with chipLastError := 0, chipState := .ready }
  return 0

def wizchipMarkFaulted : Drv Unit := Prog.modify fun m => { m with chipState := .faulted }

end IoLibrary
