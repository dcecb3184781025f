import IoLibrary.Effects.Results
import IoLibrary.Lifecycle

/-! wizchip_init in the build for each chip: the checks of the two size arrays, the size registers and
the capacity caches. -/
namespace IoLibrary.Layout
open Effects

/-- _WIZCHIP_ -/
inductive Chip
  | w5100
  | w5100s
  | w5200
  | w5300
  | w5500
  | w6100
  | w6300
  deriving DecidableEq, Repr

/-- _WIZCHIP_ < W5200 -/
def Chip.belowW5200 : Chip → Bool
  | .w5100 | .w5100s => true
  | _ => false

/-- _WIZCHIP_SOCK_NUM_ -/
def Chip.sockNum (c : Chip) : ℕ := if c.belowW5200 then 4 else 8

/-- The chip as wizchip_init uses it. The software reset is one call; `load i` reads txsize[i] through a
null pointer. -/
inductive Io
  | lock
  | unlock
  | swReset
  | read (d : Dir) (r : ℕ)
  | write (d : Dir) (r : ℕ) (v : Byte)
  | read16 (d : Dir) (r : ℕ)
  | write16 (d : Dir) (r : ℕ) (v : BitVec 16)
  | writeChecked (d : Dir) (r : ℕ) (v : Byte)
  | version
  | phycfgr
  | load (i : ℕ)

@[reducible] def Io.Res : Io → Type
  | .swReset | .writeChecked _ _ _ => ℤ
  | .read _ _ | .load _ => Byte
  | .read16 _ _ => BitVec 16
  | .version | .phycfgr => ℤ × Byte
  | .lock | .unlock | .write _ _ _ | .write16 _ _ _ => Unit

abbrev Drv := Prog Driver Io Io.Res

abbrev ask (e : Io) : Drv e.Res := Prog.perform e

/-- The sizes that the check on entry lets pass, in KB. -/
def sizeKbValid (c : Chip) (kb : ℕ) : Bool :=
  kb = 0 || kb = 1 && c ≠ .w5500 || kb = 2 || kb = 4 || kb = 8 || kb = 16

/-- The running total of `n` sizes from `i`: none when a size is not valid or the total passes the limit. -/
def total (valid : ℕ → Bool) (limit : ℕ) (size : ℕ → ℕ) : ℕ → ℕ → ℕ → Option ℕ
  | 0, _, sum => some sum
  | n + 1, i, sum =>
    if valid (size i) ∧ sum + size i ≤ limit then total valid limit size n (i + 1) (sum + size i) else none

def sizesValid (c : Chip) (size : ℕ → ℕ) : Bool := (total (sizeKbValid c) 16 size c.sockNum 0 0).isSome

/-- The check under the locks. The totals that get here fit an int8_t. -/
def chipTotal (c : Chip) (size : ℕ → ℕ) : Option ℕ :=
  match c with
  | .w5300 => (total (· ≤ 64) 128 size c.sockNum 0 0).filter (· % 8 = 0)
  | .w5100 | .w5100s => total (fun _ => true) 8 size c.sockNum 0 0
  | .w6300 => total (fun _ => true) 32 size c.sockNum 0 0
  | .w5200 | .w5500 | .w6100 => total (fun _ => true) 16 size c.sockNum 0 0

section program
variable (c : Chip) (turns : ℕ) (txsize rxsize : Option (ℕ → ℕ))

def txsizeAt (i : ℕ) : Drv ℕ :=
  match txsize with
  | some size => return size i
  | none => do
    let v ← ask (.load i)
    return v.toNat

/-- The code of a size of 2 ^ j KB. The loops for both arrays test txsize for a zero. -/
def sizeCode (i kb : ℕ) : Drv ℕ :=
  Prog.loop (fun j : ℕ => do
    if kb >>> j = 1 then return .leave j
    let tx ← txsizeAt txsize i
    if tx = 0 then return .leave j
    return .again (j + 1)) turns 0

/-- setSn_TXBUF_SIZE and setSn_RXBUF_SIZE; the W5500 build checks the write and sets its cache. -/
def setSnBufSize (d : Dir) (i kb : ℕ) : Drv (Option ℤ) :=
  match c with
  | .w5100 | .w5100s => do
    let j ← sizeCode turns txsize i kb
    let reg ← ask (.read d 0)
    ask (.write d 0 (reg &&& ~~~((0x03 : Byte) <<< (2 * i)) ||| BitVec.ofNat 8 j <<< (2 * i)))
    return none
  | .w5300 => do
    let mem ← ask (.read16 d (i / 2))
    let kb : BitVec 16 := BitVec.ofNat 16 kb
    ask (.write16 d (i / 2) (if i % 2 = 1 then mem &&& 0xFF00 ||| kb &&& 0x00FF else mem &&& 0x00FF ||| kb <<< 8))
    return none
  | .w5500 => do
    let r ← ask (.writeChecked d i (BitVec.ofNat 8 kb))
    if r ≠ 0 then return some r
    Prog.modify fun m => m.setMax d i (kb * 1024)
    return none
  | .w5200 | .w6100 | .w6300 => do
    ask (.write d i (BitVec.ofNat 8 kb))
    return none

/-- The part of wizchip_init for one array; `.ok` has the value of tmp behind it. -/
def writeSizes (d : Dir) (size : Option (ℕ → ℕ)) (tmp : ℤ) : Drv (Except ℤ ℤ) :=
  match size with
  | none => return .ok tmp
  | some size =>
    match chipTotal c size with
    | none => return .error (-1)
    | some sum => do
      match ← Prog.each (fun i => setSnBufSize c turns txsize d i (size i)) c.sockNum 0 with
      | some r => return .error r
      | none => return .ok (if c = .w5500 then 0 else sum)

/-- The last checks of the W5500 build. -/
def initVerify : Drv ℤ := do
  let (r, version) ← ask .version
  if r ≠ 0 then return r
  if version ≠ 0x04 then return -1
  let (r, phycfgr) ← ask .phycfgr
  if r ≠ 0 then return sockerrIo
  Prog.modify fun m => { m with previousLink := if phycfgr &&& phycfgrLnkOn ≠ 0 then 1 else 0 }
  return 0

def wizchipSwResetLocked : Drv ℤ := do
  Prog.modify fun m => { m with previousLink := -1 }
  ask .swReset

def initLocked : Drv ℤ := do
  let tmp ← wizchipSwResetLocked
  if tmp ≠ 0 then return tmp
  match ← writeSizes c turns txsize .tx txsize tmp with
  | .error r => return r
  | .ok tmp =>
    match ← writeSizes c turns txsize .rx rxsize tmp with
    | .error r => return r
    | .ok tmp => if c = .w5500 then initVerify else return tmp

/-- The memory after wizchip_transaction_reset_socket_state. -/
def socketsReset (m : Driver) : Driver :=
  { m with
    sock := fun sn => if sn < c.sockNum then (m.sock sn).cleared else m.sock sn
    txmaxCache := fun sn => if sn < c.sockNum then 0 else m.txmaxCache sn
    rxmaxCache := fun sn => if sn < c.sockNum then 0 else m.rxmaxCache sn }

def wizchipTransactionBegin : Drv Unit := do
  ask .lock
  Prog.modify fun m => { m with chipState := .uninit, chipLastError := 0 }
  Prog.modify (socketsReset c)

def wizchipTransactionFinish (ret : ℤ) : Drv ℤ := do
  ask .unlock
  Prog.modify (Driver.transactionFinished ret)
  return ret

def wizchipInit : Drv ℤ := do
  if ¬ txsize.all (sizesValid c) then return -1
  if ¬ rxsize.all (sizesValid c) then return -1
  wizchipTransactionBegin c
  let ret ← initLocked c turns txsize rxsize
  wizchipTransactionFinish ret

end program

end IoLibrary.Layout
