import IoLibrary.Effects.Sampling
import IoLibrary.MessageBuffer
import IoLibrary.RingMemory

/-! The buffers of the W6300 over QSPI: wiz_send_data and wiz_recv_data of w6300.c against the chip. -/
namespace IoLibrary.W6300
open Effects RingMemory

/-- _WIZCHIP_QSPI_MODE_ -/
inductive QspiMode
  | single
  | dual
  | quad
  deriving DecidableEq, Repr

def QspiMode.bits : QspiMode → Byte
  | .single => 0x00
  | .dual => 0x40
  | .quad => 0x80

inductive Io
  | enter
  | exit
  | select
  | deselect
  | readQspi (opcode : Byte) (addr len : BitVec 16)
  | writeQspi (opcode : Byte) (addr : BitVec 16) (data : List Byte)

@[reducible] def Io.Res : Io → Type
  | .readQspi .. => List Byte
  | _ => Unit

abbrev Transfer := Prog Unit Io Io.Res

abbrev line (e : Io) : Transfer e.Res := Prog.perform e

/-- _W6300_SPI_READ_ and _W6300_SPI_WRITE_ -/
def spiRead : Byte := 0x00
def spiWrite : Byte := 0x20

def opcode (mode : QspiMode) (addrSel : BitVec 32) (access : Byte) : Byte :=
  (addrSel &&& 0x000000FF).setWidth 8 ||| access ||| mode.bits

def address (addrSel : BitVec 32) : BitVec 16 := ((addrSel &&& 0x00FFFF00) >>> 8).setWidth 16

/-- What lies between the begin and the end of the critical section and of the chip select. -/
def framed {α : Type} (frame : Transfer α) : Transfer α := do
  line .enter
  line .select
  let x ← frame
  line .deselect
  line .exit
  return x

def wizchipWrite (mode : QspiMode) (addrSel : BitVec 32) (wb : Byte) : Transfer Unit :=
  framed (line (.writeQspi (opcode mode addrSel spiWrite) (address addrSel) [wb]))

def wizchipRead (mode : QspiMode) (addrSel : BitVec 32) : Transfer Byte := do
  let ret ← framed (line (.readQspi (opcode mode addrSel spiRead) (address addrSel) 1))
  return ret.getD 0 0

def wizchipWriteBuf (mode : QspiMode) (addrSel : BitVec 32) (data : List Byte) : Transfer Unit :=
  framed (line (.writeQspi (opcode mode addrSel spiWrite) (address addrSel) data))

def wizchipReadBuf (mode : QspiMode) (addrSel : BitVec 32) (len : BitVec 16) : Transfer (List Byte) :=
  framed (line (.readQspi (opcode mode addrSel spiRead) (address addrSel) len))

/-- WIZCHIP_SREG_BLOCK, WIZCHIP_TXBUF_BLOCK and WIZCHIP_RXBUF_BLOCK -/
def sregBlock (sn : Fin 8) : BitVec 32 := BitVec.ofNat 32 (1 + 4 * sn)
def txbufBlock (sn : Fin 8) : BitVec 32 := BitVec.ofNat 32 (2 + 4 * sn)
def rxbufBlock (sn : Fin 8) : BitVec 32 := BitVec.ofNat 32 (3 + 4 * sn)

/-- WIZCHIP_OFFSET_INC -/
def offsetInc (addr n : BitVec 32) : BitVec 32 := addr + n <<< 8

def snTxWr (sn : Fin 8) : BitVec 32 := (0x020C <<< 8) + sregBlock sn
def snRxRd (sn : Fin 8) : BitVec 32 := (0x0228 <<< 8) + sregBlock sn

/-- getSn_TX_WR and getSn_RX_RD -/
def getPointer (mode : QspiMode) (reg : BitVec 32) : Transfer (BitVec 16) := do
  let hi ← wizchipRead mode reg
  let lo ← wizchipRead mode (offsetInc reg 1)
  return (hi.setWidth 16 <<< 8) + lo.setWidth 16

/-- setSn_TX_WR and setSn_RX_RD -/
def setPointer (mode : QspiMode) (reg : BitVec 32) (v : BitVec 16) : Transfer Unit := do
  wizchipWrite mode reg ((v >>> 8).setWidth 8)
  wizchipWrite mode (offsetInc reg 1) (v.setWidth 8)

def wizSendData (mode : QspiMode) (sn : Fin 8) (data : List Byte) : Transfer Unit := do
  let ptr ← getPointer mode (snTxWr sn)
  wizchipWriteBuf mode ((ptr.setWidth 32 <<< 8) + txbufBlock sn) data
  setPointer mode (snTxWr sn) (ptr + BitVec.ofNat 16 data.length)

def wizRecvData (mode : QspiMode) (sn : Fin 8) (len : BitVec 16) : Transfer (List Byte) := do
  if len = 0 then return []
  let ptr ← getPointer mode (snRxRd sn)
  let data ← wizchipReadBuf mode ((ptr.setWidth 32 <<< 8) + rxbufBlock sn) len
  setPointer mode (snRxRd sn) (ptr + len)
  return data

/-- The blocks of the chip, as an opcode has them. -/
def sreg (sn : Fin 8) : BitVec 5 := BitVec.ofNat 5 (1 + 4 * sn)
def txbuf (sn : Fin 8) : BitVec 5 := BitVec.ofNat 5 (2 + 4 * sn)
def rxbuf (sn : Fin 8) : BitVec 5 := BitVec.ofNat 5 (3 + 4 * sn)

/-- How many cells the blocks of the chip have: the buffers as they are configured, the others all 64 K. -/
structure Sizes where
  cells : BitVec 5 → ℕ
  divides : ∀ blk, cells blk ∣ 2 ^ 16
  registers : ∀ sn, cells (sreg sn) = 2 ^ 16
  tx : ∀ sn, cells (txbuf sn) < 2 ^ 16
  rx : ∀ sn, cells (rxbuf sn) < 2 ^ 16


abbrev Blocks := BitVec 5 → ℕ → Byte

def Sizes.read (size : Sizes) (mem : Blocks) (blk : BitVec 5) (off len : BitVec 16) : List Byte :=
  window (size.cells blk) (mem blk) off.toNat len.toNat

def Sizes.write (size : Sizes) (mem : Blocks) (blk : BitVec 5) (off : BitVec 16) (data : List Byte) : Blocks :=
  Function.update mem blk (store (size.cells blk) (mem blk) off.toNat data)

/-- The sizes after a reset. -/
def Sizes.reset : Sizes where
  cells blk := if blk.toNat % 4 = 2 ∨ blk.toNat % 4 = 3 then 4096 else 2 ^ 16
  divides blk := by
    split_ifs <;> decide
  registers := by decide
  tx := by decide
  rx := by decide

instance : Inhabited Sizes := ⟨.reset⟩

structure Chip where
  mem : Blocks
  selected : Bool
  inside : Bool

/-- Between the calls the chip is not selected and the critical section is left. -/
def Chip.idle (mem : Blocks) : Chip := ⟨mem, false, false⟩

/-- A chip answers the frames that come while it is selected: the low bits of the opcode are the block, bit 5 says
that it is written. -/
def chip (size : Sizes) : Handler Unit Chip Io Io.Res := fun _ w e =>
  match e with
  | .enter => ((), { w with inside := true })
  | .exit => ((), { w with inside := false })
  | .select => ((), { w with selected := true })
  | .deselect => ((), { w with selected := false })
  | .readQspi opcode addr len =>
    (if w.selected ∧ opcode.getLsbD 5 = false then size.read w.mem (opcode.setWidth 5) addr len
    else List.replicate len.toNat 0, w)
  | .writeQspi opcode addr data =>
    ((), if w.selected ∧ opcode.getLsbD 5 = true then
      { w with mem := size.write w.mem (opcode.setWidth 5) addr data }
    else w)

section frames
variable {size : Sizes} {mem mem' : Blocks} {mode : QspiMode} {blk : BitVec 5} {off : BitVec 16}

/-- An AddrSel, as the macros make it. -/
def sel (blk : BitVec 5) (off : BitVec 16) : BitVec 32 := (off.setWidth 32 <<< 8) + blk.setWidth 32

lemma toNat_sel (blk : BitVec 5) (off : BitVec 16) : (sel blk off).toNat = off.toNat * 256 + blk.toNat := by
  have hblk := blk.isLt
  have hoff := off.isLt
  simp only [sel, BitVec.toNat_add, BitVec.toNat_shiftLeft, BitVec.toNat_setWidth, Nat.shiftLeft_eq]
  omega

lemma address_sel (blk : BitVec 5) (off : BitVec 16) : address (sel blk off) = off := by
  apply BitVec.eq_of_toNat_eq
  have hblk := blk.isLt
  have hoff := off.isLt
  have hmask : (0x00FFFF00 : BitVec 32).toNat >>> 8 = 2 ^ 16 - 1 := by decide
  rw [address, BitVec.toNat_setWidth, BitVec.toNat_ushiftRight, BitVec.toNat_and, toNat_sel, Nat.shiftRight_and_distrib,
    hmask, Nat.and_two_pow_sub_one_eq_mod, Nat.shiftRight_eq_div_pow]
  omega

lemma low_sel (blk : BitVec 5) (off : BitVec 16) : (sel blk off &&& 0x000000FF).setWidth 8 = blk.setWidth 8 := by
  apply BitVec.eq_of_toNat_eq
  have hblk := blk.isLt
  have hmask : (0x000000FF : BitVec 32).toNat = 2 ^ 8 - 1 := by decide
  rw [BitVec.toNat_setWidth, BitVec.toNat_and, toNat_sel, hmask, Nat.and_two_pow_sub_one_eq_mod, BitVec.toNat_setWidth]
  omega

lemma block_opcode (access : Byte) (h : access = spiRead ∨ access = spiWrite) :
    (opcode mode (sel blk off) access).setWidth 5 = blk := by
  rw [opcode, low_sel]
  rcases h with rfl | rfl <;> cases mode <;> simp [spiRead, spiWrite, QspiMode.bits]

lemma opcode_read : (opcode mode (sel blk off) spiRead).getLsbD 5 = false := by
  rw [opcode, low_sel]
  cases mode <;> simp [spiRead, QspiMode.bits]

lemma opcode_write : (opcode mode (sel blk off) spiWrite).getLsbD 5 = true := by
  rw [opcode, low_sel]
  cases mode <;> simp [spiWrite, QspiMode.bits]

lemma exec_framed {α : Type} {frame : Transfer α} {x : α}
    (h : exec (chip size) frame () ⟨mem, true, true⟩ = (some x, (), ⟨mem', true, true⟩)) :
    exec (chip size) (framed frame) () (.idle mem) = (some x, (), .idle mem') := by
  have henter : exec (chip size) (line .enter) () (.idle mem) = (some (), (), ⟨mem, false, true⟩) := rfl
  have hselect : exec (chip size) (line .select) () ⟨mem, false, true⟩ = (some (), (), ⟨mem, true, true⟩) := rfl
  have hdeselect : exec (chip size) (line .deselect) () ⟨mem', true, true⟩ = (some (), (), ⟨mem', false, true⟩) := rfl
  have hexit : exec (chip size) (line .exit) () ⟨mem', false, true⟩ = (some (), (), .idle mem') := rfl
  rw [framed, exec_bind henter, exec_bind hselect, exec_bind h, exec_bind hdeselect, exec_bind hexit]
  rfl

lemma exec_wizchipReadBuf (len : BitVec 16) : exec (chip size) (wizchipReadBuf mode (sel blk off) len) () (.idle mem) =
    (some (size.read mem blk off len), (), .idle mem) := by
  refine exec_framed ?_
  show (some (if true = true ∧ (opcode mode (sel blk off) spiRead).getLsbD 5 = false then _ else _), (), _) = _
  rw [if_pos ⟨rfl, opcode_read⟩, block_opcode _ (.inl rfl), address_sel]
  rfl

lemma exec_writeQspi (data : List Byte) :
    exec (chip size) (framed (line (.writeQspi (opcode mode (sel blk off) spiWrite) (address (sel blk off)) data))) ()
      (.idle mem) = (some (), (), .idle (size.write mem blk off data)) := by
  refine exec_framed ?_
  show (some (), (), if true = true ∧ (opcode mode (sel blk off) spiWrite).getLsbD 5 = true then _ else _) = _
  rw [if_pos ⟨rfl, opcode_write⟩, block_opcode _ (.inr rfl), address_sel]

lemma exec_wizchipRead : exec (chip size) (wizchipRead mode (sel blk off)) () (.idle mem) =
    (some (mem blk (off.toNat % size.cells blk)), (), .idle mem) := exec_bind (exec_wizchipReadBuf 1)

lemma exec_wizchipWriteBuf (data : List Byte) : exec (chip size) (wizchipWriteBuf mode (sel blk off) data) () (.idle mem) =
    (some (), (), .idle (size.write mem blk off data)) := exec_writeQspi data

lemma exec_wizchipWrite (wb : Byte) : exec (chip size) (wizchipWrite mode (sel blk off) wb) () (.idle mem) =
    (some (), (), .idle (size.write mem blk off [wb])) := exec_writeQspi [wb]

end frames

section pointers
variable {size : Sizes} {mem : Blocks} {mode : QspiMode} {sn sn' : Fin 8} {off off' : BitVec 16} {blk : BitVec 5}
  {v : BitVec 16}

/-- A pointer register of a socket. -/
def pointer (mem : Blocks) (sn : Fin 8) (off : BitVec 16) : BitVec 16 :=
  ((mem (sreg sn) off.toNat).setWidth 16 <<< 8) + (mem (sreg sn) (off + 1).toNat).setWidth 16

def Sizes.setPointer (size : Sizes) (mem : Blocks) (sn : Fin 8) (off v : BitVec 16) : Blocks :=
  size.write (size.write mem (sreg sn) off [(v >>> 8).setWidth 8]) (sreg sn) (off + 1) [v.setWidth 8]

lemma write_sreg (b : Byte) : size.write mem (sreg sn) off [b] =
    Function.update mem (sreg sn) (Function.update (mem (sreg sn)) off.toNat b) := by
  rw [Sizes.write, store, store, size.registers, Nat.mod_eq_of_lt off.isLt]

lemma setPointer_eq : size.setPointer mem sn off v = Function.update mem (sreg sn)
    (Function.update (Function.update (mem (sreg sn)) off.toNat ((v >>> 8).setWidth 8)) (off + 1).toNat
      (v.setWidth 8)) := by
  rw [Sizes.setPointer, write_sreg, write_sreg, Function.update_self, Function.update_idem]

lemma setPointer_of_ne (h : blk ≠ sreg sn) : size.setPointer mem sn off v blk = mem blk := by
  rw [setPointer_eq, Function.update_of_ne h]

lemma pointer_setPointer : pointer (size.setPointer mem sn off v) sn off = v := by
  have hne : off.toNat ≠ (off + 1).toNat := by
    rw [BitVec.toNat_add]
    have := off.isLt
    simp
    omega
  rw [pointer, setPointer_eq, Function.update_self, Function.update_self, Function.update_of_ne hne, Function.update_self]
  apply BitVec.eq_of_toNat_eq
  have hv := v.isLt
  simp only [BitVec.toNat_add, BitVec.toNat_shiftLeft, BitVec.toNat_setWidth, BitVec.toNat_ushiftRight,
    Nat.shiftLeft_eq, Nat.shiftRight_eq_div_pow]
  omega

lemma sreg_injective : ∀ sn sn' : Fin 8, sreg sn = sreg sn' → sn = sn' := by decide

lemma pointer_write (h : blk ≠ sreg sn) (data : List Byte) :
    pointer (size.write mem blk off' data) sn off = pointer mem sn off := by
  rw [pointer, pointer, Sizes.write, Function.update_of_ne h.symm]

lemma pointer_setPointer_of_ne (h : sn ≠ sn') :
    pointer (size.setPointer mem sn off v) sn' off' = pointer mem sn' off' := by
  have hne : sreg sn' ≠ sreg sn := fun heq => h (sreg_injective _ _ heq).symm
  rw [pointer, pointer, setPointer_of_ne hne]

/-- Registers of one socket that do not overlap. -/
lemma pointer_setPointer_apart (h : ∀ i ∈ [0, 1], ∀ j ∈ [0, 1], (off' + i).toNat ≠ (off + j).toNat) :
    pointer (size.setPointer mem sn off v) sn off' = pointer mem sn off' := by
  have hone : (1 : BitVec 16) ∈ [0, 1] := List.mem_cons_of_mem _ List.mem_cons_self
  have h₀₀ : off'.toNat ≠ off.toNat := by simpa using h 0 List.mem_cons_self 0 List.mem_cons_self
  have h₀₁ : off'.toNat ≠ (off + 1).toNat := by simpa using h 0 List.mem_cons_self 1 hone
  have h₁₀ : (off' + 1).toNat ≠ off.toNat := by simpa using h 1 hone 0 List.mem_cons_self
  have h₁₁ : (off' + 1).toNat ≠ (off + 1).toNat := h 1 hone 1 hone
  rw [pointer, pointer, setPointer_eq, Function.update_self, Function.update_of_ne h₀₁, Function.update_of_ne h₀₀,
    Function.update_of_ne h₁₁, Function.update_of_ne h₁₀]

variable {reg : BitVec 32} (hreg : reg = sel (sreg sn) off) (hinc : offsetInc reg 1 = sel (sreg sn) (off + 1))
include hreg hinc

lemma exec_getPointer : exec (chip size) (getPointer mode reg) () (.idle mem) =
    (some (pointer mem sn off), (), .idle mem) := by
  have hcells := size.registers sn
  have hhi := @exec_wizchipRead size mem mode (sreg sn) off
  have hlo := @exec_wizchipRead size mem mode (sreg sn) (off + 1)
  rw [hcells, Nat.mod_eq_of_lt off.isLt, ← hreg] at hhi
  rw [hcells, Nat.mod_eq_of_lt (off + 1).isLt, ← hinc] at hlo
  rw [getPointer, exec_bind hhi, exec_bind hlo]
  rfl

lemma exec_setPointer : exec (chip size) (setPointer mode reg v) () (.idle mem) =
    (some (), (), .idle (size.setPointer mem sn off v)) := by
  rw [setPointer, hinc, hreg, exec_bind (exec_wizchipWrite _)]
  exact exec_wizchipWrite _

end pointers

section transfers
variable {size : Sizes} {mem : Blocks} {mode : QspiMode}

/-- The memory after wiz_send_data. -/
def Sizes.sent (size : Sizes) (mem : Blocks) (sn : Fin 8) (data : List Byte) : Blocks :=
  size.setPointer (size.write mem (txbuf sn) (pointer mem sn 0x020C) data) sn 0x020C
    (pointer mem sn 0x020C + BitVec.ofNat 16 data.length)

lemma snTxWr_eq : ∀ sn, snTxWr sn = sel (sreg sn) 0x020C ∧ offsetInc (snTxWr sn) 1 = sel (sreg sn) (0x020C + 1) := by
  decide

lemma snRxRd_eq : ∀ sn, snRxRd sn = sel (sreg sn) 0x0228 ∧ offsetInc (snRxRd sn) 1 = sel (sreg sn) (0x0228 + 1) := by
  decide

lemma block_eq : ∀ sn, txbufBlock sn = (txbuf sn).setWidth 32 ∧ rxbufBlock sn = (rxbuf sn).setWidth 32 := by decide

lemma exec_wizSendData (sn : Fin 8) (data : List Byte) : exec (chip size) (wizSendData mode sn data) () (.idle mem) =
    (some (), (), .idle (size.sent mem sn data)) := by
  obtain ⟨hreg, hinc⟩ := snTxWr_eq sn
  have hsel : ((pointer mem sn 0x020C).setWidth 32 <<< 8) + txbufBlock sn = sel (txbuf sn) (pointer mem sn 0x020C) := by
    rw [(block_eq sn).1]
    rfl
  rw [wizSendData, exec_bind (exec_getPointer hreg hinc), hsel, exec_bind (exec_wizchipWriteBuf data)]
  exact exec_setPointer hreg hinc

lemma exec_wizRecvData (sn : Fin 8) {len : BitVec 16} (hlen : len ≠ 0) :
    exec (chip size) (wizRecvData mode sn len) () (.idle mem) =
      (some (size.read mem (rxbuf sn) (pointer mem sn 0x0228) len), (),
        .idle (size.setPointer mem sn 0x0228 (pointer mem sn 0x0228 + len))) := by
  obtain ⟨hreg, hinc⟩ := snRxRd_eq sn
  have hsel : ((pointer mem sn 0x0228).setWidth 32 <<< 8) + rxbufBlock sn = sel (rxbuf sn) (pointer mem sn 0x0228) := by
    rw [(block_eq sn).2]
    rfl
  rw [wizRecvData, if_neg hlen, exec_bind (exec_getPointer hreg hinc), hsel, exec_bind (exec_wizchipReadBuf len),
    exec_bind (exec_setPointer hreg hinc)]
  rfl

end transfers

/-- The sockets of a chip and what has gone through them: the pointers that the chip moves, the bytes that the driver
was given to send and those that the chip has transmitted, the bytes that have arrived and those that the driver has
received. -/
structure Link where
  chip : Chip
  txRd : Fin 8 → BitVec 16
  rxWr : Fin 8 → BitVec 16
  accepted : Fin 8 → List Byte
  transmitted : Fin 8 → List Byte
  arrived : Fin 8 → List Byte
  received : Fin 8 → List Byte

inductive Event
  | send (sn : Fin 8) (data : List Byte)
  | transmit (sn : Fin 8) (k : ℕ)
  | arrive (sn : Fin 8) (data : List Byte)
  | recv (sn : Fin 8) (len : BitVec 16)

/-- What waits in the buffers of a socket. -/
def Link.txQueue (size : Sizes) (l : Link) (sn : Fin 8) : List Byte :=
  queue (size.cells (txbuf sn)) (l.chip.mem (txbuf sn)) (l.txRd sn) (pointer l.chip.mem sn 0x020C)

def Link.rxQueue (size : Sizes) (l : Link) (sn : Fin 8) : List Byte :=
  queue (size.cells (rxbuf sn)) (l.chip.mem (rxbuf sn)) (pointer l.chip.mem sn 0x0228) (l.rxWr sn)

/-- The driver sends what has room and receives what has arrived, as the calls above see to; the chip transmits what
waits, and takes what has room. What does not fit does not happen. -/
def Link.step (size : Sizes) (mode : QspiMode) (l : Link) : Event → Link
  | .send sn data =>
    if (l.txQueue size sn).length + data.length ≤ size.cells (txbuf sn) then
      { l with
        chip := (exec (W6300.chip size) (wizSendData mode sn data) () l.chip).2.2
        accepted := Function.update l.accepted sn (l.accepted sn ++ data) }
    else l
  | .transmit sn k =>
    if k ≤ (l.txQueue size sn).length then
      { l with
        txRd := Function.update l.txRd sn (l.txRd sn + BitVec.ofNat 16 k)
        transmitted := Function.update l.transmitted sn (l.transmitted sn ++ (l.txQueue size sn).take k) }
    else l
  | .arrive sn data =>
    if (l.rxQueue size sn).length + data.length ≤ size.cells (rxbuf sn) then
      { l with
        chip := { l.chip with mem := size.write l.chip.mem (rxbuf sn) (l.rxWr sn) data }
        rxWr := Function.update l.rxWr sn (l.rxWr sn + BitVec.ofNat 16 data.length)
        arrived := Function.update l.arrived sn (l.arrived sn ++ data) }
    else l
  | .recv sn len =>
    if len.toNat ≤ (l.rxQueue size sn).length then
      { l with
        chip := (exec (W6300.chip size) (wizRecvData mode sn len) () l.chip).2.2
        received := Function.update l.received sn
          (l.received sn ++ ((exec (W6300.chip size) (wizRecvData mode sn len) () l.chip).1.getD [])) }
    else l

/-- Each buffer is a queue: what has gone in is what has come out and what waits. -/
structure Link.Lossless (size : Sizes) (l : Link) : Prop where
  idle : l.chip = .idle l.chip.mem
  tx : ∀ sn, l.accepted sn = l.transmitted sn ++ l.txQueue size sn
  rx : ∀ sn, l.arrived sn = l.received sn ++ l.rxQueue size sn

section blocks

lemma txbuf_injective : ∀ sn sn' : Fin 8, txbuf sn = txbuf sn' → sn = sn' := by decide
lemma rxbuf_injective : ∀ sn sn' : Fin 8, rxbuf sn = rxbuf sn' → sn = sn' := by decide
lemma txbuf_ne_sreg : ∀ sn sn' : Fin 8, txbuf sn ≠ sreg sn' := by decide
lemma rxbuf_ne_sreg : ∀ sn sn' : Fin 8, rxbuf sn ≠ sreg sn' := by decide
lemma txbuf_ne_rxbuf : ∀ sn sn' : Fin 8, txbuf sn ≠ rxbuf sn' := by decide

end blocks

section steps
variable {size : Sizes} {mode : QspiMode} {l : Link} {mem : Blocks} {sn sn' : Fin 8} {data : List Byte}

lemma sent_txbuf : size.sent mem sn data (txbuf sn) =
    store (size.cells (txbuf sn)) (mem (txbuf sn)) (pointer mem sn 0x020C).toNat data := by
  rw [Sizes.sent, setPointer_of_ne (txbuf_ne_sreg sn sn), Sizes.write, Function.update_self]

lemma sent_of_ne {blk : BitVec 5} (htx : blk ≠ txbuf sn) (hreg : blk ≠ sreg sn) : size.sent mem sn data blk = mem blk := by
  rw [Sizes.sent, setPointer_of_ne hreg, Sizes.write, Function.update_of_ne htx]

lemma pointer_sent : pointer (size.sent mem sn data) sn 0x020C =
    pointer mem sn 0x020C + BitVec.ofNat 16 data.length := pointer_setPointer

lemma pointers_apart : ∀ i ∈ [0, 1], ∀ j ∈ [0, 1], ((0x0228 : BitVec 16) + i).toNat ≠ ((0x020C : BitVec 16) + j).toNat := by
  simp only [List.forall_mem_cons, List.not_mem_nil, false_imp_iff, implies_true, and_true]
  decide

lemma pointer_sent_rx : pointer (size.sent mem sn data) sn 0x0228 = pointer mem sn 0x0228 := by
  rw [Sizes.sent, pointer_setPointer_apart pointers_apart, pointer_write (txbuf_ne_sreg sn sn)]

lemma pointer_sent_of_ne (h : sn ≠ sn') (off : BitVec 16) :
    pointer (size.sent mem sn data) sn' off = pointer mem sn' off := by
  rw [Sizes.sent, pointer_setPointer_of_ne h, pointer_write (txbuf_ne_sreg sn sn')]

lemma lossless_send (h : l.Lossless size) : (l.step size mode (.send sn data)).Lossless size := by
  rw [Link.step]
  split_ifs with hroom
  · have hexec : (exec (chip size) (wizSendData mode sn data) () l.chip).2.2 = .idle (size.sent l.chip.mem sn data) := by
      conv_lhs => rw [h.idle, exec_wizSendData]
    rw [hexec]
    rw [Link.txQueue, length_queue] at hroom
    refine ⟨rfl, fun sn' => ?_, fun sn' => ?_⟩
    · rw [Link.txQueue]
      simp only [Chip.idle]
      by_cases hsn : sn = sn'
      · subst hsn
        rw [Function.update_self, h.tx sn, List.append_assoc, sent_txbuf, pointer_sent,
          queue_store (size.divides _) (size.tx sn) _ hroom]
        rfl
      · have hne : txbuf sn' ≠ txbuf sn := fun heq => hsn (txbuf_injective _ _ heq).symm
        rw [Function.update_of_ne (Ne.symm hsn), sent_of_ne hne (txbuf_ne_sreg sn' sn), pointer_sent_of_ne hsn]
        exact h.tx sn'
    · rw [Link.rxQueue]
      simp only [Chip.idle]
      have hrx : pointer (size.sent l.chip.mem sn data) sn' 0x0228 = pointer l.chip.mem sn' 0x0228 := by
        by_cases hsn : sn = sn'
        · subst hsn
          exact pointer_sent_rx
        · exact pointer_sent_of_ne hsn _
      rw [sent_of_ne (txbuf_ne_rxbuf sn sn').symm (rxbuf_ne_sreg sn' sn), hrx]
      exact h.rx sn'
  · exact h

lemma lossless_transmit (h : l.Lossless size) (k : ℕ) : (l.step size mode (.transmit sn k)).Lossless size := by
  rw [Link.step]
  split_ifs with hk
  · refine ⟨h.idle, fun sn' => ?_, h.rx⟩
    by_cases hsn : sn = sn'
    · subst hsn
      rw [Link.txQueue, length_queue] at hk
      have hqueue := queue_advance (size.divides (txbuf sn)) (l.chip.mem (txbuf sn)) hk
      simp only [Link.txQueue, Function.update_self]
      rw [hqueue, List.append_assoc, List.take_append_drop]
      exact h.tx sn
    · simp only [Link.txQueue, Function.update_of_ne (Ne.symm hsn)]
      exact h.tx sn'
  · exact h

lemma lossless_arrive (h : l.Lossless size) : (l.step size mode (.arrive sn data)).Lossless size := by
  rw [Link.step]
  split_ifs with hroom
  · rw [Link.rxQueue, length_queue] at hroom
    refine ⟨?_, fun sn' => ?_, fun sn' => ?_⟩
    · rw [h.idle]
      rfl
    · rw [Link.txQueue]
      simp only
      rw [pointer_write (rxbuf_ne_sreg sn sn'), Sizes.write, Function.update_of_ne (txbuf_ne_rxbuf sn' sn)]
      exact h.tx sn'
    · rw [Link.rxQueue]
      simp only
      rw [pointer_write (rxbuf_ne_sreg sn sn'), Sizes.write]
      by_cases hsn : sn = sn'
      · subst hsn
        rw [Function.update_self, Function.update_self, Function.update_self,
          queue_store (size.divides _) (size.rx sn) _ hroom, h.rx sn, List.append_assoc]
        rfl
      · have hne : rxbuf sn' ≠ rxbuf sn := fun heq => hsn (rxbuf_injective _ _ heq).symm
        rw [Function.update_of_ne (Ne.symm hsn), Function.update_of_ne (Ne.symm hsn), Function.update_of_ne hne]
        exact h.rx sn'
  · exact h

lemma lossless_recv (h : l.Lossless size) (len : BitVec 16) : (l.step size mode (.recv sn len)).Lossless size := by
  rw [Link.step]
  split_ifs with hlen
  · by_cases hzero : len = 0
    · have hexec : exec (chip size) (wizRecvData mode sn len) () l.chip = (some [], (), l.chip) := by
        rw [wizRecvData, if_pos hzero]
        rfl
      rw [hexec]
      simpa using h
    · have hexec : exec (chip size) (wizRecvData mode sn len) () l.chip =
          (some (size.read l.chip.mem (rxbuf sn) (pointer l.chip.mem sn 0x0228) len), (),
            .idle (size.setPointer l.chip.mem sn 0x0228 (pointer l.chip.mem sn 0x0228 + len))) := by
        conv_lhs => rw [h.idle, exec_wizRecvData sn hzero]
      rw [hexec]
      rw [Link.rxQueue, length_queue] at hlen
      refine ⟨rfl, fun sn' => ?_, fun sn' => ?_⟩
      · have htx : pointer (size.setPointer l.chip.mem sn 0x0228 (pointer l.chip.mem sn 0x0228 + len)) sn' 0x020C =
            pointer l.chip.mem sn' 0x020C := by
          by_cases hsn : sn = sn'
          · subst hsn
            exact pointer_setPointer_apart fun i hi j hj => (pointers_apart j hj i hi).symm
          · exact pointer_setPointer_of_ne hsn
        simp only [Link.txQueue, Chip.idle]
        rw [setPointer_of_ne (txbuf_ne_sreg sn' sn), htx]
        exact h.tx sn'
      · simp only [Link.rxQueue, Chip.idle]
        rw [setPointer_of_ne (rxbuf_ne_sreg sn' sn)]
        by_cases hsn : sn = sn'
        · subst hsn
          have hqueue := queue_advance (size.divides (rxbuf sn)) (l.chip.mem (rxbuf sn)) hlen
          rw [BitVec.ofNat_toNat, BitVec.setWidth_eq] at hqueue
          have htake : size.read l.chip.mem (rxbuf sn) (pointer l.chip.mem sn 0x0228) len =
              (queue (size.cells (rxbuf sn)) (l.chip.mem (rxbuf sn)) (pointer l.chip.mem sn 0x0228) (l.rxWr sn)).take
                len.toNat := by
            rw [Sizes.read, queue, ← take_window _ _ hlen]
          rw [pointer_setPointer, Function.update_self, hqueue, Option.getD_some, htake, List.append_assoc,
            List.take_append_drop]
          exact h.rx sn
        · rw [pointer_setPointer_of_ne hsn, Function.update_of_ne (Ne.symm hsn)]
          exact h.rx sn'
  · exact h

/-- Over any sequence of calls of wiz_send_data and wiz_recv_data on any sockets, with what the chip transmits and
takes between them, no byte is lost, repeated or moved to another socket, wherever the pointers wrap: what a socket was
given to send is what has been transmitted and what waits in its buffer, and what has arrived at it is what has been
received and what waits. -/
theorem run_lossless (size : Sizes) (mode : QspiMode) (mem : Blocks) (events : List Event) :
    (events.foldl (Link.step size mode) ⟨.idle mem, fun sn => pointer mem sn 0x020C, fun sn => pointer mem sn 0x0228,
      fun _ => [], fun _ => [], fun _ => [], fun _ => []⟩).Lossless size := by
  have hrun : ∀ (events : List Event) (l : Link), l.Lossless size →
      (events.foldl (Link.step size mode) l).Lossless size := by
    intro events
    induction events with
    | nil => exact fun _ h => h
    | cons event events ih =>
      intro l h
      refine ih _ ?_
      cases event with
      | send sn data => exact lossless_send h
      | transmit sn k => exact lossless_transmit h k
      | arrive sn data => exact lossless_arrive h
      | recv sn len => exact lossless_recv h len
  refine hrun events _ ⟨rfl, fun sn => ?_, fun sn => ?_⟩
  · simp [Link.txQueue, queue, window, Chip.idle]
  · simp [Link.rxQueue, queue, window, Chip.idle]

end steps

end IoLibrary.W6300
