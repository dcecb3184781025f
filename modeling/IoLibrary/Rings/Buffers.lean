import IoLibrary.BufferMemory
import IoLibrary.Rings.Frames

/-! The socket buffers of the W5100, the W5100S and the W5200: regions of one memory, one after the
other, which the driver itself wraps around. -/
namespace IoLibrary.Rings
open Effects Spi
open BufferMemory (before before_succ before_mono)
open RingMemory (around Stored)

/-- _WIZCHIP_SOCK_NUM_ -/
def Chip.sockNum : Chip → ℕ
  | .w5100 | .w5100s => 4
  | .w5200 => 8

/-- The memory of each direction, in KB. -/
def Chip.memory : Chip → ℕ
  | .w5100 | .w5100s => 8
  | .w5200 => 16

/-- WIZCHIP_SREG_BLOCK -/
def Chip.sregBlock (chip : Chip) (sn : ℕ) : ℕ :=
  match chip with
  | .w5100 | .w5100s => 0x0400 + 0x0100 * sn
  | .w5200 => 0x4000 + 0x0100 * sn

/-- _WIZCHIP_IO_TXBUF_ and _WIZCHIP_IO_RXBUF_ -/
def Chip.buf : Chip → Dir → ℕ
  | .w5100, .tx | .w5100s, .tx => 0x4000
  | .w5100, .rx | .w5100s, .rx => 0x6000
  | .w5200, .tx => 0x8000
  | .w5200, .rx => 0xC000

/-- TMSR and RMSR, Sn_TXMEM_SIZE and Sn_RXMEM_SIZE -/
def Chip.memReg (chip : Chip) (d : Dir) (sn : ℕ) : ℕ :=
  match chip, d with
  | .w5100, .tx | .w5100s, .tx => 0x001B
  | .w5100, .rx | .w5100s, .rx => 0x001A
  | .w5200, .tx => chip.sregBlock sn + 0x001F
  | .w5200, .rx => chip.sregBlock sn + 0x001E

/-- Sn_TX_WR and Sn_RX_RD -/
def Chip.pointerReg (chip : Chip) (sn : ℕ) : Dir → ℕ
  | .tx => chip.sregBlock sn + 0x0024
  | .rx => chip.sregBlock sn + 0x0028

/-- getSn_TxMAX and getSn_RxMAX, of the size register's value -/
def Chip.max (chip : Chip) (sn : ℕ) (value : Byte) : BitVec 32 :=
  match chip with
  | .w5100 | .w5100s =>
    let size := (value.setWidth 32 &&& (0x03#32 <<< (2 * sn))) >>> (2 * sn)
    ((1#32 <<< size.toNat).setWidth 16).setWidth 32 <<< 10
  | .w5200 => (value.setWidth 16).setWidth 32 <<< 10

/-- getSn_TxMASK and getSn_RxMASK -/
def Chip.mask (chip : Chip) (max : BitVec 32) : BitVec 32 :=
  match chip with
  | .w5100 | .w5100s => max - 1
  | .w5200 => (max.setWidth 16).setWidth 32 - 1

/-- The type of getSn_TxBASE and getSn_RxBASE: 32 bits, on the W5200 16 bits. -/
def Chip.baseType : Chip → BitVec 32 → BitVec 32
  | .w5200, a => (a.setWidth 16).setWidth 32
  | _, a => a

/-- The type of dst_ptr and src_ptr: 16 bits, on the W5200 a pointer. -/
def Chip.ptrType : Chip → BitVec 32 → BitVec 32
  | .w5200, a => a
  | _, a => (a.setWidth 16).setWidth 32

section source
variable (chip : Chip) (c : Callbacks) (d : Dir) (sn : ℕ)

def readReg (a : ℕ) : Transfer Byte := wizchipRead c (BitVec.ofNat 32 a) chip
def writeReg (a : ℕ) (v : Byte) : Transfer Unit := wizchipWrite c (BitVec.ofNat 32 a) v chip

/-- getSn_TX_WR and getSn_RX_RD -/
def getPointer : Transfer (BitVec 16) := do
  let high ← readReg chip c (chip.pointerReg sn d)
  let low ← readReg chip c (chip.pointerReg sn d + 1)
  return (high.setWidth 16 <<< 8) + low.setWidth 16

/-- setSn_TX_WR and setSn_RX_RD -/
def setPointer (ptr : BitVec 16) : Transfer Unit := do
  writeReg chip c (chip.pointerReg sn d) ((ptr >>> 8).setWidth 8)
  writeReg chip c (chip.pointerReg sn d + 1) (ptr.setWidth 8)

def getMAX : Transfer (BitVec 32) := do
  let value ← readReg chip c (chip.memReg d sn)
  return chip.max sn value

def getMASK : Transfer (BitVec 32) := do
  let max ← getMAX chip c d sn
  return chip.mask max

/-- From socket `i` on, the maxima of `n` sockets are added. -/
def addMAX (base : BitVec 32) (i : ℕ) : ℕ → Transfer (BitVec 32)
  | 0 => return base
  | n + 1 => do
    let max ← getMAX chip c d i
    addMAX (chip.baseType (base + max)) (i + 1) n

/-- getSn_TxBASE and getSn_RxBASE -/
def getBASE : Transfer (BitVec 32) := addMAX chip c d (BitVec.ofNat 32 (chip.buf d)) 0 sn

/-- wiz_send_data -/
def wizSendData (wizdata : List Byte) : Transfer Unit := do
  let ptr ← getPointer chip c .tx sn
  let mask ← getMASK chip c .tx sn
  let dstMask : BitVec 16 := (ptr.setWidth 32 &&& mask).setWidth 16
  let base ← getBASE chip c .tx sn
  let dstPtr := chip.ptrType (base + dstMask.setWidth 32)
  let max ← getMAX chip c .tx sn
  if dstMask.toNat + wizdata.length > max.toNat then
    let max ← getMAX chip c .tx sn
    let size : BitVec 16 := (max - dstMask.setWidth 32).setWidth 16
    wizchipWriteBuf c dstPtr (wizdata.take size.toNat) chip
    let base ← getBASE chip c .tx sn
    wizchipWriteBuf c (chip.ptrType base) (wizdata.drop size.toNat) chip
  else wizchipWriteBuf c dstPtr wizdata chip
  setPointer chip c .tx sn (ptr + BitVec.ofNat 16 wizdata.length)

/-- wiz_recv_data -/
def wizRecvData (len : ℕ) : Transfer (List Byte) := do
  let ptr ← getPointer chip c .rx sn
  let mask ← getMASK chip c .rx sn
  let srcMask : BitVec 16 := (ptr.setWidth 32 &&& mask).setWidth 16
  let base ← getBASE chip c .rx sn
  let srcPtr := chip.ptrType (base + srcMask.setWidth 32)
  let max ← getMAX chip c .rx sn
  let wizdata ← do
    if srcMask.toNat + len > max.toNat then
      let max ← getMAX chip c .rx sn
      let size : BitVec 16 := (max - srcMask.setWidth 32).setWidth 16
      let first ← wizchipReadBuf c srcPtr size.toNat chip
      let base ← getBASE chip c .rx sn
      let rest ← wizchipReadBuf c (chip.ptrType base) (len - size.toNat) chip
      pure (first ++ rest)
    else wizchipReadBuf c srcPtr len chip
  setPointer chip c .rx sn (ptr + BitVec.ofNat 16 len)
  return wizdata

end source

/-- What the size register of a socket says, in KB. -/
def Chip.kb (chip : Chip) (d : Dir) (mem : ℕ → Byte) (sn : ℕ) : ℕ :=
  match chip with
  | .w5100 | .w5100s => 2 ^ ((mem (chip.memReg d sn)).toNat / 4 ^ sn % 4)
  | .w5200 => (mem (chip.memReg d sn)).toNat

/-- Buffer sizes, in KB, that fit the memory and that the size registers say. -/
structure Layout (chip : Chip) (d : Dir) (mem : ℕ → Byte) (size : ℕ → ℕ) : Prop where
  encoded : ∀ k < chip.sockNum, chip.kb d mem k = size k
  power : ∀ k < chip.sockNum, ∃ n, size k = 2 ^ n
  fits : before size chip.sockNum ≤ chip.memory

section registers
variable {chip : Chip} {c : Callbacks} {d : Dir} {sn : ℕ} {mem : ℕ → Byte} {size : ℕ → ℕ}

lemma sockNum_le : chip.sockNum ≤ 8 := by cases chip <;> decide

lemma memory_le : chip.memory ≤ 16 := by cases chip <;> decide

lemma Layout.pos (h : Layout chip d mem size) {k : ℕ} (hk : k < chip.sockNum) : 0 < size k := by
  obtain ⟨n, hn⟩ := h.power k hk
  rw [hn]
  exact Nat.two_pow_pos n

/-- A buffer ends within the memory of its direction. -/
lemma Layout.ends (h : Layout chip d mem size) {k : ℕ} (hk : k < chip.sockNum) :
    before size k + size k ≤ chip.memory := by
  rw [← before_succ]
  exact Nat.le_trans (before_mono hk) h.fits

lemma toNat_code : ∀ k < 4, ∀ value : Byte,
    ((((1#32 <<< ((value.setWidth 32 &&& (0x03#32 <<< (2 * k))) >>> (2 * k)).toNat).setWidth 16).setWidth 32 <<< 10 : BitVec 32)).toNat =
      1024 * 2 ^ (value.toNat / 4 ^ k % 4) := by decide

lemma toNat_kb : ∀ value : Byte, (((value.setWidth 16).setWidth 32 <<< 10 : BitVec 32)).toNat = 1024 * value.toNat := by
  decide

lemma toNat_max (d : Dir) (mem : ℕ → Byte) (hsn : sn < chip.sockNum) : (chip.max sn (mem (chip.memReg d sn))).toNat = 1024 * chip.kb d mem sn := by
  cases chip with
  | w5100 => exact toNat_code sn hsn _
  | w5100s => exact toNat_code sn hsn _
  | w5200 => exact toNat_kb _

lemma memReg_lt (hsn : sn < 8) : chip.memReg d sn < 65536 := by
  cases chip <;> cases d <;> simp only [Chip.memReg, Chip.sregBlock] <;> omega

lemma pointerReg_lt (hsn : sn < 8) : chip.pointerReg sn d + 1 < 65536 := by
  cases chip <;> cases d <;> simp only [Chip.pointerReg, Chip.sregBlock] <;> omega

lemma toNat_reg {a : ℕ} (ha : a < 65536) : (BitVec.ofNat 32 a).toNat % 65536 = a := by
  rw [BitVec.toNat_ofNat]
  omega

lemma exec_readReg {a : ℕ} (ha : a < 65536) :
    exec (bus chip) (readReg chip c a) () ⟨mem, []⟩ = (some (mem a), (), ⟨mem, []⟩) := by
  rw [readReg, exec_wizchipRead, toNat_reg ha]

lemma exec_writeReg {a : ℕ} (ha : a < 65536) (v : Byte) :
    exec (bus chip) (writeReg chip c a v) () ⟨mem, []⟩ = (some (), (), ⟨Function.update mem a v, []⟩) := by
  rw [writeReg, exec_wizchipWrite, toNat_reg ha]

/-- The value of Sn_TX_WR or Sn_RX_RD. -/
def Chip.pointer (chip : Chip) (d : Dir) (sn : ℕ) (mem : ℕ → Byte) : BitVec 16 :=
  mem (chip.pointerReg sn d) ++ mem (chip.pointerReg sn d + 1)

lemma append_eq_add : ∀ high low : Byte, (high.setWidth 16 <<< 8) + low.setWidth 16 = (high ++ low : BitVec 16) := by
  intro high low
  apply BitVec.eq_of_toNat_eq
  have hhigh := high.isLt
  have hlow := low.isLt
  rw [BitVec.toNat_append, BitVec.toNat_add, BitVec.toNat_shiftLeft, BitVec.toNat_setWidth, BitVec.toNat_setWidth,
    Nat.shiftLeft_eq, ← Nat.shiftLeft_add_eq_or_of_lt hlow, Nat.shiftLeft_eq]
  omega

lemma exec_getPointer (hsn : sn < chip.sockNum) :
    exec (bus chip) (getPointer chip c d sn) () ⟨mem, []⟩ = (some (chip.pointer d sn mem), (), ⟨mem, []⟩) := by
  have hreg : chip.pointerReg sn d + 1 < 65536 := pointerReg_lt (Nat.lt_of_lt_of_le hsn sockNum_le)
  refine (exec_bind (exec_readReg (Nat.lt_of_succ_lt hreg))).trans ((exec_bind (exec_readReg hreg)).trans ?_)
  rw [Chip.pointer, ← append_eq_add]
  rfl

lemma exec_getMAX (hsn : sn < chip.sockNum) : exec (bus chip) (getMAX chip c d sn) () ⟨mem, []⟩ =
    (some (chip.max sn (mem (chip.memReg d sn))), (), ⟨mem, []⟩) :=
  (exec_bind (exec_readReg (memReg_lt (Nat.lt_of_lt_of_le hsn sockNum_le)))).trans rfl

lemma exec_getMASK (hsn : sn < chip.sockNum) : exec (bus chip) (getMASK chip c d sn) () ⟨mem, []⟩ =
    (some (chip.mask (chip.max sn (mem (chip.memReg d sn)))), (), ⟨mem, []⟩) :=
  (exec_bind (exec_getMAX hsn)).trans rfl

/-- The driver's base is where the buffers of the sockets before it end. -/
lemma exec_addMAX (h : Layout chip d mem size) {base : BitVec 32} {i n : ℕ} (hn : i + n < chip.sockNum)
    (hbase : base.toNat = chip.buf d + 1024 * before size i) :
    ∃ base' : BitVec 32, exec (bus chip) (addMAX chip c d base i n) () ⟨mem, []⟩ = (some base', (), ⟨mem, []⟩) ∧
      base'.toNat = chip.buf d + 1024 * before size (i + n) := by
  induction n generalizing base i with
  | zero => exact ⟨base, rfl, hbase⟩
  | succ n ih =>
    have hi : i < chip.sockNum := by omega
    have hmax := toNat_max d mem hi
    rw [h.encoded i hi] at hmax
    have hnext : (chip.baseType (base + chip.max i (mem (chip.memReg d i)))).toNat =
        chip.buf d + 1024 * before size (i + 1) := by
      have hends := h.ends hi
      have hlast : before size i + size i < chip.memory := by
        have := h.ends (k := i + 1) (by omega)
        have := h.pos (k := i + 1) (by omega)
        rw [before_succ] at *
        omega
      rw [before_succ]
      cases chip <;> cases d <;>
        simp only [Chip.baseType, BitVec.toNat_setWidth, BitVec.toNat_add, hbase, hmax, Chip.buf, Chip.memory] at hlast ⊢ <;> omega
    obtain ⟨base', hrun, hbase'⟩ := ih (by omega) hnext
    refine ⟨base', (exec_bind (exec_getMAX hi)).trans hrun, ?_⟩
    rw [hbase', Nat.add_assoc, Nat.add_comm 1]

lemma exec_getBASE (h : Layout chip d mem size) (hsn : sn < chip.sockNum) :
    ∃ base : BitVec 32, exec (bus chip) (getBASE chip c d sn) () ⟨mem, []⟩ = (some base, (), ⟨mem, []⟩) ∧
      base.toNat = chip.buf d + 1024 * before size sn := by
  have hbuf : (BitVec.ofNat 32 (chip.buf d)).toNat = chip.buf d + 1024 * before size 0 := by
    cases chip <;> cases d <;> rfl
  have hrun := exec_addMAX (c := c) h (n := sn) (by omega) hbuf
  rwa [Nat.zero_add] at hrun

end registers

section regions
variable {chip : Chip} {c : Callbacks} {d : Dir} {sn : ℕ} {mem mem' : ℕ → Byte} {size : ℕ → ℕ}

/-- The first cell of a buffer. -/
def Chip.region (chip : Chip) (d : Dir) (size : ℕ → ℕ) (sn : ℕ) : ℕ := chip.buf d + 1024 * before size sn

lemma toNat_masked (h : Layout chip d mem size) (hsn : sn < chip.sockNum) (ptr : BitVec 16) :
    ((ptr.setWidth 32 &&& chip.mask (chip.max sn (mem (chip.memReg d sn)))).setWidth 16).toNat =
      ptr.toNat % (1024 * size sn) := by
  obtain ⟨n, hn⟩ := h.power sn hsn
  have hmax := toNat_max d mem hsn
  have hends := h.ends hsn
  have hmemory : chip.memory ≤ 16 := memory_le
  have hpos := h.pos hsn
  rw [h.encoded sn hsn] at hmax
  have hmask : (chip.mask (chip.max sn (mem (chip.memReg d sn)))).toNat = 1024 * size sn - 1 := by
    cases chip <;> simp only [Chip.mask, BitVec.toNat_sub, BitVec.toNat_setWidth, hmax] <;> simp <;> omega
  have hpow : 1024 * size sn = 2 ^ (n + 10) := by
    rw [hn, pow_add, Nat.mul_comm]
    rfl
  have hlt := ptr.isLt
  have hmod : ptr.toNat % (1024 * size sn) < 65536 := Nat.lt_of_le_of_lt (Nat.mod_le _ _) hlt
  rw [BitVec.toNat_setWidth, BitVec.toNat_and, hmask, BitVec.toNat_setWidth,
    Nat.mod_eq_of_lt (show ptr.toNat < 2 ^ 32 by omega), hpow, Nat.and_two_pow_sub_one_eq_mod, ← hpow,
    Nat.mod_eq_of_lt hmod]

/-- A buffer ends within the 64 KB that a frame can address. -/
lemma region_ends (h : Layout chip d mem size) (hsn : sn < chip.sockNum) :
    chip.region d size sn + 1024 * size sn ≤ 65536 := by
  have hends := h.ends hsn
  have hbuf : chip.buf d + 1024 * chip.memory ≤ 65536 := by cases chip <;> cases d <;> decide
  simp only [Chip.region]
  omega

/-- The buffers of two sockets have no cell in common. -/
lemma regions_disjoint {k i j : ℕ} (hne : k ≠ sn)
    (hi : i < 1024 * size sn) (hj : j < 1024 * size k) : chip.region d size sn + i ≠ chip.region d size k + j := by
  simp only [Chip.region]
  rcases Nat.lt_or_gt_of_ne hne with hlt | hlt
  · have hmono : before size (k + 1) ≤ before size sn := before_mono hlt
    rw [before_succ] at hmono
    omega
  · have hmono : before size (sn + 1) ≤ before size k := before_mono hlt
    rw [before_succ] at hmono
    omega

/-- The registers lie below the buffers. -/
lemma memReg_lt_buf (hsn : sn < 8) (d' : Dir) : chip.memReg d sn < chip.buf d' := by
  cases chip <;> cases d <;> cases d' <;> simp only [Chip.memReg, Chip.sregBlock, Chip.buf] <;> omega

lemma pointerReg_lt_buf (hsn : sn < 8) (d' : Dir) : chip.pointerReg sn d + 1 < chip.buf d' := by
  cases chip <;> cases d <;> cases d' <;> simp only [Chip.pointerReg, Chip.sregBlock, Chip.buf] <;> omega

lemma Layout.congr (h : Layout chip d mem size) (hmem : ∀ k < chip.sockNum, mem' (chip.memReg d k) = mem (chip.memReg d k)) :
    Layout chip d mem' size := by
  refine ⟨fun k hk => ?_, h.power, h.fits⟩
  rw [← h.encoded k hk]
  cases chip <;> simp only [Chip.kb, hmem k hk]

/-- The memory after the pointer of a socket has been set. -/
def Chip.pointed (chip : Chip) (d : Dir) (sn : ℕ) (mem : ℕ → Byte) (ptr : BitVec 16) : ℕ → Byte :=
  Function.update (Function.update mem (chip.pointerReg sn d) ((ptr >>> 8).setWidth 8)) (chip.pointerReg sn d + 1)
    (ptr.setWidth 8)

lemma exec_setPointer (hsn : sn < chip.sockNum) (ptr : BitVec 16) :
    exec (bus chip) (setPointer chip c d sn ptr) () ⟨mem, []⟩ = (some (), (), ⟨chip.pointed d sn mem ptr, []⟩) := by
  have hreg : chip.pointerReg sn d + 1 < 65536 := pointerReg_lt (Nat.lt_of_lt_of_le hsn sockNum_le)
  exact (exec_bind (exec_writeReg (Nat.lt_of_succ_lt hreg) _)).trans (exec_writeReg hreg _)

lemma pointer_pointed (ptr : BitVec 16) : chip.pointer d sn (chip.pointed d sn mem ptr) = ptr := by
  simp only [Chip.pointer, Chip.pointed, Function.update_self, Function.update_of_ne (Nat.succ_ne_self _).symm]
  apply BitVec.eq_of_toNat_eq
  rw [← append_eq_add, BitVec.toNat_add, BitVec.toNat_shiftLeft]
  simp only [BitVec.toNat_setWidth, BitVec.toNat_ushiftRight, Nat.shiftLeft_eq, Nat.shiftRight_eq_div_pow]
  have := ptr.isLt
  omega

lemma pointed_of_ne {a : ℕ} (ptr : BitVec 16) (ha : a ≠ chip.pointerReg sn d) (ha' : a ≠ chip.pointerReg sn d + 1) :
    chip.pointed d sn mem ptr a = mem a := by
  rw [Chip.pointed, Function.update_of_ne ha', Function.update_of_ne ha]

end regions

section transfers
variable {chip : Chip} {c : Callbacks} {d : Dir} {sn : ℕ} {mem mem' : ℕ → Byte} {size : ℕ → ℕ}

lemma size_le (h : Layout chip d mem size) (hsn : sn < chip.sockNum) : 1024 * size sn ≤ 16384 := by
  have hends := h.ends hsn
  have hmemory : chip.memory ≤ 16 := memory_le
  omega

lemma takes {len : ℕ} (h : Layout chip d mem size) (hsn : sn < chip.sockNum) (hlen : len ≤ 1024 * size sn) :
    chip.Takes len := fun _ => by
  have hsize := size_le h hsn
  omega

lemma toNat_ptr (h : Layout chip d mem size) (hsn : sn < chip.sockNum) {base : BitVec 32} {m : BitVec 16}
    (hbase : base.toNat = chip.region d size sn) (hm : m.toNat < 1024 * size sn) :
    (chip.ptrType (base + m.setWidth 32)).toNat = chip.region d size sn + m.toNat := by
  have hends := region_ends h hsn
  have hlt := m.isLt
  cases chip <;> simp only [Chip.ptrType, BitVec.toNat_setWidth, BitVec.toNat_add, hbase] <;> omega

lemma toNat_base (h : Layout chip d mem size) (hsn : sn < chip.sockNum) {base : BitVec 32}
    (hbase : base.toNat = chip.region d size sn) : (chip.ptrType base).toNat = chip.region d size sn := by
  have hends := region_ends h hsn
  have hpos := h.pos hsn
  cases chip <;> simp only [Chip.ptrType, BitVec.toNat_setWidth, hbase] <;> omega

/-- What is left of a buffer behind a place in it. -/
lemma toNat_size (h : Layout chip d mem size) (hsn : sn < chip.sockNum) {m : BitVec 16} (hm : m.toNat < 1024 * size sn) :
    ((chip.max sn (mem (chip.memReg d sn)) - m.setWidth 32).setWidth 16).toNat = 1024 * size sn - m.toNat := by
  have hmax := toNat_max d mem hsn
  have hsize := size_le h hsn
  rw [h.encoded sn hsn] at hmax
  rw [BitVec.toNat_setWidth, BitVec.toNat_sub, BitVec.toNat_setWidth, hmax]
  omega

/-- What a transfer computes first: the place of the pointer in the buffer, the buffer's size and its start. -/
lemma located (h : Layout chip d mem size) (hsn : sn < chip.sockNum) : ∃ (m : BitVec 16) (base : BitVec 32),
    m = ((chip.pointer d sn mem).setWidth 32 &&& chip.mask (chip.max sn (mem (chip.memReg d sn)))).setWidth 16 ∧
    m.toNat = (chip.pointer d sn mem).toNat % (1024 * size sn) ∧ m.toNat < 1024 * size sn ∧
    (chip.max sn (mem (chip.memReg d sn))).toNat = 1024 * size sn ∧
    exec (bus chip) (getBASE chip c d sn) () ⟨mem, []⟩ = (some base, (), ⟨mem, []⟩) ∧
    base.toNat = chip.region d size sn := by
  have hpos : 0 < 1024 * size sn := Nat.mul_pos (by decide) (h.pos hsn)
  have hmask := toNat_masked h hsn (chip.pointer d sn mem)
  have hmax := toNat_max d mem hsn
  rw [h.encoded sn hsn] at hmax
  obtain ⟨base, hgetBase, hbase⟩ := exec_getBASE (c := c) h hsn
  refine ⟨_, base, rfl, hmask, ?_, hmax, hgetBase, hbase⟩
  rw [hmask]
  exact Nat.mod_lt _ hpos

lemma exec_wizSendData (h : Layout chip .tx mem size) (hsn : sn < chip.sockNum) {wizdata : List Byte}
    (hlen : wizdata.length ≤ 1024 * size sn) :
    ∃ mem', Stored (1024 * size sn) (chip.region .tx size sn) (chip.pointer .tx sn mem).toNat wizdata mem mem' ∧
      exec (bus chip) (wizSendData chip c sn wizdata) () ⟨mem, []⟩ = (some (), (),
        ⟨chip.pointed .tx sn mem' (chip.pointer .tx sn mem + BitVec.ofNat 16 wizdata.length), []⟩) := by
  have hpos : 0 < 1024 * size sn := Nat.mul_pos (by decide) (h.pos hsn)
  have hends := region_ends h hsn
  obtain ⟨m, base, hm, hmask, hmlt, hmax, hgetBase, hbase⟩ := located (c := c) h hsn
  have hptr := toNat_ptr h hsn hbase hmlt
  by_cases hover : m.toNat + wizdata.length > 1024 * size sn
  · -- up to the end of the buffer, and then from its start on
    have hsize := toNat_size h hsn hmlt
    obtain ⟨mem₁, hmem₁⟩ : ∃ mem₁, mem₁ = RingMemory.store 65536 mem (chip.region .tx size sn + m.toNat)
      (wizdata.take (1024 * size sn - m.toNat)) := ⟨_, rfl⟩
    have hlow : ∀ k < chip.sockNum, mem₁ (chip.memReg .tx k) = mem (chip.memReg .tx k) := by
      intro k hk
      rw [hmem₁]
      refine RingMemory.store_of_outside mem _ fun i hi => ?_
      have hbelow : chip.memReg .tx k < chip.buf .tx := memReg_lt_buf (Nat.lt_of_lt_of_le hk sockNum_le) .tx
      rw [List.length_take] at hi
      rw [Nat.mod_eq_of_lt (by omega)]
      simp only [Chip.region]
      omega
    have h₁ := h.congr hlow
    obtain ⟨base₁, hgetBase₁, hbase₁⟩ := exec_getBASE (c := c) h₁ hsn
    have hptr₁ := toNat_base h₁ hsn hbase₁
    have htake : (wizdata.take (1024 * size sn - m.toNat)).length ≤ 1024 * size sn := by
      rw [List.length_take]
      omega
    have hdrop : (wizdata.drop (1024 * size sn - m.toNat)).length ≤ 1024 * size sn := by
      rw [List.length_drop]
      omega
    have hstored := RingMemory.stored_twice (N := 65536) (p := (chip.pointer .tx sn mem).toNat) mem hends hpos hlen
      (by omega)
    rw [← hmask] at hstored
    refine ⟨_, hstored, ?_⟩
    refine (exec_bind (exec_getPointer hsn)).trans ((exec_bind (exec_getMASK hsn)).trans ((exec_bind hgetBase).trans
      ((exec_bind (exec_getMAX hsn)).trans ?_)))
    rw [← hm, if_pos (by rw [hmax]; exact hover)]
    refine (exec_bind (exec_getMAX hsn)).trans ?_
    simp only [hsize]
    refine (exec_bind (exec_wizchipWriteBuf (takes h hsn htake))).trans ?_
    rw [hptr, ← hmem₁]
    refine (exec_bind hgetBase₁).trans ((exec_bind (exec_wizchipWriteBuf (takes h hsn hdrop))).trans ?_)
    rw [hptr₁]
    exact exec_setPointer hsn _
  · have hstored := RingMemory.stored_once (N := 65536) (p := (chip.pointer .tx sn mem).toNat) mem wizdata hends
      (by omega)
    rw [← hmask] at hstored
    refine ⟨_, hstored, ?_⟩
    refine (exec_bind (exec_getPointer hsn)).trans ((exec_bind (exec_getMASK hsn)).trans ((exec_bind hgetBase).trans
      ((exec_bind (exec_getMAX hsn)).trans ?_)))
    rw [← hm, if_neg (by rw [hmax]; exact hover)]
    refine (exec_bind (exec_wizchipWriteBuf (takes h hsn hlen))).trans ?_
    rw [hptr]
    exact exec_setPointer hsn _

lemma exec_wizRecvData (h : Layout chip .rx mem size) (hsn : sn < chip.sockNum) {len : ℕ} (hlen : len ≤ 1024 * size sn) :
    exec (bus chip) (wizRecvData chip c sn len) () ⟨mem, []⟩ =
      (some (around (1024 * size sn) (chip.region .rx size sn) mem (chip.pointer .rx sn mem).toNat len), (),
        ⟨chip.pointed .rx sn mem (chip.pointer .rx sn mem + BitVec.ofNat 16 len), []⟩) := by
  have hpos : 0 < 1024 * size sn := Nat.mul_pos (by decide) (h.pos hsn)
  have hends := region_ends h hsn
  obtain ⟨m, base, hm, hmask, hmlt, hmax, hgetBase, hbase⟩ := located (c := c) h hsn
  have hptr := toNat_ptr h hsn hbase hmlt
  refine (exec_bind (exec_getPointer hsn)).trans ((exec_bind (exec_getMASK hsn)).trans ((exec_bind hgetBase).trans
    ((exec_bind (exec_getMAX hsn)).trans ?_)))
  rw [← hm]
  by_cases hover : m.toNat + len > 1024 * size sn
  · have hsize := toNat_size h hsn hmlt
    have hcells := RingMemory.around_twice (N := 65536) (p := (chip.pointer .rx sn mem).toNat) mem hends hpos hlen
      (by omega)
    rw [← hmask] at hcells
    rw [if_pos (by rw [hmax]; exact hover)]
    refine (exec_bind (exec_getMAX hsn)).trans ?_
    simp only [hsize]
    refine (exec_bind (exec_wizchipReadBuf (takes h hsn (by omega)))).trans ((exec_bind hgetBase).trans
      ((exec_bind (exec_wizchipReadBuf (takes h hsn (by omega)))).trans ?_))
    rw [hptr, toNat_base h hsn hbase]
    refine (exec_bind (exec_setPointer hsn _)).trans ?_
    rw [← hcells]
    rfl
  · have hcells := RingMemory.around_once (N := 65536) (p := (chip.pointer .rx sn mem).toNat) mem hends
      (n := len) (by omega)
    rw [← hmask] at hcells
    rw [if_neg (by rw [hmax]; exact hover)]
    refine (exec_bind (exec_wizchipReadBuf (takes h hsn hlen))).trans ?_
    rw [hptr, hcells]
    exact exec_bind (exec_setPointer hsn _)

end transfers

/-- What wiz_send_data leaves: the data around the buffer from the old pointer on, the pointer behind
it, and all else as it was. -/
structure Sent (chip : Chip) (size : ℕ → ℕ) (sn : ℕ) (wizdata : List Byte) (mem mem' : ℕ → Byte) : Prop where
  bytes : around (1024 * size sn) (chip.region .tx size sn) mem' (chip.pointer .tx sn mem).toNat wizdata.length = wizdata
  kept : ∀ a, (∀ i < wizdata.length, a ≠ chip.region .tx size sn + ((chip.pointer .tx sn mem).toNat + i) % (1024 * size sn)) →
    a ≠ chip.pointerReg sn .tx → a ≠ chip.pointerReg sn .tx + 1 → mem' a = mem a
  others : ∀ k < chip.sockNum, k ≠ sn → ∀ j < 1024 * size k,
    mem' (chip.region .tx size k + j) = mem (chip.region .tx size k + j)
  pointer : chip.pointer .tx sn mem' = chip.pointer .tx sn mem + BitVec.ofNat 16 wizdata.length

/-- What wiz_recv_data returns and leaves. -/
structure Taken (chip : Chip) (size : ℕ → ℕ) (sn len : ℕ) (wizdata : List Byte) (mem mem' : ℕ → Byte) : Prop where
  bytes : wizdata = around (1024 * size sn) (chip.region .rx size sn) mem (chip.pointer .rx sn mem).toNat len
  kept : ∀ a, a ≠ chip.pointerReg sn .rx → a ≠ chip.pointerReg sn .rx + 1 → mem' a = mem a
  pointer : chip.pointer .rx sn mem' = chip.pointer .rx sn mem + BitVec.ofNat 16 len

/-- For every layout, every pointer and every length up to the size of the buffer. -/
theorem buffers_wrap (chip : Chip) (c : Callbacks) {sn : ℕ} {mem : ℕ → Byte} {txSize rxSize : ℕ → ℕ}
    (htx : Layout chip .tx mem txSize) (hrx : Layout chip .rx mem rxSize) (hsn : sn < chip.sockNum) :
    (∀ wizdata : List Byte, wizdata.length ≤ 1024 * txSize sn → ∃ mem',
      exec (bus chip) (wizSendData chip c sn wizdata) () ⟨mem, []⟩ = (some (), (), ⟨mem', []⟩) ∧
        Sent chip txSize sn wizdata mem mem') ∧
    ∀ len ≤ 1024 * rxSize sn, ∃ wizdata mem',
      exec (bus chip) (wizRecvData chip c sn len) () ⟨mem, []⟩ = (some wizdata, (), ⟨mem', []⟩) ∧
        Taken chip rxSize sn len wizdata mem mem' := by
  have hsn8 : sn < 8 := Nat.lt_of_lt_of_le hsn sockNum_le
  refine ⟨fun wizdata hlen => ?_, fun len hlen => ?_⟩
  · obtain ⟨mem', hstored, hrun⟩ := exec_wizSendData (c := c) htx hsn hlen
    have hbelow : chip.pointerReg sn .tx + 1 < chip.buf .tx := pointerReg_lt_buf hsn8 .tx
    have above {a : ℕ} (ha : chip.buf .tx ≤ a) (ptr : BitVec 16) : chip.pointed .tx sn mem' ptr a = mem' a :=
      pointed_of_ne ptr (by omega) (by omega)
    have hregion {k j : ℕ} : chip.buf .tx ≤ chip.region .tx txSize k + j := by
      simp only [Chip.region]
      omega
    refine ⟨_, hrun, ?_, fun a ha hp hp' => ?_, fun k hk hne j hj => ?_, pointer_pointed _⟩
    · refine Eq.trans (List.map_congr_left fun i _ => ?_) hstored.bytes
      exact above hregion _
    · rw [pointed_of_ne _ hp hp']
      exact hstored.kept a ha
    · rw [above hregion]
      exact hstored.kept _ fun i _ => (regions_disjoint hne (Nat.mod_lt _ (Nat.mul_pos (by decide) (htx.pos hsn))) hj).symm
  · exact ⟨_, _, exec_wizRecvData hrx hsn hlen, rfl, fun a => pointed_of_ne _, pointer_pointed _⟩

/-- A W5100 whose sockets have buffers of 2 KB, with the pointers of socket 0 one byte before their end. -/
def twoEach (a : ℕ) : Byte :=
  if a = 0x001A ∨ a = 0x001B then 0x55
  else if a = 0x0424 ∨ a = 0x0428 then 0x07
  else if a = 0x0425 ∨ a = 0x0429 then 0xFF
  else 0

lemma layout_twoEach (d : Dir) : Layout .w5100 d twoEach fun _ => 2 := by
  refine ⟨fun k hk => ?_, fun k _ => ⟨1, rfl⟩, by decide⟩
  have hk : k < 4 := hk
  cases d <;> interval_cases k <;> decide

theorem buffers_wrap_two : (∀ wizdata : List Byte, wizdata.length ≤ 1024 * 2 → ∃ mem',
      exec (bus .w5100) (wizSendData .w5100 ⟨false, false⟩ 0 wizdata) () ⟨twoEach, []⟩ = (some (), (), ⟨mem', []⟩) ∧
        Sent .w5100 (fun _ => 2) 0 wizdata twoEach mem') ∧
    ∀ len ≤ 1024 * 2, ∃ wizdata mem',
      exec (bus .w5100) (wizRecvData .w5100 ⟨false, false⟩ 0 len) () ⟨twoEach, []⟩ = (some wizdata, (), ⟨mem', []⟩) ∧
        Taken .w5100 (fun _ => 2) 0 len wizdata twoEach mem' :=
  buffers_wrap .w5100 ⟨false, false⟩ (layout_twoEach .tx) (layout_twoEach .rx) (by decide)

end IoLibrary.Rings
