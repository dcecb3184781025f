import Mathlib.Data.BitVec
import Mathlib.Data.Int.Notation
import Mathlib.Logic.Function.Basic
import Mathlib.Tactic.Common

/-! The W5500 address space and the constants of w5500.h and socket.h. An address is
a 16-bit offset in one of the blocks selected by the control byte of a frame. -/
namespace IoLibrary

abbrev Byte := BitVec 8

instance : LawfulBEq Byte := inferInstance

inductive Block
  | common
  | socket (n : ℕ)
  | txBuf (n : ℕ)
  | rxBuf (n : ℕ)
  deriving DecidableEq, Repr

/-- WIZCHIP_CREG_BLOCK, WIZCHIP_SREG_BLOCK, WIZCHIP_TXBUF_BLOCK and WIZCHIP_RXBUF_BLOCK. -/
def Block.code : Block → ℕ
  | .common => 0
  | .socket n => 1 + 4 * n
  | .txBuf n => 2 + 4 * n
  | .rxBuf n => 3 + 4 * n

structure Addr where
  offset : ℕ
  block : Block
  deriving DecidableEq, Repr

/-- The 32-bit `AddrSel` of the source: offset in bits 23..8, block in bits 7..3. -/
def Addr.sel (a : Addr) : ℕ := (a.offset <<< 8) + (a.block.code <<< 3)

namespace Reg

def mr : Addr := ⟨0x0000, .common⟩
def gar : Addr := ⟨0x0001, .common⟩
def subr : Addr := ⟨0x0005, .common⟩
def shar : Addr := ⟨0x0009, .common⟩
def sipr : Addr := ⟨0x000F, .common⟩
def intlevel : Addr := ⟨0x0013, .common⟩
def ir : Addr := ⟨0x0015, .common⟩
def imr : Addr := ⟨0x0016, .common⟩
def simr : Addr := ⟨0x0018, .common⟩
def rtr : Addr := ⟨0x0019, .common⟩
def rcr : Addr := ⟨0x001B, .common⟩
def phycfgr : Addr := ⟨0x002E, .common⟩
def versionr : Addr := ⟨0x0039, .common⟩

def snMR (n : ℕ) : Addr := ⟨0x0000, .socket n⟩
def snCR (n : ℕ) : Addr := ⟨0x0001, .socket n⟩
def snIR (n : ℕ) : Addr := ⟨0x0002, .socket n⟩
def snSR (n : ℕ) : Addr := ⟨0x0003, .socket n⟩
def snPORT (n : ℕ) : Addr := ⟨0x0004, .socket n⟩
def snDIPR (n : ℕ) : Addr := ⟨0x000C, .socket n⟩
def snDPORT (n : ℕ) : Addr := ⟨0x0010, .socket n⟩
def snMSSR (n : ℕ) : Addr := ⟨0x0012, .socket n⟩
def snTOS (n : ℕ) : Addr := ⟨0x0015, .socket n⟩
def snTTL (n : ℕ) : Addr := ⟨0x0016, .socket n⟩
def snRXBUFSIZE (n : ℕ) : Addr := ⟨0x001E, .socket n⟩
def snTXBUFSIZE (n : ℕ) : Addr := ⟨0x001F, .socket n⟩
def snTXFSR (n : ℕ) : Addr := ⟨0x0020, .socket n⟩
def snTXWR (n : ℕ) : Addr := ⟨0x0024, .socket n⟩
def snRXRSR (n : ℕ) : Addr := ⟨0x0026, .socket n⟩
def snRXRD (n : ℕ) : Addr := ⟨0x0028, .socket n⟩
def snIMR (n : ℕ) : Addr := ⟨0x002C, .socket n⟩
def snKPALVTR (n : ℕ) : Addr := ⟨0x002F, .socket n⟩

end Reg

/-- _WIZCHIP_SOCK_NUM_ -/
def sockNum : ℕ := 8

/-- _WIZCHIP_POLL_MAX_; wizchip_conf.h defines it before w5500.h can. -/
def pollMax : ℕ := 100000

def mrRST : Byte := 0x80

/-- PHYCFGR_RST is the complement of this bit in the source. -/
def wizphyRstBit : Byte := 0x80
def phycfgrOpmd : Byte := 0x40
def phycfgrOpmdcAlla : Byte := 0x38
def phycfgrOpmdcPdown : Byte := 0x30
def phycfgrOpmdc100FA : Byte := 0x20
def phycfgrOpmdc100F : Byte := 0x18
def phycfgrOpmdc100H : Byte := 0x10
def phycfgrOpmdc10F : Byte := 0x08
def phycfgrOpmdc10H : Byte := 0x00
def phycfgrDpxFull : Byte := 0x04
def phycfgrSpd100 : Byte := 0x02
def phycfgrLnkOn : Byte := 0x01

def snMrMulti : Byte := 0x80
def snMrBcastb : Byte := 0x40
def snMrNd : Byte := 0x20
def snMrUcastb : Byte := 0x10
def snMrMacraw : Byte := 0x04
def snMrIpraw : Byte := 0x03
def snMrUdp : Byte := 0x02
def snMrTcp : Byte := 0x01
def snMrMfen : Byte := snMrMulti
def snMrMmb : Byte := snMrNd
def snMrMip6b : Byte := snMrUcastb
def snMrMc : Byte := snMrNd
/-- Sn_MR_IPRAW6, defined by socket.c for every chip. -/
def snMrIpraw6 : Byte := 0x0B
def snMrUdp6 : Byte := 0x0A

def snCrOpen : Byte := 0x01
def snCrListen : Byte := 0x02
def snCrConnect : Byte := 0x04
def snCrDiscon : Byte := 0x08
def snCrClose : Byte := 0x10
def snCrSend : Byte := 0x20
def snCrSendKeep : Byte := 0x22
def snCrRecv : Byte := 0x40

def snIrSendok : Byte := 0x10
def snIrTimeout : Byte := 0x08

def sockClosed : Byte := 0x00
def sockInit : Byte := 0x13
def sockListen : Byte := 0x14
def sockEstablished : Byte := 0x17
def sockCloseWait : Byte := 0x1C
def sockUdp : Byte := 0x22
def sockIpraw : Byte := 0x32
def sockMacraw : Byte := 0x42

def sfIgmpVer2 : Byte := snMrMc
def sfMultiEnable : Byte := snMrMulti
def sfUniBlock : Byte := snMrUcastb
def sfIoNonblock : Byte := 0x01
def sfTcpValidMask : Byte := snMrNd ||| sfIoNonblock
def sfUdpValidMask : Byte :=
  sfIgmpVer2 ||| sfMultiEnable ||| snMrBcastb ||| sfUniBlock ||| sfIoNonblock
def sfMacrawValidMask : Byte := snMrMfen ||| snMrBcastb ||| snMrMmb ||| snMrMip6b ||| sfIoNonblock
def sfIprawValidMask : Byte := sfIoNonblock

def packFirst : Byte := 0x80
def packRemained : Byte := 0x01
def packCompleted : Byte := 0x00
def packNone : Byte := 0x00

def sikAll : Byte := 0x1F

def sockOk : ℤ := 1
def sockBusy : ℤ := 0
def sockerrSocknum : ℤ := -1
def sockerrSockopt : ℤ := -2
def sockerrSockinit : ℤ := -3
def sockerrSockclosed : ℤ := -4
def sockerrSockmode : ℤ := -5
def sockerrSockflag : ℤ := -6
def sockerrSockstatus : ℤ := -7
def sockerrArg : ℤ := -10
def sockerrPortzero : ℤ := -11
def sockerrIpinvalid : ℤ := -12
def sockerrTimeout : ℤ := -13
def sockerrDeadline : ℤ := -16
def sockerrIo : ℤ := -3
def sockerrNotready : ℤ := -4
def sockfatalPacklen : ℤ := -1001

/-- The two bytes of a 16-bit register, high byte first. -/
def bytes16 (v : ℕ) : List Byte := [BitVec.ofNat 8 (v / 256), BitVec.ofNat 8 v]

def byteAt (l : List Byte) (i : ℕ) : Byte := l.getD i 0

/-- `len` bytes as a frame answers them, from a list of at least as many. -/
def frameBytes (len : ℕ) (l : List Byte) : Vector Byte len := .ofFn fun i => byteAt l i

lemma toList_frameBytes {len : ℕ} {l : List Byte} (hl : l.length = len) : (frameBytes len l).toList = l := by
  apply List.ext_getElem
  · rw [Vector.length_toList, hl]
  · intro i hi hi'
    simp [frameBytes, byteAt, hi']

@[simp] lemma toList_frameBytes_two (v : ℕ) : (frameBytes 2 (bytes16 v)).toList = bytes16 v := rfl

def word16 (hi lo : Byte) : ℕ := hi.toNat * 256 + lo.toNat

lemma word16_bytes16 {v : ℕ} (hv : v < 65536) :
    word16 (BitVec.ofNat 8 (v / 256)) (BitVec.ofNat 8 v) = v := by
  simp only [word16, BitVec.toNat_ofNat]
  omega

/-- Two bytes read as a register hold the value whose bytes they are. -/
lemma three_lt_four : 3 < 4 := by decide

lemma word16_of_toList {x : Vector Byte 2} {v : ℕ} (hx : x.toList = bytes16 v) (hv : v < 65536) :
    word16 x[0] x[1] = v := by
  have h₀ : x.toList[0]? = some (BitVec.ofNat 8 (v / 256)) := by rw [hx]; rfl
  have h₁ : x.toList[1]? = some (BitVec.ofNat 8 v) := by rw [hx]; rfl
  simp only [Vector.getElem?_toList, Vector.getElem?_eq_getElem, Nat.lt_add_one, Nat.zero_lt_two,
    Option.some.injEq] at h₀ h₁
  rw [h₀, h₁, word16_bytes16 hv]

lemma word16_lt (hi lo : Byte) : word16 hi lo < 65536 := by
  have := hi.isLt
  have := lo.isLt
  simp only [word16]
  omega

end IoLibrary
