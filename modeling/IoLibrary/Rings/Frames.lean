import IoLibrary.Effects.Sampling
import IoLibrary.RingMemory
import IoLibrary.Spi.Bus
import Mathlib.Tactic.IntervalCases

/-! The SPI frames of w5100.c, w5100s.c and w5200.c, against chips that decode them byte by byte
and know nothing of the driver. -/
namespace IoLibrary.Rings
open Effects Spi

inductive Chip
  | w5100
  | w5100s
  | w5200
  deriving DecidableEq, Repr

abbrev Transfer := Prog Unit BusIo BusIo.Res

abbrev line (e : BusIo) : Transfer e.Res := Prog.perform e

def writeBytes : List Byte → Transfer Unit
  | [] => return ()
  | v :: data => do
    line (.writeByte v)
    writeBytes data

def readBytes : ℕ → Transfer (List Byte)
  | 0 => return []
  | n + 1 => do
    let v ← line .readByte
    let rest ← readBytes n
    return v :: rest

def highByte (addrSel : BitVec 32) : Byte := ((addrSel &&& 0xFF00) >>> 8).setWidth 8
def lowByte (addrSel : BitVec 32) : Byte := (addrSel &&& 0x00FF).setWidth 8

section frames
variable (c : Callbacks) (addrSel : BitVec 32)

/-- WIZCHIP_WRITE -/
def wizchipWrite (wb : Byte) : Chip → Transfer Unit
  | .w5100 => do
    line .enter
    line .select
    line (.writeByte 0xF0)
    line (.writeByte (highByte addrSel))
    line (.writeByte (lowByte addrSel))
    line (.writeByte wb)
    line .deselect
    line .exit
  | .w5100s => do
    line .enter
    line .select
    if ¬ c.writeBurst then
      line (.writeByte 0xF0)
      line (.writeByte (highByte addrSel))
      line (.writeByte (lowByte addrSel))
      line (.writeByte wb)
    else line (.writeBurst [0xF0, highByte addrSel, lowByte addrSel, wb])
    line .deselect
    line .exit
  | .w5200 => do
    line .enter
    line .select
    line (.writeByte (highByte addrSel))
    line (.writeByte (lowByte addrSel))
    line (.writeByte 0x80)
    line (.writeByte 0x01)
    line (.writeByte wb)
    line .deselect
    line .exit

/-- WIZCHIP_READ -/
def wizchipRead : Chip → Transfer Byte
  | .w5100 => do
    line .enter
    line .select
    line (.writeByte 0x0F)
    line (.writeByte (highByte addrSel))
    line (.writeByte (lowByte addrSel))
    let ret ← line .readByte
    line .deselect
    line .exit
    return ret
  | .w5100s => do
    line .enter
    line .select
    if ¬ c.readBurst ∨ ¬ c.writeBurst then
      line (.writeByte 0x0F)
      line (.writeByte (highByte addrSel))
      line (.writeByte (lowByte addrSel))
    else line (.writeBurst [0x0F, highByte addrSel, lowByte addrSel])
    let ret ← line .readByte
    line .deselect
    line .exit
    return ret
  | .w5200 => do
    line .enter
    line .select
    line (.writeByte (highByte addrSel))
    line (.writeByte (lowByte addrSel))
    line (.writeByte 0x00)
    line (.writeByte 0x01)
    let ret ← line .readByte
    line .deselect
    line .exit
    return ret

/-- One frame of the W5100 for each byte, from byte `i` on. -/
def writeFrames (i : ℕ) : List Byte → Transfer Unit
  | [] => return ()
  | v :: data => do
    line .select
    line (.writeByte 0xF0)
    line (.writeByte (highByte (addrSel + BitVec.ofNat 32 i)))
    line (.writeByte (lowByte (addrSel + BitVec.ofNat 32 i)))
    line (.writeByte v)
    line .deselect
    writeFrames (i + 1) data

def readFrames (i : ℕ) : ℕ → Transfer (List Byte)
  | 0 => return []
  | n + 1 => do
    line .select
    line (.writeByte 0x0F)
    line (.writeByte (highByte (addrSel + BitVec.ofNat 32 i)))
    line (.writeByte (lowByte (addrSel + BitVec.ofNat 32 i)))
    let v ← line .readByte
    line .deselect
    let rest ← readFrames (i + 1) n
    return v :: rest

/-- The bytes of the W5200 that give the length of a frame. -/
def lengthHigh (len : ℕ) : Byte := ((BitVec.ofNat 16 len &&& 0x7F00) >>> 8).setWidth 8
def lengthLow (len : ℕ) : Byte := (BitVec.ofNat 16 len &&& 0x00FF).setWidth 8

/-- WIZCHIP_WRITE_BUF -/
def wizchipWriteBuf (pBuf : List Byte) : Chip → Transfer Unit
  | .w5100 => do
    line .enter
    line .select
    writeFrames addrSel 0 pBuf
    line .deselect
    line .exit
  | .w5100s => do
    line .enter
    line .select
    if ¬ c.writeBurst then
      line (.writeByte 0xF0)
      line (.writeByte (highByte addrSel))
      line (.writeByte (lowByte addrSel))
      writeBytes pBuf
    else
      line (.writeBurst [0xF0, highByte addrSel, lowByte addrSel])
      line (.writeBurst pBuf)
    line .deselect
    line .exit
  | .w5200 => do
    line .enter
    line .select
    line (.writeByte (highByte addrSel))
    line (.writeByte (lowByte addrSel))
    line (.writeByte (0x80 ||| lengthHigh pBuf.length))
    line (.writeByte (lengthLow pBuf.length))
    writeBytes pBuf
    line .deselect
    line .exit

/-- WIZCHIP_READ_BUF -/
def wizchipReadBuf (len : ℕ) : Chip → Transfer (List Byte)
  | .w5100 => do
    line .enter
    line .select
    let pBuf ← readFrames addrSel 0 len
    line .deselect
    line .exit
    return pBuf
  | .w5100s => do
    line .enter
    line .select
    let pBuf ← do
      if ¬ c.readBurst ∨ ¬ c.writeBurst then
        line (.writeByte 0x0F)
        line (.writeByte (highByte addrSel))
        line (.writeByte (lowByte addrSel))
        readBytes len
      else
        line (.writeBurst [0x0F, highByte addrSel, lowByte addrSel])
        let data ← line (.readBurst len)
        pure data.toList
    line .deselect
    line .exit
    return pBuf
  | .w5200 => do
    line .enter
    line .select
    line (.writeByte (highByte addrSel))
    line (.writeByte (lowByte addrSel))
    line (.writeByte (0x00 ||| lengthHigh len))
    line (.writeByte (lengthLow len))
    let pBuf ← readBytes len
    line .deselect
    line .exit
    return pBuf

end frames

/-- What the next byte of a frame is for. -/
inductive Access
  | none
  | write (a : ℕ)
  | read (a : ℕ)

def opcode (op : Byte) (a : ℕ) : Access := if op = 0xF0 then .write a else if op = 0x0F then .read a else .none

/-- After the bytes that have been clocked since the select. A frame of the W5100 has one data byte,
those of the W5100S and the W5200 go on to the next address, on the W5200 up to their length. -/
def Chip.access : Chip → List Byte → Access
  | .w5100, [op, high, low] => opcode op (word16 high low)
  | .w5100s, op :: high :: low :: data => opcode op ((word16 high low + data.length) % 65536)
  | .w5200, high :: low :: control :: len :: data =>
    if data.length < word16 (control &&& 0x7F) len then
      if control.msb then .write ((word16 high low + data.length) % 65536)
      else .read ((word16 high low + data.length) % 65536)
    else .none
  | _, _ => .none

/-- The cells of a chip, and the bytes that have been clocked since the select. -/
structure Board where
  mem : ℕ → Byte
  frame : List Byte

def Board.mosi (chip : Chip) (b : Board) (v : Byte) : Board :=
  match chip.access b.frame with
  | .write a => ⟨Function.update b.mem a v, b.frame ++ [v]⟩
  | _ => ⟨b.mem, b.frame ++ [v]⟩

def Board.miso (chip : Chip) (b : Board) : Byte :=
  match chip.access b.frame with
  | .read a => b.mem a
  | _ => 0

def Board.sent (chip : Chip) (b : Board) (data : List Byte) : Board := data.foldl (Board.mosi chip) b

def Board.answered (chip : Chip) (b : Board) : ℕ → List Byte × Board
  | 0 => ([], b)
  | n + 1 =>
    let rest := Board.answered chip ⟨b.mem, b.frame ++ [b.miso chip]⟩ n
    (b.miso chip :: rest.1, rest.2)

/-- The bus to such a chip. A burst is its bytes, one after the other. -/
def bus (chip : Chip) : Handler Unit Board BusIo BusIo.Res := fun _ b e =>
  match e with
  | .select | .deselect => ((), ⟨b.mem, []⟩)
  | .writeByte v => ((), b.mosi chip v)
  | .writeBurst data => ((), b.sent chip data)
  | .readByte => (b.miso chip, ⟨b.mem, b.frame ++ [b.miso chip]⟩)
  | .readBurst len => (frameBytes len (b.answered chip len).1, (b.answered chip len).2)
  | .checkBusy | .checkError => (false, b)
  | .enter | .exit | .clear => ((), b)

section bytes

lemma highByte_eq (addrSel : BitVec 32) : highByte addrSel = (addrSel >>> 8).setWidth 8 := by
  apply BitVec.eq_of_getLsbD_eq
  intro i hi
  interval_cases i <;> simp [highByte]

lemma lowByte_eq (addrSel : BitVec 32) : lowByte addrSel = addrSel.setWidth 8 := by
  apply BitVec.eq_of_getLsbD_eq
  intro i hi
  interval_cases i <;> simp [lowByte]

/-- A chip sees the low 16 bits of an address. -/
lemma word16_address (addrSel : BitVec 32) :
    word16 (highByte addrSel) (lowByte addrSel) = addrSel.toNat % 65536 := by
  rw [highByte_eq, lowByte_eq, word16, BitVec.toNat_setWidth, BitVec.toNat_setWidth, BitVec.toNat_ushiftRight,
    Nat.shiftRight_eq_div_pow]
  omega

/-- The bit that gives the direction is free. -/
lemma toNat_lengthHigh {len : ℕ} (hlen : len < 2 ^ 15) : (lengthHigh len).toNat = len / 256 := by
  have htop : (BitVec.ofNat 16 len)[15] = false := by
    rw [← BitVec.getLsbD_eq_getElem, BitVec.getLsbD_ofNat, Nat.testBit_lt_two_pow hlen, Bool.and_false]
  have hbits : lengthHigh len = (BitVec.ofNat 16 len >>> 8).setWidth 8 := by
    apply BitVec.eq_of_getLsbD_eq
    intro i hi
    interval_cases i <;> simp [lengthHigh, htop]
  rw [hbits, BitVec.toNat_setWidth, BitVec.toNat_ushiftRight, BitVec.toNat_ofNat, Nat.shiftRight_eq_div_pow]
  omega

lemma toNat_lengthLow (len : ℕ) : (lengthLow len).toNat = len % 256 := by
  have hbits : lengthLow len = (BitVec.ofNat 16 len).setWidth 8 := by
    apply BitVec.eq_of_getLsbD_eq
    intro i hi
    interval_cases i <;> simp [lengthLow]
  rw [hbits, BitVec.toNat_setWidth, BitVec.toNat_ofNat]
  omega

lemma control_write : ∀ high : Byte, high.toNat < 128 →
    (0x80 ||| high).msb = true ∧ ((0x80 ||| high) &&& 0x7F) = high := by decide

lemma control_read : ∀ high : Byte, high.toNat < 128 →
    (0x00 ||| high).msb = false ∧ ((0x00 ||| high) &&& 0x7F) = high := by decide

lemma word16_length {len : ℕ} (hlen : len < 2 ^ 15) : word16 (lengthHigh len) (lengthLow len) = len := by
  rw [word16, toNat_lengthHigh hlen, toNat_lengthLow]
  omega

end bytes

section streams
variable {chip : Chip} {mem : ℕ → Byte} {header done data : List Byte} {a n : ℕ}

/-- Up to `n` bytes after the header of a frame go to the addresses from `a` on. -/
def Writes (chip : Chip) (header : List Byte) (a n : ℕ) : Prop :=
  ∀ done : List Byte, done.length < n → chip.access (header ++ done) = .write ((a + done.length) % 65536)

def Reads (chip : Chip) (header : List Byte) (a n : ℕ) : Prop :=
  ∀ done : List Byte, done.length < n → chip.access (header ++ done) = .read ((a + done.length) % 65536)

lemma sent_data (mem : ℕ → Byte) (done data : List Byte) (h : Writes chip header a n) (hn : done.length + data.length ≤ n) :
    Board.sent chip ⟨mem, header ++ done⟩ data =
      ⟨RingMemory.store 65536 mem (a + done.length) data, header ++ done ++ data⟩ := by
  induction data generalizing mem done with
  | nil => simp [Board.sent, RingMemory.store]
  | cons v data ih =>
    rw [List.length_cons] at hn
    have hstep : Board.mosi chip ⟨mem, header ++ done⟩ v =
        ⟨Function.update mem ((a + done.length) % 65536) v, header ++ (done ++ [v])⟩ := by
      rw [Board.mosi, h done (by omega), List.append_assoc]
    have hrest := ih (Function.update mem ((a + done.length) % 65536) v) (done ++ [v])
      (by rw [List.length_append, List.length_singleton]; omega)
    change Board.sent chip (Board.mosi chip ⟨mem, header ++ done⟩ v) data = _
    rw [hstep, hrest, RingMemory.store, List.length_append, List.length_singleton, Nat.add_assoc]
    simp only [List.append_assoc, List.singleton_append]

lemma answered_data (mem : ℕ → Byte) (done : List Byte) (h : Reads chip header a n) {k : ℕ} (hn : done.length + k ≤ n) :
    ∃ frame, Board.answered chip ⟨mem, header ++ done⟩ k =
      (RingMemory.window 65536 mem (a + done.length) k, ⟨mem, frame⟩) := by
  induction k generalizing done with
  | zero => exact ⟨_, rfl⟩
  | succ k ih =>
    have hcell : Board.miso chip ⟨mem, header ++ done⟩ = mem ((a + done.length) % 65536) := by
      rw [Board.miso, h done (by omega)]
    obtain ⟨frame, hrest⟩ := ih (done ++ [mem ((a + done.length) % 65536)])
      (by rw [List.length_append, List.length_singleton]; omega)
    refine ⟨frame, ?_⟩
    rw [Board.answered, hcell, List.append_assoc, hrest, RingMemory.window_cons, List.length_append,
      List.length_singleton, Nat.add_assoc]

lemma exec_writeBytes (b : Board) (data : List Byte) :
    exec (bus chip) (writeBytes data) () b = (some (), (), b.sent chip data) := by
  induction data generalizing b with
  | nil => rfl
  | cons v data ih => exact ih (b.mosi chip v)

lemma exec_readBytes (b : Board) (n : ℕ) :
    exec (bus chip) (readBytes n) () b = (some (b.answered chip n).1, (), (b.answered chip n).2) := by
  induction n generalizing b with
  | zero => rfl
  | succ n ih => exact exec_bind (ih ⟨b.mem, b.frame ++ [b.miso chip]⟩)

end streams

section headers
variable (addrSel : BitVec 32)

lemma address_offset (k : ℕ) : (word16 (highByte addrSel) (lowByte addrSel) + k) % 65536 = (addrSel.toNat + k) % 65536 := by
  rw [word16_address, Nat.mod_add_mod]

lemma writes_w5100 : Writes .w5100 [0xF0, highByte addrSel, lowByte addrSel] addrSel.toNat 1 := by
  intro done hdone
  obtain rfl : done = [] := List.length_eq_zero_iff.1 (Nat.lt_one_iff.1 hdone)
  exact congrArg Access.write (word16_address addrSel)

lemma reads_w5100 : Reads .w5100 [0x0F, highByte addrSel, lowByte addrSel] addrSel.toNat 1 := by
  intro done hdone
  obtain rfl : done = [] := List.length_eq_zero_iff.1 (Nat.lt_one_iff.1 hdone)
  exact congrArg Access.read (word16_address addrSel)

lemma writes_w5100s (n : ℕ) : Writes .w5100s [0xF0, highByte addrSel, lowByte addrSel] addrSel.toNat n :=
  fun done _ => congrArg Access.write (address_offset addrSel done.length)

lemma reads_w5100s (n : ℕ) : Reads .w5100s [0x0F, highByte addrSel, lowByte addrSel] addrSel.toNat n :=
  fun done _ => congrArg Access.read (address_offset addrSel done.length)

lemma writes_w5200 (control low : Byte) {n : ℕ} (hmsb : control.msb = true) (hn : n ≤ word16 (control &&& 0x7F) low) :
    Writes .w5200 [highByte addrSel, lowByte addrSel, control, low] addrSel.toNat n := by
  intro done hdone
  simp only [Chip.access, List.cons_append, List.nil_append, hmsb, address_offset]
  rw [if_pos (by omega), if_pos True.intro]

lemma reads_w5200 {control low : Byte} {n : ℕ} (hmsb : control.msb = false) (hn : n ≤ word16 (control &&& 0x7F) low) :
    Reads .w5200 [highByte addrSel, lowByte addrSel, control, low] addrSel.toNat n := by
  intro done hdone
  simp only [Chip.access, List.cons_append, List.nil_append, hmsb, address_offset]
  rw [if_pos (by omega), if_neg Bool.false_ne_true]

lemma writes_w5200_buf {len : ℕ} (hlen : len < 2 ^ 15) :
    Writes .w5200 [highByte addrSel, lowByte addrSel, 0x80 ||| lengthHigh len, lengthLow len] addrSel.toNat len := by
  have hhigh : (lengthHigh len).toNat < 128 := by
    rw [toNat_lengthHigh hlen]
    omega
  obtain ⟨hmsb, hcontrol⟩ := control_write _ hhigh
  exact writes_w5200 addrSel _ _ hmsb (by rw [hcontrol, word16_length hlen])

lemma reads_w5200_buf {len : ℕ} (hlen : len < 2 ^ 15) :
    Reads .w5200 [highByte addrSel, lowByte addrSel, 0x00 ||| lengthHigh len, lengthLow len] addrSel.toNat len := by
  have hhigh : (lengthHigh len).toNat < 128 := by
    rw [toNat_lengthHigh hlen]
    omega
  obtain ⟨hmsb, hcontrol⟩ := control_read _ hhigh
  exact reads_w5200 addrSel hmsb (by rw [hcontrol, word16_length hlen])

end headers

section runs
variable {chip : Chip} {c : Callbacks} {addrSel : BitVec 32} {b : Board}

lemma mosi_writes {header : List Byte} {a n : ℕ} (mem : ℕ → Byte) (h : Writes chip header a n) (hn : 0 < n) (v : Byte) :
    (Board.mosi chip ⟨mem, header⟩ v).mem = Function.update mem (a % 65536) v := by
  have haccess := h [] hn
  rw [List.append_nil] at haccess
  rw [Board.mosi, haccess]
  rfl

lemma miso_reads {header : List Byte} {a n : ℕ} (mem : ℕ → Byte) (h : Reads chip header a n) (hn : 0 < n) :
    Board.miso chip ⟨mem, header⟩ = mem (a % 65536) := by
  have haccess := h [] hn
  rw [List.append_nil] at haccess
  rw [Board.miso, haccess]
  rfl

lemma exec_wizchipWrite (wb : Byte) : exec (bus chip) (wizchipWrite c addrSel wb chip) () b =
    (some (), (), ⟨Function.update b.mem (addrSel.toNat % 65536) wb, []⟩) := by
  cases chip with
  | w5100 =>
    rw [← mosi_writes _ (writes_w5100 addrSel) Nat.one_pos wb]
    rfl
  | w5100s =>
    rw [← mosi_writes _ (writes_w5100s addrSel 1) Nat.one_pos wb]
    cases hc : c.writeBurst <;> simp only [wizchipWrite, hc] <;> rfl
  | w5200 =>
    rw [← mosi_writes _ (writes_w5200 addrSel 0x80 1 (by decide) (by decide)) Nat.one_pos wb]
    rfl

lemma exec_readByte {header : List Byte} {a n : ℕ} (mem : ℕ → Byte) (h : Reads chip header a n) (hn : 0 < n) :
    exec (bus chip) (line .readByte) () ⟨mem, header⟩ =
      (some (mem (a % 65536)), (), ⟨mem, header ++ [mem (a % 65536)]⟩) := by
  rw [← miso_reads mem h hn]
  rfl

/-- A frame of the W5200 with one byte to read. -/
lemma exec_frame_w5200 (high low control len : Byte) : exec (bus .w5200) (do
      line .enter
      line .select
      line (.writeByte high)
      line (.writeByte low)
      line (.writeByte control)
      line (.writeByte len)
      let ret ← line .readByte
      line .deselect
      line .exit
      return ret) () b = (some (Board.miso .w5200 ⟨b.mem, [high, low, control, len]⟩), (), ⟨b.mem, []⟩) := rfl

lemma exec_wizchipRead : exec (bus chip) (wizchipRead c addrSel chip) () b =
    (some (b.mem (addrSel.toNat % 65536)), (), ⟨b.mem, []⟩) := by
  cases chip with
  | w5100 => exact exec_bind (exec_readByte _ (reads_w5100 addrSel) Nat.one_pos)
  | w5100s =>
    have hread := exec_readByte b.mem (reads_w5100s addrSel 1) Nat.one_pos
    simp only [wizchipRead]
    split
    · exact exec_bind hread
    · exact exec_bind hread
  | w5200 =>
    have hlen : 1 ≤ word16 (0x00 &&& 0x7F) 0x01 := by decide
    rw [← miso_reads b.mem (reads_w5200 addrSel rfl hlen) Nat.one_pos]
    exact exec_frame_w5200 _ _ _ _

/-- The length of a frame of the W5200 has 15 bits. -/
def Chip.Takes (chip : Chip) (len : ℕ) : Prop := chip = .w5200 → len < 2 ^ 15

lemma exec_writeFrames {mem : ℕ → Byte} (i : ℕ) (data : List Byte) :
    exec (bus .w5100) (writeFrames addrSel i data) () ⟨mem, []⟩ =
      (some (), (), ⟨RingMemory.store 65536 mem (addrSel.toNat + i) data, []⟩) := by
  induction data generalizing mem i with
  | nil => rfl
  | cons v data ih =>
    have hcell := mosi_writes mem (writes_w5100 (addrSel + BitVec.ofNat 32 i)) Nat.one_pos v
    have haddr : (addrSel + BitVec.ofNat 32 i).toNat % 65536 = (addrSel.toNat + i) % 65536 := by
      rw [BitVec.toNat_add, BitVec.toNat_ofNat]
      omega
    rw [haddr] at hcell
    rw [RingMemory.store, Nat.add_assoc, ← ih (i + 1), ← hcell]
    rfl

lemma exec_readFrames {mem : ℕ → Byte} (i n : ℕ) :
    exec (bus .w5100) (readFrames addrSel i n) () ⟨mem, []⟩ =
      (some (RingMemory.window 65536 mem (addrSel.toNat + i) n), (), ⟨mem, []⟩) := by
  induction n generalizing i with
  | zero => rfl
  | succ n ih =>
    have hcell := miso_reads mem (reads_w5100 (addrSel + BitVec.ofNat 32 i)) Nat.one_pos
    have haddr : (addrSel + BitVec.ofNat 32 i).toNat % 65536 = (addrSel.toNat + i) % 65536 := by
      rw [BitVec.toNat_add, BitVec.toNat_ofNat]
      omega
    rw [haddr] at hcell
    rw [RingMemory.window_cons, Nat.add_assoc, ← hcell]
    exact exec_bind (ih (i + 1))

lemma exec_wizchipWriteBuf {pBuf : List Byte} (hlen : chip.Takes pBuf.length) :
    exec (bus chip) (wizchipWriteBuf c addrSel pBuf chip) () b =
      (some (), (), ⟨RingMemory.store 65536 b.mem addrSel.toNat pBuf, []⟩) := by
  cases chip with
  | w5100 => exact exec_bind (exec_writeFrames 0 pBuf)
  | w5100s =>
    have hdata := congrArg Board.mem (sent_data b.mem [] pBuf
      (writes_w5100s addrSel pBuf.length) (Nat.le_of_eq (Nat.zero_add _)))
    refine Eq.trans ?_ (congrArg (fun mem => (some (), (), (⟨mem, []⟩ : Board))) hdata)
    cases hc : c.writeBurst with
    | false =>
      simp only [wizchipWriteBuf, hc]
      exact exec_bind (exec_writeBytes _ pBuf)
    | true =>
      simp only [wizchipWriteBuf, hc]
      rfl
  | w5200 =>
    have hdata := congrArg Board.mem (sent_data b.mem [] pBuf
      (writes_w5200_buf addrSel (hlen rfl)) (Nat.le_of_eq (Nat.zero_add _)))
    refine Eq.trans ?_ (congrArg (fun mem => (some (), (), (⟨mem, []⟩ : Board))) hdata)
    exact exec_bind (exec_writeBytes _ pBuf)

/-- The data phase of a read, after the header of its frame. -/
lemma exec_reads {header : List Byte} {a n : ℕ} (mem : ℕ → Byte) (h : Reads chip header a n) :
    ∃ frame, Board.answered chip ⟨mem, header⟩ n = (RingMemory.window 65536 mem a n, ⟨mem, frame⟩) ∧
      exec (bus chip) (readBytes n) () ⟨mem, header⟩ = (some (RingMemory.window 65536 mem a n), (), ⟨mem, frame⟩) := by
  obtain ⟨frame, hdata⟩ := answered_data mem [] (k := n) h (Nat.le_of_eq (Nat.zero_add n))
  rw [List.append_nil] at hdata
  exact ⟨frame, hdata, (exec_readBytes _ n).trans (by rw [hdata]; rfl)⟩

lemma exec_wizchipReadBuf {len : ℕ} (hlen : chip.Takes len) :
    exec (bus chip) (wizchipReadBuf c addrSel len chip) () b =
      (some (RingMemory.window 65536 b.mem addrSel.toNat len), (), ⟨b.mem, []⟩) := by
  cases chip with
  | w5100 => exact exec_bind (exec_readFrames 0 len)
  | w5100s =>
    obtain ⟨frame, hburst, hbytes⟩ := exec_reads b.mem (reads_w5100s addrSel len)
    simp only [wizchipReadBuf]
    split
    · exact exec_bind hbytes
    · have hlist := toList_frameBytes (RingMemory.length_window (S := 65536) b.mem addrSel.toNat len)
      refine Eq.trans ?_ ((congrArg (fun r => (some (frameBytes len r.1).toList, (), (⟨r.2.mem, []⟩ : Board))) hburst).trans
        (congrArg (fun data => (some data, (), (⟨b.mem, []⟩ : Board))) hlist))
      rfl
  | w5200 =>
    obtain ⟨frame, -, hbytes⟩ := exec_reads b.mem (reads_w5200_buf addrSel (hlen rfl))
    exact exec_bind hbytes

end runs

end IoLibrary.Rings
