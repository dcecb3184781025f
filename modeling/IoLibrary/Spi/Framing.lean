import IoLibrary.RingMemory
import IoLibrary.Spi.Bus

/-! The transfers against a chip that decodes its chip-select frames: two offset bytes, a
control byte and a data phase, byte by byte and knowing nothing of the driver. -/
namespace IoLibrary.Spi
open Effects

/-- The address of a cell, as w5500.h composes it from its offset and its block. -/
def addrSel (block : BitVec 5) (offset : BitVec 16) : BitVec 32 :=
  (offset.setWidth 32 <<< 8) + (block.setWidth 32 <<< 3)

/-- The memory of the chip: 32 blocks of 65536 cells. -/
abbrev Mem := ℕ → ℕ → Byte

/-- How far the chip has decoded the current frame. -/
inductive Phase
  | idle
  | offsetHigh
  | offsetLow (hi : Byte)
  | control (offset : ℕ)
  | data (block : ℕ) (write : Bool) (offset : ℕ)
  | ignoring

structure Chip where
  mem : Mem
  phase : Phase

/-- One byte clocked into the chip. Only mode 00, data of variable length, is decoded. -/
def Chip.next (c : Chip) (mosi : Byte) : Chip :=
  match c.phase with
  | .offsetHigh => { c with phase := .offsetLow mosi }
  | .offsetLow hi => { c with phase := .control (word16 hi mosi) }
  | .control offset =>
    if mosi.toNat % 4 = 0 then
      { c with phase := .data (mosi.toNat / 8) (mosi.toNat / 4 % 2 = 1) offset }
    else { c with phase := .ignoring }
  | .data block true offset =>
    { mem := Function.update c.mem block (Function.update (c.mem block) (offset % 65536) mosi)
      phase := .data block true (offset + 1) }
  | .data block false offset => { c with phase := .data block false (offset + 1) }
  | .idle | .ignoring => c

/-- What the chip may drive while a byte is clocked: in the data phase of a read its cell. -/
def Chip.Drives (c : Chip) (miso : Byte) : Prop :=
  match c.phase with
  | .data block false offset => miso = c.mem block (offset % 65536)
  | _ => True

def Chip.sent (c : Chip) (data : List Byte) : Chip := data.foldl Chip.next c

/-- The chip answers `data`, one byte for each byte the host clocks out. -/
def Chip.Answers : Chip → List Byte → Chip → Prop
  | c, [], c' => c' = c
  | c, v :: data, c' => c.Drives v ∧ ∃ mosi, (c.next mosi).Answers data c'

/-- What passes on the four wires of the bus. -/
inductive Wire
  | select
  | deselect
  | mosi (v : Byte)
  | miso (v : Byte)

/-- A chip and what has passed on the wires to it. -/
structure Line where
  chip : Chip
  wires : List Wire

def Line.edge (l : Line) (phase : Phase) (w : Wire) : Line :=
  ⟨⟨l.chip.mem, phase⟩, l.wires ++ [w]⟩

def Line.sent (l : Line) (data : List Byte) : Line :=
  ⟨l.chip.sent data, l.wires ++ data.map .mosi⟩

def Line.Received (l : Line) (data : List Byte) (l' : Line) : Prop :=
  l.chip.Answers data l'.chip ∧ l'.wires = l.wires ++ data.map .miso

/-- A transport that makes no errors. A burst is its bytes, one after the other. -/
def lineEnv : Env Driver Line BusIo BusIo.Res := fun _ l e x l' =>
  match e, x with
  | .select, _ => l' = l.edge .offsetHigh .select
  | .deselect, _ => l' = l.edge .idle .deselect
  | .writeByte v, _ => l' = l.sent [v]
  | .writeBurst data, _ => l' = l.sent data
  | .readByte, v => l.Received [v] l'
  | .readBurst _, data => l.Received data.toList l'
  | .checkBusy, failed => failed = false ∧ l' = l
  | .checkError, failed => failed = false ∧ l' = l
  | .enter, _ | .exit, _ | .clear, _ => l' = l

section chip
variable {c c' : Chip} {block : ℕ} {offset : ℕ}

/-- A write: the data phase stores byte by byte along the wrapping offset. -/
lemma Chip.sent_data {mem : Mem} (data : List Byte) :
    Chip.sent ⟨mem, .data block true offset⟩ data =
      ⟨Function.update mem block (RingMemory.store 65536 (mem block) offset data),
        .data block true (offset + data.length)⟩ := by
  induction data generalizing mem offset with
  | nil => simp [Chip.sent, RingMemory.store]
  | cons v data ih =>
    have step : Chip.sent ⟨mem, .data block true offset⟩ (v :: data) =
        Chip.sent ⟨Function.update mem block (Function.update (mem block) (offset % 65536) v),
          .data block true (offset + 1)⟩ data := rfl
    rw [step, ih]
    simp only [Function.update_self, Function.update_idem, RingMemory.store, List.length_cons]
    rw [show offset + 1 + data.length = offset + (data.length + 1) by omega]

/-- A read: the data phase answers the cells along the wrapping offset. -/
lemma Chip.answers_data {data : List Byte} (hc : c.phase = .data block false offset)
    (h : c.Answers data c') :
    data = RingMemory.window 65536 (c.mem block) offset data.length ∧ c'.mem = c.mem := by
  induction data generalizing c offset with
  | nil =>
    obtain rfl : c' = c := h
    exact ⟨rfl, rfl⟩
  | cons v data ih =>
    obtain ⟨hv, mosi, hdata⟩ := h
    have hnext : c.next mosi = ⟨c.mem, .data block false (offset + 1)⟩ := by
      simp only [Chip.next, hc]
    rw [hnext] at hdata
    obtain ⟨hcells, hmem⟩ := ih rfl hdata
    have hcell : v = c.mem block (offset % 65536) := by simpa only [Chip.Drives, hc] using hv
    refine ⟨?_, hmem⟩
    rw [List.length_cons, RingMemory.window_cons, ← hcells, hcell]

end chip

section header

lemma toNat_addrSel (block : BitVec 5) (offset : BitVec 16) :
    (addrSel block offset).toNat = 8 * (32 * offset.toNat + block.toNat) := by
  have hblock := block.isLt
  have hoffset := offset.isLt
  simp only [addrSel, BitVec.toNat_add, BitVec.toNat_shiftLeft, BitVec.toNat_setWidth,
    Nat.shiftLeft_eq]
  omega

/-- The low three bits of an `AddrSel` are free for the control bits. -/
lemma toNat_addrSel_or (block : BitVec 5) (offset : BitVec 16) {control : Byte}
    (hc : control.toNat < 8) :
    (addrSel block offset ||| control.setWidth 32).toNat =
      256 * offset.toNat + 8 * block.toNat + control.toNat := by
  have hcontrol : (control.setWidth 32).toNat = control.toNat := by
    rw [BitVec.toNat_setWidth]
    omega
  rw [BitVec.toNat_or, toNat_addrSel, hcontrol, ← Nat.two_pow_add_eq_or_of_lt (i := 3) hc]
  omega

/-- Whichever of the two ways the driver builds a header, the chip decodes block and offset. -/
lemma Chip.sent_header (mem : Mem) (block : BitVec 5) (offset : BitVec 16) {control : Byte}
    (hc : control.toNat = 0 ∨ control.toNat = 4) :
    Chip.sent ⟨mem, .offsetHigh⟩ (headerBytes (addrSel block offset ||| control.setWidth 32)) =
      ⟨mem, .data block.toNat (control.toNat = 4) offset.toNat⟩ := by
  have hblock := block.isLt
  have hoffset := offset.isLt
  have hsel := toNat_addrSel_or block offset (show control.toNat < 8 by omega)
  generalize addrSel block offset ||| control.setWidth 32 = sel at hsel
  have hword : word16 ((sel >>> 16).setWidth 8) ((sel >>> 8).setWidth 8) = offset.toNat := by
    simp only [word16, BitVec.toNat_setWidth, BitVec.toNat_ushiftRight, Nat.shiftRight_eq_div_pow,
      hsel]
    omega
  have hctl : (sel.setWidth 8).toNat = 8 * block.toNat + control.toNat := by
    rw [BitVec.toNat_setWidth, hsel]
    omega
  have hmode : (8 * block.toNat + control.toNat) % 4 = 0 := by omega
  have hblk : (8 * block.toNat + control.toNat) / 8 = block.toNat := by omega
  have hwrite : (8 * block.toNat + control.toNat) / 4 % 2 = 1 ↔ control.toNat = 4 := by omega
  simp [Chip.sent, headerBytes, Chip.next, hword, hctl, hmode, hblk, hwrite]

end header

lemma Line.sent_append (l : Line) (data data' : List Byte) :
    (l.sent data).sent data' = l.sent (data ++ data') := by
  simp [Line.sent, Chip.sent]

section wp
variable {α : Type} {H : Driver → Line → Prop} {m : Driver} {l : Line}

/-- A burst and one callback for each byte put the same on the wires. -/
lemma wp_writeData {Q : Unit → Driver → Line → Prop} (c : Config) (data : List Byte) :
    wp lineEnv (writeData c data) Q H m l ↔ Q () m (l.sent data) := by
  have each : wp lineEnv (writeEach data) Q H m l ↔ Q () m (l.sent data) := by
    induction data generalizing l with
    | nil => simp [writeEach, Line.sent, Chip.sent]
    | cons v data ih => simp [writeEach, lineEnv, ih, Line.sent_append]
  unfold writeData
  split
  · exact ⟨fun h => h () _ rfl, fun h _ _ hl => hl ▸ h⟩
  · exact each

lemma wp_readData {Q : List Byte → Driver → Line → Prop} (c : Config) (len : ℕ)
    (h : ∀ data l', data.length = len → l.Received data l' → Q data m l') :
    wp lineEnv (readData c len) Q H m l := by
  have each : wp lineEnv (readEach len) Q H m l := by
    induction len generalizing l Q with
    | zero => exact h [] l rfl ⟨rfl, by simp⟩
    | succ n ih =>
      simp only [readEach, wp_bind, wp_perform, wp_pure]
      rintro v ⟨chip, wires⟩ ⟨⟨hdrives, mosi, hnext⟩, hwires⟩
      obtain rfl : chip = l.chip.next mosi := hnext
      refine ih fun data l' hlen hrest => h _ _ (by simp [hlen]) ?_
      obtain ⟨hdata, hwires'⟩ := hrest
      refine ⟨⟨hdrives, mosi, hdata⟩, ?_⟩
      rw [hwires', hwires]
      simp
  unfold readData
  split
  · simp only [wp_bind, wp_perform, wp_pure]
    exact fun data l' hdata => h _ _ data.length_toList hdata
  · exact each

/-- A transfer that makes no error ends with result 0, looked at or not. -/
lemma wp_readExit {Q : ℤ → Driver → Line → Prop} (c : Config) (h : ∀ m, Q 0 m l) :
    wp lineEnv (readExit c) Q H m l := by
  cases hs : c.safeSpi <;> cases hm : m.transportHealthy <;>
    simp [readExit, checkedExit, uncheckedExit, statusCheck, lineEnv, hs, hm, h]

lemma wp_writeExit {Q : ℤ → Driver → Line → Prop} (c : Config) (h : ∀ m, Q 0 m l) :
    wp lineEnv (writeExit c) Q H m l := by
  cases hs : c.safeSpi <;>
    simp [writeExit, checkedExit, uncheckedExit, statusCheck, lineEnv, hs, h]

end wp

/-- What one frame puts on the wires: three header bytes and the data phase. -/
def frame (block : BitVec 5) (offset : BitVec 16) (control : Byte) (data : List Wire) : List Wire :=
  .select ::
    (headerBytes (addrSel block offset ||| control.setWidth 32)).map .mosi ++ data ++ [.deselect]

def writeFrame (block : BitVec 5) (offset : BitVec 16) (data : List Byte) : List Wire :=
  frame block offset spiWrite (data.map .mosi)

def readFrameOf (block : BitVec 5) (offset : BitVec 16) (data : List Byte) : List Wire :=
  frame block offset spiRead (data.map .miso)

/-- The cells `mem[block][offset + i]` for `i < len`. -/
def cells (mem : Mem) (block : BitVec 5) (offset : BitVec 16) (len : ℕ) : List Byte :=
  (List.range len).map fun i => mem block.toNat ((offset.toNat + i) % 65536)

/-- `mem'` is `mem` with `mem[block][offset + i] := data[i]`, and nothing else changed. -/
structure Stored (block : BitVec 5) (offset : BitVec 16) (data : List Byte) (mem mem' : Mem) :
    Prop where
  cells : cells mem' block offset data.length = data
  others : ∀ b o, (b = block.toNat → ∀ i < data.length, o ≠ (offset.toNat + i) % 65536) →
    mem' b o = mem b o

lemma stored_update (mem : Mem) (block : BitVec 5) (offset : BitVec 16) {data : List Byte}
    (h : data.length < 65536) :
    Stored block offset data mem
      (Function.update mem block.toNat
        (RingMemory.store 65536 (mem block.toNat) offset.toNat data)) := by
  constructor
  · have := RingMemory.window_store_self (mem block.toNat) offset.toNat data h.le
    simpa [cells, RingMemory.window] using this
  · intro b o ho
    by_cases hb : b = block.toNat
    · rw [hb, Function.update_self]
      exact RingMemory.store_of_outside _ _ (ho hb)
    · rw [Function.update_of_ne hb]

section frames
variable {H : Driver → Line → Prop} {m : Driver} {l : Line}

/-- One frame: selected, the body sends or reads its bytes, deselected. -/
lemma wp_selected {α : Type} {Q : α → Driver → Line → Prop} (body : Bus α)
    (h : wp lineEnv body (fun a m l' => Q a m (l'.edge .idle .deselect)) H m
      (l.edge .offsetHigh .select)) : wp lineEnv (selected body) Q H m l := by
  simp only [selected, wp_bind, wp_perform, wp_pure]
  rintro _ _ rfl
  refine wp_mono h (fun a m l' ha _ _ hl => ?_) fun _ _ => id
  rwa [hl]

/-- The header of a frame brings the chip to its data phase. -/
lemma sent_header_edge (block : BitVec 5) (offset : BitVec 16) {control : Byte}
    (hc : control.toNat = 0 ∨ control.toNat = 4) :
    (l.edge .offsetHigh .select).sent (headerBytes (addrSel block offset ||| control.setWidth 32)) =
      ⟨⟨l.chip.mem, .data block.toNat (control.toNat = 4) offset.toNat⟩,
        l.wires ++ .select ::
          (headerBytes (addrSel block offset ||| control.setWidth 32)).map .mosi⟩ := by
  simp only [Line.sent, Line.edge, Chip.sent_header _ block offset hc, List.append_assoc,
    List.singleton_append]

/-- A write frame stores its data and puts its own bytes on the wires. -/
lemma sent_write_frame (block : BitVec 5) (offset : BitVec 16) (data : List Byte) :
    ((l.edge .offsetHigh .select).sent
        (headerBytes (addrSel block offset ||| spiWrite.setWidth 32) ++ data)).edge .idle .deselect =
      ⟨⟨Function.update l.chip.mem block.toNat
          (RingMemory.store 65536 (l.chip.mem block.toNat) offset.toNat data), .idle⟩,
        l.wires ++ writeFrame block offset data⟩ := by
  have hcontrol : spiWrite.toNat = 0 ∨ spiWrite.toNat = 4 := .inr rfl
  rw [← Line.sent_append, sent_header_edge block offset hcontrol]
  have hdata : Chip.sent ⟨l.chip.mem, .data block.toNat true offset.toNat⟩ data = _ := Chip.sent_data data
  simp [Line.sent, Line.edge, spiWrite, hdata, writeFrame, frame]

/-- A read frame answers the cells it asks for and leaves the memory alone. -/
lemma received_read_frame (block : BitVec 5) (offset : BitVec 16) {data : List Byte} {l' : Line}
    (h : ((l.edge .offsetHigh .select).sent
      (headerBytes (addrSel block offset ||| spiRead.setWidth 32))).Received data l') :
    data = cells l.chip.mem block offset data.length ∧ l'.chip.mem = l.chip.mem ∧
      (l'.edge .idle .deselect).wires = l.wires ++ readFrameOf block offset data := by
  have hcontrol : spiRead.toNat = 0 ∨ spiRead.toNat = 4 := .inl rfl
  rw [sent_header_edge block offset hcontrol] at h
  obtain ⟨hanswers, hwires⟩ := h
  obtain ⟨hcells, hmem⟩ := Chip.answers_data rfl hanswers
  refine ⟨hcells, hmem, ?_⟩
  simp [Line.edge, hwires, readFrameOf, frame]

lemma wp_wizchipSpiWriteHeader {Q : Unit → Driver → Line → Prop} (c : Config) (addr : BitVec 32)
    (control : Byte) : wp lineEnv (wizchipSpiWriteHeader c addr control) Q H m l ↔
      Q () m (l.sent (headerBytes (addr ||| control.setWidth 32))) := wp_writeData c _

lemma wp_readFrame {α : Type} {Q : α → Driver → Line → Prop} (c : Config) (addr : BitVec 32)
    (data : Bus α)
    (h : wp lineEnv data (fun a m l' => Q a m (l'.edge .idle .deselect)) H m
      ((l.edge .offsetHigh .select).sent (headerBytes (addr ||| spiRead.setWidth 32)))) :
    wp lineEnv (readFrame c addr data) Q H m l :=
  wp_selected _ ((wp_bind _ _).2 ((wp_wizchipSpiWriteHeader c addr _).2 h))

/-- wizchip_write8_checked: one frame, one cell. -/
lemma wp_wizchipWrite8Checked (c : Config) (block : BitVec 5) (offset : BitVec 16) (v : Byte) :
    wp lineEnv (wizchipWrite8Checked c (addrSel block offset) v) (fun r _ l' =>
      r = 0 ∧ Stored block offset [v] l.chip.mem l'.chip.mem ∧
        l'.wires = l.wires ++ writeFrame block offset [v]) H m l := by
  simp only [wizchipWrite8Checked, wp_bind, wp_perform, wp_modify]
  rintro _ _ rfl _ _ rfl
  refine wp_selected _ ((wp_writeData c _).2 (wp_writeExit c fun _ => ⟨rfl, ?_⟩))
  rw [sent_write_frame]
  exact ⟨stored_update _ block offset (by simp), rfl⟩

lemma wp_wizchipWriteBufChecked (c : Config) (block : BitVec 5) (offset : BitVec 16) {len : ℕ}
    (hlen : len < 65536) (buf : Vector Byte len) :
    wp lineEnv (wizchipWriteBufChecked c (addrSel block offset) len (some buf)) (fun r _ l' =>
      r = 0 ∧ Stored block offset buf.toList l.chip.mem l'.chip.mem ∧
        l'.wires = l.wires ++ if len = 0 then [] else writeFrame block offset buf.toList) H m l := by
  unfold wizchipWriteBufChecked
  split
  · next h =>
    subst h
    have hnil : buf.toList = [] := List.length_eq_zero_iff.1 buf.length_toList
    refine ⟨rfl, ⟨?_, fun b o _ => rfl⟩, by simp⟩
    rw [hnil]
    rfl
  · simp only [wp_bind, wp_perform, wp_modify]
    rintro _ _ rfl _ _ rfl
    refine wp_selected _ ((wp_bind _ _).2 ((wp_wizchipSpiWriteHeader c _ _).2 ?_))
    refine (wp_writeData c _).2 (wp_writeExit c fun _ => ⟨rfl, ?_⟩)
    rw [Line.sent_append, sent_write_frame]
    exact ⟨stored_update _ block offset (by simpa using hlen), rfl⟩

lemma wp_wizchipRead8CheckedOut (c : Config) (block : BitVec 5) (offset : BitVec 16) :
    wp lineEnv (wizchipRead8CheckedOut c (addrSel block offset) true) (fun r _ l' =>
      r.1 = 0 ∧ [r.2] = cells l.chip.mem block offset 1 ∧ l'.chip.mem = l.chip.mem ∧
        l'.wires = l.wires ++ readFrameOf block offset [r.2]) H m l := by
  simp only [wizchipRead8CheckedOut, not_true_eq_false, if_false, wp_bind, wp_perform]
  rintro _ _ rfl _ _ rfl
  refine wp_readFrame c _ _ ((wp_perform _).2 fun v l' h => ?_)
  obtain ⟨hcells, hmem, hwires⟩ := received_read_frame block offset h
  exact wp_readExit c fun _ => ⟨rfl, hcells, hmem, hwires⟩

lemma wp_wizchipReadBufChecked (c : Config) (block : BitVec 5) (offset : BitVec 16) (len : ℕ) :
    wp lineEnv (wizchipReadBufChecked c (addrSel block offset) true len) (fun r _ l' =>
      r = (0, cells l.chip.mem block offset len) ∧ l'.chip.mem = l.chip.mem ∧
        l'.wires = l.wires ++ if len = 0 then [] else readFrameOf block offset r.2) H m l := by
  unfold wizchipReadBufChecked
  split
  · next h =>
    subst h
    exact ⟨rfl, rfl, by simp⟩
  · simp only [not_true_eq_false, if_false, wp_bind, wp_perform]
    rintro _ _ rfl _ _ rfl
    refine wp_readFrame c _ _ (wp_readData c len fun data l' hlen h => ?_)
    obtain ⟨hcells, hmem, hwires⟩ := received_read_frame block offset h
    rw [hlen] at hcells
    exact wp_readExit c fun _ => ⟨congrArg _ hcells, hmem, hwires⟩

/-- What wizchip_write16_5500 stores, wizchip_read16_5500 reads back, across offset 65535 too. -/
lemma wp_write16_read16 (c : Config) (block : BitVec 5) (offset v : BitVec 16) :
    wp lineEnv (do
      let r ← wizchipWrite16 c (addrSel block offset) v.toNat
      let x ← wizchipRead16 c (addrSel block offset) true
      return (r, x)) (fun r _ _ => r = (0, some v.toNat)) H m l := by
  have hv := v.isLt
  refine (wp_bind _ _).2 (wp_mono (wp_wizchipWriteBufChecked c block offset (by decide) _)
    ?_ fun _ _ => id)
  rintro _ m₁ l₁ ⟨rfl, hstored, -⟩
  have hbytes : cells l₁.chip.mem block offset 2 = bytes16 v.toNat := by
    have hlen : (frameBytes 2 (bytes16 v.toNat)).toList.length = 2 := Vector.length_toList
    have hcells := hstored.cells
    rwa [hlen, toList_frameBytes_two] at hcells
  simp only [wizchipRead16, not_true_eq_false, if_false, wp_bind]
  refine wp_mono (wp_wizchipReadBufChecked c block offset 2) ?_ fun _ _ => id
  rintro _ m₂ l₂ ⟨rfl, -, -⟩
  simp only [hbytes, wp_pure, if_true]
  exact congrArg (fun w => ((0 : ℤ), some w)) (word16_bytes16 hv)

end frames

/-- Against a decoding chip, and whichever burst callbacks are registered, a write is one
frame that stores its data in the cells it names and nowhere else, a read is one frame that
returns them, and both put bytes on the wires that do not depend on the callbacks. A buffer
of length 0 is not transferred: no frame is sent. -/
theorem frames_realise_memory (c : Config) (block : BitVec 5) (offset : BitVec 16) (m : Driver)
    (l : Line) :
    (∀ (len : BitVec 16) (buf : Vector Byte len.toNat),
      wp lineEnv (wizchipWriteBufChecked c (addrSel block offset) len.toNat (some buf))
        (fun r _ l' => r = 0 ∧ Stored block offset buf.toList l.chip.mem l'.chip.mem ∧
          l'.wires = l.wires ++ if len.toNat = 0 then [] else writeFrame block offset buf.toList)
        (fun _ _ => False) m l) ∧
    (∀ v, wp lineEnv (wizchipWrite8Checked c (addrSel block offset) v)
      (fun r _ l' => r = 0 ∧ Stored block offset [v] l.chip.mem l'.chip.mem ∧
        l'.wires = l.wires ++ writeFrame block offset [v]) (fun _ _ => False) m l) ∧
    (∀ len : BitVec 16, wp lineEnv (wizchipReadBufChecked c (addrSel block offset) true len.toNat)
      (fun r _ l' => r = (0, cells l.chip.mem block offset len.toNat) ∧
        l'.chip.mem = l.chip.mem ∧
        l'.wires = l.wires ++ if len.toNat = 0 then [] else readFrameOf block offset r.2)
      (fun _ _ => False) m l) ∧
    wp lineEnv (wizchipRead8Checked c (addrSel block offset))
      (fun v _ l' => [v] = cells l.chip.mem block offset 1 ∧ l'.chip.mem = l.chip.mem ∧
        l'.wires = l.wires ++ readFrameOf block offset [v]) (fun _ _ => False) m l ∧
    (∀ v : BitVec 16, wp lineEnv (do
        let r ← wizchipWrite16 c (addrSel block offset) v.toNat
        let x ← wizchipRead16 c (addrSel block offset) true
        return (r, x))
      (fun r _ _ => r = (0, some v.toNat)) (fun _ _ => False) m l) := by
  refine ⟨fun len buf => wp_wizchipWriteBufChecked c block offset len.isLt buf,
    wp_wizchipWrite8Checked c block offset, fun len => wp_wizchipReadBufChecked c block offset _,
    ?_, wp_write16_read16 c block offset⟩
  refine (wp_bind _ _).2 (wp_mono (wp_wizchipRead8CheckedOut c block offset) ?_ fun _ _ => id)
  exact fun r _ l' h => h.2

/-- A write of length 0 sends no frame. -/
theorem empty_write_sends_nothing :
    ¬ ∀ (c : Config) (block : BitVec 5) (offset len : BitVec 16) (buf : Vector Byte len.toNat)
      (m : Driver) (l : Line),
      wp lineEnv (wizchipWriteBufChecked c (addrSel block offset) len.toNat (some buf))
        (fun _ _ l' => l'.wires = l.wires ++ writeFrame block offset buf.toList)
        (fun _ _ => False) m l := by
  intro h
  have := h ⟨false, true, true⟩ 0 0 0 #v[] (Driver.boot 1 1) ⟨⟨fun _ _ => 0, .idle⟩, []⟩
  exact List.cons_ne_nil _ _ this.symm

end IoLibrary.Spi
