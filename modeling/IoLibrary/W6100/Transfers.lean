import IoLibrary.Effects.Sampling
import IoLibrary.Spi.Framing

/-! WIZCHIP_WRITE_BUF and WIZCHIP_READ_BUF of w6100.c over SPI, byte by byte and in bursts. -/
namespace IoLibrary.W6100
open Effects Spi

/-- The caller's memory from pBuf on. -/
abbrev Cells := ℕ → Byte

abbrev Transfer := Prog Cells BusIo BusIo.Res

abbrev line (e : BusIo) : Transfer e.Res := Prog.perform e

def byteCallbacks : Callbacks := ⟨false, false⟩
def burstCallbacks : Callbacks := ⟨true, true⟩

/-- tAD -/
def addressBytes (addrSel : BitVec 32) (control : Byte) : List Byte :=
  [((addrSel &&& 0x00FF0000) >>> 16).setWidth 8, ((addrSel &&& 0x0000FF00) >>> 8).setWidth 8,
    (addrSel &&& 0x000000FF).setWidth 8 ||| control]

def writeBytes : List Byte → Transfer Unit
  | [] => return ()
  | v :: data => do
    line (.writeByte v)
    writeBytes data

/-- `for (i = 0; i < len; i++) _write_byte(pBuf[i]);` -/
def writeCells (turns : ℕ) (len : BitVec 16) : Transfer Unit :=
  Prog.loop (fun i : BitVec 16 => do
    if i < len then
      let cells ← Prog.get
      line (.writeByte (cells i.toNat))
      return .again (i + 1)
    else return .leave ()) turns 0

/-- `for (i = 0; i < len; len++) pBuf[i] = _read_byte();` The loop steps its bound, not its index. -/
def readCells (turns : ℕ) (len : BitVec 16) : Transfer Unit :=
  Prog.loop (fun (i, len) => do
    if i < len then
      let v ← line .readByte
      Prog.modify fun cells => Function.update cells i.toNat v
      return .again (i, len + 1)
    else return .leave ()) turns ((0 : BitVec 16), len)

/-- WIZCHIP_WRITE_BUF -/
def wizchipWriteBuf (c : Callbacks) (turns : ℕ) (addrSel : BitVec 32) (len : BitVec 16) : Transfer Unit := do
  let tAD := addressBytes addrSel spiWrite
  line .enter
  line .select
  if ¬ c.writeBurst then
    writeBytes tAD
    writeCells turns len
  else
    line (.writeBurst tAD)
    let cells ← Prog.get
    line (.writeBurst ((List.range len.toNat).map cells))
  line .deselect
  line .exit

/-- WIZCHIP_READ_BUF -/
def wizchipReadBuf (c : Callbacks) (turns : ℕ) (addrSel : BitVec 32) (len : BitVec 16) : Transfer Unit := do
  let tAD := addressBytes addrSel spiRead
  line .enter
  line .select
  if ¬ c.readBurst ∨ ¬ c.writeBurst then
    writeBytes tAD
    readCells turns len
  else
    line (.writeBurst tAD)
    let data ← line (.readBurst len.toNat)
    Prog.modify fun cells i => data.toList.getD i (cells i)
  line .deselect
  line .exit

inductive Op
  | write
  | read
  deriving DecidableEq, Repr

def Op.transfer : Op → Callbacks → ℕ → BitVec 32 → BitVec 16 → Transfer Unit
  | .write => wizchipWriteBuf
  | .read => wizchipReadBuf

/-- What a chip drives that answers each byte by what has passed on the wires before it. -/
def received (answer : List Wire → Byte) : List Wire → ℕ → List Byte
  | _, 0 => []
  | wires, n + 1 => answer wires :: received answer (wires ++ [.miso (answer wires)]) n

/-- The wires to such a chip. A burst is its bytes, one after the other. -/
def chip (answer : List Wire → Byte) : Handler Cells (List Wire) BusIo BusIo.Res := fun _ wires e =>
  match e with
  | .select => ((), wires ++ [.select])
  | .deselect => ((), wires ++ [.deselect])
  | .writeByte v => ((), wires ++ [.mosi v])
  | .writeBurst data => ((), wires ++ data.map .mosi)
  | .readByte => (answer wires, wires ++ [.miso (answer wires)])
  | .readBurst len => (frameBytes len (received answer wires len), wires ++ (received answer wires len).map .miso)
  | .checkBusy | .checkError => (false, wires)
  | .enter | .exit | .clear => ((), wires)

variable {answer : List Wire → Byte} {cells : Cells} {wires : List Wire}

@[simp] lemma length_received (answer : List Wire → Byte) (wires : List Wire) (n : ℕ) : (received answer wires n).length = n := by
  induction n generalizing wires with
  | zero => rfl
  | succ n ih => rw [received, List.length_cons, ih]

lemma exec_writeBytes (wires : List Wire) (data : List Byte) :
    exec (chip answer) (writeBytes data) cells wires = (some (), cells, wires ++ data.map .mosi) := by
  induction data generalizing wires with
  | nil => simp [writeBytes, exec, pure]
  | cons v data ih =>
    refine (ih (wires ++ [.mosi v])).trans ?_
    rw [List.append_assoc, List.map_cons, List.singleton_append]

/-- From byte `i` on, the loop writes what is left of the first `len` cells. -/
lemma exec_writeCells (answer : List Wire → Byte) (cells : Cells) (wires : List Wire) {len i : BitVec 16} {k turns : ℕ}
    (hi : i.toNat + k = len.toNat) (hturns : k < turns) :
    exec (chip answer) (Prog.loop (fun i : BitVec 16 => do
      if i < len then
        let cells ← Prog.get
        line (.writeByte (cells i.toNat))
        return .again (i + 1)
      else return .leave ()) turns i) cells wires =
    (some (), cells, wires ++ (((List.range' i.toNat k).map cells).map .mosi)) := by
  induction k generalizing i turns wires with
  | zero =>
    obtain ⟨turns, rfl⟩ := Nat.exists_eq_add_one.2 hturns
    have hend : ¬ i < len := by
      rw [BitVec.lt_def]
      omega
    rw [List.range'_zero, List.map_nil, List.map_nil, List.append_nil]
    refine exec_loop_leave turns ?_
    rw [if_neg hend]
    rfl
  | succ k ih =>
    obtain ⟨turns, rfl⟩ := Nat.exists_eq_add_one.2 (Nat.zero_lt_of_lt hturns)
    have hlen := len.isLt
    have hgo : i < len := by
      rw [BitVec.lt_def]
      omega
    have hnext : (i + 1).toNat = i.toNat + 1 := by
      rw [BitVec.toNat_add_of_lt] <;> simp
      omega
    have hrest := ih (wires ++ [.mosi (cells i.toNat)]) (show (i + 1).toNat + k = len.toNat by omega) (show k < turns by omega)
    refine ((exec_loop_again turns ?_).trans hrest).trans ?_
    · rw [if_pos hgo]
      rfl
    · rw [hnext, List.range'_succ, List.map_cons, List.map_cons, List.append_assoc,
        List.singleton_append]

/-- The bound runs from `len` up through 2^16, and every byte goes to the first cell. -/
lemma exec_readCells (answer : List Wire → Byte) (cells : Cells) (wires : List Wire) {len : BitVec 16} {k turns : ℕ}
    (hlen : (-len).toNat = k) (hturns : k < turns) :
    ∃ cells' wires', exec (chip answer) (readCells turns len) cells wires = (some (), cells', wires') ∧
      wires'.length = wires.length + k ∧ ∀ j ≠ 0, cells' j = cells j := by
  induction k generalizing len turns cells wires with
  | zero =>
    obtain ⟨turns, rfl⟩ := Nat.exists_eq_add_one.2 hturns
    obtain rfl : len = 0 := by
      apply BitVec.eq_of_toNat_eq
      rw [BitVec.toNat_neg] at hlen
      have := len.isLt
      simp
      omega
    exact ⟨cells, wires, exec_loop_leave turns rfl, rfl, fun _ _ => rfl⟩
  | succ k ih =>
    obtain ⟨turns, rfl⟩ := Nat.exists_eq_add_one.2 (Nat.zero_lt_of_lt hturns)
    have hlt := len.isLt
    rw [BitVec.toNat_neg] at hlen
    have hgo : 0 < len := by
      rw [BitVec.lt_def]
      simp
      omega
    have hnext : (-(len + 1)).toNat = k := by
      rw [BitVec.toNat_neg, BitVec.toNat_add]
      simp
      omega
    obtain ⟨cells', wires', hrun, hwires, hcells⟩ := ih (Function.update cells 0 (answer wires))
      (wires ++ [.miso (answer wires)]) hnext (Nat.lt_of_succ_lt_succ hturns)
    refine ⟨cells', wires', (exec_loop_again turns ?_).trans hrun, ?_, fun j hj => ?_⟩
    · dsimp only
      rw [if_pos hgo]
      rfl
    · rw [hwires, List.length_append, List.length_singleton]
      omega
    · rw [hcells j hj, Function.update_of_ne hj]

/-- What passes on the wires of a transfer up to its data. -/
def opening (wires : List Wire) (addrSel : BitVec 32) (control : Byte) : List Wire :=
  wires ++ [.select] ++ (addressBytes addrSel control).map .mosi

section runs
variable (addrSel : BitVec 32) {len : BitVec 16} {turns : ℕ}

lemma exec_writeBuf_bytes (answer : List Wire → Byte) (cells : Cells) (wires : List Wire)
    (hturns : len.toNat < turns) :
    exec (chip answer) (wizchipWriteBuf byteCallbacks turns addrSel len) cells wires =
      (some (), cells, opening wires addrSel spiWrite ++ ((List.range len.toNat).map cells).map .mosi ++ [.deselect]) := by
  have hdata := exec_writeCells answer cells (opening wires addrSel spiWrite) (i := 0) (Nat.zero_add _) hturns
  refine (exec_bind (exec_writeBytes _ (addressBytes addrSel spiWrite))).trans ((exec_bind hdata).trans ?_)
  rw [List.range_eq_range']
  rfl

lemma exec_writeBuf_bursts : exec (chip answer) (wizchipWriteBuf burstCallbacks turns addrSel len) cells wires =
    (some (), cells, opening wires addrSel spiWrite ++ ((List.range len.toNat).map cells).map .mosi ++ [.deselect]) :=
  rfl

lemma exec_readBuf_bytes (answer : List Wire → Byte) (cells : Cells) (wires : List Wire)
    (hturns : (-len).toNat < turns) : ∃ cells' wires',
    exec (chip answer) (wizchipReadBuf byteCallbacks turns addrSel len) cells wires = (some (), cells', wires') ∧
      wires'.length = (opening wires addrSel spiRead).length + (-len).toNat + 1 ∧ ∀ j ≠ 0, cells' j = cells j := by
  obtain ⟨cells', wires', hrun, hwires, hcells⟩ := exec_readCells answer cells (opening wires addrSel spiRead) rfl hturns
  refine ⟨cells', wires' ++ [.deselect], ?_, ?_, hcells⟩
  · exact (exec_bind (exec_writeBytes _ (addressBytes addrSel spiRead))).trans ((exec_bind hrun).trans rfl)
  · rw [List.length_append, hwires, List.length_singleton]

lemma exec_readBuf_bursts : exec (chip answer) (wizchipReadBuf burstCallbacks turns addrSel len) cells wires =
    (some (), fun i => (received answer (opening wires addrSel spiRead) len.toNat).getD i (cells i),
      opening wires addrSel spiRead ++ (received answer (opening wires addrSel spiRead) len.toNat).map .miso ++
        [.deselect]) := by
  have hdata := toList_frameBytes (length_received answer (opening wires addrSel spiRead) len.toNat)
  refine Eq.trans ?_ (congrArg (fun data : List Byte => (some (), fun i => data.getD i (cells i),
    opening wires addrSel spiRead ++ (received answer (opening wires addrSel spiRead) len.toNat).map .miso ++
      [.deselect])) hdata)
  rfl

end runs

/-- The transfer `f` of `len` bytes does the same in both modes: it ends, the same bytes pass on the
wires, and the cells are left the same, those from `len` on as they were. -/
structure Agrees (answer : List Wire → Byte) (f : Callbacks → Transfer Unit) (len : ℕ) (cells : Cells)
    (wires : List Wire) : Prop where
  ends : (exec (chip answer) (f byteCallbacks) cells wires).1 = some ()
  same : exec (chip answer) (f byteCallbacks) cells wires = exec (chip answer) (f burstCallbacks) cells wires
  inside : ∀ i ≥ len, (exec (chip answer) (f byteCallbacks) cells wires).2.1 i = cells i

/-- Bounded from a number of turns of the byte loops on. -/
def AgreesAlways (op : Op) (addrSel : BitVec 32) (len : BitVec 16) (cells : Cells) : Prop :=
  ∀ answer wires, ∃ T, ∀ turns ≥ T, Agrees answer (fun c => op.transfer c turns addrSel len) len.toNat cells wires

lemma agrees_write (addrSel : BitVec 32) (len : BitVec 16) (cells : Cells) : AgreesAlways .write addrSel len cells := by
  refine fun answer wires => ⟨len.toNat + 1, fun turns hturns => ?_⟩
  have hrun := exec_writeBuf_bytes addrSel answer cells wires hturns
  exact ⟨congrArg Prod.fst hrun, hrun.trans (exec_writeBuf_bursts addrSel).symm,
    fun i _ => congrFun (congrArg (fun r => r.2.1) hrun) i⟩

lemma agrees_read_zero (addrSel : BitVec 32) (cells : Cells) : AgreesAlways .read addrSel 0 cells := by
  refine fun answer wires => ⟨1, fun turns hturns => ?_⟩
  obtain ⟨turns, rfl⟩ := Nat.exists_eq_add_one.2 hturns
  have hrun : exec (chip answer) (wizchipReadBuf byteCallbacks (turns + 1) addrSel 0) cells wires =
      (some (), cells, opening wires addrSel spiRead ++ [] ++ [.deselect]) :=
    (exec_bind (exec_writeBytes _ (addressBytes addrSel spiRead))).trans (by rw [List.append_nil]; rfl)
  exact ⟨congrArg Prod.fst hrun, hrun.trans rfl, fun i _ => congrFun (congrArg (fun r => r.2.1) hrun) i⟩

/-- On a chip that drives a constant which is not in the second cell: either the number of bytes
that are read differs, or that cell does. -/
lemma not_agrees_read (addrSel : BitVec 32) {len : BitVec 16} (hlen : len ≠ 0) (cells : Cells) :
    ¬ AgreesAlways .read addrSel len cells := by
  intro h
  obtain ⟨T, hagrees⟩ := h (fun _ => ~~~ cells 1) []
  have hlt := (-len).isLt
  obtain ⟨cells', wires', hrun, hwires, hcells⟩ := exec_readBuf_bytes addrSel (fun _ => ~~~ cells 1)
    cells [] (show (-len).toNat < max T 65536 by omega)
  have hsame := hrun.symm.trans ((hagrees _ (le_max_left T 65536)).same.trans (exec_readBuf_bursts addrSel))
  have hcount := congrArg (fun r => r.2.2.length) hsame
  have hcell : cells' 1 = (received (fun _ => ~~~ cells 1) (opening [] addrSel spiRead) len.toNat).getD 1 (cells 1) :=
    congrFun (congrArg (fun r => r.2.1) hsame) 1
  have hbits := len.isLt
  have hpos : len.toNat ≠ 0 := fun h => hlen (BitVec.eq_of_toNat_eq h)
  simp only [hwires, List.length_append, List.length_map, length_received, List.length_singleton,
    BitVec.toNat_neg] at hcount
  obtain ⟨n, hn⟩ : ∃ n, len.toNat = n + 2 := Nat.exists_eq_add_of_le' (by omega)
  rw [hn] at hcell
  have hread : cells 1 = ~~~ cells 1 := (hcells 1 Nat.one_ne_zero).symm.trans hcell
  exact BitVec.ne_not_self (by decide) hread

/-- For every address, length and content of the buffer. -/
theorem agrees_iff (op : Op) (addrSel : BitVec 32) (len : BitVec 16) (cells : Cells) :
    AgreesAlways op addrSel len cells ↔ op = .write ∨ len = 0 := by
  constructor
  · intro h
    cases op with
    | write => exact .inl rfl
    | read => exact .inr (by_contra fun hlen => not_agrees_read addrSel hlen cells h)
  · rintro (rfl | rfl)
    · exact agrees_write addrSel len cells
    · cases op with
      | write => exact agrees_write addrSel 0 cells
      | read => exact agrees_read_zero addrSel cells

/-- One byte: read 65535 times instead of once. -/
theorem one_byte_read_again : ¬ ∀ (op : Op) (addrSel : BitVec 32) (len : BitVec 16) (cells : Cells),
    AgreesAlways op addrSel len cells :=
  fun claim => not_agrees_read 0 (by decide) (fun _ => 0) (claim .read 0 1 fun _ => 0)

end IoLibrary.W6100
