import IoLibrary.Transport
import IoLibrary.Effects.Wp

/-! The SPI bus under a frame: one call for each bus callback, and the checked transfers
of wizchip_conf.c as the bytes they put between one chip select and its release. -/
namespace IoLibrary.Spi
open Effects

inductive BusIo
  | enter
  | exit
  | clear
  | select
  | deselect
  | writeByte (v : Byte)
  | readByte
  | writeBurst (data : List Byte)
  | readBurst (len : ℕ)
  | checkBusy
  | checkError
  deriving DecidableEq, Repr

@[reducible] def BusIo.Res : BusIo → Type
  | .readByte => Byte
  | .readBurst len => Vector Byte len
  | .checkBusy => Bool
  | .checkError => Bool
  | _ => Unit

abbrev Bus := Prog Driver BusIo BusIo.Res

abbrev bus (e : BusIo) : Bus e.Res := Prog.perform e

/-- WIZCHIP_SAFE_SPI, and which of the two burst callbacks are registered. -/
structure Config where
  safeSpi : Bool
  readBurst : Bool
  writeBurst : Bool

/-- Which of the two burst callbacks are registered. -/
structure Callbacks where
  readBurst : Bool
  writeBurst : Bool

/-- _W5500_SPI_READ_ and _W5500_SPI_WRITE_ -/
def spiRead : BitVec 8 := 0x00
def spiWrite : BitVec 8 := 0x04

/-- The three bytes of an `AddrSel`, the high one first. -/
def headerBytes (addr : BitVec 32) : List Byte :=
  [(addr >>> 16).setWidth 8, (addr >>> 8).setWidth 8, addr.setWidth 8]

/-- One write callback for each byte. -/
def writeEach : List Byte → Bus Unit
  | [] => return ()
  | v :: data => do
    bus (.writeByte v)
    writeEach data

/-- One read callback for each byte. -/
def readEach : ℕ → Bus (List Byte)
  | 0 => return []
  | n + 1 => do
    let v ← bus .readByte
    let rest ← readEach n
    return v :: rest

def writeData (c : Config) (data : List Byte) : Bus Unit :=
  if c.writeBurst then bus (.writeBurst data) else writeEach data

def readData (c : Config) (len : ℕ) : Bus (List Byte) := do
  if c.readBurst then
    let x ← bus (.readBurst len)
    return x.toList
  else readEach len

def wizchipSpiWriteHeader (c : Config) (addr : BitVec 32) (control : BitVec 8) : Bus Unit :=
  writeData c (headerBytes (addr ||| control.setWidth 32))

def wizchipSpiFault : Bus ℤ := do
  Prog.modify fun m => { m with chipState := .faulted, chipLastError := sockerrIo }
  return sockerrIo

/-- WIZCHIP_SPI_BUSY_CHECK() || WIZCHIP_SPI_ERROR_CHECK() -/
def statusCheck : Bus Bool := do
  let busy ← bus .checkBusy
  if busy then return true
  bus .checkError

/-- The end of a transfer whose status is checked. -/
def checkedExit (ok : Driver → Driver) : Bus ℤ := do
  let failed ← statusCheck
  if failed then
    bus .exit
    wizchipSpiFault
  else
    Prog.modify ok
    bus .exit
    return 0

/-- The end of a transfer whose status is not looked at. -/
def uncheckedExit : Bus ℤ := do
  bus .exit
  return 0

def readExit (c : Config) : Bus ℤ := do
  if c.safeSpi then checkedExit id
  else
    let m ← Prog.get
    if m.transportHealthy then uncheckedExit
    else checkedExit fun m => { m with transportHealthy := true }

def writeExit (c : Config) : Bus ℤ := if c.safeSpi then checkedExit id else uncheckedExit

/-- What lies between the select and the deselect of one frame. -/
def selected {α : Type} (body : Bus α) : Bus α := do
  bus .select
  let r ← body
  bus .deselect
  return r

/-- The bytes of a read: the header, then the data phase. -/
def readFrame {α : Type} (c : Config) (addr : BitVec 32) (data : Bus α) : Bus α :=
  selected do
    wizchipSpiWriteHeader c addr spiRead
    data

def wizchipRead8CheckedOut (c : Config) (addr : BitVec 32) (out : Bool) : Bus (ℤ × Byte) := do
  if ¬ out then return (sockerrArg, 0)
  bus .enter
  bus .clear
  let v ← readFrame c addr (bus .readByte)
  let r ← readExit c
  return (r, v)

/-- The value is stored before the status is looked at, so 0xFF is never returned for it. -/
def wizchipRead8Checked (c : Config) (addr : BitVec 32) : Bus Byte := do
  let r ← wizchipRead8CheckedOut c addr true
  return r.2

/-- The header and the byte are one array here. -/
def wizchipWrite8Checked (c : Config) (addr : BitVec 32) (data : Byte) : Bus ℤ := do
  let addr := addr ||| spiWrite.setWidth 32
  let frame := headerBytes addr ++ [data]
  bus .enter
  Prog.modify fun m => { m with transportHealthy := false }
  bus .clear
  selected (writeData c frame)
  writeExit c

def wizchipReadBufChecked (c : Config) (addr : BitVec 32) (buf : Bool) (len : ℕ) :
    Bus (ℤ × List Byte) := do
  if len = 0 then return (0, [])
  if ¬ buf then return (sockerrArg, [])
  bus .enter
  bus .clear
  let data ← readFrame c addr (readData c len)
  let r ← readExit c
  return (r, data)

def wizchipWriteBufChecked (c : Config) (addr : BitVec 32) (len : ℕ)
    (buf : Option (Vector Byte len)) : Bus ℤ := do
  if len = 0 then return 0
  match buf with
  | none => return sockerrArg
  | some buf =>
    bus .enter
    Prog.modify fun m => { m with transportHealthy := false }
    bus .clear
    selected do
      wizchipSpiWriteHeader c addr spiWrite
      writeData c buf.toList
    writeExit c

/-- wizchip_read16_5500; `none` is its failure result. -/
def wizchipRead16 (c : Config) (addr : BitVec 32) (out : Bool) : Bus (Option ℕ) := do
  if ¬ out then return none
  let (r, tmp) ← wizchipReadBufChecked c addr true 2
  return if r = 0 then some (word16 (byteAt tmp 0) (byteAt tmp 1)) else none

/-- wizchip_write16_5500 -/
def wizchipWrite16 (c : Config) (addr : BitVec 32) (v : ℕ) : Bus ℤ :=
  wizchipWriteBufChecked c addr 2 (some (frameBytes 2 (bytes16 v)))

end IoLibrary.Spi
