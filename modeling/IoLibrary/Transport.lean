import IoLibrary.Driver

/-! The checked transfers of wizchip_conf.c and the register access of w5500.c. Each
transfer is one frame; without WIZCHIP_SAFE_SPI the status callbacks are only
consulted after a read, and only while the transport is not known to be healthy. -/
namespace IoLibrary
open Effects

def wizchipSpiFault : Drv ℤ := do
  Prog.modify fun m => { m with chipState := .faulted, chipLastError := sockerrIo }
  return sockerrIo

/-- What a checked read does after CS is released. -/
def readStatus (b : Build) (fault : Bool) : Drv ℤ := do
  if b.safeSpi then
    if fault then wizchipSpiFault else return 0
  else
    let m ← Prog.get
    if m.transportHealthy then return 0
    else if fault then wizchipSpiFault
    else
      Prog.modify fun m => { m with transportHealthy := true }
      return 0

/-- What a checked write does after CS is released. -/
def writeStatus (b : Build) (fault : Bool) : Drv ℤ :=
  if b.safeSpi ∧ fault then wizchipSpiFault else return 0

def wizchipRead8CheckedOut (b : Build) (a : Addr) : Drv (ℤ × Byte) := do
  let x ← ask (.read8 a)
  let r ← readStatus b x.2
  return (r, x.1)

def wizchipWrite8Checked (b : Build) (a : Addr) (v : Byte) : Drv ℤ := do
  Prog.modify fun m => { m with transportHealthy := false }
  let fault ← ask (.write8 a v)
  writeStatus b fault

/-- The caller's buffer is never null here. -/
def wizchipReadBufChecked (b : Build) (a : Addr) (len : ℕ) : Drv (ℤ × List Byte) :=
  if len = 0 then return (0, [])
  else do
    let x ← ask (.readBuf a len)
    let r ← readStatus b x.2
    return (r, x.1.toList)

def wizchipWriteBufChecked (b : Build) (a : Addr) (data : List Byte) : Drv ℤ :=
  if data = [] then return 0
  else do
    Prog.modify fun m => { m with transportHealthy := false }
    let fault ← ask (.writeBuf a data)
    writeStatus b fault

def wizchipRead (b : Build) (a : Addr) : Drv Byte := do
  let r ← wizchipRead8CheckedOut b a
  return r.2

def wizchipWrite (b : Build) (a : Addr) (v : Byte) : Drv Unit := do
  let _ ← wizchipWrite8Checked b a v
  return ()

def wizchipReadBuf (b : Build) (a : Addr) (len : ℕ) : Drv (List Byte) := do
  let r ← wizchipReadBufChecked b a len
  return r.2

def wizchipWriteBuf (b : Build) (a : Addr) (data : List Byte) : Drv Unit := do
  let _ ← wizchipWriteBufChecked b a data
  return ()

/-- wizchip_read16_5500(addr, out); `none` is its failure result. -/
def wizchipRead16 (b : Build) (a : Addr) : Drv (Option ℕ) := do
  let x ← ask (.readBuf a 2)
  let r ← readStatus b x.2
  return if r = 0 then some (word16 x.1[0] x.1[1]) else none

/-- wizchip_read16_5500_value -/
def wizchipRead16Value (b : Build) (a : Addr) : Drv ℕ := do
  let v ← wizchipRead16 b a
  return v.getD 0

/-- wizchip_write16_5500 -/
def wizchipWrite16 (b : Build) (a : Addr) (v : ℕ) : Drv ℤ :=
  wizchipWriteBufChecked b a (bytes16 v)

def getSnMR (b : Build) (sn : ℕ) : Drv Byte := wizchipRead b (Reg.snMR sn)
def setSnMR (b : Build) (sn : ℕ) (v : Byte) : Drv Unit := wizchipWrite b (Reg.snMR sn) v
def getSnCR (b : Build) (sn : ℕ) : Drv Byte := wizchipRead b (Reg.snCR sn)
def setSnCR (b : Build) (sn : ℕ) (v : Byte) : Drv Unit := wizchipWrite b (Reg.snCR sn) v
def getSnSR (b : Build) (sn : ℕ) : Drv Byte := wizchipRead b (Reg.snSR sn)

def getSnIR (b : Build) (sn : ℕ) : Drv Byte := do
  let v ← wizchipRead b (Reg.snIR sn)
  return v &&& 0x1F

def setSnIR (b : Build) (sn : ℕ) (v : Byte) : Drv Unit := wizchipWrite b (Reg.snIR sn) (v &&& 0x1F)

def getSnIMR (b : Build) (sn : ℕ) : Drv Byte := do
  let v ← wizchipRead b (Reg.snIMR sn)
  return v &&& 0x1F

def setSnIMR (b : Build) (sn : ℕ) (v : Byte) : Drv Unit :=
  wizchipWrite b (Reg.snIMR sn) (v &&& 0x1F)

def setSnPORT (b : Build) (sn port : ℕ) : Drv Unit := do
  let _ ← wizchipWrite16 b (Reg.snPORT sn) port
  return ()

def setSnDPORT (b : Build) (sn port : ℕ) : Drv Unit := do
  let _ ← wizchipWrite16 b (Reg.snDPORT sn) port
  return ()

def setSnDIPR (b : Build) (sn : ℕ) (addr : Vector Byte 4) : Drv Unit :=
  wizchipWriteBuf b (Reg.snDIPR sn) addr.toList

def getSnTXWR (b : Build) (sn : ℕ) : Drv ℕ := wizchipRead16Value b (Reg.snTXWR sn)
def setSnTXWR (b : Build) (sn v : ℕ) : Drv Unit := wizchipWriteBuf b (Reg.snTXWR sn) (bytes16 v)
def getSnRXRD (b : Build) (sn : ℕ) : Drv ℕ := wizchipRead16Value b (Reg.snRXRD sn)
def setSnRXRD (b : Build) (sn v : ℕ) : Drv Unit := wizchipWriteBuf b (Reg.snRXRD sn) (bytes16 v)

def wizSendData (b : Build) (sn : ℕ) (wizdata : List Byte) : Drv Unit :=
  if sockNum ≤ sn ∨ wizdata = [] then return ()
  else do
    let ptr ← getSnTXWR b sn
    wizchipWriteBuf b ⟨ptr, .txBuf sn⟩ wizdata
    setSnTXWR b sn ((ptr + wizdata.length) % 65536)

def wizRecvData (b : Build) (sn len : ℕ) : Drv (List Byte) :=
  if sockNum ≤ sn ∨ len = 0 then return []
  else do
    let ptr ← getSnRXRD b sn
    let data ← wizchipReadBuf b ⟨ptr, .rxBuf sn⟩ len
    setSnRXRD b sn ((ptr + len) % 65536)
    return data

end IoLibrary
