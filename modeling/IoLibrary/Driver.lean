import IoLibrary.Registers
import IoLibrary.Effects.Program

/-! The globals of socket.c and wizchip_conf.c, and what the driver calls: one call
for each chip-select frame, clock callback and lock callback. -/
namespace IoLibrary
open Effects

inductive SockHealth
  | healthy
  | faulted
  deriving DecidableEq, Repr

inductive SockTxState
  | idle
  | dgramPending
  | localFault
  deriving DecidableEq, Repr

/-- One element of each per-socket array of socket.c. `ioMode` and `isSending` only
ever hold 0 and 1. -/
structure Sock where
  ioMode : Bool
  isSending : Bool
  health : SockHealth
  txState : SockTxState
  txPendingLen : ℕ
  remainedSize : ℕ
  packInfo : Byte
  mode : Byte
  deriving DecidableEq, Repr

inductive ChipState
  | uninit
  | ready
  | faulted
  deriving DecidableEq, Repr

/-- The globals that neither the clock nor a transfer changes. The callback fields say
which callbacks are registered. -/
structure Globals where
  sockAnyPort : ℕ
  sock : ℕ → Sock
  txmaxCache : ℕ → ℕ
  rxmaxCache : ℕ → ℕ
  timeUsCb : Bool
  nowUs : Bool
  waitUs : Bool
  waitHook : Bool
  commandTimeoutUs : ℕ
  operationTimeoutUs : ℕ
  phyTimeoutUs : ℕ
  requestedOperationTimeoutUs : ℕ
  dns : Vector Byte 4
  dhcp : Byte

structure Driver extends Globals where
  chipState : ChipState
  chipLastError : ℤ
  transportHealthy : Bool
  configuredTimeoutUs : ℕ
  pollCounter : ℕ
  wrapLastRawUs : ℕ
  wrapBaseUs : ℕ
  previousLink : ℤ

def Sock.boot : Sock :=
  { ioMode := false, isSending := false, health := .healthy, txState := .idle
    txPendingLen := 0, remainedSize := 0, packInfo := 0, mode := 0 }

/-- The memory before the first call, with a time callback and the given budgets set up. -/
def Driver.boot (commandTimeoutUs operationTimeoutUs : ℕ) : Driver :=
  { sockAnyPort := 0xC000, sock := fun _ => Sock.boot, txmaxCache := fun _ => 0
    rxmaxCache := fun _ => 0, timeUsCb := true, nowUs := false, waitUs := false, waitHook := false
    commandTimeoutUs, operationTimeoutUs, phyTimeoutUs := 10000
    requestedOperationTimeoutUs := operationTimeoutUs, dns := .replicate 4 0, dhcp := 0
    chipState := .uninit, chipLastError := 0, transportHealthy := false, configuredTimeoutUs := 0
    pollCounter := 0, wrapLastRawUs := 0, wrapBaseUs := 0, previousLink := -1 }

/-- WIZCHIP_SAFE_SPI, and the number of turns after which a run cuts a loop. -/
structure Build where
  safeSpi : Bool
  turns : ℕ
  turns_pos : 0 < turns

/-- WIZCHIP_SAFE_SPI, with loops cut after one turn. -/
def Build.oneTurn : Build := ⟨true, 1, Nat.zero_lt_one⟩

inductive Io
  | read8 (a : Addr)
  | write8 (a : Addr) (v : Byte)
  | readBuf (a : Addr) (len : ℕ)
  | writeBuf (a : Addr) (data : List Byte)
  | now
  | wait
  | phyLink (up : Bool)
  | sockLock (n : ℕ)
  | sockUnlock (n : ℕ)
  | globalLock
  | globalUnlock
  deriving DecidableEq, Repr

/-- A frame answers its data and whether the busy or error callback reports a failure
after it; the status is cleared before each frame, so the report is about this one. -/
@[reducible] def Io.Res : Io → Type
  | .read8 _ => Byte × Bool
  | .write8 _ _ => Bool
  | .readBuf _ len => Vector Byte len × Bool
  | .writeBuf _ _ => Bool
  | .now => ℕ
  | _ => Unit

abbrev Drv := Prog Driver Io Io.Res

abbrev ask (e : Io) : Drv e.Res := Prog.perform e

def Globals.setSock (g : Globals) (sn : ℕ) (f : Sock → Sock) : Globals :=
  { g with sock := Function.update g.sock sn (f (g.sock sn)) }

@[simp] lemma Globals.setSock_same (g : Globals) (sn : ℕ) (f : Sock → Sock) :
    (g.setSock sn f).sock sn = f (g.sock sn) := by simp [setSock]

@[simp] lemma Globals.setSock_setSock (g : Globals) (sn : ℕ) (f f' : Sock → Sock) :
    (g.setSock sn f).setSock sn f' = g.setSock sn fun s => f' (f s) := by simp [setSock]

lemma Globals.setSock_other (g : Globals) {sn k : ℕ} (f : Sock → Sock) (h : k ≠ sn) :
    (g.setSock sn f).sock k = g.sock k := by simp [setSock, h]

def Driver.setSock (m : Driver) (sn : ℕ) (f : Sock → Sock) : Driver :=
  { m with toGlobals := m.toGlobals.setSock sn f }

def modifySock (sn : ℕ) (f : Sock → Sock) : Drv Unit := Prog.modify fun m => m.setSock sn f

def sockLock (sn : ℕ) : Drv Unit := ask (.sockLock sn)
def sockUnlock (sn : ℕ) : Drv Unit := ask (.sockUnlock sn)
def globalLock : Drv Unit := ask .globalLock
def globalUnlock : Drv Unit := ask .globalUnlock

/-- The body of a public operation between its lock and its single unlock. -/
def locked {α : Type} (sn : ℕ) (body : Drv α) : Drv α := do
  sockLock sn
  let r ← body
  sockUnlock sn
  return r

end IoLibrary
