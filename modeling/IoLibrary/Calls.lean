import IoLibrary.Effects.Trace
import IoLibrary.Lifecycle
import IoLibrary.Rules
import IoLibrary.Socket.OpenRules

/-! The public interface: the operations on a socket and the lifecycle of the chip. -/
namespace IoLibrary
open Effects

/-- A public operation with its arguments, apart from the socket number. -/
inductive Op
  | socket (protocol : Byte) (port : ℕ) (flag : Byte)
  | close
  | listen
  | connect (addr : Option (Vector Byte 4)) (port addrlen : ℕ)
  | disconnect
  | send (len : ℕ) (buf : Option (Vector Byte len))
  | recv (buf : Bool) (len : ℕ)
  | sendto (len : ℕ) (buf : Option (Vector Byte len)) (addr : Vector Byte 4) (port addrlen : ℕ)
  | recvfrom (buf : Bool) (len : ℕ) (addrPort : Bool)
  | ctlsocket (cstype : CtlsockType) (arg : Option ArgMem)
  | setsockopt (sotype : SockoptType) (arg : Option ArgMem)
  | getsockopt (sotype : SockoptType) (arg : Bool)

/-- The integer an operation returns. -/
def Op.run (b : Build) (sn : ℕ) : Op → Drv ℤ
  | .socket protocol port flag => IoLibrary.socket b sn protocol port flag
  | .close => IoLibrary.close b sn
  | .listen => IoLibrary.listen b sn
  | .connect addr port addrlen => IoLibrary.connect b sn addr port addrlen
  | .disconnect => IoLibrary.disconnect b sn
  | .send len buf => IoLibrary.send b sn len buf
  | .recv buf len => do
    let r ← IoLibrary.recv b sn buf len
    return r.1
  | .sendto len buf addr port addrlen => IoLibrary.sendto b sn len buf addr port addrlen
  | .recvfrom buf len addrPort => do
    let r ← IoLibrary.recvfrom b sn buf len addrPort
    return r.ret
  | .ctlsocket cstype arg => do
    let r ← IoLibrary.ctlsocket b sn cstype arg
    return r.1
  | .setsockopt sotype arg => IoLibrary.setsockopt b sn sotype arg
  | .getsockopt sotype arg => do
    let r ← IoLibrary.getsockopt b sn sotype arg
    return r.1

/-- The results that report success: the socket number, SOCK_OK or a positive byte count. -/
def Op.Succeeds (sn : ℕ) (r : ℤ) : Op → Prop
  | .socket _ _ _ => r = sn
  | .send _ _ | .recv _ _ | .sendto _ _ _ _ _ | .recvfrom _ _ _ => 0 < r
  | _ => r = sockOk

/-- What an application calls: an operation on a socket, or a reset of the chip. -/
inductive Call
  | on (sn : ℕ) (op : Op)
  | init (txsize rxsize : Option (ℕ → ℕ))
  | swReset

def Call.run (b : Build) : Call → Drv ℤ
  | .on sn op => op.run b sn
  | .init txsize rxsize => wizchipInit b txsize rxsize
  | .swReset => wizchipSwReset b

/-- The calls of the driver with the globals they were made from and their answers. -/
abbrev IoTrace := Trace Globals Io Io.Res

/-- A chip that answers what `allowed` says, after the trace so far. -/
abbrev chipEnv (allowed : IoTrace → (e : Io) → e.Res → Prop) : Env Driver IoTrace Io Io.Res :=
  Env.along (traceEnv allowed) Driver.toGlobals

/-- A chip that may answer anything. -/
def anyChip : Env Driver IoTrace Io Io.Res := chipEnv fun _ _ _ => True

lemma wp_of_wpg {α : Type} {p : Drv α} {allowed : IoTrace → (e : Io) → e.Res → Prop}
    {Q : α → Globals → IoTrace → Prop} {H : Globals → IoTrace → Prop} {m : Driver} {t : IoTrace}
    (h : wpg (traceEnv allowed) p Q H m.toGlobals t) :
    wp (chipEnv allowed) p (fun r m' t' => Q r m'.toGlobals t') (fun m' t' => H m'.toGlobals t') m t :=
  wp_of_wpv h

/-- socket returns its number only when it has opened the socket. -/
lemma opened_of_eval {b : Build} {sn : ℕ} {protocol flag : Byte} {port : ℕ}
    {allowed : IoTrace → (e : Io) → e.Res → Prop} {m m' : Driver} {t t' : IoTrace}
    (h : Eval (chipEnv allowed) (IoLibrary.socket b sn protocol port flag) m t (some (sn : ℤ)) m' t') :
    socketArgCheck sn protocol flag = none ∧
      m'.sock sn = Sock.opened protocol flag (m.sock sn) :=
  wp_returns (wp_of_wpg (socket_opens protocol flag port)) h rfl

/-- The commands an operation may issue. -/
def Op.commands : Op → List Byte
  | .socket _ _ _ => [snCrOpen, snCrClose]
  | .close => [snCrClose]
  | .listen => [snCrListen]
  | .connect _ _ _ => [snCrConnect]
  | .disconnect => [snCrDiscon]
  | .send _ _ => [snCrSend, snCrClose]
  | .recv _ _ | .recvfrom _ _ _ => [snCrRecv, snCrClose]
  | .sendto _ _ _ _ _ => [snCrSend]
  | .setsockopt .keepalivesend _ => [snCrSendKeep]
  | .ctlsocket _ _ | .setsockopt _ _ | .getsockopt _ _ => []

/-- The operations that leave the outstanding SEND and the mode of an open socket alone. -/
def Op.Silent : Op → Prop
  | .socket _ _ _ | .disconnect | .send _ _ | .sendto _ _ _ _ _ => False
  | _ => True

/-- An operation that sends and opens nothing, with its locks. -/
lemma balanced_quiet_op (b : Build) {k : ℕ} (op : Op) (h : op.Silent) :
    BalancedQuiet (· ∈ op.commands) k (op.run b k) := by
  have first {α : Type} {cmd : Byte → Prop} {p : Drv α} (hp : BalancedQuiet cmd k p) (f : α → ℤ) :
      BalancedQuiet cmd k (do let r ← p; return f r) := balanced_bind hp fun _ => balanced_pure _
  cases op with
  | close => exact quiet_close b (by simp [Op.commands])
  | listen => exact quiet_listen b (by simp [Op.commands])
  | connect addr port addrlen => exact quiet_connect b (by simp [Op.commands]) addr port addrlen
  | recv buf len =>
    exact first (quiet_recv b (by simp [Op.commands]) (by simp [Op.commands]) buf len) _
  | recvfrom buf len addrPort =>
    have recvfrom : BalancedQuiet (· ∈ (Op.recvfrom buf len addrPort).commands) k
        (IoLibrary.recvfrom b k buf len addrPort) :=
      quiet_recvfrom b (by simp [Op.commands]) (by simp [Op.commands]) buf len addrPort
    exact first recvfrom _
  | ctlsocket cstype arg => exact first (quiet_ctlsocket b cstype arg) _
  | getsockopt sotype arg => exact first (quiet_getsockopt b sotype arg) _
  | setsockopt sotype arg =>
    refine quiet_setsockopt b (fun hkeep => ?_) arg
    rw [hkeep]
    simp [Op.commands]
  | _ => exact h.elim

lemma quiet_op (b : Build) {k : ℕ} (op : Op) (h : op.Silent) :
    WithinQuiet (· ∈ op.commands) k (op.run b k) := within_of_orderly (balanced_quiet_op b op h)

/-- An operation on socket `k` touches no other socket's state, issues its own commands, and
returns its locks. -/
lemma balanced_op (b : Build) (k : ℕ) (op : Op) {T : Sock → Sock → Prop}
    (tame : ∀ s s', Tame True s s' → T s s') (notSending : ∀ s : Sock, T s s.notSending)
    (sending : ∀ s : Sock, T s s.sending)
    (opened : ∀ protocol port flag, op = .socket protocol port flag →
      ∀ s : Sock, T s (s.opened protocol flag))
    (transmits : ∀ len buf addr port addrlen, op = .sendto len buf addr port addrlen →
      ∀ (s : Sock) t n, T s { s with txState := t, txPendingLen := n }) :
    BalancedSocket T (· ∈ op.commands) k (op.run b k) := by
  cases op with
  | socket protocol port flag =>
    exact loose_socket b tame (by simp [Op.commands]) (by simp [Op.commands]) protocol port flag
      (opened _ _ _ rfl)
  | disconnect => exact loose_disconnect b tame (by simp [Op.commands]) notSending
  | send len buf =>
    exact loose_send b tame (by simp [Op.commands]) (by simp [Op.commands]) notSending sending len
      buf
  | sendto len buf addr port addrlen =>
    exact loose_sendto b tame (by simp [Op.commands]) (transmits _ _ _ _ _ rfl) len buf addr port
      addrlen
  | _ => exact loose_quiet tame (balanced_quiet_op b _ trivial)

lemma within_op (b : Build) (k : ℕ) (op : Op) {T : Sock → Sock → Prop}
    (tame : ∀ s s', Tame True s s' → T s s') (notSending : ∀ s : Sock, T s s.notSending)
    (sending : ∀ s : Sock, T s s.sending)
    (opened : ∀ protocol port flag, op = .socket protocol port flag →
      ∀ s : Sock, T s (s.opened protocol flag))
    (transmits : ∀ len buf addr port addrlen, op = .sendto len buf addr port addrlen →
      ∀ (s : Sock) t n, T s { s with txState := t, txPendingLen := n }) :
    WithinSocket T (· ∈ op.commands) k (op.run b k) :=
  within_of_orderly (balanced_op b k op tame notSending sending opened transmits)

/-- An operation on one socket leaves the others alone. -/
lemma balanced_others (b : Build) (k : ℕ) (op : Op) :
    BalancedSocket (fun _ _ => True) (· ∈ op.commands) k (op.run b k) :=
  balanced_op b k op (fun _ _ _ => trivial) (fun _ => trivial) (fun _ => trivial)
    (fun _ _ _ _ _ => trivial) fun _ _ _ _ _ _ _ _ _ => trivial

lemma within_others (b : Build) (k : ℕ) (op : Op) :
    WithinSocket (fun _ _ => True) (· ∈ op.commands) k (op.run b k) :=
  within_of_orderly (balanced_others b k op)

end IoLibrary
