import IoLibrary.Footprints
import IoLibrary.Locking
import IoLibrary.Socket.Datagram
import IoLibrary.Socket.Options
import IoLibrary.Socket.Stream

/-! Footprints of the public socket operations: the part of the memory and of the chip that each
can touch, whatever the chip answers, with the locks taken in order and returned. -/
namespace IoLibrary
open Effects

/-- An update of socket `k` within `T`, and of nothing else but the automatic port; the chip
becomes at most faulted. -/
structure Touches (T : Sock → Sock → Prop) (k : ℕ) (m m' : Driver) : Prop where
  sock : T (m.sock k) (m'.sock k)
  others : ∀ j ≠ k, m'.sock j = m.sock j
  rest : m'.toGlobals = { m.toGlobals with sock := m'.sock, sockAnyPort := m'.sockAnyPort }
  chip : m'.chipState = m.chipState ∨ m'.chipState = .faulted

def SockUpdate (T : Sock → Sock → Prop) (k : ℕ) (f : Driver → Driver) : Prop :=
  ∀ m, Touches T k m (f m)

/-- What an update keeps that leaves the outstanding SEND and the faults of a socket alone. -/
structure Keeps (s s' : Sock) : Prop where
  mode : s'.mode = s.mode
  isSending : s'.isSending = s.isSending
  txState : s'.txState = s.txState
  txPendingLen : s'.txPendingLen = s.txPendingLen
  health : s.health = .faulted → s'.health = .faulted

/-- An update that resets the socket, where that is allowed, or keeps its sending state. -/
def Tame (resets : Prop) (s s' : Sock) : Prop :=
  resets ∧ (s' = s.cleared ∨ s' = s.cleared.faulted) ∨ Keeps s s'

/-- The calls of an operation on socket `k` that sends nothing and issues only commands in `cmd`:
it accesses the registers of its socket, and reads its RX memory if it may issue RECV. -/
inductive Quiet (cmd : Byte → Prop) (k : ℕ) : Io → Prop
  | read8 {a : Addr} (block : a.block = .socket k) : Quiet cmd k (.read8 a)
  | readBuf {a : Addr} {len : ℕ} (block : a.block = .socket k ∨ a.block = .rxBuf k ∧ cmd snCrRecv) :
      Quiet cmd k (.readBuf a len)
  | write8 {a : Addr} {v : Byte} (block : a.block = .socket k)
      (command : a = Reg.snCR k → cmd v) : Quiet cmd k (.write8 a v)
  | writeBuf {a : Addr} {data : List Byte} (block : a.block = .socket k) :
      Quiet cmd k (.writeBuf a data)
  | now : Quiet cmd k .now
  | wait : Quiet cmd k .wait
  | sockLock : Quiet cmd k (.sockLock k)
  | sockUnlock : Quiet cmd k (.sockUnlock k)

/-- The same under the socket lock. -/
inductive Access (cmd : Byte → Prop) (k : ℕ) : Io → Prop
  | read8 {a : Addr} (block : a.block = .socket k) : Access cmd k (.read8 a)
  | readBuf {a : Addr} {len : ℕ} (block : a.block = .socket k ∨ a.block = .rxBuf k ∧ cmd snCrRecv) :
      Access cmd k (.readBuf a len)
  | write8 {a : Addr} {v : Byte} (block : a.block = .socket k)
      (command : a = Reg.snCR k → cmd v) : Access cmd k (.write8 a v)
  | writeBuf {a : Addr} {data : List Byte} (block : a.block = .socket k) :
      Access cmd k (.writeBuf a data)
  | now : Access cmd k .now
  | wait : Access cmd k .wait

lemma Access.quiet {cmd : Byte → Prop} {k : ℕ} {e : Io} (h : Access cmd k e) :
    Quiet cmd k e ∧ Lockless e := by
  cases h with
  | read8 block => exact ⟨.read8 block, rfl⟩
  | readBuf block => exact ⟨.readBuf block, rfl⟩
  | write8 block command => exact ⟨.write8 block command, rfl⟩
  | writeBuf block => exact ⟨.writeBuf block, rfl⟩
  | now => exact ⟨.now, rfl⟩
  | wait => exact ⟨.wait, rfl⟩

lemma sockUpdate_noise {T : Sock → Sock → Prop} (hT : ∀ s, T s s) (k : ℕ) {f : Driver → Driver}
    (hf : Noise f) : SockUpdate T k f := by
  intro m
  obtain ⟨hg, hc⟩ := hf m
  refine ⟨?_, ?_, ?_, hc⟩
  · rw [hg]
    exact hT _
  · intro j _
    rw [hg]
  · rw [hg]

lemma sockUpdate_setSock {T : Sock → Sock → Prop} {k : ℕ} {t : Sock → Sock}
    (ht : ∀ s, T s (t s)) : SockUpdate T k fun m => m.setSock k t := by
  intro m
  refine ⟨?_, fun j hj => ?_, rfl, .inl rfl⟩
  · change T (m.sock k) ((m.toGlobals.setSock k t).sock k)
    rw [Globals.setSock_same]
    exact ht _
  · exact Globals.setSock_other m.toGlobals t hj

lemma tame_refl {resets : Prop} (s : Sock) : Tame resets s s := .inr ⟨rfl, rfl, rfl, rfl, id⟩

lemma tame_noise {resets : Prop} (k : ℕ) : ∀ f, Noise f → SockUpdate (Tame resets) k f :=
  fun _ hf => sockUpdate_noise tame_refl k hf

/-- Within the footprint of an operation that neither sends nor opens. -/
abbrev WithinQuiet (cmd : Byte → Prop) (k : ℕ) {α : Type} (p : Drv α) : Prop :=
  Within (SockUpdate (Tame (cmd snCrClose)) k) (Quiet cmd k) p

/-- The same under the socket lock. -/
abbrev WithinAccess (cmd : Byte → Prop) (k : ℕ) {α : Type} (p : Drv α) : Prop :=
  Within (SockUpdate (Tame (cmd snCrClose)) k) (Access cmd k) p

/-- Within that footprint, with the locks in order. -/
abbrev BalancedQuiet (cmd : Byte → Prop) (k : ℕ) {α : Type} (p : Drv α) : Prop :=
  Balanced (SockUpdate (Tame (cmd snCrClose)) k) (Quiet cmd k) p

section quiet
variable {cmd : Byte → Prop} (b : Build) {k : ℕ}

lemma quiet_pure {α : Type} (a : α) : WithinAccess cmd k (pure a) := within_pure a

lemma quiet_get : WithinAccess cmd k (Prog.get : Drv Driver) := within_look (tame_noise k)

lemma quiet_modifySock {t : Sock → Sock} (ht : ∀ s, Tame (cmd snCrClose) s (t s)) :
    WithinAccess cmd k (modifySock k t) :=
  (within_modify _).2 (sockUpdate_setSock ht)

lemma quiet_markFaulted : WithinAccess cmd k (markFaulted k) :=
  quiet_modifySock fun _ => .inr ⟨rfl, rfl, rfl, rfl, fun _ => rfl⟩

lemma quiet_read {a : Addr} (ha : a.block = .socket k) : WithinAccess cmd k (wizchipRead b a) :=
  within_wizchipRead (tame_noise k) b (.read8 ha)

lemma quiet_write {a : Addr} {v : Byte} (ha : a.block = .socket k) (hv : a ≠ Reg.snCR k) :
    WithinAccess cmd k (wizchipWrite b a v) :=
  within_wizchipWrite (tame_noise k) b (.write8 ha fun h => absurd h hv)

lemma quiet_command {v : Byte} (hv : cmd v) :
    WithinAccess cmd k (setSnCR b k v) :=
  within_wizchipWrite (tame_noise k) b (.write8 rfl fun _ => hv)

lemma quiet_getSnIR : WithinAccess cmd k (getSnIR b k) :=
  within_bind (quiet_read b rfl) fun _ => quiet_pure _

lemma quiet_setSnIR (v : Byte) : WithinAccess cmd k (setSnIR b k v) := by
  apply quiet_write b rfl
  simp [Reg.snIR, Reg.snCR]

lemma quiet_deadlineAbs (t : ℕ) : WithinAccess cmd k (wizchipDeadlineAbs t) :=
  within_wizchipDeadlineAbs (tame_noise k) .now t

lemma quiet_sockDeadlineBegin (t : ℕ) : WithinAccess cmd k (sockDeadlineBegin t) :=
  within_sockDeadlineBegin (tame_noise k) .now t

lemma quiet_waitPollInit : WithinAccess cmd k waitPollInit := within_waitPollInit (tame_noise k) .now

lemma quiet_clockLoop {α : Type} {look : Drv (Option α)} {expired : Drv α}
    (hlook : WithinAccess cmd k look) (hexp : WithinAccess cmd k expired) (d : ℕ) :
    WithinAccess cmd k (clockLoop b d look expired) :=
  within_clockLoop (tame_noise k) b .now hlook hexp d

lemma quiet_pollLoop {α : Type} {look : Drv (Option α)} {expired : Drv α}
    (hlook : WithinAccess cmd k look) (hexp : WithinAccess cmd k expired) (d : ℕ) (poll : Poll) :
    WithinAccess cmd k (pollLoop b d poll look expired) :=
  within_pollLoop (tame_noise k) b .now .wait hlook hexp d poll

lemma quiet_stableSize {a : Addr} (ha : a.block = .socket k) : WithinAccess cmd k (stableSize b a) :=
  within_stableSize (tame_noise k) b .now (.readBuf (.inl ha))

lemma balanced_access {α : Type} {p : Drv α} (hp : WithinAccess cmd k p) : BalancedQuiet cmd k p :=
  balanced_of_within hp fun _ => Access.quiet

lemma quiet_locked {α : Type} {body : Drv α} (hbody : WithinAccess cmd k body) :
    BalancedQuiet cmd k (locked k body) :=
  balanced_locked ⟨.sockLock, .sockUnlock⟩ hbody fun _ => Access.quiet

lemma quiet_faultedTimeout : WithinAccess cmd k (faultedTimeout k) :=
  within_bind quiet_markFaulted fun _ => quiet_pure _

lemma quiet_waitRegister {a : Addr} (ha : a.block = .socket k) (wanted : Byte) (d : ℕ) :
    WithinAccess cmd k (waitRegister b k a wanted d) := by
  refine within_bind quiet_waitPollInit fun poll => quiet_pollLoop b ?_ quiet_faultedTimeout d poll
  exact within_bind (quiet_read b ha) fun _ => within_ite (quiet_pure _) (quiet_pure _)

lemma quiet_takeTimeout : WithinAccess cmd k (takeTimeout b k) :=
  within_bind (quiet_getSnIR b) fun _ =>
    within_ite (within_bind (quiet_setSnIR b _) fun _ => quiet_pure _) (quiet_pure _)

lemma quiet_crOrTimeoutLook : WithinAccess cmd k (crOrTimeoutLook b k) :=
  within_bind (quiet_read b rfl) fun _ => within_ite (quiet_pure _) <|
    within_bind (quiet_takeTimeout b) fun _ => within_ite (quiet_pure _) (quiet_pure _)

lemma quiet_waitDatagramCrAccepted (t : ℕ) (nonblocking : Bool) :
    WithinAccess cmd k (waitDatagramCrAccepted b k t nonblocking) := by
  refine within_bind (quiet_crOrTimeoutLook b) fun r => ?_
  cases r with
  | some r => exact quiet_pure _
  | none =>
    refine within_ite (quiet_pure _) (within_bind (quiet_deadlineAbs t) fun d => ?_)
    refine within_bind quiet_waitPollInit fun poll => ?_
    exact quiet_pollLoop b (quiet_crOrTimeoutLook b) quiet_faultedTimeout d poll

lemma quiet_closeInternal (hclose : cmd snCrClose) (d : ℕ) : WithinAccess cmd k (closeInternal b k d) := by
  have command (d : ℕ) : WithinAccess cmd k (closeCommand b k d) := by
    refine within_bind quiet_get fun m => within_ite (quiet_pure _) ?_
    refine within_bind (quiet_read b rfl) fun sr => within_ite (quiet_pure _) ?_
    refine within_bind (quiet_command b hclose) fun _ => ?_
    refine within_bind (quiet_waitRegister b rfl _ _) fun ret => within_ite (quiet_pure _) ?_
    exact within_bind (quiet_setSnIR b _) fun _ => quiet_waitRegister b rfl _ _
  have clear (r : ℤ) : WithinAccess cmd k (closeClearState k r) := by
    refine within_bind (quiet_modifySock fun _ => .inl ⟨hclose, .inl rfl⟩) fun _ => within_ite ?_ (quiet_pure _)
    exact within_bind quiet_markFaulted fun _ => quiet_pure _
  refine within_ite (quiet_pure _) (within_ite ?_ ?_)
  · refine within_bind quiet_get fun m => within_bind (quiet_sockDeadlineBegin _) fun d => ?_
    cases d with
    | none => exact clear _
    | some d => exact within_bind (command d) clear
  · exact within_bind (command d) clear

lemma quiet_close (hclose : cmd snCrClose) : BalancedQuiet cmd k (close b k) :=
  balanced_ite (balanced_pure _) (quiet_locked (quiet_closeInternal b hclose 0))

lemma quiet_listen (hlisten : cmd snCrListen) : BalancedQuiet cmd k (listen b k) := by
  refine balanced_ite (balanced_pure _) (quiet_locked ?_)
  refine within_bind quiet_get fun m => within_ite (quiet_pure _) ?_
  refine within_bind (quiet_read b rfl) fun sr => within_ite (quiet_pure _) ?_
  refine within_bind quiet_get fun m => within_bind (quiet_sockDeadlineBegin _) fun d => ?_
  cases d with
  | none => exact quiet_pure _
  | some d =>
    refine within_bind (quiet_command b hlisten) fun _ => ?_
    refine within_bind (quiet_waitRegister b rfl _ _) fun ret => within_ite (quiet_pure _) ?_
    exact quiet_waitRegister b rfl _ _

lemma quiet_faultedIo : WithinAccess cmd k (faultedIo k) :=
  within_bind quiet_markFaulted fun _ => quiet_pure _

lemma quiet_setSnDPORT (port : ℕ) : WithinAccess cmd k (setSnDPORT b k port) :=
  within_bind (within_wizchipWriteBufChecked (tame_noise k) b (.writeBuf rfl)) fun _ => quiet_pure _

lemma quiet_setSnDIPR (addr : Vector Byte 4) : WithinAccess cmd k (setSnDIPR b k addr) :=
  within_wizchipWriteBuf (tame_noise k) b (.writeBuf rfl)

lemma quiet_connect (hconnect : cmd snCrConnect) (addr : Option (Vector Byte 4)) (port addrlen : ℕ) :
    BalancedQuiet cmd k (connect b k addr port addrlen) := by
  refine balanced_ite (balanced_pure _) ?_
  cases addr with
  | none => exact balanced_pure _
  | some addr =>
    refine balanced_ite (balanced_pure _) (balanced_ite (balanced_pure _) ?_)
    refine balanced_ite (balanced_pure _) ?_
    refine quiet_locked (within_bind quiet_get fun m => within_ite (quiet_pure _) ?_)
    refine within_ite (quiet_pure _) (within_ite (quiet_pure _) ?_)
    refine within_bind (quiet_read b rfl) fun sr => within_ite (quiet_pure _) ?_
    refine within_ite (quiet_pure _) (within_bind (quiet_setSnDPORT b port) fun _ => ?_)
    refine within_bind (quiet_setSnDIPR b addr) fun _ => ?_
    refine within_bind (quiet_command b hconnect) fun _ => within_bind quiet_get fun m => ?_
    refine within_ite (quiet_pure _) (within_bind (quiet_deadlineAbs _) fun d => ?_)
    refine within_bind (quiet_waitRegister b rfl _ _) fun ret => within_ite (quiet_pure _) ?_
    refine within_bind (quiet_deadlineAbs _) fun d => quiet_clockLoop b ?_ quiet_faultedIo d
    refine within_bind (quiet_read b rfl) fun status => within_ite (quiet_pure _) ?_
    refine within_bind (quiet_takeTimeout b) fun timeout => within_ite (quiet_pure _) ?_
    exact within_ite (quiet_pure _) (quiet_pure _)

lemma quiet_wizRecvData (hrecv : cmd snCrRecv) (len : ℕ) : WithinAccess cmd k (wizRecvData b k len) := by
  refine within_ite (quiet_pure _) ?_
  refine within_bind (within_wizchipRead16Value (tame_noise k) b (.readBuf (.inl rfl))) fun ptr => ?_
  refine within_bind (within_wizchipReadBuf (tame_noise k) b (.readBuf (.inr ⟨rfl, hrecv⟩))) fun data => ?_
  refine within_bind (within_wizchipWriteBuf (tame_noise k) b (.writeBuf rfl)) fun _ => ?_
  exact quiet_pure _

lemma quiet_recv (hrecv : cmd snCrRecv) (hclose : cmd snCrClose) (buf : Bool) (len : ℕ) : BalancedQuiet cmd k (recv b k buf len) := by
  have closes : WithinAccess cmd k (do
      let _ ← closeInternal b k 0
      return some (.error sockerrSockstatus) : Drv (Option (Except ℤ ℕ))) :=
    within_bind (quiet_closeInternal b hclose 0) fun _ => quiet_pure _
  have peerClosed : WithinAccess cmd k (recvPeerClosed b k) := by
    refine within_bind (quiet_stableSize b rfl) fun r => ?_
    cases r with
    | error e => exact quiet_pure _
    | ok freesize =>
      exact within_bind quiet_get fun m => within_ite closes (quiet_pure _)
  have look (nonblocking : Bool) : WithinAccess cmd k (recvLook b k nonblocking) := by
    refine within_bind (quiet_stableSize b rfl) fun r => ?_
    cases r with
    | error e => exact quiet_pure _
    | ok recvsize =>
      refine within_bind (quiet_read b rfl) fun sr => within_ite ?_ (within_ite closes ?_)
      · exact within_ite (quiet_pure _) peerClosed
      · exact within_ite (quiet_pure _) (within_ite (quiet_pure _) (quiet_pure _))
  have commit (len t : ℕ) : WithinAccess cmd k (recvCommit b k len t) := by
    refine within_bind (quiet_wizRecvData b hrecv len) fun data => ?_
    refine within_bind (quiet_command b hrecv) fun _ => ?_
    refine within_bind (quiet_deadlineAbs t) fun d => ?_
    refine within_bind (quiet_waitRegister b rfl _ _) fun ret => within_ite ?_ (quiet_pure _)
    exact within_bind quiet_markFaulted fun _ => quiet_pure _
  refine balanced_ite (balanced_pure _) (balanced_ite (balanced_pure _) ?_)
  refine balanced_ite (balanced_pure _) (balanced_bind (balanced_access quiet_get) fun m => ?_)
  refine balanced_ite (balanced_pure _) (quiet_locked ?_)
  refine within_bind quiet_get fun m => within_ite (quiet_pure _) ?_
  refine within_ite (quiet_pure _) (within_ite (quiet_pure _) ?_)
  refine within_bind (quiet_deadlineAbs _) fun d => within_bind ?_ fun r => ?_
  · refine within_bind quiet_waitPollInit fun poll => ?_
    exact quiet_pollLoop b (look _) (quiet_pure _) d poll
  · cases r with
    | error e => exact quiet_pure _
    | ok recvsize => exact commit _ _

/-- An update of the receive accounting or of the I/O mode. -/
lemma quiet_keep {t : Sock → Sock} (ht : ∀ s, (t s).mode = s.mode ∧ (t s).isSending = s.isSending ∧
    (t s).txState = s.txState ∧ (t s).txPendingLen = s.txPendingLen ∧ (t s).health = s.health) :
    WithinAccess cmd k (modifySock k t) := by
  apply quiet_modifySock
  intro s
  obtain ⟨mode, sending, state, len, health⟩ := ht s
  exact .inr ⟨mode, sending, state, len, fun h => health.trans h⟩

lemma quiet_recvfromFinish (hrecv : cmd snCrRecv) (packLen : ℕ) (nonblocking : Bool) (out : Received) :
    WithinAccess cmd k (recvfromFinish b k packLen nonblocking out) := by
  refine within_bind (quiet_command b hrecv) fun _ => within_bind quiet_get fun m => ?_
  refine within_bind (quiet_waitDatagramCrAccepted b _ _) fun ret => within_ite (quiet_pure _) ?_
  exact within_bind (quiet_keep fun _ => ⟨rfl, rfl, rfl, rfl, rfl⟩) fun _ => quiet_pure _

lemma quiet_recvfromChunk (hrecv : cmd snCrRecv) (len : ℕ) (nonblocking : Bool) (out : Received) :
    WithinAccess cmd k (recvfromChunk b k len nonblocking out) :=
  within_bind quiet_get fun _ => within_bind (quiet_wizRecvData b hrecv _) fun _ =>
    quiet_recvfromFinish b hrecv _ _ _

lemma quiet_recvHeader (hrecv : cmd snCrRecv) (n : ℕ) (nonblocking : Bool) :
    WithinAccess cmd k (recvHeader b k n nonblocking) := by
  refine within_bind quiet_get fun m => within_bind (quiet_wizRecvData b hrecv n) fun head => ?_
  refine within_bind (quiet_command b hrecv) fun _ => ?_
  exact within_bind (quiet_waitDatagramCrAccepted b _ _) fun ret => quiet_pure _

lemma quiet_recvfromPacket (hrecv : cmd snCrRecv) (hclose : cmd snCrClose) (len packLen : ℕ) (mode : Byte) (nonblocking addrPort : Bool) :
    WithinAccess cmd k (recvfromPacket b k len packLen mode nonblocking addrPort) := by
  have start (size : ℕ) : WithinAccess cmd k (startPacket k size) :=
    quiet_keep fun _ => ⟨rfl, rfl, rfl, rfl, rfl⟩
  have chunk (out : Received) : WithinAccess cmd k (recvfromChunk b k len nonblocking out) :=
    quiet_recvfromChunk b hrecv len nonblocking out
  have payload (out : Received) :
      WithinAccess cmd k (recvfromIpraw.payload b k len packLen nonblocking out) :=
    within_bind quiet_get fun m =>
      within_ite (chunk _) (quiet_recvfromFinish b hrecv packLen nonblocking out)
  refine within_ite (quiet_pure _) (within_ite ?udp (within_ite ?macraw ?ipraw))
  case udp =>
    refine within_bind quiet_get fun m => within_ite ?_ (chunk _)
    refine within_bind (quiet_recvHeader b hrecv 8 _) fun r => within_ite (quiet_pure _) ?_
    exact within_bind (start _) fun _ => chunk _
  case macraw =>
    have fatal : WithinAccess cmd k (do
        let _ ← closeInternal b k 0
        return { ret := sockfatalPacklen } : Drv Received) :=
      within_bind (quiet_closeInternal b hclose 0) fun _ => quiet_pure _
    refine within_bind quiet_get fun m => within_ite ?_ (chunk _)
    refine within_bind (quiet_recvHeader b hrecv 2 _) fun r => within_ite (quiet_pure _) ?_
    refine within_bind (quiet_keep fun _ => ⟨rfl, rfl, rfl, rfl, rfl⟩) fun _ => within_ite fatal ?_
    refine within_bind (quiet_keep fun _ => ⟨rfl, rfl, rfl, rfl, rfl⟩) fun _ => within_ite fatal ?_
    exact within_bind (quiet_keep fun _ => ⟨rfl, rfl, rfl, rfl, rfl⟩) fun _ => chunk _
  case ipraw =>
    refine within_bind quiet_get fun m => within_ite ?_ (payload _)
    refine within_bind (quiet_recvHeader b hrecv 6 _) fun r => within_ite (quiet_pure _) ?_
    exact within_bind (start _) fun _ => payload _

lemma quiet_recvfrom (hrecv : cmd snCrRecv) (hclose : cmd snCrClose) (buf : Bool) (len : ℕ) (addrPort : Bool) :
    BalancedQuiet cmd k (recvfrom b k buf len addrPort) := by
  have look (nonblocking : Bool) : WithinAccess cmd k (recvfromLook b k nonblocking) := by
    refine within_bind (quiet_stableSize b rfl) fun r => ?_
    cases r with
    | error e => exact quiet_pure _
    | ok packLen =>
      refine within_bind (quiet_read b rfl) fun sr => within_ite (quiet_pure _) ?_
      exact within_ite (quiet_pure _) (within_ite (quiet_pure _) (quiet_pure _))
  refine balanced_ite (balanced_pure _) (balanced_ite (balanced_pure _) ?_)
  refine balanced_ite (balanced_pure _) ?_
  refine quiet_locked (within_bind quiet_get fun m => within_ite (quiet_pure _) ?_)
  refine within_ite (quiet_pure _) (within_ite (quiet_pure _) (within_ite ?_ ?_))
  · refine within_bind (quiet_deadlineAbs _) fun d => within_bind ?_ fun r => ?_
    · refine within_bind quiet_waitPollInit fun poll => ?_
      exact quiet_pollLoop b (look _) (quiet_pure _) d poll
    · cases r with
      | error e => exact quiet_pure _
      | ok packLen => exact quiet_recvfromPacket b hrecv hclose _ _ _ _ _
  · exact quiet_recvfromPacket b hrecv hclose _ _ _ _ _

lemma quiet_ctlsocket (cstype : CtlsockType) (arg : Option ArgMem) :
    BalancedQuiet cmd k (ctlsocket b k cstype arg) := by
  refine balanced_ite (balanced_pure _) ?_
  cases arg with
  | none => exact balanced_pure _
  | some arg =>
    refine quiet_locked (within_bind quiet_get fun m => within_ite (quiet_pure _) ?_)
    refine within_ite (quiet_pure _) ?_
    have ioMode (v : Bool) : WithinAccess cmd k (modifySock k fun s => { s with ioMode := v }) :=
      quiet_keep fun _ => ⟨rfl, rfl, rfl, rfl, rfl⟩
    cases cstype
    case setIomode =>
      refine within_ite (within_bind (ioMode _) fun _ => quiet_pure _) ?_
      exact within_ite (within_bind (ioMode _) fun _ => quiet_pure _) (quiet_pure _)
    case clrInterrupt =>
      exact within_ite (quiet_pure _) (within_bind (quiet_setSnIR b _) fun _ => quiet_pure _)
    case getInterrupt => exact within_bind (quiet_getSnIR b) fun _ => quiet_pure _
    case setIntmask =>
      refine within_ite (quiet_pure _) (within_bind (quiet_write b rfl ?_) fun _ => quiet_pure _)
      simp [Reg.snIMR, Reg.snCR]
    case getIntmask =>
      refine within_bind (within_bind (quiet_read b rfl) fun _ => quiet_pure _) fun _ => ?_
      exact quiet_pure _
    all_goals exact quiet_pure _

lemma quiet_setsockopt {sotype : SockoptType} (hkeep : sotype = .keepalivesend → cmd snCrSendKeep)
    (arg : Option ArgMem) :
    BalancedQuiet cmd k (setsockopt b k sotype arg) := by
  refine balanced_ite (balanced_pure _) (balanced_ite (balanced_pure _) (quiet_locked ?_))
  refine within_bind quiet_get fun m => within_ite (quiet_pure _) ?_
  have write {a : Addr} {v : Byte} (ha : a.block = .socket k) (hv : a ≠ Reg.snCR k) :
      WithinAccess cmd k (do wizchipWrite b a v; return sockOk : Drv ℤ) :=
    within_bind (quiet_write b ha hv) fun _ => quiet_pure _
  cases sotype
  case ttl => exact write rfl (by simp [Reg.snTTL, Reg.snCR])
  case tos => exact write rfl (by simp [Reg.snTOS, Reg.snCR])
  case mss =>
    refine within_bind (within_wizchipWriteBufChecked (tame_noise k) b (.writeBuf rfl)) fun _ => ?_
    exact quiet_pure _
  case destip => exact within_bind (quiet_setSnDIPR b _) fun _ => quiet_pure _
  case destport => exact within_bind (quiet_setSnDPORT b _) fun _ => quiet_pure _
  case keepalivesend =>
    refine within_bind quiet_get fun m => within_ite (quiet_pure _) ?_
    refine within_bind (quiet_read b rfl) fun v => within_ite (quiet_pure _) ?_
    refine within_bind quiet_get fun m => within_ite (quiet_pure _) ?_
    refine within_bind (quiet_deadlineAbs _) fun d => within_bind quiet_waitPollInit fun poll => ?_
    refine within_bind (quiet_command b (hkeep rfl)) fun _ => ?_
    exact quiet_pollLoop b (quiet_crOrTimeoutLook b) quiet_faultedTimeout d poll
  case keepaliveauto =>
    exact within_ite (quiet_pure _) (write rfl (by simp [Reg.snKPALVTR, Reg.snCR]))
  all_goals exact quiet_pure _

lemma quiet_getsockopt (sotype : SockoptType) (arg : Bool) :
    BalancedQuiet cmd k (getsockopt b k sotype arg) := by
  refine balanced_ite (balanced_pure _) (balanced_ite (balanced_pure _) (quiet_locked ?_))
  refine within_bind quiet_get fun m => within_ite (quiet_pure _) ?_
  have read {a : Addr} (ha : a.block = .socket k) :
      WithinAccess cmd k (do let v ← wizchipRead b a; answered (.u8 v) : Drv (ℤ × ArgOut)) :=
    within_bind (quiet_read b ha) fun _ => quiet_pure _
  have read16 {a : Addr} (ha : a.block = .socket k) :
      WithinAccess cmd k (do let v ← wizchipRead16Value b a; answered (.u16 v) : Drv (ℤ × ArgOut)) :=
    within_bind (within_wizchipRead16Value (tame_noise k) b (.readBuf (.inl ha))) fun _ =>
      quiet_pure _
  have size {p : Drv (Except ℤ ℕ)} (hp : WithinAccess cmd k p) : WithinAccess cmd k (sizeOption p) := by
    refine within_bind hp fun r => ?_
    cases r with
    | error e => exact quiet_pure _
    | ok v => exact quiet_pure _
  have mode : WithinAccess cmd k (sockModeCachedOrRead b k) :=
    within_bind quiet_get fun m => within_ite (quiet_read b rfl) (quiet_pure _)
  cases sotype
  case flag => exact within_bind mode fun _ => quiet_pure _
  case ttl => exact read rfl
  case tos => exact read rfl
  case mss => exact read16 rfl
  case destip =>
    refine within_bind (within_wizchipReadBuf (tame_noise k) b (.readBuf (.inl rfl))) fun _ => ?_
    exact quiet_pure _
  case destport => exact read16 rfl
  case keepaliveauto => exact within_ite (quiet_pure _) (read rfl)
  case sendbuf => exact size (quiet_stableSize b rfl)
  case recvbuf => exact size (quiet_stableSize b rfl)
  case status => exact read rfl
  case remainsize =>
    refine within_bind mode fun _ => within_ite (size (quiet_stableSize b rfl)) (quiet_pure _)
  case packinfo => exact within_bind mode fun _ => within_ite (quiet_pure _) (quiet_pure _)
  all_goals exact quiet_pure _

end quiet

/-- Taking a port only counts the automatic one on. -/
lemma balanced_sourcePort (port : ℕ) :
    Balanced (fun f : Driver → Driver => ∀ m, ∃ p, f m = { m with sockAnyPort := p })
      (fun e => e = .globalLock ∨ e = .globalUnlock) (sourcePort port) := by
  have body : Within (fun f : Driver → Driver => ∀ m, ∃ p, f m = { m with sockAnyPort := p })
      (fun _ => False) (do
        let m ← Prog.get
        let next := (m.sockAnyPort + 1) % 65536
        Prog.modify fun m => { m with sockAnyPort := if next = 0xFFF0 then 0xC000 else next }
        return m.sockAnyPort : Drv ℕ) := by
    refine within_bind (within_get fun m => ⟨m.sockAnyPort, rfl⟩) fun m => ?_
    exact within_bind ((within_modify _).2 fun m => ⟨_, rfl⟩) fun _ => within_pure _
  refine balanced_ite (balanced_pure _) ?_
  exact balanced_globalLocked ⟨.inl rfl, .inr rfl⟩ body fun _ h => h.elim

lemma within_sourcePort (port : ℕ) :
    Within (fun f : Driver → Driver => ∀ m, ∃ p, f m = { m with sockAnyPort := p })
      (fun e => e = .globalLock ∨ e = .globalUnlock) (sourcePort port) :=
  within_of_orderly (balanced_sourcePort port)

/-- The calls of any operation on socket `k` that issues only commands in `cmd`. -/
inductive Active (cmd : Byte → Prop) (k : ℕ) : Io → Prop
  | quiet {e : Io} (h : Quiet cmd k e) : Active cmd k e
  | copy {a : Addr} {data : List Byte} (block : a.block = .txBuf k) : Active cmd k (.writeBuf a data)
  | sipr : Active cmd k (.readBuf Reg.sipr 4)
  | globalLock : Active cmd k .globalLock
  | globalUnlock : Active cmd k .globalUnlock

/-- The same under the socket lock. -/
inductive SendAccess (cmd : Byte → Prop) (k : ℕ) : Io → Prop
  | access {e : Io} (h : Access cmd k e) : SendAccess cmd k e
  | copy {a : Addr} {data : List Byte} (block : a.block = .txBuf k) :
      SendAccess cmd k (.writeBuf a data)
  | sipr : SendAccess cmd k (.readBuf Reg.sipr 4)

lemma SendAccess.active {cmd : Byte → Prop} {k : ℕ} {e : Io} (h : SendAccess cmd k e) :
    Active cmd k e ∧ Lockless e := by
  cases h with
  | access h => exact ⟨.quiet h.quiet.1, h.quiet.2⟩
  | copy block => exact ⟨.copy block, rfl⟩
  | sipr => exact ⟨.sipr, rfl⟩

/-- Within what an operation can do that updates socket `k` as `T` allows. -/
abbrev WithinSocket (T : Sock → Sock → Prop) (cmd : Byte → Prop) (k : ℕ) {α : Type} (p : Drv α) :
    Prop := Within (SockUpdate T k) (Active cmd k) p

/-- The same under the socket lock. -/
abbrev WithinSend (T : Sock → Sock → Prop) (cmd : Byte → Prop) (k : ℕ) {α : Type} (p : Drv α) :
    Prop := Within (SockUpdate T k) (SendAccess cmd k) p

/-- Within that footprint, with the locks in order. -/
abbrev BalancedSocket (T : Sock → Sock → Prop) (cmd : Byte → Prop) (k : ℕ) {α : Type}
    (p : Drv α) : Prop := Balanced (SockUpdate T k) (Active cmd k) p

section loose
variable {T : Sock → Sock → Prop} {cmd : Byte → Prop} (b : Build) {k : ℕ}
  (tame : ∀ s s', Tame True s s' → T s s')
include tame

lemma loose_update {resets : Prop} {f : Driver → Driver} (hf : SockUpdate (Tame resets) k f) :
    SockUpdate T k f := fun m =>
  ⟨tame _ _ ((hf m).sock.imp_left fun hreset => ⟨trivial, hreset.2⟩), (hf m).others, (hf m).rest,
    (hf m).chip⟩

lemma loose {α : Type} {p : Drv α} (h : WithinAccess cmd k p) : WithinSend T cmd k p :=
  h.mono (fun _ => loose_update tame) fun _ => .access

lemma loose_quiet {α : Type} {p : Drv α} (h : BalancedQuiet cmd k p) : BalancedSocket T cmd k p :=
  orderly_weaken h (fun _ => loose_update tame) fun _ => .quiet

lemma loose_noise : ∀ f, Noise f → SockUpdate T k f :=
  fun _ hf => sockUpdate_noise (fun s => tame s s (tame_refl s)) k hf

omit tame in
lemma loose_pure {α : Type} (a : α) : WithinSend T cmd k (pure a) := within_pure a

lemma loose_get : WithinSend T cmd k (Prog.get : Drv Driver) := within_look (loose_noise tame)

omit tame in
lemma loose_modifySock {t : Sock → Sock} (ht : ∀ s, T s (t s)) : WithinSend T cmd k (modifySock k t) :=
  (within_modify _).2 (sockUpdate_setSock ht)

lemma loose_command {v : Byte} (hv : cmd v) : WithinSend T cmd k (setSnCR b k v) :=
  loose tame (quiet_command b hv)

lemma loose_pollLoop {α : Type} {look : Drv (Option α)} {expired : Drv α}
    (hlook : WithinSend T cmd k look) (hexp : WithinSend T cmd k expired) (d : ℕ) (poll : Poll) :
    WithinSend T cmd k (pollLoop b d poll look expired) :=
  within_pollLoop (loose_noise tame) b (.access .now) (.access .wait) hlook hexp d poll

omit tame in
lemma balanced_send {α : Type} {p : Drv α} (hp : WithinSend T cmd k p) : BalancedSocket T cmd k p :=
  balanced_of_within hp fun _ => SendAccess.active

omit tame in
lemma loose_locked {α : Type} {body : Drv α} (hbody : WithinSend T cmd k body) :
    BalancedSocket T cmd k (locked k body) :=
  balanced_locked ⟨.quiet .sockLock, .quiet .sockUnlock⟩ hbody fun _ => SendAccess.active

lemma loose_wizSendData (data : List Byte) : WithinSend T cmd k (wizSendData b k data) := by
  refine within_ite (loose_pure _) ?_
  have read : SendAccess cmd k (.readBuf (Reg.snTXWR k) 2) := .access (.readBuf (.inl rfl))
  refine within_bind (within_wizchipRead16Value (loose_noise tame) b read) fun ptr => ?_
  refine within_bind (within_wizchipWriteBuf (loose_noise tame) b (.copy rfl)) fun _ => ?_
  exact within_wizchipWriteBuf (loose_noise tame) b (.access (.writeBuf rfl))

lemma loose_waitCrAccepted (d : ℕ) : WithinSend T cmd k (waitCrAccepted b k d) :=
  loose tame (quiet_waitRegister b rfl _ d)

lemma loose_disconnect (hdiscon : cmd snCrDiscon) (notSending : ∀ s, T s s.notSending) :
    BalancedSocket T cmd k (disconnect b k) := by
  refine balanced_ite (balanced_pure _) (loose_locked ?_)
  have look : WithinAccess cmd k (disconnectLook b k) := by
    refine within_bind (quiet_read b rfl) fun status => within_ite (quiet_pure _) ?_
    refine within_bind (quiet_takeTimeout b) fun timeout => within_ite ?_ (quiet_pure _)
    exact within_bind quiet_markFaulted fun _ => quiet_pure _
  have finish : WithinSend T cmd k (disconnectFinish b k) := by
    refine within_bind (loose_modifySock notSending) fun _ => within_bind (loose_get tame) fun m => ?_
    refine within_ite (loose_pure _) (within_bind (loose tame (quiet_deadlineAbs _)) fun d => ?_)
    exact (loose tame (quiet_clockLoop b look quiet_faultedIo d))
  refine within_bind (loose_get tame) fun m => within_ite (loose_pure _) (within_ite (loose_pure _) ?_)
  refine within_ite (loose_pure _) (within_bind (loose tame (quiet_read b rfl)) fun tmp => ?_)
  refine within_ite (loose_pure _) (within_ite (within_bind ?_ fun ret => ?_) finish)
  · refine within_bind (loose_command b tame hdiscon) fun _ => within_bind (loose_get tame) fun m => ?_
    refine within_ite (loose_pure _) (within_bind (loose tame (quiet_deadlineAbs _)) fun d => ?_)
    exact loose_waitCrAccepted b tame d
  · exact within_ite (loose_pure _) finish

lemma loose_send (hsend : cmd snCrSend) (hclose : cmd snCrClose)
    (notSending : ∀ s, T s s.notSending) (sending : ∀ s, T s s.sending) (len : ℕ)
    (buf : Option (Vector Byte len)) : BalancedSocket T cmd k (send b k len buf) := by
  have sent (nonblocking : Bool) : WithinSend T cmd k (sentLook b k nonblocking) := by
    refine within_bind (loose tame (quiet_getSnIR b)) fun ir => within_ite ?_ (within_ite ?_ ?_)
    · refine within_bind (loose tame (quiet_setSnIR b _)) fun _ => ?_
      exact within_bind (loose_modifySock notSending) fun _ => loose_pure _
    · refine within_bind (loose tame (quiet_setSnIR b _)) fun _ => ?_
      exact within_bind (loose tame quiet_markFaulted) fun _ => loose_pure _
    · refine within_bind (loose tame (quiet_read b rfl)) fun sr => within_ite ?_ ?_
      · exact within_bind (loose_modifySock notSending) fun _ => loose_pure _
      · exact within_ite (loose_pure _) (loose_pure _)
  have free (len : ℕ) (nonblocking : Bool) : WithinSend T cmd k (freeLook b k len nonblocking) := by
    refine within_bind (loose tame (quiet_stableSize b rfl)) fun r => ?_
    cases r with
    | error e => exact loose_pure _
    | ok freesize =>
      refine within_bind (loose tame (quiet_read b rfl)) fun sr => within_ite (within_ite ?_ ?_) ?_
      · exact within_bind (loose tame (quiet_closeInternal b hclose 0)) fun _ => loose_pure _
      · exact loose_pure _
      · exact within_ite (loose_pure _) (within_ite (loose_pure _) (loose_pure _))
  have command (len t : ℕ) : WithinSend T cmd k (sendCommand b k len t) := by
    refine within_bind (loose_command b tame hsend) fun _ => ?_
    refine within_bind (loose tame (quiet_deadlineAbs _)) fun d => ?_
    refine within_bind (loose_waitCrAccepted b tame d) fun ret => within_ite ?_ ?_
    · exact within_bind (loose tame quiet_markFaulted) fun _ => loose_pure _
    · exact within_bind (loose_modifySock sending) fun _ => loose_pure _
  have ready (data : List Byte) (len : ℕ) : WithinSend T cmd k (sendReady b k data len) := by
    refine within_bind (loose_get tame) fun m => ?_
    refine within_bind (loose tame (quiet_deadlineAbs _)) fun d => within_bind ?_ fun r => ?_
    · refine within_bind (loose tame quiet_waitPollInit) fun poll => ?_
      exact loose_pollLoop b tame (free _ _) (loose_pure _) d poll
    · cases r with
      | error e => exact loose_pure _
      | ok _ => exact within_bind (loose_wizSendData b tame _) fun _ => command _ _
  refine balanced_ite (balanced_pure _) ?_
  cases buf with
  | none => exact balanced_pure _
  | some buf =>
    refine balanced_ite (balanced_pure _) (balanced_bind (balanced_send (loose_get tame)) fun m => ?_)
    refine balanced_ite (balanced_pure _) (loose_locked (within_bind (loose_get tame) fun m => ?_))
    refine within_ite (loose_pure _) (within_ite (loose_pure _) (within_ite (loose_pure _) ?_))
    refine within_bind (loose tame (quiet_read b rfl)) fun sr => within_ite (loose_pure _) ?_
    refine within_ite ?_ (ready _ _)
    refine within_bind (loose tame (quiet_deadlineAbs _)) fun d => within_bind ?_ fun r => ?_
    · refine within_bind (loose tame quiet_waitPollInit) fun poll => ?_
      refine loose_pollLoop b tame (sent _) ?_ d poll
      exact within_bind (loose tame quiet_faultedTimeout) fun _ => loose_pure _
    · cases r with
      | error e => exact loose_pure _
      | ok _ => exact ready _ _

lemma loose_sendtoAddress (mode : Byte) (addr : Vector Byte 4) (port addrlen : ℕ) :
    WithinSend T cmd k (sendtoAddress b k mode addr port addrlen) := by
  have status (p : Byte) : WithinSend T cmd k (sendtoAddress.statusCheck b k mode addr port p) := by
    refine within_ite (loose_pure _) (within_ite (loose_pure _) (within_ite (loose_pure _) ?_))
    refine within_bind (loose tame (quiet_read b rfl)) fun sr => within_ite (loose_pure _) ?_
    refine within_bind (loose tame (quiet_setSnDIPR b addr)) fun _ => ?_
    exact within_bind (loose tame (quiet_setSnDPORT b port)) fun _ => loose_pure _
  have ports (p : Byte) : WithinSend T cmd k (sendtoAddress.portCheck b k mode addr port p) := by
    refine within_ite (within_ite ?_ (loose_pure _)) (status p)
    exact within_bind (loose tame (quiet_setSnDPORT b port)) fun _ => status p
  refine within_ite (loose_pure _) (within_ite (within_ite (loose_pure _) ?_) (ports _))
  refine within_ite (within_ite (loose_pure _) ?_) (loose_pure _)
  exact within_bind (loose tame (quiet_setSnDIPR b addr)) fun _ => ports _

/-- sendto changes the transmit state, and nothing else of the socket but its health. -/
lemma loose_sendto (hsend : cmd snCrSend) (transmits : ∀ (s : Sock) t n,
      T s { s with txState := t, txPendingLen := n }) (len : ℕ) (buf : Option (Vector Byte len))
    (addr : Vector Byte 4) (port addrlen : ℕ) :
    BalancedSocket T cmd k (sendto b k len buf addr port addrlen) := by
  have free (len : ℕ) (nonblocking : Bool) :
      WithinSend T cmd k (sendtoFreeLook b k len nonblocking) := by
    refine within_bind (loose tame (quiet_stableSize b rfl)) fun r => ?_
    cases r with
    | error e => exact loose_pure _
    | ok freesize =>
      refine within_bind (loose tame (quiet_read b rfl)) fun sr => within_ite (loose_pure _) ?_
      exact within_ite (loose_pure _) (within_ite (loose_pure _) (loose_pure _))
  have events {α : Type} (v : Byte) {p : Drv α} (hp : WithinSend T cmd k p) :
      WithinSend T cmd k (do setSnIR b k v; p) :=
    within_bind (loose tame (quiet_setSnIR b v)) fun _ => hp
  have sent (len : ℕ) : WithinSend T cmd k (sendtoSentLook b k len) := by
    refine within_bind (loose tame (quiet_getSnIR b)) fun tmp => ?_
    refine within_ite (events _ (loose_pure _)) ?_
    exact within_ite (events _ (loose_pure _)) (loose_pure _)
  have commit (data : List Byte) (nonblocking : Bool) :
      WithinSend T cmd k (sendtoCommit b k data nonblocking) := by
    refine events _ (within_bind (loose_wizSendData b tame _) fun _ => ?_)
    refine within_bind (loose_command b tame hsend) fun _ => within_bind (loose_get tame) fun m => ?_
    refine within_bind (loose tame (quiet_sockDeadlineBegin _)) fun d => ?_
    cases d with
    | none => exact within_bind (loose_modifySock fun _ => transmits _ _ _) fun _ => loose_pure _
    | some d =>
      refine within_bind (loose_waitCrAccepted b tame d) fun ret => within_ite ?_ ?_
      · exact within_bind (loose_modifySock fun _ => transmits _ _ _) fun _ => loose_pure _
      · refine within_bind (loose_modifySock fun _ => transmits _ _ _) fun _ => within_ite ?_ ?_
        · exact within_bind (loose_modifySock fun _ => transmits _ _ _) fun _ => loose_pure _
        · refine within_bind (loose tame (quiet_deadlineAbs _)) fun d => ?_
          refine within_bind (loose tame quiet_waitPollInit) fun poll => ?_
          exact loose_pollLoop b tame (sent _) (loose tame quiet_faultedTimeout) d poll
  have idle (data : List Byte) (len : ℕ) :
      WithinSend T cmd k (sendtoIdle b k data len addr port addrlen) := by
    refine within_bind (loose_get tame) fun m => ?_
    refine within_bind (loose_sendtoAddress b tame _ addr port addrlen) fun r => ?_
    cases r with
    | error e => exact loose_pure _
    | ok _ =>
      refine within_bind (within_ite ?_ ?_) fun r => ?_
      · exact within_bind (loose tame (quiet_read b rfl)) fun sr => loose_pure _
      · refine within_bind (loose tame (quiet_deadlineAbs _)) fun d => ?_
        refine within_bind (loose tame quiet_waitPollInit) fun poll => ?_
        exact loose_pollLoop b tame (free _ _) (loose_pure _) d poll
      · cases r with
        | error e => exact loose_pure _
        | ok _ => exact commit _ _
  have pending : WithinSend T cmd k (sendtoPending b k) := by
    refine within_bind (loose tame (quiet_getSnIR b)) fun tmp => within_ite ?_ (within_ite ?_ ?_)
    · refine events _ (within_bind (loose_get tame) fun m => ?_)
      exact within_bind (loose_modifySock fun _ => transmits _ _ _) fun _ => loose_pure _
    · exact events _ (within_bind (loose_modifySock fun _ => transmits _ _ _) fun _ => loose_pure _)
    · exact loose_pure _
  refine balanced_ite (balanced_pure _) ?_
  cases buf with
  | none => exact balanced_pure _
  | some buf =>
    refine balanced_ite (balanced_pure _) (loose_locked (within_bind (loose_get tame) fun m => ?_))
    refine within_ite (loose_pure _) (within_ite (loose_pure _) (within_ite (loose_pure _) ?_))
    exact within_ite pending (idle _ _)

lemma loose_socket (hopen : cmd snCrOpen) (hclose : cmd snCrClose) (protocol : Byte) (port : ℕ) (flag : Byte)
    (opened : ∀ s, T s (s.opened protocol flag)) :
    BalancedSocket T cmd k (socket b k protocol port flag) := by
  have source : BalancedSocket T cmd k (sourcePort port) := by
    refine orderly_weaken (balanced_sourcePort port) (fun f hf m => ?_) fun e he => ?_
    · obtain ⟨p, hp⟩ := hf m
      rw [hp]
      exact ⟨tame _ _ (tame_refl _), fun _ _ => rfl, rfl, .inl rfl⟩
    · rcases he with rfl | rfl
      · exact .globalLock
      · exact .globalUnlock
  have openCommand (port d : ℕ) :
      WithinSend T cmd k (socketOpenClosed.openCommand b k protocol flag port d) := by
    have mode (v : Byte) : WithinAccess cmd k (setSnMR b k v) :=
      quiet_write b rfl (by simp [Reg.snMR, Reg.snCR])
    refine within_bind (loose tame (mode _)) fun _ => within_bind ?_ fun _ => ?_
    · have write : SendAccess cmd k (.writeBuf (Reg.snPORT k) (bytes16 port)) := .access (.writeBuf rfl)
      refine within_bind (within_wizchipWriteBufChecked (loose_noise tame) b write) fun _ => ?_
      exact loose_pure _
    · refine within_bind (loose_command b tame hopen) fun _ => ?_
      refine within_bind (loose_waitCrAccepted b tame d) fun ret => within_ite (loose_pure _) ?_
      refine within_bind (loose tame (quiet_waitRegister b rfl _ d)) fun ret => ?_
      refine within_ite (loose_pure _) (within_bind (loose_modifySock opened) fun _ => loose_pure _)
  have opens (port d : ℕ) : WithinSend T cmd k (socketOpenClosed b k protocol flag port d) := by
    refine within_ite (within_bind ?_ fun sipr => ?_) (openCommand port d)
    · exact within_wizchipReadBuf (loose_noise tame) b .sipr
    · exact within_ite (loose_pure _) (openCommand port d)
  unfold socket
  cases socketArgCheck k protocol flag with
  | some e => exact balanced_pure _
  | none =>
    refine balanced_bind (balanced_send (loose_get tame)) fun m => balanced_ite ?_ ?_
    · refine balanced_bind (balanced_send ?_) fun _ => balanced_pure _
      exact within_noise (loose_noise tame) fun _ => ⟨rfl, .inl rfl⟩
    · refine balanced_bind (balanced_send (loose tame (quiet_read b rfl))) fun status => ?_
      refine balanced_bind source fun port => ?_
      refine loose_locked (within_bind (loose_get tame) fun m => within_ite (loose_pure _) ?_)
      refine within_bind (loose tame (quiet_sockDeadlineBegin _)) fun d => ?_
      cases d with
      | none => exact loose_pure _
      | some d =>
        refine within_bind (loose tame (quiet_read b rfl)) fun sr => within_ite (opens port d) ?_
        refine within_ite (loose_pure _) (within_bind (loose tame (quiet_closeInternal b hclose d)) fun ret => ?_)
        exact within_ite (loose_pure _) (opens port d)

end loose

end IoLibrary
