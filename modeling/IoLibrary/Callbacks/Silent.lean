import IoLibrary.Effects.Under
import IoLibrary.LockDiscipline

/-! The callbacks of the application: the wait callback or hook, and the PHY link callback. With no
wait callback registered none of the public functions waits through one. -/
namespace IoLibrary.Callbacks
open Effects

/-- The calls into the application, apart from clock, bus and lock callbacks. -/
def Callback : Io → Prop
  | .wait | .phyLink _ => True
  | _ => False

abbrev Calm (e : Io) : Prop := ¬ Callback e

/-- A wait callback or a wait hook is registered. -/
def Registered (g : Globals) : Prop := g.waitUs ∨ g.waitHook

abbrev Unregistered (m : Driver) : Prop := ¬ Registered m.toGlobals

def KeepsHooks (f : Driver → Driver) : Prop := ∀ m,
  (f m).waitUs = m.waitUs ∧ (f m).waitHook = m.waitHook

/-- Waits through no callback, whatever is registered. -/
abbrev Plain {α : Type} (p : Drv α) : Prop := Within KeepsHooks Calm p

/-- Waits through no callback unless one is registered. -/
abbrev Mute {α : Type} (p : Drv α) : Prop := Under Unregistered Calm p

section rules
variable (b : Build) {α β : Type} {sn : ℕ}

lemma keepsHooks_noise {f : Driver → Driver} (hf : Noise f) : KeepsHooks f := fun m =>
  ⟨congrArg Globals.waitUs (hf m).1, congrArg Globals.waitHook (hf m).1⟩

lemma Unregistered.keep {m : Driver} (h : Unregistered m) {f : Driver → Driver} (hf : KeepsHooks f) :
    Unregistered (f m) := by
  obtain ⟨hus, hhook⟩ := hf m
  rintro (hw | hw)
  · exact h (.inl (hus ▸ hw))
  · exact h (.inr (hhook ▸ hw))

lemma mute_plain {p : Drv α} (hp : Plain p) : Mute p :=
  under_of_within hp (fun _ hf _ hm => Unregistered.keep hm hf) fun _ he => he

lemma mute_pure (a : α) : Mute (pure a : Drv α) := trivial

lemma mute_get {f : Driver → Drv α} (h : ∀ m, Unregistered m → Mute (f m)) : Mute (Prog.get >>= f) :=
  under_get h

lemma mute_map {p : Drv α} (f : α → β) (hp : Mute p) : Mute (do let a ← p; return f a) :=
  under_bind hp fun _ => mute_pure _

lemma mute_ite {c : Prop} [Decidable c] {p q : Drv α} (hp : Mute p) (hq : Mute q) :
    Mute (if c then p else q) := under_ite (fun _ => hp) fun _ => hq

lemma plain_modifySock (f : Sock → Sock) : Plain (modifySock sn f) :=
  (within_modify _).2 fun _ => ⟨rfl, rfl⟩

lemma plain_get : Plain (Prog.get : Drv Driver) := within_get fun _ => ⟨rfl, rfl⟩

lemma plain_read (a : Addr) : Plain (wizchipRead b a) :=
  within_wizchipRead (fun _ => keepsHooks_noise) b id

lemma plain_write (a : Addr) (v : Byte) : Plain (wizchipWrite b a v) :=
  within_wizchipWrite (fun _ => keepsHooks_noise) b id

lemma plain_readBuf (a : Addr) (len : ℕ) : Plain (wizchipReadBuf b a len) :=
  within_wizchipReadBuf (fun _ => keepsHooks_noise) b id

lemma plain_writeBuf (a : Addr) (data : List Byte) : Plain (wizchipWriteBuf b a data) :=
  within_wizchipWriteBuf (fun _ => keepsHooks_noise) b id

lemma plain_read16 (a : Addr) : Plain (wizchipRead16Value b a) :=
  within_wizchipRead16Value (fun _ => keepsHooks_noise) b id

lemma plain_write16 (a : Addr) (v : ℕ) : Plain (wizchipWrite16 b a v) :=
  within_wizchipWriteBufChecked (fun _ => keepsHooks_noise) b id

lemma plain_setSnDPORT (port : ℕ) : Plain (setSnDPORT b sn port) :=
  within_bind (plain_write16 b _ _) fun _ => within_pure _

lemma plain_getSnIR : Plain (getSnIR b sn) := within_bind (plain_read b _) fun _ => within_pure _

lemma plain_timeNow : Plain wizchipTimeNow := within_wizchipTimeNow (fun _ => keepsHooks_noise) id

lemma plain_deadlineAbs (t : ℕ) : Plain (wizchipDeadlineAbs t) :=
  within_wizchipDeadlineAbs (fun _ => keepsHooks_noise) id t

lemma plain_deadlineExpired (d : ℕ) : Plain (wizchipDeadlineExpired d) :=
  within_wizchipDeadlineExpired (fun _ => keepsHooks_noise) id d

lemma plain_sockDeadlineBegin (t : ℕ) : Plain (sockDeadlineBegin t) :=
  within_sockDeadlineBegin (fun _ => keepsHooks_noise) id t

lemma plain_waitPollInit : Plain waitPollInit := within_waitPollInit (fun _ => keepsHooks_noise) id

lemma plain_stableSize (a : Addr) : Plain (stableSize b a) :=
  within_stableSize (fun _ => keepsHooks_noise) b id id

lemma plain_takeTimeout : Plain (takeTimeout b sn) :=
  within_bind (plain_getSnIR b) fun _ =>
    within_ite (within_bind (plain_write b _ _) fun _ => within_pure _) (within_pure _)

lemma plain_crOrTimeoutLook : Plain (crOrTimeoutLook b sn) := by
  refine within_bind (plain_read b _) fun cr => within_ite (within_pure _) ?_
  exact within_bind (plain_takeTimeout b) fun timeout => within_ite (within_pure _) (within_pure _)

lemma plain_faultedTimeout : Plain (faultedTimeout sn) :=
  within_bind (plain_modifySock _) fun _ => within_pure _

lemma plain_sockModeCachedOrRead : Plain (sockModeCachedOrRead b sn) :=
  within_bind plain_get fun _ => within_ite (plain_read b _) (within_pure _)

lemma plain_wizSendData (data : List Byte) : Plain (wizSendData b sn data) := by
  refine within_ite (within_pure _) (within_bind (plain_read16 b _) fun ptr => ?_)
  exact within_bind (plain_writeBuf b _ _) fun _ => plain_writeBuf b _ _

lemma plain_wizRecvData (len : ℕ) : Plain (wizRecvData b sn len) := by
  refine within_ite (within_pure _) (within_bind (plain_read16 b _) fun ptr => ?_)
  refine within_bind (plain_readBuf b _ _) fun data => ?_
  exact within_bind (plain_writeBuf b _ _) fun _ => within_pure _

end rules

section waits
variable (b : Build) {α : Type} {sn : ℕ} {look : Drv (Option α)} {expired : Drv α}

lemma mute_waitCallback : Mute waitCallback := by
  refine mute_get fun m hm => under_ite (fun h => ?_) fun _ => mute_pure _
  exact absurd (by simpa [Registered] using h) hm

lemma mute_waitPollExpired (poll : Poll) (d : ℕ) : Mute (waitPollExpired poll d) := by
  have deadline : Mute (wizchipDeadlinePoll poll) := by
    refine under_bind mute_waitCallback fun _ => mute_ite (mute_pure _) (mute_get fun m _ => ?_)
    exact mute_ite (mute_map _ (mute_plain plain_timeNow)) (mute_pure _)
  refine under_bind deadline fun r => mute_ite (mute_pure _) ?_
  exact mute_map _ (mute_plain (plain_deadlineExpired d))

lemma mute_pollLoop (hlook : Mute look) (hexpired : Mute expired) (d : ℕ) (poll : Poll) :
    Mute (pollLoop b d poll look expired) := by
  refine under_loop (fun poll => under_bind hlook fun r => ?_) _ _
  cases r with
  | some a => exact mute_pure _
  | none =>
    refine under_bind (mute_waitPollExpired poll d) fun r => mute_ite ?_ (mute_pure _)
    exact mute_map _ hexpired

lemma mute_clockLoop (hlook : Plain look) (hexpired : Plain expired) (d : ℕ) :
    Mute (clockLoop b d look expired) :=
  mute_plain (within_clockLoop (fun _ => keepsHooks_noise) b id hlook hexpired d)

lemma mute_wait (hlook : Mute look) (hexpired : Mute expired) (d : ℕ) : Mute (do
    let poll ← waitPollInit
    pollLoop b d poll look expired) :=
  under_bind (mute_plain plain_waitPollInit) fun poll => mute_pollLoop b hlook hexpired d poll

lemma mute_waitRegister (a : Addr) (wanted : Byte) (d : ℕ) : Mute (waitRegister b sn a wanted d) := by
  refine mute_wait b (mute_plain ?_) (mute_plain plain_faultedTimeout) d
  exact within_bind (plain_read b _) fun v => within_ite (within_pure _) (within_pure _)

lemma mute_waitDatagramCrAccepted (t : ℕ) (nonblocking : Bool) :
    Mute (waitDatagramCrAccepted b sn t nonblocking) := by
  refine under_bind (mute_plain (plain_crOrTimeoutLook b)) fun r => ?_
  cases r with
  | some r => exact mute_pure _
  | none =>
    refine mute_ite (mute_pure _) (under_bind (mute_plain (plain_deadlineAbs t)) fun d => ?_)
    exact mute_wait b (mute_plain (plain_crOrTimeoutLook b)) (mute_plain plain_faultedTimeout) d

lemma mute_closeInternal (inherited : ℕ) : Mute (closeInternal b sn inherited) := by
  have clear (r : ℤ) : Mute (closeClearState sn r) := by
    refine under_bind (mute_plain (plain_modifySock _)) fun _ => mute_ite ?_ (mute_pure _)
    exact under_bind (mute_plain (plain_modifySock _)) fun _ => mute_pure _
  have command (d : ℕ) : Mute (closeCommand b sn d) := by
    refine mute_get fun m _ => mute_ite (mute_pure _) ?_
    refine under_bind (mute_plain (plain_read b _)) fun sr => mute_ite (mute_pure _) ?_
    refine under_bind (mute_plain (plain_write b _ _)) fun _ => ?_
    refine under_bind (mute_waitRegister b _ _ d) fun ret => mute_ite (mute_pure _) ?_
    exact under_bind (mute_plain (plain_write b _ _)) fun _ => mute_waitRegister b _ _ d
  refine mute_ite (mute_pure _) (mute_ite (mute_get fun m _ => ?_) ?_)
  · refine under_bind (mute_plain (plain_sockDeadlineBegin _)) fun d => ?_
    cases d with
    | none => exact clear _
    | some d => exact under_bind (command d) fun ret => clear ret
  · exact under_bind (command _) fun ret => clear ret

lemma mute_locked {body : Drv α} (hbody : Mute body) : Mute (locked sn body) := by
  refine under_bind ((under_perform _).2 id) fun _ => under_bind hbody fun r => ?_
  exact under_bind ((under_perform _).2 id) fun _ => mute_pure _

end waits

section operations
variable (b : Build) (sn : ℕ)

lemma mute_socket (protocol flag : Byte) (port : ℕ) : Mute (socket b sn protocol port flag) := by
  have source : Mute (sourcePort port) := by
    refine mute_ite (mute_pure _) (under_bind ((under_perform _).2 id) fun _ => ?_)
    refine mute_get fun m _ => under_bind (under_modify fun m hm => hm) fun _ => ?_
    exact under_bind ((under_perform _).2 id) fun _ => mute_pure _
  have command (port d : ℕ) : Mute (socketOpenClosed.openCommand b sn protocol flag port d) := by
    refine under_bind (mute_plain (plain_write b _ _)) fun _ => ?_
    refine under_bind (mute_map _ (mute_plain (plain_write16 b _ _))) fun _ => ?_
    refine under_bind (mute_plain (plain_write b _ _)) fun _ => ?_
    refine under_bind (mute_waitRegister b _ _ d) fun ret => mute_ite (mute_pure _) ?_
    refine under_bind (mute_waitRegister b _ _ d) fun ret => mute_ite (mute_pure _) ?_
    exact mute_map _ (mute_plain (plain_modifySock _))
  have opens (port d : ℕ) : Mute (socketOpenClosed b sn protocol flag port d) := by
    refine mute_ite (under_bind (mute_plain (plain_readBuf b _ _)) fun sipr => ?_) (command port d)
    exact mute_ite (mute_pure _) (command port d)
  have body (status : Byte) (port : ℕ) : Mute (socketLocked b sn protocol flag port status) := by
    refine mute_get fun m _ => mute_ite (mute_pure _) ?_
    refine under_bind (mute_plain (plain_sockDeadlineBegin _)) fun d => ?_
    cases d with
    | none => exact mute_pure _
    | some d =>
      refine under_bind (mute_plain (plain_read b _)) fun sr => mute_ite (opens port d) ?_
      refine mute_ite (mute_pure _) (under_bind (mute_closeInternal b d) fun ret => ?_)
      exact mute_ite (mute_pure _) (opens port d)
  unfold socket
  cases socketArgCheck sn protocol flag with
  | some e => exact mute_pure _
  | none =>
    refine mute_get fun m _ => mute_ite (mute_map _ (under_modify fun m hm => hm)) ?_
    refine under_bind (mute_plain (plain_read b _)) fun status => under_bind source fun port => ?_
    exact mute_locked (body status port)

lemma mute_close : Mute (close b sn) := mute_ite (mute_pure _) (mute_locked (mute_closeInternal b 0))

lemma mute_listen : Mute (listen b sn) := by
  refine mute_ite (mute_pure _) (mute_locked (mute_get fun m _ => mute_ite (mute_pure _) ?_))
  refine under_bind (mute_plain (plain_read b _)) fun sr => mute_ite (mute_pure _) ?_
  refine mute_get fun m _ => under_bind (mute_plain (plain_sockDeadlineBegin _)) fun d => ?_
  cases d with
  | none => exact mute_pure _
  | some d =>
    refine under_bind (mute_plain (plain_write b _ _)) fun _ => ?_
    refine under_bind (mute_waitRegister b _ _ d) fun ret => mute_ite (mute_pure _) ?_
    exact mute_waitRegister b _ _ d

lemma plain_faultedIo : Plain (faultedIo sn) :=
  within_bind (plain_modifySock _) fun _ => within_pure _

lemma mute_connect (addr : Option (Vector Byte 4)) (port addrlen : ℕ) :
    Mute (connect b sn addr port addrlen) := by
  have look : Plain (connectLook b sn) := by
    refine within_bind (plain_read b _) fun status => within_ite (within_pure _) ?_
    refine within_bind (plain_takeTimeout b) fun late => within_ite (within_pure _) ?_
    exact within_ite (within_pure _) (within_pure _)
  have body (addr : Vector Byte 4) : Mute (connectLocked b sn addr port addrlen) := by
    refine mute_get fun m _ => mute_ite (mute_pure _) (mute_ite (mute_pure _) (mute_ite (mute_pure _) ?_))
    refine under_bind (mute_plain (plain_read b _)) fun sr => mute_ite (mute_pure _) ?_
    refine mute_ite (mute_pure _) (under_bind (mute_plain (plain_setSnDPORT b _)) fun _ => ?_)
    refine under_bind (mute_plain (plain_writeBuf b _ _)) fun _ => ?_
    refine under_bind (mute_plain (plain_write b _ _)) fun _ => mute_get fun m _ => ?_
    refine mute_ite (mute_pure _) (under_bind (mute_plain (plain_deadlineAbs _)) fun d => ?_)
    refine under_bind (mute_waitRegister b _ _ d) fun ret => mute_ite (mute_pure _) ?_
    refine under_bind (mute_plain (plain_deadlineAbs _)) fun d => ?_
    exact mute_clockLoop b look (plain_faultedIo sn) d
  refine mute_ite (mute_pure _) ?_
  cases addr with
  | none => exact mute_pure _
  | some addr =>
    refine mute_ite (mute_pure _) (mute_ite (mute_pure _) (mute_ite (mute_pure _) ?_))
    exact mute_locked (body addr)

lemma mute_disconnect : Mute (disconnect b sn) := by
  have look : Plain (disconnectLook b sn) := by
    refine within_bind (plain_read b _) fun status => within_ite (within_pure _) ?_
    refine within_bind (plain_takeTimeout b) fun late => within_ite ?_ (within_pure _)
    exact within_bind (plain_modifySock _) fun _ => within_pure _
  have finish : Mute (disconnectFinish b sn) := by
    refine under_bind (mute_plain (plain_modifySock _)) fun _ => mute_get fun m _ => ?_
    refine mute_ite (mute_pure _) (under_bind (mute_plain (plain_deadlineAbs _)) fun d => ?_)
    exact mute_clockLoop b look (plain_faultedIo sn) d
  have command : Mute (disconnectCommand b sn) := by
    refine under_bind (mute_plain (plain_write b _ _)) fun _ => mute_get fun m _ => ?_
    refine mute_ite (mute_pure _) (under_bind (mute_plain (plain_deadlineAbs _)) fun d => ?_)
    exact mute_waitRegister b _ _ d
  refine mute_ite (mute_pure _) (mute_locked (mute_get fun m _ => ?_))
  refine mute_ite (mute_pure _) (mute_ite (mute_pure _) (mute_ite (mute_pure _) ?_))
  refine under_bind (mute_plain (plain_read b _)) fun tmp => mute_ite (mute_pure _) ?_
  exact mute_ite (under_bind command fun ret => mute_ite (mute_pure _) finish) finish

lemma mute_send (len : ℕ) (buf : Option (Vector Byte len)) : Mute (send b sn len buf) := by
  have sent (nonblocking : Bool) : Mute (sentLook b sn nonblocking) := by
    refine under_bind (mute_plain (plain_getSnIR b)) fun ir => mute_ite ?_ (mute_ite ?_ ?_)
    · refine under_bind (mute_plain (plain_write b _ _)) fun _ => ?_
      exact mute_map _ (mute_plain (plain_modifySock _))
    · refine under_bind (mute_plain (plain_write b _ _)) fun _ => ?_
      exact mute_map _ (mute_plain (plain_modifySock _))
    · refine under_bind (mute_plain (plain_read b _)) fun sr => mute_ite ?_ ?_
      · exact mute_map _ (mute_plain (plain_modifySock _))
      · exact mute_ite (mute_pure _) (mute_pure _)
  have free (len : ℕ) (nonblocking : Bool) : Mute (freeLook b sn len nonblocking) := by
    refine under_bind (mute_plain (plain_stableSize b _)) fun r => ?_
    cases r with
    | error e => exact mute_pure _
    | ok freesize =>
      refine under_bind (mute_plain (plain_read b _)) fun sr => mute_ite (mute_ite ?_ (mute_pure _)) ?_
      · exact mute_map _ (mute_closeInternal b 0)
      · exact mute_ite (mute_pure _) (mute_ite (mute_pure _) (mute_pure _))
  have command (len t : ℕ) : Mute (sendCommand b sn len t) := by
    refine under_bind (mute_plain (plain_write b _ _)) fun _ => ?_
    refine under_bind (mute_plain (plain_deadlineAbs _)) fun d => ?_
    refine under_bind (mute_waitRegister b _ _ d) fun ret => mute_ite ?_ ?_
    · exact mute_map _ (mute_plain (plain_modifySock _))
    · exact mute_map _ (mute_plain (plain_modifySock _))
  have ready (data : List Byte) (len : ℕ) : Mute (sendReady b sn data len) := by
    refine mute_get fun m _ => under_bind (mute_plain (plain_deadlineAbs _)) fun d => ?_
    refine under_bind (mute_wait b (free _ _) (mute_pure _) d) fun r => ?_
    cases r with
    | error e => exact mute_pure _
    | ok u => exact under_bind (mute_plain (plain_wizSendData b _)) fun _ => command _ _
  have body (data : List Byte) (len : ℕ) : Mute (sendLocked b sn data len) := by
    refine mute_get fun m _ => mute_ite (mute_pure _) (mute_ite (mute_pure _) (mute_ite (mute_pure _) ?_))
    refine under_bind (mute_plain (plain_read b _)) fun sr => mute_ite (mute_pure _) ?_
    refine mute_ite (under_bind (mute_plain (plain_deadlineAbs _)) fun d => ?_) (ready data len)
    refine under_bind (mute_wait b (sent _) (mute_map _ (mute_plain plain_faultedTimeout)) d) fun r => ?_
    cases r with
    | error e => exact mute_pure _
    | ok u => exact ready data len
  refine mute_ite (mute_pure _) ?_
  cases buf with
  | none => exact mute_pure _
  | some buf =>
    refine mute_ite (mute_pure _) (mute_get fun m _ => mute_ite (mute_pure _) ?_)
    exact mute_locked (body _ _)

lemma mute_recv (buf : Bool) (len : ℕ) : Mute (recv b sn buf len) := by
  have look (nonblocking : Bool) : Mute (recvLook b sn nonblocking) := by
    have peer : Mute (recvPeerClosed b sn) := by
      refine under_bind (mute_plain (plain_stableSize b _)) fun r => ?_
      cases r with
      | error e => exact mute_pure _
      | ok freesize =>
        exact mute_get fun m _ => mute_ite (mute_map _ (mute_closeInternal b 0)) (mute_pure _)
    refine under_bind (mute_plain (plain_stableSize b _)) fun r => ?_
    cases r with
    | error e => exact mute_pure _
    | ok recvsize =>
      refine under_bind (mute_plain (plain_read b _)) fun sr => mute_ite (mute_ite (mute_pure _) peer) ?_
      refine mute_ite (mute_map _ (mute_closeInternal b 0)) (mute_ite (mute_pure _) ?_)
      exact mute_ite (mute_pure _) (mute_pure _)
  have commit (len t : ℕ) : Mute (recvCommit b sn len t) := by
    refine under_bind (mute_plain (plain_wizRecvData b _)) fun data => ?_
    refine under_bind (mute_plain (plain_write b _ _)) fun _ => ?_
    refine under_bind (mute_plain (plain_deadlineAbs _)) fun d => ?_
    refine under_bind (mute_waitRegister b _ _ d) fun ret => mute_ite ?_ (mute_pure _)
    exact mute_map _ (mute_plain (plain_modifySock _))
  refine mute_ite (mute_pure _) (mute_ite (mute_pure _) (mute_ite (mute_pure _) ?_))
  refine mute_get fun m _ => mute_ite (mute_pure _) (mute_locked (mute_get fun m _ => ?_))
  refine mute_ite (mute_pure _) (mute_ite (mute_pure _) (mute_ite (mute_pure _) ?_))
  refine under_bind (mute_plain (plain_deadlineAbs _)) fun d => ?_
  refine under_bind (mute_wait b (look _) (mute_pure _) d) fun r => ?_
  cases r with
  | error e => exact mute_pure _
  | ok recvsize => exact commit _ _

lemma plain_sendtoAddress (mode : Byte) (addr : Vector Byte 4) (port addrlen : ℕ) :
    Plain (sendtoAddress b sn mode addr port addrlen) := by
  have status (p : Byte) : Plain (sendtoAddress.statusCheck b sn mode addr port p) := by
    refine within_ite (within_pure _) (within_ite (within_pure _) (within_ite (within_pure _) ?_))
    refine within_bind (plain_read b _) fun sr => within_ite (within_pure _) ?_
    refine within_bind (plain_writeBuf b _ _) fun _ => ?_
    exact within_bind (plain_setSnDPORT b _) fun _ => within_pure _
  have ports (p : Byte) : Plain (sendtoAddress.portCheck b sn mode addr port p) := by
    refine within_ite (within_ite ?_ (within_pure _)) (status p)
    exact within_bind (plain_setSnDPORT b _) fun _ => status p
  refine within_ite (within_pure _) (within_ite (within_ite (within_pure _) ?_) (ports _))
  refine within_ite (within_ite (within_pure _) ?_) (within_pure _)
  exact within_bind (plain_writeBuf b _ _) fun _ => ports _

lemma plain_sendtoPending : Plain (sendtoPending b sn) := by
  refine within_bind (plain_getSnIR b) fun tmp => within_ite ?_ (within_ite ?_ (within_pure _))
  · refine within_bind (plain_write b _ _) fun _ => within_bind plain_get fun m => ?_
    exact within_bind (plain_modifySock _) fun _ => within_pure _
  · refine within_bind (plain_write b _ _) fun _ => ?_
    exact within_bind (plain_modifySock _) fun _ => within_pure _

lemma mute_sendto (len : ℕ) (buf : Option (Vector Byte len)) (addr : Vector Byte 4)
    (port addrlen : ℕ) : Mute (sendto b sn len buf addr port addrlen) := by
  have free (len : ℕ) (nonblocking : Bool) : Plain (sendtoFreeLook b sn len nonblocking) := by
    refine within_bind (plain_stableSize b _) fun r => ?_
    cases r with
    | error e => exact within_pure _
    | ok freesize =>
      refine within_bind (plain_read b _) fun sr => within_ite (within_pure _) ?_
      exact within_ite (within_pure _) (within_ite (within_pure _) (within_pure _))
  have sent (len : ℕ) : Plain (sendtoSentLook b sn len) := by
    refine within_bind (plain_getSnIR b) fun tmp => within_ite ?_ (within_ite ?_ (within_pure _))
    · exact within_bind (plain_write b _ _) fun _ => within_pure _
    · exact within_bind (plain_write b _ _) fun _ => within_pure _
  have commit (data : List Byte) (nonblocking : Bool) : Mute (sendtoCommit b sn data nonblocking) := by
    refine under_bind (mute_plain (plain_write b _ _)) fun _ => ?_
    refine under_bind (mute_plain (plain_wizSendData b _)) fun _ => ?_
    refine under_bind (mute_plain (plain_write b _ _)) fun _ => mute_get fun m _ => ?_
    refine under_bind (mute_plain (plain_sockDeadlineBegin _)) fun d => ?_
    cases d with
    | none => exact mute_map _ (mute_plain (plain_modifySock _))
    | some d =>
      refine under_bind (mute_waitRegister b _ _ d) fun ret => mute_ite ?_ ?_
      · exact mute_map _ (mute_plain (plain_modifySock _))
      refine under_bind (mute_plain (plain_modifySock _)) fun _ => mute_ite ?_ ?_
      · exact mute_map _ (mute_plain (plain_modifySock _))
      refine under_bind (mute_plain (plain_deadlineAbs _)) fun d => ?_
      exact mute_wait b (mute_plain (sent _)) (mute_plain plain_faultedTimeout) d
  have waitFree (len : ℕ) (isMacraw nonblocking : Bool) (t : ℕ) :
      Mute (sendtoWaitFree b sn len isMacraw nonblocking t) := by
    refine mute_ite (mute_map _ (mute_plain (plain_read b _))) ?_
    refine under_bind (mute_plain (plain_deadlineAbs _)) fun d => ?_
    exact mute_wait b (mute_plain (free _ _)) (mute_pure _) d
  have idle (data : List Byte) (len : ℕ) : Mute (sendtoIdle b sn data len addr port addrlen) := by
    refine mute_get fun m _ => under_bind (mute_plain (plain_sendtoAddress b sn _ addr port addrlen)) fun r => ?_
    cases r with
    | error e => exact mute_pure _
    | ok u =>
      refine under_bind (waitFree _ _ _ _) fun r => ?_
      cases r with
      | error e => exact mute_pure _
      | ok u => exact commit _ _
  refine mute_ite (mute_pure _) ?_
  cases buf with
  | none => exact mute_pure _
  | some buf =>
    refine mute_ite (mute_pure _) (mute_locked (mute_get fun m _ => mute_ite (mute_pure _) ?_))
    refine mute_ite (mute_pure _) (mute_ite (mute_pure _) (mute_ite ?_ (idle _ _)))
    exact mute_plain (plain_sendtoPending b sn)

lemma plain_recvfromLook (nonblocking : Bool) : Plain (recvfromLook b sn nonblocking) := by
  refine within_bind (plain_stableSize b _) fun r => ?_
  cases r with
  | error e => exact within_pure _
  | ok packLen =>
    refine within_bind (plain_read b _) fun sr => within_ite (within_pure _) ?_
    exact within_ite (within_pure _) (within_ite (within_pure _) (within_pure _))

lemma mute_recvfrom (buf : Bool) (len : ℕ) (addrPort : Bool) : Mute (recvfrom b sn buf len addrPort) := by
  have header (n : ℕ) (nonblocking : Bool) : Mute (recvHeader b sn n nonblocking) := by
    refine mute_get fun m _ => under_bind (mute_plain (plain_wizRecvData b _)) fun head => ?_
    refine under_bind (mute_plain (plain_write b _ _)) fun _ => ?_
    exact mute_map _ (mute_waitDatagramCrAccepted b _ _)
  have finish (packLen : ℕ) (nonblocking : Bool) (out : Received) :
      Mute (recvfromFinish b sn packLen nonblocking out) := by
    refine under_bind (mute_plain (plain_write b _ _)) fun _ => mute_get fun m _ => ?_
    refine under_bind (mute_waitDatagramCrAccepted b _ _) fun ret => mute_ite (mute_pure _) ?_
    exact mute_map _ (mute_plain (plain_modifySock _))
  have chunk (nonblocking : Bool) (out : Received) : Mute (recvfromChunk b sn len nonblocking out) :=
    mute_get fun m _ => under_bind (mute_plain (plain_wizRecvData b _)) fun data => finish _ _ _
  have macraw (nonblocking : Bool) : Mute (recvfromMacraw b sn len nonblocking) := by
    refine mute_get fun m _ => mute_ite (under_bind (header 2 nonblocking) fun r => ?_) (chunk _ _)
    refine mute_ite (mute_pure _) (under_bind (mute_plain (plain_modifySock _)) fun _ => ?_)
    refine mute_ite (mute_map _ (mute_closeInternal b 0)) ?_
    refine under_bind (mute_plain (plain_modifySock _)) fun _ => ?_
    refine mute_ite (mute_map _ (mute_closeInternal b 0)) ?_
    exact under_bind (mute_plain (plain_modifySock _)) fun _ => chunk _ _
  have udp (nonblocking : Bool) : Mute (recvfromUdp b sn len nonblocking) := by
    refine mute_get fun m _ => mute_ite (under_bind (header 8 nonblocking) fun r => ?_) (chunk _ _)
    refine mute_ite (mute_pure _) (under_bind (mute_plain (plain_modifySock _)) fun _ => chunk _ _)
  have ipraw (packLen : ℕ) (nonblocking : Bool) : Mute (recvfromIpraw b sn len packLen nonblocking) := by
    have payload (out : Received) : Mute (recvfromIpraw.payload b sn len packLen nonblocking out) :=
      mute_get fun m _ => mute_ite (chunk _ _) (finish _ _ _)
    refine mute_get fun m _ => mute_ite (under_bind (header 6 nonblocking) fun r => ?_) (payload _)
    exact mute_ite (mute_pure _) (under_bind (mute_plain (plain_modifySock _)) fun _ => payload _)
  have packet (packLen : ℕ) (mode : Byte) (nonblocking : Bool) :
      Mute (recvfromPacket b sn len packLen mode nonblocking addrPort) :=
    mute_ite (mute_pure _) (mute_ite (udp _) (mute_ite (macraw _) (ipraw _ _)))
  refine mute_ite (mute_pure _) (mute_ite (mute_pure _) (mute_ite (mute_pure _) (mute_locked ?_)))
  refine mute_get fun m _ => mute_ite (mute_pure _) (mute_ite (mute_pure _) (mute_ite (mute_pure _) ?_))
  refine mute_ite (under_bind (mute_plain (plain_deadlineAbs _)) fun d => ?_) (packet _ _ _)
  refine under_bind (mute_wait b (mute_plain (plain_recvfromLook b sn _)) (mute_pure _) d) fun r => ?_
  cases r with
  | error e => exact mute_pure _
  | ok packLen => exact packet _ _ _

lemma plain_ctlsocket (cstype : CtlsockType) (arg : Option ArgMem) : Plain (ctlsocket b sn cstype arg) := by
  have body (arg : ArgMem) : Plain (ctlsocketLocked b sn cstype arg) := by
    have writes (a : Addr) (v : Byte) : Plain (do wizchipWrite b a v; answered .none) :=
      within_bind (plain_write b a v) fun _ => within_pure _
    refine within_bind plain_get fun m => within_ite (within_pure _) (within_ite (within_pure _) ?_)
    cases cstype with
    | setIomode =>
      refine within_ite (within_bind (plain_modifySock _) fun _ => within_pure _) ?_
      exact within_ite (within_bind (plain_modifySock _) fun _ => within_pure _) (within_pure _)
    | clrInterrupt => exact within_ite (within_pure _) (writes _ _)
    | getInterrupt => exact within_bind (plain_getSnIR b) fun v => within_pure _
    | setIntmask => exact within_ite (within_pure _) (writes _ _)
    | getIntmask =>
      refine within_bind ?_ fun v => within_pure _
      exact within_bind (plain_read b _) fun v => within_pure _
    | _ => exact within_pure _
  refine within_ite (within_pure _) ?_
  cases arg with
  | none => exact within_pure _
  | some arg =>
    refine within_bind ((within_perform _).2 id) fun _ => within_bind (body arg) fun r => ?_
    exact within_bind ((within_perform _).2 id) fun _ => within_pure _

lemma plain_getsockopt (sotype : SockoptType) (arg : Bool) : Plain (getsockopt b sn sotype arg) := by
  have size (a : Addr) : Plain (sizeOption (stableSize b a)) := by
    refine within_bind (plain_stableSize b a) fun r => ?_
    cases r with
    | error e => exact within_pure _
    | ok v => exact within_pure _
  have mode : Plain (sockModeCachedOrRead b sn) := plain_sockModeCachedOrRead b
  have body : Plain (getsockoptLocked b sn sotype) := by
    refine within_bind plain_get fun m => within_ite (within_pure _) ?_
    cases sotype with
    | flag => exact within_bind mode fun _ => within_pure _
    | ttl | tos | status => exact within_bind (plain_read b _) fun _ => within_pure _
    | mss | destport => exact within_bind (plain_read16 b _) fun _ => within_pure _
    | destip => exact within_bind (plain_readBuf b _ _) fun _ => within_pure _
    | keepaliveauto =>
      exact within_ite (within_pure _) (within_bind (plain_read b _) fun _ => within_pure _)
    | sendbuf | recvbuf => exact size _
    | remainsize => exact within_bind mode fun _ => within_ite (size _) (within_pure _)
    | packinfo => exact within_bind mode fun _ => within_ite (within_pure _) (within_pure _)
    | _ => exact within_pure _
  refine within_ite (within_pure _) (within_ite (within_pure _) ?_)
  refine within_bind ((within_perform _).2 id) fun _ => within_bind body fun r => ?_
  exact within_bind ((within_perform _).2 id) fun _ => within_pure _

/-- The options other than SO_KEEPALIVESEND do not wait. -/
lemma plain_setsockopt {sotype : SockoptType} (h : sotype ≠ .keepalivesend) (arg : Option ArgMem) :
    Plain (setsockopt b sn sotype arg) := by
  have body (arg : ArgMem) : Plain (setsockoptLocked b sn sotype arg) := by
    refine within_bind plain_get fun m => within_ite (within_pure _) ?_
    cases sotype with
    | ttl | tos => exact within_bind (plain_write b _ _) fun _ => within_pure _
    | mss => exact within_bind (plain_write16 b _ _) fun _ => within_pure _
    | destip => exact within_bind (plain_writeBuf b _ _) fun _ => within_pure _
    | destport => exact within_bind (plain_setSnDPORT b _) fun _ => within_pure _
    | keepalivesend => exact absurd rfl h
    | keepaliveauto =>
      exact within_ite (within_pure _) (within_bind (plain_write b _ _) fun _ => within_pure _)
    | _ => exact within_pure _
  refine within_ite (within_pure _) (within_ite (within_pure _) ?_)
  refine within_bind ((within_perform _).2 id) fun _ => within_bind (body _) fun r => ?_
  exact within_bind ((within_perform _).2 id) fun _ => within_pure _

lemma mute_setsockopt (sotype : SockoptType) (arg : Option ArgMem) : Mute (setsockopt b sn sotype arg) := by
  by_cases h : sotype = .keepalivesend
  · subst h
    refine mute_ite (mute_pure _) (mute_ite (mute_pure _) (mute_locked ?_))
    refine mute_get fun m _ => mute_ite (mute_pure _) ?_
    refine mute_get fun m _ => mute_ite (mute_pure _) ?_
    refine under_bind (mute_plain (plain_read b _)) fun v => mute_ite (mute_pure _) ?_
    refine mute_get fun m _ => mute_ite (mute_pure _) ?_
    refine under_bind (mute_plain (plain_deadlineAbs _)) fun d => ?_
    refine under_bind (mute_plain plain_waitPollInit) fun poll => ?_
    refine under_bind (mute_plain (plain_write b _ _)) fun _ => ?_
    exact mute_pollLoop b (mute_plain (plain_crOrTimeoutLook b)) (mute_plain plain_faultedTimeout) d poll
  · exact mute_plain (plain_setsockopt b sn h arg)

lemma mute_op (op : Op) : Mute (op.run b sn) := by
  cases op with
  | socket protocol port flag => exact mute_socket b sn protocol flag port
  | close => exact mute_close b sn
  | listen => exact mute_listen b sn
  | connect addr port addrlen => exact mute_connect b sn addr port addrlen
  | disconnect => exact mute_disconnect b sn
  | send len buf => exact mute_send b sn len buf
  | recv buf len => exact mute_map _ (mute_recv b sn buf len)
  | sendto len buf addr port addrlen => exact mute_sendto b sn len buf addr port addrlen
  | recvfrom buf len addrPort => exact mute_map _ (mute_recvfrom b sn buf len addrPort)
  | ctlsocket cstype arg => exact mute_map _ (mute_plain (plain_ctlsocket b sn cstype arg))
  | setsockopt sotype arg => exact mute_setsockopt b sn sotype arg
  | getsockopt sotype arg => exact mute_map _ (mute_plain (plain_getsockopt b sn sotype arg))

end operations

section phy
variable (b : Build)

lemma mute_wizphyWaitReadback (expected : Byte) : Mute (wizphyWaitReadback b expected) := by
  refine mute_get fun m hm => under_bind (mute_plain (plain_deadlineAbs _)) fun d => ?_
  refine under_loop (fun polls => ?_) _ _
  refine under_bind (mute_plain (plain_read b _)) fun phycfgr => mute_ite (mute_pure _) ?_
  exact under_ite (fun _ => mute_pure _) fun h => absurd (not_not.1 h) hm

lemma mute_wizphyWaitUntil (d : ℕ) : Mute (wizphyWaitUntil b d) := by
  refine mute_get fun m hm => mute_ite (under_ite (fun _ => mute_pure _) fun h => ?_) ?_
  · exact absurd (.inl (not_not.1 h)) hm
  refine under_loop (fun polls => under_bind (mute_plain (plain_deadlineExpired d)) fun late => ?_) _ _
  refine mute_ite (mute_pure _) (mute_get fun m hm => under_ite (fun _ => mute_pure _) fun h => ?_)
  exact absurd (not_not.1 h) hm

lemma mute_wizphyResetLocked (configured : Byte) : Mute (wizphyResetLocked b configured) := by
  refine under_bind (mute_plain (plain_write b _ _)) fun _ => ?_
  refine under_bind (mute_wizphyWaitReadback b _) fun ret => mute_ite (mute_pure _) ?_
  refine under_bind (mute_plain (plain_deadlineAbs _)) fun d => ?_
  refine under_bind (mute_wizphyWaitUntil b d) fun ret => mute_ite (mute_pure _) ?_
  exact under_bind (mute_plain (plain_write b _ _)) fun _ => mute_wizphyWaitReadback b _

lemma mute_globalLocked {α : Type} {body : Drv α} (hbody : Mute body) : Mute (globalLocked body) := by
  refine under_bind ((under_perform _).2 id) fun _ => under_bind hbody fun r => ?_
  exact under_bind ((under_perform _).2 id) fun _ => mute_pure _

lemma mute_wizphySetphyconf (phyconf : Option PhyConf) : Mute (wizphySetphyconf b phyconf) := by
  cases phyconf with
  | none => exact mute_pure _
  | some c =>
    refine mute_ite (mute_pure _) (mute_globalLocked ?_)
    refine under_bind (mute_plain (plain_read b _)) fun tmp => ?_
    exact under_bind (mute_plain (plain_write b _ _)) fun _ => mute_wizphyResetLocked b _

lemma mute_wizphySetphypmode (pmode : Byte) : Mute (wizphySetphypmode b pmode) := by
  refine mute_ite (mute_pure _) (mute_globalLocked ?_)
  refine under_bind (mute_plain (plain_read b _)) fun tmp => mute_ite (mute_pure _) ?_
  exact under_bind (mute_plain (plain_write b _ _)) fun _ => mute_wizphyResetLocked b _

lemma mute_wizphyReset : Mute (wizphyReset b) :=
  mute_globalLocked (under_bind (mute_plain (plain_read b _)) fun _ => mute_wizphyResetLocked b _)

end phy

end IoLibrary.Callbacks
