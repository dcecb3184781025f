import IoLibrary.Calls

/-! The waits of the public socket operations: each is a loop that counts its polls, with a
deadline that the operation has opened for one of its budgets, or a loop that only looks at the
time. -/
namespace IoLibrary
open Effects

/-- An update that leaves the time source and the budgets alone. -/
def KeepsClock (f : Driver → Driver) : Prop := ∀ m,
  (f m).commandTimeoutUs = m.commandTimeoutUs ∧ (f m).operationTimeoutUs = m.operationTimeoutUs ∧
    (f m).timeSourceActive = m.timeSourceActive

/-- `D` holds the times the program has made: `(d, T)` is `T` after a reading of the clock. One of
them is the deadline `d`, for the budget `c` of a command or `o` of an operation. -/
def Opened (c o : ℕ) (D : Set (ℕ × ℕ)) (d : ℕ) : Prop := ∃ T, (T = c ∨ T = o) ∧ (d, T) ∈ D

/-- With the budgets `c` for commands and `o` for operations and the times `D` made: the loops
of the program are waits, and those that do not count their polls have a budget in `A`. A loop
can be cut, so none is a sequence of steps. -/
inductive Waits (b : Build) (A : Set ℕ) (c o : ℕ) : Set (ℕ × ℕ) → {α : Type} → Drv α → Prop
  | ret {D : Set (ℕ × ℕ)} {α : Type} (a : α) : Waits b A c o D (.ret a)
  | bind {D : Set (ℕ × ℕ)} {α β : Type} {p : Drv α} {f : α → Drv β} (hp : Waits b A c o D p)
      (hf : ∀ a, Waits b A c o D (f a)) : Waits b A c o D (p >>= f)
  | mem {D : Set (ℕ × ℕ)} {α : Type} {f : Driver → Driver} {k : Driver → Drv α} (hf : KeepsClock f)
      (hk : ∀ m : Driver, m.commandTimeoutUs = c → m.operationTimeoutUs = o →
        Waits b A c o D (k m)) : Waits b A c o D (.mem f k)
  | call {D : Set (ℕ × ℕ)} {α : Type} {e : Io} {k : e.Res → Drv α} (hk : ∀ x, Waits b A c o D (k x)) :
      Waits b A c o D (.call e k)
  | opens {D : Set (ℕ × ℕ)} {α : Type} {T : ℕ} {f : ℕ → Drv α} (hT : T = c ∨ T = o)
      (hf : ∀ d, Waits b A c o (insert (d, T) D) (f d)) :
      Waits b A c o D (wizchipDeadlineAbs T >>= f)
  | reads {D : Set (ℕ × ℕ)} {α : Type} {f : ℕ → Drv α}
      (hf : ∀ now, Waits b A c o (insert (now, 0) D) (f now)) :
      Waits b A c o D (wizchipTimeNow >>= f)
  | counted {D : Set (ℕ × ℕ)} {α : Type} {d now : ℕ} {look : Drv (Option α)} {expired : Drv α}
      (hd : Opened c o D d) (hnow : (now, 0) ∈ D) (hlook : Waits b A c o D look)
      (hexpired : Waits b A c o D expired) :
      Waits b A c o D (pollLoop b d ⟨now, 2 ^ 64 - 1, 0⟩ look expired)
  | timed {D : Set (ℕ × ℕ)} {α : Type} {look : Drv (Option α)} {expired : Drv α} (ho : o ∈ A)
      (hlook : Waits b A c o D look) (hexpired : Waits b A c o D expired) :
      Waits b A c o D (do
        let d ← wizchipDeadlineAbs o
        clockLoop b d look expired)
  | stable {D : Set (ℕ × ℕ)} {a : Addr} (hA : pollMax ∈ A) (hlook : Waits b A c o D (sizeLook b a)) :
      Waits b A c o D (stableSize b a)

section steps
variable {b : Build} {A : Set ℕ} {c o : ℕ} {D : Set (ℕ × ℕ)} {α β : Type}

lemma waits_pure (a : α) : Waits b A c o D (pure a : Drv α) := .ret a

lemma waits_ite {q : Prop} [Decidable q] {p p' : Drv α} (hp : Waits b A c o D p)
    (hp' : Waits b A c o D p') : Waits b A c o D (if q then p else p') := by
  split
  · exact hp
  · exact hp'

lemma waits_perform (e : Io) : Waits b A c o D (ask e) := .call fun x => .ret x

lemma waits_modify {f : Driver → Driver} (hf : KeepsClock f) : Waits b A c o D (Prog.modify f) :=
  .mem hf fun _ _ _ => .ret ()

lemma waits_get {f : Driver → Drv α} (h : ∀ m : Driver, m.commandTimeoutUs = c →
    m.operationTimeoutUs = o → Waits b A c o D (f m)) : Waits b A c o D (Prog.get >>= f) :=
  .mem (fun _ => ⟨rfl, rfl, rfl⟩) h

lemma waits_map {p : Drv α} (f : α → β) (hp : Waits b A c o D p) :
    Waits b A c o D (do let a ← p; return f a) := hp.bind fun _ => waits_pure _

lemma waits_modifySock (sn : ℕ) (t : Sock → Sock) : Waits b A c o D (modifySock sn t) :=
  waits_modify fun _ => ⟨rfl, rfl, rfl⟩

end steps

section transfers
variable (b : Build) {A : Set ℕ} {c o : ℕ} {D : Set (ℕ × ℕ)}

lemma waits_wizchipSpiFault : Waits b A c o D wizchipSpiFault := by
  refine Waits.bind (waits_modify ?_) fun _ => waits_pure _
  exact fun _ => ⟨rfl, rfl, rfl⟩

lemma waits_readStatus (fault : Bool) : Waits b A c o D (readStatus b fault) := by
  refine waits_ite (waits_ite (waits_wizchipSpiFault b) (waits_pure _)) ?_
  refine waits_get fun m _ _ => waits_ite (waits_pure _) (waits_ite (waits_wizchipSpiFault b) ?_)
  refine Waits.bind (waits_modify ?_) fun _ => waits_pure _
  exact fun _ => ⟨rfl, rfl, rfl⟩

lemma waits_writeStatus (fault : Bool) : Waits b A c o D (writeStatus b fault) :=
  waits_ite (waits_wizchipSpiFault b) (waits_pure _)

lemma waits_wizchipRead (a : Addr) : Waits b A c o D (wizchipRead b a) :=
  waits_map _ ((waits_perform _).bind fun _ => waits_map _ (waits_readStatus b _))

lemma waits_wizchipWrite (a : Addr) (v : Byte) : Waits b A c o D (wizchipWrite b a v) := by
  refine waits_map _ ?_
  refine Waits.bind (waits_modify ?_) fun _ =>
    (waits_perform _).bind fun _ => waits_writeStatus b _
  exact fun _ => ⟨rfl, rfl, rfl⟩

lemma waits_wizchipReadBuf (a : Addr) (len : ℕ) : Waits b A c o D (wizchipReadBuf b a len) := by
  refine waits_map _ (waits_ite (waits_pure _) ?_)
  exact (waits_perform _).bind fun _ => waits_map _ (waits_readStatus b _)

lemma waits_wizchipWriteBufChecked (a : Addr) (data : List Byte) :
    Waits b A c o D (wizchipWriteBufChecked b a data) := by
  refine waits_ite (waits_pure _) ?_
  refine Waits.bind (waits_modify ?_) fun _ =>
    (waits_perform _).bind fun _ => waits_writeStatus b _
  exact fun _ => ⟨rfl, rfl, rfl⟩

lemma waits_wizchipWriteBuf (a : Addr) (data : List Byte) :
    Waits b A c o D (wizchipWriteBuf b a data) := waits_map _ (waits_wizchipWriteBufChecked b a data)

lemma waits_wizchipWrite16 (a : Addr) (v : ℕ) : Waits b A c o D (wizchipWrite16 b a v) :=
  waits_wizchipWriteBufChecked b a _

lemma waits_wizchipRead16 (a : Addr) : Waits b A c o D (wizchipRead16 b a) :=
  (waits_perform _).bind fun _ => waits_map _ (waits_readStatus b _)

lemma waits_wizchipRead16Value (a : Addr) : Waits b A c o D (wizchipRead16Value b a) :=
  waits_map _ (waits_wizchipRead16 b a)

lemma waits_sizeLook (a : Addr) : Waits b A c o D (sizeLook b a) := by
  refine (waits_wizchipRead16 b a).bind fun r => ?_
  cases r with
  | none => exact waits_pure _
  | some first =>
    refine (waits_wizchipRead16 b a).bind fun r => ?_
    cases r with
    | none => exact waits_pure _
    | some second =>
      refine waits_ite (waits_pure _) ((waits_wizchipRead16 b a).bind fun r => ?_)
      cases r with
      | none => exact waits_pure _
      | some third => exact waits_ite (waits_pure _) (waits_pure _)

lemma waits_stableSize (hA : pollMax ∈ A) (a : Addr) : Waits b A c o D (stableSize b a) :=
  .stable hA (waits_sizeLook b a)

lemma waits_getSnIR (sn : ℕ) : Waits b A c o D (getSnIR b sn) :=
  waits_map _ (waits_wizchipRead b _)

lemma waits_wizSendData (sn : ℕ) (data : List Byte) : Waits b A c o D (wizSendData b sn data) := by
  refine waits_ite (waits_pure _) ((waits_wizchipRead16Value b _).bind fun ptr => ?_)
  exact (waits_wizchipWriteBuf b _ _).bind fun _ => waits_wizchipWriteBuf b _ _

lemma waits_wizRecvData (sn len : ℕ) : Waits b A c o D (wizRecvData b sn len) := by
  refine waits_ite (waits_pure _) ((waits_wizchipRead16Value b _).bind fun ptr => ?_)
  exact (waits_wizchipReadBuf b _ _).bind fun data =>
    (waits_wizchipWriteBuf b _ _).bind fun _ => waits_pure _

lemma waits_opens {T : ℕ} (hT : T = c ∨ T = o) {α : Type} {f : ℕ → Drv α}
    (hf : ∀ d D, Opened c o D d → Waits b A c o D (f d)) :
    Waits b A c o D (wizchipDeadlineAbs T >>= f) :=
  .opens hT fun d => hf d _ ⟨T, hT, Set.mem_insert _ _⟩

lemma waits_waitPollInit {d : ℕ} (hd : Opened c o D d) {α : Type} {f : Poll → Drv α}
    (hf : ∀ now D, Opened c o D d → (now, 0) ∈ D → Waits b A c o D (f ⟨now, 2 ^ 64 - 1, 0⟩)) :
    Waits b A c o D (waitPollInit >>= f) := by
  obtain ⟨T, hT, hmem⟩ := hd
  rw [waitPollInit, bind_assoc]
  exact .reads fun now => hf now _ ⟨T, hT, Set.mem_insert_of_mem _ hmem⟩ (Set.mem_insert _ _)

lemma waits_sockDeadlineBegin {T : ℕ} (hT : T = c ∨ T = o) {α : Type} {f : Option ℕ → Drv α}
    (hnone : Waits b A c o D (f none))
    (hsome : ∀ d D, Opened c o D d → Waits b A c o D (f (some d))) :
    Waits b A c o D (sockDeadlineBegin T >>= f) := by
  rw [sockDeadlineBegin, bind_assoc]
  refine waits_get fun m _ _ => ?_
  split
  · rw [bind_assoc]
    exact waits_opens b hT hsome
  · exact hnone

lemma waits_locked (sn : ℕ) {α : Type} {body : Drv α} (h : Waits b A c o D body) :
    Waits b A c o D (locked sn body) :=
  (waits_perform _).bind fun _ => h.bind fun _ => (waits_perform _).bind fun _ => waits_pure _

end transfers

section sockets
variable (b : Build) {A : Set ℕ} {c o : ℕ} {D : Set (ℕ × ℕ)} (sn : ℕ)

lemma waits_faultedTimeout : Waits b A c o D (faultedTimeout sn) :=
  (waits_modifySock _ _).bind fun _ => waits_pure _

lemma waits_waitRegister {d : ℕ} (hd : Opened c o D d) (a : Addr) (wanted : Byte) :
    Waits b A c o D (waitRegister b sn a wanted d) := by
  refine waits_waitPollInit b hd fun now D hd hnow => .counted hd hnow ?_ (waits_faultedTimeout b sn)
  exact (waits_wizchipRead b _).bind fun _ => waits_ite (waits_pure _) (waits_pure _)

lemma waits_waitCrAccepted {d : ℕ} (hd : Opened c o D d) : Waits b A c o D (waitCrAccepted b sn d) :=
  waits_waitRegister b sn hd _ _

lemma waits_waitSrReached {d : ℕ} (hd : Opened c o D d) (wanted : Byte) :
    Waits b A c o D (waitSrReached b sn wanted d) := waits_waitRegister b sn hd _ _

lemma waits_takeTimeout : Waits b A c o D (takeTimeout b sn) :=
  (waits_getSnIR b sn).bind fun _ =>
    waits_ite ((waits_wizchipWrite b _ _).bind fun _ => waits_pure _) (waits_pure _)

lemma waits_crOrTimeoutLook : Waits b A c o D (crOrTimeoutLook b sn) := by
  refine (waits_wizchipRead b _).bind fun cr => waits_ite (waits_pure _) ?_
  exact (waits_takeTimeout b sn).bind fun _ => waits_ite (waits_pure _) (waits_pure _)

lemma waits_waitDatagramCrAccepted (nonblocking : Bool) :
    Waits b A c o D (waitDatagramCrAccepted b sn c nonblocking) := by
  refine (waits_crOrTimeoutLook b sn).bind fun r => ?_
  cases r with
  | some r => exact waits_pure _
  | none =>
    refine waits_ite (waits_pure _) (waits_opens b (.inl rfl) fun d D hd => ?_)
    refine waits_waitPollInit b hd fun now D hd hnow => .counted hd hnow ?_ (waits_faultedTimeout b sn)
    exact waits_crOrTimeoutLook b sn

lemma waits_sockModeCachedOrRead : Waits b A c o D (sockModeCachedOrRead b sn) :=
  waits_get fun _ _ _ => waits_ite (waits_wizchipRead b _) (waits_pure _)

lemma waits_closeCommand {d : ℕ} (hd : Opened c o D d) : Waits b A c o D (closeCommand b sn d) := by
  refine waits_get fun m _ _ => waits_ite (waits_pure _) ?_
  refine (waits_wizchipRead b _).bind fun sr => waits_ite (waits_pure _) ?_
  refine (waits_wizchipWrite b _ _).bind fun _ => ?_
  refine (waits_waitCrAccepted b sn hd).bind fun ret => waits_ite (waits_pure _) ?_
  exact (waits_wizchipWrite b _ _).bind fun _ => waits_waitSrReached b sn hd _

lemma waits_closeClearState (ret : ℤ) : Waits b A c o D (closeClearState sn ret) := by
  refine (waits_modifySock _ _).bind fun _ => waits_ite ?_ (waits_pure _)
  exact (waits_modifySock _ _).bind fun _ => waits_pure _

lemma waits_closeInternal {d : ℕ} (hd : d = 0 ∨ Opened c o D d) : Waits b A c o D (closeInternal b sn d) := by
  refine waits_ite (waits_pure _) ?_
  by_cases h0 : d = 0
  · rw [if_pos h0]
    refine waits_get fun m hc _ => ?_
    rw [hc]
    refine waits_sockDeadlineBegin b (.inl rfl) (waits_closeClearState b sn _) fun d D hd => ?_
    exact (waits_closeCommand b sn hd).bind fun ret => waits_closeClearState b sn ret
  · rw [if_neg h0]
    exact (waits_closeCommand b sn (hd.resolve_left h0)).bind fun ret => waits_closeClearState b sn ret

lemma waits_close : Waits b A c o D (close b sn) :=
  waits_ite (waits_pure _) (waits_locked b sn (waits_closeInternal b sn (.inl rfl)))

lemma waits_sourcePort (port : ℕ) : Waits b A c o D (sourcePort port) := by
  refine waits_ite (waits_pure _) ((waits_perform _).bind fun _ => waits_get fun m _ _ => ?_)
  refine Waits.bind (waits_modify ?_) fun _ => (waits_perform _).bind fun _ => waits_pure _
  exact fun _ => ⟨rfl, rfl, rfl⟩

lemma waits_socketOpenClosed {d : ℕ} (hd : Opened c o D d) (protocol flag : Byte) (port : ℕ) :
    Waits b A c o D (socketOpenClosed b sn protocol flag port d) := by
  have command : Waits b A c o D (socketOpenClosed.openCommand b sn protocol flag port d) := by
    refine (waits_wizchipWrite b _ _).bind fun _ => (waits_map _ (waits_wizchipWrite16 b _ _)).bind fun _ => ?_
    refine (waits_wizchipWrite b _ _).bind fun _ => ?_
    refine (waits_waitCrAccepted b sn hd).bind fun ret => waits_ite (waits_pure _) ?_
    refine (waits_waitSrReached b sn hd _).bind fun ret => waits_ite (waits_pure _) ?_
    exact (waits_modifySock _ _).bind fun _ => waits_pure _
  refine waits_ite ?_ command
  exact (waits_wizchipReadBuf b _ _).bind fun sipr => waits_ite (waits_pure _) command

lemma waits_socketLocked (protocol flag : Byte) (port : ℕ) (before : Byte) :
    Waits b A c o D (socketLocked b sn protocol flag port before) := by
  refine waits_get fun m hc _ => waits_ite (waits_pure _) ?_
  rw [hc]
  refine waits_sockDeadlineBegin b (.inl rfl) (waits_pure _) fun d D hd => ?_
  have opened : Waits b A c o D (socketOpenClosed b sn protocol flag port d) :=
    waits_socketOpenClosed b sn hd protocol flag port
  refine (waits_wizchipRead b _).bind fun sr => waits_ite opened (waits_ite (waits_pure _) ?_)
  refine (waits_closeInternal b sn (.inr hd)).bind fun ret => ?_
  exact waits_ite (waits_pure _) opened

lemma waits_socket (protocol flag : Byte) (port : ℕ) :
    Waits b A c o D (socket b sn protocol port flag) := by
  unfold socket
  cases socketArgCheck sn protocol flag with
  | some e => exact waits_pure _
  | none =>
    refine waits_get fun m _ _ => waits_ite ?_ ?_
    · refine Waits.bind (waits_modify ?_) fun _ => waits_pure _
      exact fun _ => ⟨rfl, rfl, rfl⟩
    · refine (waits_wizchipRead b _).bind fun before => (waits_sourcePort b _).bind fun port => ?_
      exact waits_locked b sn (waits_socketLocked b sn protocol flag port before)

lemma waits_listen : Waits b A c o D (listen b sn) := by
  refine waits_ite (waits_pure _) (waits_locked b sn (waits_get fun m _ _ => ?_))
  refine waits_ite (waits_pure _) ((waits_wizchipRead b _).bind fun sr => waits_ite (waits_pure _) ?_)
  refine waits_get fun m hc _ => ?_
  rw [hc]
  refine waits_sockDeadlineBegin b (.inl rfl) (waits_pure _) fun d D hd => ?_
  refine (waits_wizchipWrite b _ _).bind fun _ => ?_
  refine (waits_waitCrAccepted b sn hd).bind fun ret => waits_ite (waits_pure _) ?_
  exact waits_waitSrReached b sn hd _

lemma waits_faultedIo : Waits b A c o D (faultedIo sn) :=
  (waits_modifySock _ _).bind fun _ => waits_pure _

lemma waits_connect (ho : o ∈ A) (addr : Option (Vector Byte 4)) (port addrlen : ℕ) :
    Waits b A c o D (connect b sn addr port addrlen) := by
  refine waits_ite (waits_pure _) ?_
  cases addr with
  | none => exact waits_pure _
  | some addr =>
    refine waits_ite (waits_pure _) (waits_ite (waits_pure _) (waits_ite (waits_pure _) ?_))
    refine waits_locked b sn (waits_get fun m _ _ => waits_ite (waits_pure _) ?_)
    refine waits_ite (waits_pure _) (waits_ite (waits_pure _) ?_)
    refine (waits_wizchipRead b _).bind fun sr => waits_ite (waits_pure _) (waits_ite (waits_pure _) ?_)
    refine (waits_map _ (waits_wizchipWrite16 b _ _)).bind fun _ => ?_
    refine (waits_wizchipWriteBuf b _ _).bind fun _ => (waits_wizchipWrite b _ _).bind fun _ => ?_
    refine waits_get fun m hc ho' => waits_ite (waits_pure _) ?_
    rw [hc, ho']
    refine waits_opens b (.inl rfl) fun d D hd => (waits_waitCrAccepted b sn hd).bind fun ret => ?_
    refine waits_ite (waits_pure _) (.timed ho ?_ (waits_faultedIo b sn))
    refine (waits_wizchipRead b _).bind fun status => waits_ite (waits_pure _) ?_
    refine (waits_takeTimeout b sn).bind fun timeout => waits_ite (waits_pure _) ?_
    exact waits_ite (waits_pure _) (waits_pure _)

lemma waits_disconnect (ho : o ∈ A) : Waits b A c o D (disconnect b sn) := by
  have finish : Waits b A c o D (disconnectFinish b sn) := by
    refine (waits_modifySock _ _).bind fun _ => waits_get fun m _ ho' => waits_ite (waits_pure _) ?_
    rw [ho']
    refine .timed ho ?_ (waits_faultedIo b sn)
    refine (waits_wizchipRead b _).bind fun status => waits_ite (waits_pure _) ?_
    refine (waits_takeTimeout b sn).bind fun timeout => waits_ite ?_ (waits_pure _)
    exact (waits_modifySock _ _).bind fun _ => waits_pure _
  have command : Waits b A c o D (disconnectCommand b sn) := by
    refine (waits_wizchipWrite b _ _).bind fun _ => waits_get fun m hc _ => waits_ite (waits_pure _) ?_
    rw [hc]
    exact waits_opens b (.inl rfl) fun d D hd => waits_waitCrAccepted b sn hd
  refine waits_ite (waits_pure _) (waits_locked b sn (waits_get fun m _ _ => ?_))
  refine waits_ite (waits_pure _) (waits_ite (waits_pure _) (waits_ite (waits_pure _) ?_))
  refine (waits_wizchipRead b _).bind fun tmp => waits_ite (waits_pure _) (waits_ite ?_ finish)
  exact command.bind fun ret => waits_ite (waits_pure _) finish

end sockets

section streams
variable (b : Build) {A : Set ℕ} {c o : ℕ} {D : Set (ℕ × ℕ)} (sn : ℕ)

lemma waits_sendCommand (len : ℕ) : Waits b A c o D (sendCommand b sn len c) := by
  refine (waits_wizchipWrite b _ _).bind fun _ => waits_opens b (.inl rfl) fun d D hd => ?_
  refine (waits_waitCrAccepted b sn hd).bind fun ret => waits_ite ?_ ?_
  · exact (waits_modifySock _ _).bind fun _ => waits_pure _
  · exact (waits_modifySock _ _).bind fun _ => waits_pure _

lemma waits_sentLook (nonblocking : Bool) : Waits b A c o D (sentLook b sn nonblocking) := by
  refine (waits_getSnIR b sn).bind fun ir => waits_ite ?_ (waits_ite ?_ ?_)
  · refine (waits_wizchipWrite b _ _).bind fun _ => ?_
    exact (waits_modifySock _ _).bind fun _ => waits_pure _
  · refine (waits_wizchipWrite b _ _).bind fun _ => ?_
    exact (waits_modifySock _ _).bind fun _ => waits_pure _
  · refine (waits_wizchipRead b _).bind fun sr => waits_ite ?_ ?_
    · exact (waits_modifySock _ _).bind fun _ => waits_pure _
    · exact waits_ite (waits_pure _) (waits_pure _)

variable (hA : pollMax ∈ A)
include hA

lemma waits_freeLook (len : ℕ) (nonblocking : Bool) :
    Waits b A c o D (freeLook b sn len nonblocking) := by
  refine (waits_stableSize b hA _).bind fun r => ?_
  cases r with
  | error e => exact waits_pure _
  | ok freesize =>
    refine (waits_wizchipRead b _).bind fun sr => waits_ite (waits_ite ?_ (waits_pure _)) ?_
    · exact (waits_closeInternal b sn (.inl rfl)).bind fun _ => waits_pure _
    · exact waits_ite (waits_pure _) (waits_ite (waits_pure _) (waits_pure _))

lemma waits_sendReady (buf : List Byte) (len : ℕ) : Waits b A c o D (sendReady b sn buf len) := by
  refine waits_get fun m hc ho => ?_
  rw [hc, ho]
  refine waits_opens b (.inr rfl) fun d D hd => Waits.bind ?_ fun r => ?_
  · refine waits_waitPollInit b hd fun now D hd hnow => .counted hd hnow ?_ (waits_pure _)
    exact waits_freeLook b sn hA _ _
  · cases r with
    | error e => exact waits_pure _
    | ok _ => exact (waits_wizSendData b sn _).bind fun _ => waits_sendCommand b sn _

lemma waits_send (len : ℕ) (buf : Option (Vector Byte len)) : Waits b A c o D (send b sn len buf) := by
  refine waits_ite (waits_pure _) ?_
  cases buf with
  | none => exact waits_pure _
  | some buf =>
    refine waits_ite (waits_pure _) (waits_get fun m _ _ => waits_ite (waits_pure _) ?_)
    refine waits_locked b sn (waits_get fun m _ ho => waits_ite (waits_pure _) ?_)
    refine waits_ite (waits_pure _) (waits_ite (waits_pure _) ?_)
    refine (waits_wizchipRead b _).bind fun sr => waits_ite (waits_pure _) (waits_ite ?_ ?_)
    · rw [ho]
      refine waits_opens b (.inr rfl) fun d D hd => Waits.bind ?_ fun r => ?_
      · refine waits_waitPollInit b hd fun now D hd hnow => .counted hd hnow (waits_sentLook b sn _) ?_
        exact (waits_faultedTimeout b sn).bind fun _ => waits_pure _
      · cases r with
        | error e => exact waits_pure _
        | ok _ => exact waits_sendReady b sn hA _ _
    · exact waits_sendReady b sn hA _ _

lemma waits_recvLook (nonblocking : Bool) : Waits b A c o D (recvLook b sn nonblocking) := by
  refine (waits_stableSize b hA _).bind fun r => ?_
  cases r with
  | error e => exact waits_pure _
  | ok recvsize =>
    refine (waits_wizchipRead b _).bind fun sr => waits_ite (waits_ite (waits_pure _) ?_) ?_
    · refine (waits_stableSize b hA _).bind fun r => ?_
      cases r with
      | error e => exact waits_pure _
      | ok freesize =>
        refine waits_get fun m _ _ => waits_ite ?_ (waits_pure _)
        exact (waits_closeInternal b sn (.inl rfl)).bind fun _ => waits_pure _
    · refine waits_ite ?_ (waits_ite (waits_pure _) (waits_ite (waits_pure _) (waits_pure _)))
      exact (waits_closeInternal b sn (.inl rfl)).bind fun _ => waits_pure _

lemma waits_recv (buf : Bool) (len : ℕ) : Waits b A c o D (recv b sn buf len) := by
  refine waits_ite (waits_pure _) (waits_ite (waits_pure _) (waits_ite (waits_pure _) ?_))
  refine waits_get fun m _ _ => waits_ite (waits_pure _) ?_
  refine waits_locked b sn (waits_get fun m hc ho => waits_ite (waits_pure _) ?_)
  refine waits_ite (waits_pure _) (waits_ite (waits_pure _) ?_)
  rw [hc, ho]
  refine waits_opens b (.inr rfl) fun d D hd => Waits.bind ?_ fun r => ?_
  · refine waits_waitPollInit b hd fun now D hd hnow => .counted hd hnow ?_ (waits_pure _)
    exact waits_recvLook b sn hA _
  · cases r with
    | error e => exact waits_pure _
    | ok recvsize =>
      refine (waits_wizRecvData b sn _).bind fun data => (waits_wizchipWrite b _ _).bind fun _ => ?_
      refine waits_opens b (.inl rfl) fun d D hd => (waits_waitCrAccepted b sn hd).bind fun ret => ?_
      exact waits_ite ((waits_modifySock _ _).bind fun _ => waits_pure _) (waits_pure _)

end streams

section datagrams
variable (b : Build) {A : Set ℕ} {c o : ℕ} {D : Set (ℕ × ℕ)} (sn : ℕ)

lemma waits_sendtoPending : Waits b A c o D (sendtoPending b sn) := by
  refine (waits_getSnIR b sn).bind fun tmp => waits_ite ?_ (waits_ite ?_ (waits_pure _))
  · refine (waits_wizchipWrite b _ _).bind fun _ => waits_get fun m _ _ => ?_
    exact (waits_modifySock _ _).bind fun _ => waits_pure _
  · refine (waits_wizchipWrite b _ _).bind fun _ => ?_
    exact (waits_modifySock _ _).bind fun _ => waits_pure _

lemma waits_setSnDPORT (port : ℕ) : Waits b A c o D (setSnDPORT b sn port) :=
  waits_map _ (waits_wizchipWrite16 b _ _)

lemma waits_sendtoAddress (mode : Byte) (addr : Vector Byte 4) (port addrlen : ℕ) :
    Waits b A c o D (sendtoAddress b sn mode addr port addrlen) := by
  have status (m : Byte) : Waits b A c o D (sendtoAddress.statusCheck b sn mode addr port m) := by
    refine waits_ite (waits_pure _) (waits_ite (waits_pure _) (waits_ite (waits_pure _) ?_))
    refine (waits_wizchipRead b _).bind fun sr => waits_ite (waits_pure _) ?_
    refine (waits_wizchipWriteBuf b _ _).bind fun _ => (waits_setSnDPORT b sn _).bind fun _ => ?_
    exact waits_pure _
  have port (m : Byte) : Waits b A c o D (sendtoAddress.portCheck b sn mode addr port m) :=
    waits_ite (waits_ite ((waits_setSnDPORT b sn _).bind fun _ => status m) (waits_pure _)) (status m)
  refine waits_ite (waits_pure _) (waits_ite (waits_ite (waits_pure _) (waits_ite ?_ (waits_pure _))) ?_)
  · exact waits_ite (waits_pure _) ((waits_wizchipWriteBuf b _ _).bind fun _ => port _)
  · exact port _

lemma waits_sendtoCommit (data : List Byte) (nonblocking : Bool) :
    Waits b A c o D (sendtoCommit b sn data nonblocking) := by
  refine (waits_wizchipWrite b _ _).bind fun _ => (waits_wizSendData b sn _).bind fun _ => ?_
  refine (waits_wizchipWrite b _ _).bind fun _ => waits_get fun m hc ho => ?_
  rw [hc, ho]
  refine waits_sockDeadlineBegin b (.inl rfl) ?_ fun d D hd => ?_
  · exact (waits_modifySock _ _).bind fun _ => waits_pure _
  · refine (waits_waitCrAccepted b sn hd).bind fun ret => waits_ite ?_ ?_
    · exact (waits_modifySock _ _).bind fun _ => waits_pure _
    · refine (waits_modifySock _ _).bind fun _ => waits_ite ?_ ?_
      · exact (waits_modifySock _ _).bind fun _ => waits_pure _
      · refine waits_opens b (.inr rfl) fun d D hd => waits_waitPollInit b hd fun now D hd hnow =>
          .counted hd hnow ?_ (waits_faultedTimeout b sn)
        refine (waits_getSnIR b sn).bind fun tmp => waits_ite ?_ (waits_ite ?_ (waits_pure _))
        · exact (waits_wizchipWrite b _ _).bind fun _ => waits_pure _
        · exact (waits_wizchipWrite b _ _).bind fun _ => waits_pure _

lemma waits_recvHeader (n : ℕ) (nonblocking : Bool) : Waits b A c o D (recvHeader b sn n nonblocking) := by
  refine waits_get fun m hc _ => (waits_wizRecvData b sn n).bind fun head => ?_
  rw [hc]
  exact (waits_wizchipWrite b _ _).bind fun _ => waits_map _ (waits_waitDatagramCrAccepted b sn _)

lemma waits_recvfromFinish (packLen : ℕ) (nonblocking : Bool) (out : Received) :
    Waits b A c o D (recvfromFinish b sn packLen nonblocking out) := by
  refine (waits_wizchipWrite b _ _).bind fun _ => waits_get fun m hc _ => ?_
  rw [hc]
  refine (waits_waitDatagramCrAccepted b sn _).bind fun ret => waits_ite (waits_pure _) ?_
  exact (waits_modifySock _ _).bind fun _ => waits_pure _

lemma waits_recvfromChunk (len : ℕ) (nonblocking : Bool) (out : Received) :
    Waits b A c o D (recvfromChunk b sn len nonblocking out) :=
  waits_get fun _ _ _ => (waits_wizRecvData b sn _).bind fun _ => waits_recvfromFinish b sn _ _ _

lemma waits_recvfromUdp (len : ℕ) (nonblocking : Bool) :
    Waits b A c o D (recvfromUdp b sn len nonblocking) := by
  refine waits_get fun m _ _ => waits_ite ?_ (waits_recvfromChunk b sn _ _ _)
  refine (waits_recvHeader b sn 8 nonblocking).bind fun r => waits_ite (waits_pure _) ?_
  exact (waits_modifySock _ _).bind fun _ => waits_recvfromChunk b sn _ _ _

lemma waits_recvfromMacraw (len : ℕ) (nonblocking : Bool) :
    Waits b A c o D (recvfromMacraw b sn len nonblocking) := by
  have closing (r : Received) : Waits b A c o D (do
      let _ ← closeInternal b sn 0
      return r) := (waits_closeInternal b sn (.inl rfl)).bind fun _ => waits_pure _
  refine waits_get fun m _ _ => waits_ite ?_ (waits_recvfromChunk b sn _ _ _)
  refine (waits_recvHeader b sn 2 nonblocking).bind fun r => waits_ite (waits_pure _) ?_
  refine (waits_modifySock _ _).bind fun _ => waits_ite (closing _) ?_
  refine (waits_modifySock _ _).bind fun _ => waits_ite (closing _) ?_
  exact (waits_modifySock _ _).bind fun _ => waits_recvfromChunk b sn _ _ _

lemma waits_recvfromIpraw (len packLen : ℕ) (nonblocking : Bool) :
    Waits b A c o D (recvfromIpraw b sn len packLen nonblocking) := by
  have payload (out : Received) :
      Waits b A c o D (recvfromIpraw.payload b sn len packLen nonblocking out) :=
    waits_get fun m _ _ => waits_ite (waits_recvfromChunk b sn _ _ _) (waits_recvfromFinish b sn _ _ _)
  refine waits_get fun m _ _ => waits_ite ?_ (payload _)
  refine (waits_recvHeader b sn 6 nonblocking).bind fun r => waits_ite (waits_pure _) ?_
  exact (waits_modifySock _ _).bind fun _ => payload _

lemma waits_recvfromPacket (len packLen : ℕ) (mode : Byte) (nonblocking addrPort : Bool) :
    Waits b A c o D (recvfromPacket b sn len packLen mode nonblocking addrPort) :=
  waits_ite (waits_pure _) (waits_ite (waits_recvfromUdp b sn _ _)
    (waits_ite (waits_recvfromMacraw b sn _ _) (waits_recvfromIpraw b sn _ _ _)))

variable (hA : pollMax ∈ A)
include hA

lemma waits_sendto (len : ℕ) (buf : Option (Vector Byte len)) (addr : Vector Byte 4)
    (port addrlen : ℕ) : Waits b A c o D (sendto b sn len buf addr port addrlen) := by
  refine waits_ite (waits_pure _) ?_
  cases buf with
  | none => exact waits_pure _
  | some buf =>
    refine waits_ite (waits_pure _) (waits_locked b sn (waits_get fun m _ _ => ?_))
    refine waits_ite (waits_pure _) (waits_ite (waits_pure _) (waits_ite (waits_pure _) ?_))
    refine waits_ite (waits_sendtoPending b sn) (waits_get fun m _ ho => ?_)
    refine (waits_sendtoAddress b sn _ _ _ _).bind fun r => ?_
    cases r with
    | error e => exact waits_pure _
    | ok _ =>
      refine Waits.bind (waits_ite ((waits_wizchipRead b _).bind fun sr => waits_pure _) ?_) fun r => ?_
      · rw [ho]
        refine waits_opens b (.inr rfl) fun d D hd => waits_waitPollInit b hd fun now D hd hnow =>
          .counted hd hnow ((waits_stableSize b hA _).bind fun r => ?_) (waits_pure _)
        cases r with
        | error e => exact waits_pure _
        | ok freesize =>
          refine (waits_wizchipRead b _).bind fun sr => waits_ite (waits_pure _) ?_
          exact waits_ite (waits_pure _) (waits_ite (waits_pure _) (waits_pure _))
      · cases r with
        | error e => exact waits_pure _
        | ok _ => exact waits_sendtoCommit b sn _ _

lemma waits_recvfrom (buf : Bool) (len : ℕ) (addrPort : Bool) :
    Waits b A c o D (recvfrom b sn buf len addrPort) := by
  refine waits_ite (waits_pure _) (waits_ite (waits_pure _) (waits_ite (waits_pure _) ?_))
  refine waits_locked b sn (waits_get fun m _ ho => waits_ite (waits_pure _) ?_)
  refine waits_ite (waits_pure _) (waits_ite (waits_pure _) (waits_ite ?_ ?_))
  · rw [ho]
    refine waits_opens b (.inr rfl) fun d D hd => Waits.bind ?_ fun r => ?_
    · refine waits_waitPollInit b hd fun now D hd hnow =>
        .counted hd hnow ((waits_stableSize b hA _).bind fun r => ?_) (waits_pure _)
      cases r with
      | error e => exact waits_pure _
      | ok packLen =>
        refine (waits_wizchipRead b _).bind fun sr => waits_ite (waits_pure _) ?_
        exact waits_ite (waits_pure _) (waits_ite (waits_pure _) (waits_pure _))
    · cases r with
      | error e => exact waits_pure _
      | ok packLen => exact waits_recvfromPacket b sn _ _ _ _ _
  · exact waits_recvfromPacket b sn _ _ _ _ _

end datagrams

section options
variable (b : Build) {A : Set ℕ} {c o : ℕ} {D : Set (ℕ × ℕ)} (sn : ℕ)

lemma waits_ctlsocket (cstype : CtlsockType) (arg : Option ArgMem) :
    Waits b A c o D (ctlsocket b sn cstype arg) := by
  refine waits_ite (waits_pure _) ?_
  cases arg with
  | none => exact waits_pure _
  | some arg =>
    refine waits_locked b sn (waits_get fun m _ _ => waits_ite (waits_pure _) ?_)
    refine waits_ite (waits_pure _) ?_
    cases cstype with
    | setIomode =>
      refine waits_ite ((waits_modifySock _ _).bind fun _ => waits_pure _) ?_
      exact waits_ite ((waits_modifySock _ _).bind fun _ => waits_pure _) (waits_pure _)
    | clrInterrupt | setIntmask =>
      exact waits_ite (waits_pure _) ((waits_wizchipWrite b _ _).bind fun _ => waits_pure _)
    | getInterrupt => exact (waits_getSnIR b sn).bind fun _ => waits_pure _
    | getIntmask => exact (waits_map _ (waits_wizchipRead b _)).bind fun _ => waits_pure _
    | _ => exact waits_pure _

lemma waits_keepaliveSend : Waits b A c o D (keepaliveSend b sn) := by
  refine waits_get fun m _ _ => waits_ite (waits_pure _) ?_
  refine (waits_wizchipRead b _).bind fun kpalvtr => waits_ite (waits_pure _) ?_
  refine waits_get fun m hc _ => waits_ite (waits_pure _) ?_
  rw [hc]
  refine waits_opens b (.inl rfl) fun d D hd => waits_waitPollInit b hd fun now D hd hnow => ?_
  refine (waits_wizchipWrite b _ _).bind fun _ => .counted hd hnow ?_ ?_
  · exact waits_crOrTimeoutLook b sn
  · exact waits_faultedTimeout b sn

lemma waits_setsockopt (sotype : SockoptType) (arg : Option ArgMem) :
    Waits b A c o D (setsockopt b sn sotype arg) := by
  refine waits_ite (waits_pure _) (waits_ite (waits_pure _) (waits_locked b sn ?_))
  refine waits_get fun m _ _ => waits_ite (waits_pure _) ?_
  cases sotype with
  | ttl | tos => exact (waits_wizchipWrite b _ _).bind fun _ => waits_pure _
  | mss => exact (waits_wizchipWrite16 b _ _).bind fun _ => waits_pure _
  | destip => exact (waits_wizchipWriteBuf b _ _).bind fun _ => waits_pure _
  | destport => exact (waits_setSnDPORT b sn _).bind fun _ => waits_pure _
  | keepalivesend => exact waits_keepaliveSend b sn
  | keepaliveauto =>
    exact waits_ite (waits_pure _) ((waits_wizchipWrite b _ _).bind fun _ => waits_pure _)
  | _ => exact waits_pure _

lemma waits_getsockopt (hA : pollMax ∈ A) (sotype : SockoptType) (arg : Bool) :
    Waits b A c o D (getsockopt b sn sotype arg) := by
  have size (a : Addr) : Waits b A c o D (sizeOption (stableSize b a)) := by
    refine (waits_stableSize b hA _).bind fun r => ?_
    cases r with
    | error e => exact waits_pure _
    | ok v => exact waits_pure _
  have mode : Waits b A c o D (sockModeCachedOrRead b sn) := waits_sockModeCachedOrRead b sn
  refine waits_ite (waits_pure _) (waits_ite (waits_pure _) (waits_locked b sn ?_))
  refine waits_get fun m _ _ => waits_ite (waits_pure _) ?_
  cases sotype with
  | flag => exact mode.bind fun _ => waits_pure _
  | ttl | tos | status => exact (waits_wizchipRead b _).bind fun _ => waits_pure _
  | mss | destport => exact (waits_wizchipRead16Value b _).bind fun _ => waits_pure _
  | destip => exact (waits_wizchipReadBuf b _ _).bind fun _ => waits_pure _
  | keepaliveauto =>
    exact waits_ite (waits_pure _) ((waits_wizchipRead b _).bind fun _ => waits_pure _)
  | sendbuf | recvbuf => exact size _
  | remainsize => exact mode.bind fun _ => waits_ite (size _) (waits_pure _)
  | packinfo => exact mode.bind fun _ => waits_ite (waits_pure _) (waits_pure _)
  | _ => exact waits_pure _

end options

/-- The budgets of the waits of an operation that only look at the time: its own for connect and
disconnect, a fixed one for the stable reads of Sn_TX_FSR and Sn_RX_RSR. -/
def Op.clockOnly (operationTimeoutUs : ℕ) : Op → Set ℕ
  | .connect _ _ _ | .disconnect => {operationTimeoutUs}
  | .send _ _ | .recv _ _ | .sendto _ _ _ _ _ | .recvfrom _ _ _ | .getsockopt _ _ => {pollMax}
  | _ => ∅

/-- The loops of an operation are waits for its budgets. -/
theorem waits_op (b : Build) (c o sn : ℕ) (op : Op) :
    Waits b (op.clockOnly o) c o ∅ (op.run b sn) := by
  cases op with
  | socket protocol port flag => exact waits_socket b sn protocol flag port
  | close => exact waits_close b sn
  | listen => exact waits_listen b sn
  | connect addr port addrlen => exact waits_connect b sn (Set.mem_singleton _) addr port addrlen
  | disconnect => exact waits_disconnect b sn (Set.mem_singleton _)
  | send len buf => exact waits_send b sn (Set.mem_singleton _) len buf
  | recv buf len => exact waits_map _ (waits_recv b sn (Set.mem_singleton _) buf len)
  | sendto len buf addr port addrlen => exact waits_sendto b sn (Set.mem_singleton _) len buf addr port addrlen
  | recvfrom buf len addrPort => exact waits_map _ (waits_recvfrom b sn (Set.mem_singleton _) buf len addrPort)
  | ctlsocket cstype arg => exact waits_map _ (waits_ctlsocket b sn cstype arg)
  | setsockopt sotype arg => exact waits_setsockopt b sn sotype arg
  | getsockopt sotype arg => exact waits_map _ (waits_getsockopt b sn (Set.mem_singleton _) sotype arg)

end IoLibrary
