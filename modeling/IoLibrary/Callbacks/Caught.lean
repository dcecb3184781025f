import IoLibrary.Callbacks.Stopped

/-! A chip that takes no command. With a wait callback registered a call that reaches a wait
calls it there, while it holds its lock. -/
namespace IoLibrary.Callbacks
open Effects LockDiscipline

/-- What the chip shows; the only command it takes is, where `heads` allows, a RECV that is looked
at at once. -/
structure Stubborn where
  status : Byte
  events : Byte := 0
  free : BitVec 16 := 0xFFFF
  received : BitVec 16 := 0
  heads : Bool := false

def Stubborn.Takes (c : Stubborn) (sn : ℕ) (t : IoTrace) : Prop :=
  c.heads = true ∧ ∃ v ∈ t.getLast?, v.call = .write8 (Reg.snCR sn) snCrRecv

/-- The common registers do not change either, and what has been received is zero. -/
def Stubborn.Shows (c : Stubborn) (sn : ℕ) (t : IoTrace) : (e : Io) → e.Res → Prop
  | .read8 a, x => (a = Reg.snSR sn → x.1 = c.status) ∧ (a = Reg.snIR sn → x.1 = c.events) ∧
      (a = Reg.snCR sn → (x.1 = 0 ↔ c.Takes sn t)) ∧ (a = Reg.snKPALVTR sn → x.1 = 0) ∧
      (a = Reg.phycfgr → x.1 = 0xFF)
  | .readBuf a len, x => x.2 = false ∧
      (a = Reg.snTXFSR sn → x.1 = frameBytes len (bytes16 c.free.toNat)) ∧
      (a = Reg.snRXRSR sn → x.1 = frameBytes len (bytes16 c.received.toNat)) ∧
      (a = Reg.sipr → x.1 = .replicate len 1) ∧ (a.block = .rxBuf sn → x.1 = .replicate len 0)
  | _, _ => True

/-- A lock is held. -/
def Held (t : IoTrace) : Prop := (heldAfter Io.lockAct (Trace.calls t)).Nonempty

/-- A callback of the application was called with a lock held. -/
def Caught (t : IoTrace) : Prop :=
  ∃ before v after, t = before ++ v :: after ∧ Callback v.call ∧ Held before

abbrev stubborn (c : Stubborn) (sn : ℕ) : Env Globals IoTrace Io Io.Res := traceEnv (c.Shows sn)

/-- Every run from these globals calls a callback with a lock held. -/
abbrev Catches {α : Type} (c : Stubborn) (sn : ℕ) (p : Drv α) (g : Globals) (t : IoTrace) : Prop :=
  wpg (stubborn c sn) p (fun _ _ t' => Caught t') (fun _ t' => Caught t') g t

/-- The same from this memory. -/
abbrev CatchRun {α : Type} (c : Stubborn) (sn : ℕ) (p : Drv α) (m : Driver) (t : IoTrace) : Prop :=
  wp (chipEnv (c.Shows sn)) p (fun _ _ t' => Caught t') (fun _ t' => Caught t') m t

section rules
variable {b : Build} {c : Stubborn} {α β : Type} {sn : ℕ} {g : Globals} {m : Driver} {t : IoTrace}

lemma Held.snoc {e : Io} {x : e.Res} (h : Held t) (he : Lockless e) : Held (t ++ [⟨g, e, x⟩]) := by
  have same := heldAfter_calls_snoc (t := t) (v := ⟨g, e, x⟩) he
  rw [Held, same]
  exact h

lemma held_locked {e : Io} {l : Lock} {x : e.Res} (he : e.lockAct = .acquire l) :
    Held (t ++ [⟨g, e, x⟩]) := by
  simp [Held, Trace.calls, Effects.holding, he]

lemma Caught.append (h : Caught t) (more : IoTrace) : Caught (t ++ more) := by
  obtain ⟨before, v, after, rfl, hv, hheld⟩ := h
  exact ⟨before, v, after ++ more, by simp, hv, hheld⟩

lemma Caught.extends {P : Event Globals Io Io.Res → Prop} {t' : IoTrace} (h : Caught t)
    (hext : Extends P t t') : Caught t' := by
  obtain ⟨more, rfl, -⟩ := hext
  exact h.append more

/-- What was caught stays caught. -/
lemma Caught.catches (h : Caught t) (p : Drv α) : Catches c sn p g t :=
  wpv_mono (wpv_extends (within_all p) t) (fun _ _ _ => h.extends) fun _ _ => h.extends

lemma Caught.catchRun (h : Caught t) (p : Drv α) : CatchRun c sn p m t := wp_of_wpg (h.catches p)

lemma catchRun_of_view {p : Drv α} (h : Catches c sn p m.toGlobals t) : CatchRun c sn p m t := wp_of_wpg h

end rules

section steps
variable {b : Build} {c : Stubborn} {α : Type} {sn : ℕ} {g : Globals} {m : Driver} {t : IoTrace}

/-- A lock is held, and the command register is not about to be seen clear. -/
structure Stuck (c : Stubborn) (sn : ℕ) (t : IoTrace) : Prop where
  held : Held t
  waits : ¬ c.Takes sn t

lemma Held.next {e : Io} {x : e.Res} {t' : IoTrace} (h : Held t) (hx : stubborn c sn g t e x t')
    (he : Lockless e) : Held t' := hx.2 ▸ h.snoc he

/-- A chip that takes no heads takes nothing. -/
lemma Held.stuck (h : Held t) (hheads : c.heads = false) : Stuck c sn t :=
  ⟨h, fun htakes => Bool.false_ne_true (hheads.symm.trans htakes.1)⟩

lemma Held.stuck_next {e : Io} {x : e.Res} {t' : IoTrace} (h : Held t) (hx : stubborn c sn g t e x t')
    (he : Lockless e) (hrecv : e ≠ .write8 (Reg.snCR sn) snCrRecv) : Stuck c sn t' := by
  refine ⟨h.next hx he, ?_⟩
  rintro ⟨-, v, hlast, hv⟩
  rw [hx.2, List.getLast?_concat] at hlast
  obtain rfl := Option.mem_some_iff.1 hlast
  exact hrecv hv

lemma keeps_held : Nonblocking.Keeps (stubborn c sn) g Held := by
  intro t e x t' he h hx
  cases e with
  | readBuf | writeBuf | now | wait => exact h.next hx rfl
  | _ => exact he.elim

lemma ticks_stuck : Ticks (stubborn c sn) g (Stuck c sn) := by
  rintro t e x t' (rfl | rfl) h hx
  · exact h.held.stuck_next hx rfl nofun
  · exact h.held.stuck_next hx rfl nofun

lemma catches_write {a : Addr} {v : Byte} {f : Unit → Drv α} (h : Held t)
    (next : ∀ t, Held t → Catches c sn (f ()) g t) : Catches c sn (wizchipWrite b a v >>= f) g t :=
  (wpv_bind _ _).2 ((wpg_wizchipWrite b a v).2 fun _ t' hx => next t' (h.next hx rfl))

lemma catches_writeBuf {a : Addr} {data : List Byte} {f : Unit → Drv α} (h : Held t)
    (next : ∀ t, Held t → Catches c sn (f ()) g t) : Catches c sn (wizchipWriteBuf b a data >>= f) g t :=
  (wpv_bind _ _).2 (Nonblocking.wpg_writeBuf_keep keeps_held h a data next)

lemma catches_write16 {a : Addr} {v : ℕ} {f : Unit → Drv α} (h : Held t)
    (next : ∀ t, Held t → Catches c sn (f ()) g t) : Catches c sn ((do
      let _ ← wizchipWrite16 b a v
      return () : Drv Unit) >>= f) g t := by
  simp only [wizchipWrite16, Catches, wpv_bind, wpv_pure, wpg_wizchipWriteBufChecked]
  exact ⟨fun _ => next t h, fun _ _ t' hx => next t' (h.next hx rfl)⟩

lemma catches_status {f : Byte → Drv α} (h : Held t) (next : ∀ t, Held t → Catches c sn (f c.status) g t) :
    Catches c sn (getSnSR b sn >>= f) g t := by
  refine (wpv_bind _ _).2 (wpg_getSnSR.2 fun x t' hx => ?_)
  rw [hx.1.1 rfl]
  exact next t' (h.next hx rfl)

lemma catches_deadlineAbs {us : ℕ} {f : ℕ → Drv α} (h : Held t)
    (next : ∀ d t, Held t → Catches c sn (f d) g t) : Catches c sn (wizchipDeadlineAbs us >>= f) g t :=
  (wpv_bind _ _).2 ((timed_deadlineAbs us).wpg keeps_held.ticks h next)

lemma catches_sockDeadlineBegin {budget : ℕ} {f : Option ℕ → Drv α} (hvalid : g.deadlineConfigValid)
    (h : Held t) (next : ∀ d t, Held t → Catches c sn (f (some d)) g t) :
    Catches c sn (sockDeadlineBegin budget >>= f) g t :=
  (wpv_bind _ _).2 (wpg_sockDeadlineBegin keeps_held.ticks h budget (fun _ => next)
    fun hinvalid => absurd hvalid hinvalid)

lemma catches_wizSendData {data : List Byte} {f : Unit → Drv α} (h : Held t)
    (next : ∀ t, Held t → Catches c sn (f ()) g t) : Catches c sn (wizSendData b sn data >>= f) g t :=
  (wpv_bind _ _).2 (Nonblocking.wpg_wizSendData_keep keeps_held h data next)

/-- What is copied out is zero. -/
lemma catches_wizRecvData {len : ℕ} {f : List Byte → Drv α} (h : Held t)
    (next : ∀ data t, (∀ i, byteAt data i = 0) → Held t → Catches c sn (f data) g t) :
    Catches c sn (wizRecvData b sn len >>= f) g t := by
  have empty (i : ℕ) : byteAt [] i = 0 := rfl
  have rest (ptr : ℕ) {t : IoTrace} (h : Held t) : wpg (stubborn c sn) (do
      let data ← wizchipReadBuf b ⟨ptr, .rxBuf sn⟩ len
      setSnRXRD b sn ((ptr + len) % 65536)
      return data) (fun data g t => Catches c sn (f data) g t) (fun _ t' => Caught t') g t := by
    simp only [wpv_bind, wpg_wizchipReadBuf, setSnRXRD, wpv_pure, wpg_wizchipWriteBuf]
    refine ⟨fun _ => ⟨fun _ => next _ _ empty h, fun _ x t' hx => next _ _ empty (h.next hx rfl)⟩, ?_⟩
    intro _ x t' hx
    have zero (i : ℕ) : byteAt x.1.toList i = 0 := by
      rw [hx.1.2.2.2.2 rfl, Vector.toList_replicate, byteAt, List.getD_eq_getElem?_getD, List.getElem?_replicate]
      split
      · rfl
      · rfl
    exact ⟨fun _ => next _ _ zero (h.next hx rfl), fun _ y t₂ hy => next _ _ zero ((h.next hx rfl).next hy rfl)⟩
  refine (wpv_bind _ _).2 ?_
  simp only [wizRecvData, wpv_ite, wpv_pure, getSnRXRD]
  refine ⟨fun _ => next _ _ empty h, fun _ => (wpv_bind _ _).2 ?_⟩
  refine wpg_wizchipRead16Value b _ fun x t' hx => ⟨fun _ => rest _ (h.next hx rfl), fun _ => ?_⟩
  exact rest _ (h.next hx rfl)

end steps

section waits
variable {b : Build} {c : Stubborn} {α : Type} {sn : ℕ} {g : Globals} {m : Driver} {t : IoTrace}

/-- The callback is called in the first turn of a wait whose look finds nothing. -/
lemma catches_pollLoop (hreg : Registered g) {d : ℕ} {poll : Poll} {look : Drv (Option α)}
    {expired : Drv α}
    (hlook : wpg (stubborn c sn) look (fun r g' t' => r = none ∧ g' = g ∧ Held t') (fun _ t' => Caught t') g t) :
    Catches c sn (pollLoop b d poll look expired) g t := by
  obtain ⟨n, hn⟩ := Nat.exists_eq_succ_of_ne_zero b.turns_pos.ne'
  rw [pollLoop, hn]
  refine (wpv_bind _ _).2 ((wpv_bind _ _).2 (wpv_mono hlook ?_ fun _ _ => id))
  rintro _ _ t ⟨rfl, rfl, h⟩
  simp only [waitPollExpired, wizchipDeadlinePoll, waitCallback, bind_assoc]
  refine (wpv_bind _ _).2 (wpv_get.2 fun m hm => (wpv_bind _ _).2 ((wpv_ite _ _ _).2 ⟨fun _ => ?_, fun hnot => ?_⟩))
  · refine (wpv_perform _).2 fun x t' hx => ?_
    have caught : Caught t' := ⟨t, ⟨_, .wait, x⟩, [], hx.2, trivial, h⟩
    exact (wpv_bind _ _).1 (caught.catches _)
  · refine absurd ?_ hnot
    rw [hm]
    simpa [Registered] using hreg

/-- What follows does not matter. -/
lemma catches_first {β : Type} {p : Drv α} {f : α → Drv β} (h : Catches c sn p g t) :
    Catches c sn (p >>= f) g t :=
  (wpv_bind _ _).2 (wpv_mono h (fun _ _ _ caught => caught.catches _) fun _ _ => id)

lemma catches_waitCrAccepted (hreg : Registered g) (h : Stuck c sn t) (d : ℕ) :
    Catches c sn (waitCrAccepted b sn d) g t := by
  refine (wpv_bind _ _).2 (timed_waitPollInit.wpg ticks_stuck h fun poll t h => catches_pollLoop hreg ?_)
  simp only [waitRegister.look, wpv_bind, wpg_wizchipRead, wpv_ite, wpv_pure]
  intro x t' hx
  exact ⟨fun hzero => absurd ((hx.1.2.2.1 rfl).1 hzero) h.waits, fun _ => ⟨trivial, trivial, h.held.next hx rfl⟩⟩

/-- A command that the chip does not take. -/
lemma catches_command {v : Byte} {d : ℕ} {f : ℤ → Drv α} (hreg : Registered g) (hv : v ≠ snCrRecv)
    (h : Held t) : Catches c sn (setSnCR b sn v >>= fun _ => waitCrAccepted b sn d >>= f) g t := by
  refine (wpv_bind _ _).2 ((wpg_setSnCR v).2 fun _ t' hx => ?_)
  refine catches_first (catches_waitCrAccepted hreg (h.stuck_next hx rfl ?_) d)
  exact fun he => hv (Io.write8.inj he).2

lemma catches_waitDatagramCrAccepted (hreg : Registered g) (hheads : c.heads = false)
    (htimeout : c.events &&& snIrTimeout = 0) (h : Held t) (us : ℕ) :
    Catches c sn (waitDatagramCrAccepted b sn us false) g t := by
  have look {t : IoTrace} (h : Held t) : wpg (stubborn c sn) (crOrTimeoutLook b sn)
      (fun r g' t' => r = none ∧ g' = g ∧ Held t') (fun _ t' => Caught t') g t := by
    refine wpg_crOrTimeoutLook.2 fun x t₁ hx => ⟨fun hzero => ?_, fun _ y t₂ hy => ?_⟩
    · exact absurd ((hx.1.2.2.1 rfl).1 hzero) (h.stuck hheads).waits
    · rw [hy.1.2.1 rfl]
      exact ⟨fun hne => absurd htimeout hne, fun _ => ⟨rfl, rfl, (h.next hx rfl).next hy rfl⟩⟩
  refine (wpv_bind _ _).2 (wpv_mono (look h) ?_ fun _ _ => id)
  rintro _ _ t ⟨rfl, rfl, h⟩
  refine catches_deadlineAbs h fun d t h => (wpv_bind _ _).2 ?_
  exact timed_waitPollInit.wpg keeps_held.ticks h fun poll t h => catches_pollLoop hreg (look h)

/-- A size that does not change. -/
lemma catches_size {a : Addr} {v : BitVec 16} {Q : Except ℤ ℕ → Globals → IoTrace → Prop}
    (shows : ∀ t x, c.Shows sn t (.readBuf a 2) x → x.2 = false ∧ x.1 = frameBytes 2 (bytes16 v.toNat))
    (h : Held t) (next : ∀ t, Held t → Q (.ok v.toNat) g t) :
    wpg (stubborn c sn) (stableSize b a) Q (fun _ t' => Caught t') g t := by
  refine wpg_stableSize_steady keeps_held.ticks h b a v.toNat (fun t x t' h hx => ?_) next
  obtain ⟨hfree, hsize⟩ := shows t x hx.1
  have hlist : x.1.toList = bytes16 v.toNat := by
    rw [hsize]
    exact toList_frameBytes_two _
  exact ⟨hfree, word16_of_toList hlist v.isLt, h.next hx rfl⟩

lemma catches_free {Q : Except ℤ ℕ → Globals → IoTrace → Prop} (h : Held t)
    (next : ∀ t, Held t → Q (.ok c.free.toNat) g t) :
    wpg (stubborn c sn) (readSnTxFsr b sn) Q (fun _ t' => Caught t') g t :=
  catches_size (fun _ _ hx => ⟨hx.1, hx.2.1 rfl⟩) h next

lemma catches_received {Q : Except ℤ ℕ → Globals → IoTrace → Prop} (h : Held t)
    (next : ∀ t, Held t → Q (.ok c.received.toNat) g t) :
    wpg (stubborn c sn) (readSnRxRsr b sn) Q (fun _ t' => Caught t') g t :=
  catches_size (fun _ _ hx => ⟨hx.1, hx.2.2.1 rfl⟩) h next

/-- A wait that its first look ends. -/
lemma catches_wait_first {β : Type} {d : ℕ} {look : Drv (Option α)} {expired : Drv α} {f : α → Drv β}
    (h : Held t) (first : ∀ t, Held t → wpg (stubborn c sn) look
      (fun r g' t' => ∃ a, r = some a ∧ Catches c sn (f a) g' t') (fun _ t' => Caught t') g t) :
    Catches c sn ((do
      let poll ← waitPollInit
      pollLoop b d poll look expired) >>= f) g t :=
  (wpv_bind _ _).2 ((wpv_bind _ _).2 (timed_waitPollInit.wpg keeps_held.ticks h fun _ t h =>
    wpg_pollLoop_first (first t h)))

lemma catches_get {f : Driver → Drv α} (next : ∀ m : Driver, m.toGlobals = g → Catches c sn (f m) g t) :
    Catches c sn (Prog.get >>= f) g t := (wpv_bind _ _).2 (wpv_get.2 next)

lemma catches_pos {p : Prop} [Decidable p] {q r : Drv α} (hp : p) (h : Catches c sn q g t) :
    Catches c sn (if p then q else r) g t := by
  rw [if_pos hp]
  exact h

lemma catches_neg {p : Prop} [Decidable p] {q r : Drv α} (hp : ¬ p) (h : Catches c sn r g t) :
    Catches c sn (if p then q else r) g t := by
  rw [if_neg hp]
  exact h

lemma catchRun_neg {p : Prop} [Decidable p] {q r : Drv α} (hp : ¬ p) (h : CatchRun c sn r m t) :
    CatchRun c sn (if p then q else r) m t := by
  rw [if_neg hp]
  exact h

lemma catches_closeInternal (hreg : Registered g) (hsn : sn < sockNum) (husable : Usable sn g)
    (hsr : c.status ≠ sockClosed) (h : Held t) : Catches c sn (closeInternal b sn 0) g t := by
  refine catches_neg (Nat.not_le.2 hsn) (catches_pos rfl (catches_get fun m _ => ?_))
  refine catches_sockDeadlineBegin husable.budgets h fun d t h => catches_first (catches_get fun m hm => ?_)
  refine catches_neg (hm ▸ husable.healthy) (catches_status h fun t h => catches_neg hsr ?_)
  exact catches_command hreg (by decide) h

lemma catchRun_locked {p : Drv α} {k : ℕ} (hbody : ∀ t, Held t → CatchRun c sn p m t) :
    CatchRun c sn (locked k p) m t := by
  simp only [CatchRun, locked, sockLock, sockUnlock, ask, wp_bind, wp_perform, wp_pure]
  rintro x _ ⟨-, rfl⟩
  refine wp_mono (hbody _ (held_locked rfl)) ?_ fun _ _ => id
  rintro r m' t' h y _ ⟨-, rfl⟩
  exact h.append _

lemma catches_locked {p : Drv α} {k : ℕ} (hbody : ∀ t, Held t → Catches c sn p g t) :
    Catches c sn (locked k p) g t := by
  refine (wpg_locked k p).2 ?_
  rintro x _ ⟨-, rfl⟩
  refine wpv_mono (hbody _ (held_locked rfl)) ?_ fun _ _ => id
  rintro r g' t' h y _ ⟨-, rfl⟩
  exact h.append _

end waits

section operations
variable {b : Build} {c : Stubborn} {sn : ℕ} {g : Globals} {m : Driver} {t : IoTrace}

/-- OPEN on a closed chip with an address. -/
lemma caught_socket {protocol flag : Byte} {port : ℕ} (hreg : Registered m.toGlobals)
    (hreach : Reaches m (.on sn (.socket protocol port flag))) :
    CatchRun { status := sockClosed } sn (socket b sn protocol port flag) m t := by
  obtain ⟨hcheck, hready, husable⟩ := hreach
  have command (port d : ℕ) {g : Globals} (hg : Registered g) {t : IoTrace} (h : Held t) :
      Catches { status := sockClosed } sn (socketOpenClosed.openCommand b sn protocol flag port d) g t := by
    refine catches_write h fun t h => catches_write16 h fun t h => ?_
    exact catches_command hg (by decide) h
  have body (status : Byte) (port : ℕ) {g : Globals} (hg : Registered g) (hu : Usable sn g) {t : IoTrace} :
      Catches { status := sockClosed } sn (locked sn (socketLocked b sn protocol flag port status)) g t := by
    refine catches_locked fun t h => catches_get fun m hm => catches_neg (hm ▸ hu.healthy) ?_
    refine catches_sockDeadlineBegin hu.budgets h fun d t h => catches_status h fun t h => catches_pos rfl ?_
    refine (wpv_ite _ _ _).2 ⟨fun _ => ?_, fun _ => command port d hg h⟩
    simp only [wpv_bind, wpg_wizchipReadBuf]
    refine ⟨fun hlen => absurd hlen (by decide), fun _ x t' hx => catches_neg ?_ (command port d hg (h.next hx rfl))⟩
    rw [hx.1.2.2.2.1 rfl]
    decide
  unfold socket
  rw [hcheck]
  refine catchRun_neg (not_not.2 hready) (catchRun_of_view ((wpv_bind _ _).2 (wpg_getSnSR.2 ?_)))
  intro x t' hx
  rw [sourcePort]
  split
  · exact body _ port hreg husable
  · simp only [globalLock, globalUnlock, wpv_bind, wpv_perform, wpv_get, wpv_modify, wpv_pure]
    rintro y _ ⟨-, rfl⟩ m' hm m₂ hm₂ z _ ⟨-, rfl⟩
    rw [hm₂]
    refine body x.1 m'.sockAnyPort ?_ ?_
    · exact hreg
    · exact ⟨husable.healthy, husable.budgets⟩

lemma caught_close (hreg : Registered m.toGlobals) (hreach : Reaches m (.on sn .close)) :
    CatchRun { status := sockEstablished } sn (close b sn) m t := by
  obtain ⟨hsn, husable⟩ := hreach
  refine catchRun_neg (Nat.not_le.2 hsn) (catchRun_of_view (catches_locked fun t h => ?_))
  exact catches_closeInternal hreg hsn husable (show sockEstablished ≠ sockClosed by decide) h

lemma caught_listen (hreg : Registered m.toGlobals) (hreach : Reaches m (.on sn .listen)) :
    CatchRun { status := sockInit } sn (listen b sn) m t := by
  obtain ⟨hsn, husable⟩ := hreach
  refine catchRun_neg (Nat.not_le.2 hsn) (catchRun_of_view (catches_locked fun t h => ?_))
  refine catches_get fun m' hm => catches_neg (hm ▸ husable.healthy) (catches_status h fun t h => ?_)
  refine catches_neg (not_not.2 rfl) (catches_get fun m'' _ => ?_)
  refine catches_sockDeadlineBegin husable.budgets h fun d t h => ?_
  exact catches_command hreg (by decide) h

lemma caught_connect {addr : Option (Vector Byte 4)} {port addrlen : ℕ} (hreg : Registered m.toGlobals)
    (hreach : Reaches m (.on sn (.connect addr port addrlen))) :
    CatchRun { status := sockInit } sn (connect b sn addr port addrlen) m t := by
  obtain ⟨⟨hsn, hready, hhealthy, hvalid, htcp⟩, hport, rfl, addr, rfl, haddr⟩ := hreach
  refine catchRun_neg (Nat.not_le.2 hsn) (catchRun_neg hport (catchRun_neg (by simp) ?_))
  refine catchRun_neg (fun hbad => haddr hbad.2) (catchRun_locked fun t h => ?_)
  refine catchRun_neg (not_not.2 hready) (catchRun_neg hhealthy (catchRun_neg (not_not.2 htcp) ?_))
  refine catchRun_of_view (catches_status h fun t h => catches_neg (not_not.2 rfl) (catches_neg (by decide) ?_))
  refine catches_write16 h fun t h => catches_writeBuf h fun t h => ?_
  refine (wpv_bind _ _).2 ((wpg_setSnCR snCrConnect).2 fun _ t' hx => catches_get fun m' hm => ?_)
  refine catches_neg (not_not.2 (hm ▸ hvalid)) (catches_deadlineAbs (h.next hx rfl) fun d t h => ?_)
  exact catches_first (catches_waitCrAccepted hreg (h.stuck rfl) d)

lemma caught_disconnect (hreg : Registered m.toGlobals) (hreach : Reaches m (.on sn .disconnect)) :
    CatchRun { status := sockEstablished } sn (disconnect b sn) m t := by
  obtain ⟨hsn, hready, hhealthy, hvalid, htcp⟩ := hreach
  refine catchRun_neg (Nat.not_le.2 hsn) (catchRun_locked fun t h => ?_)
  refine catchRun_neg (not_not.2 hready) (catchRun_neg hhealthy (catchRun_neg (not_not.2 htcp) ?_))
  refine catchRun_of_view (catches_status h fun t h => catches_neg (by decide) (catches_pos (.inl rfl) ?_))
  refine catches_first ((wpv_bind _ _).2 ((wpg_setSnCR snCrDiscon).2 fun _ t' hx => catches_get fun m' hm => ?_))
  refine catches_neg (not_not.2 (hm ▸ hvalid)) (catches_deadlineAbs (h.next hx rfl) fun d t h => ?_)
  exact catches_waitCrAccepted hreg (h.stuck rfl) d

/-- The previous SEND has ended and there is space, but the next is not taken. -/
lemma caught_send {len : ℕ} {buf : Option (Vector Byte len)} (hreg : Registered m.toGlobals)
    (hreach : Reaches m (.on sn (.send len buf))) (hfits : len < 2 ^ 16) :
    CatchRun { status := sockEstablished, events := snIrSendok } sn (send b sn len buf) m t := by
  obtain ⟨⟨hsn, hready, hhealthy, hvalid, htcp⟩, hlen, hbuf⟩ := hreach
  obtain ⟨buf, rfl⟩ := Option.ne_none_iff_exists'.1 hbuf
  have ready {g : Globals} (hg : Registered g) {t : IoTrace} (h : Held t) :
      Catches { status := sockEstablished, events := snIrSendok } sn (sendReady b sn buf.toList len) g t := by
    refine catches_get fun m hm => catches_deadlineAbs h fun d t h => catches_wait_first h fun t h => ?_
    refine (wpv_bind _ _).2 (catches_free h fun t h => (wpv_bind _ _).2 (wpg_getSnSR.2 fun x t' hx => ?_))
    have hspace : min len (m.txmaxCache sn) ≤ (0xFFFF : BitVec 16).toNat :=
      (Nat.min_le_left _ _).trans (Nat.le_of_lt_succ hfits)
    rw [hx.1.1 rfl, if_neg (by decide), if_neg (fun hsmall => absurd hsmall.2 (Nat.not_lt.2 hspace)),
      if_pos hspace]
    refine ⟨_, rfl, catches_wizSendData (h.next hx rfl) fun t h => ?_⟩
    refine (wpv_bind _ _).2 ((wpg_setSnCR snCrSend).2 fun _ t' hx => ?_)
    refine catches_deadlineAbs (h.next hx rfl) fun d t h => ?_
    exact catches_first (catches_waitCrAccepted hg (h.stuck rfl) d)
  refine catchRun_neg hlen (catchRun_neg (Nat.not_le.2 hsn) (catchRun_neg (not_not.2 hready) ?_))
  refine catchRun_locked fun t h => catchRun_neg hhealthy (catchRun_neg (not_not.2 hvalid) ?_)
  refine catchRun_neg (not_not.2 htcp) (catchRun_of_view (catches_status h fun t h => catches_neg (by decide) ?_))
  refine (wpv_ite _ _ _).2 ⟨fun _ => ?_, fun _ => ready hreg h⟩
  refine catches_deadlineAbs h fun d t h => catches_wait_first h fun t h => ?_
  simp only [sentLook, wpv_bind, wpg_getSnIR, wpv_ite, wpg_setSnIR, wpg_modifySock, wpv_pure]
  intro x t₁ hx
  rw [hx.1.2.1 rfl]
  refine ⟨fun _ y t₂ hy => ⟨_, rfl, ready ?_ ((h.next hx rfl).next hy rfl)⟩, fun hnot => ?_⟩
  · exact hreg
  · exact absurd (show snIrSendok &&& 0x1F &&& snIrSendok ≠ 0 by decide) hnot

/-- One byte has come, but the RECV for it is not taken. -/
lemma caught_recv {buf : Bool} {len : ℕ} (hreg : Registered m.toGlobals)
    (hreach : Reaches m (.on sn (.recv buf len))) :
    CatchRun { status := sockEstablished, received := 1 } sn (recv b sn buf len) m t := by
  obtain ⟨⟨hsn, hready, hhealthy, hvalid, htcp⟩, hlen, hbuf⟩ := hreach
  refine catchRun_neg hlen (catchRun_neg (not_not.2 hbuf) (catchRun_neg (Nat.not_le.2 hsn) ?_))
  refine catchRun_neg (not_not.2 hready) (catchRun_locked fun t h => catchRun_neg hhealthy ?_)
  refine catchRun_neg (not_not.2 hvalid) (catchRun_neg (not_not.2 htcp) (catchRun_of_view ?_))
  refine catches_deadlineAbs h fun d t h => catches_wait_first h fun t h => ?_
  refine (wpv_bind _ _).2 (catches_received h fun t h => (wpv_bind _ _).2 (wpg_getSnSR.2 fun x t' hx => ?_))
  rw [hx.1.1 rfl, if_neg (by decide), if_neg (by decide), if_pos (by decide)]
  refine ⟨_, rfl, catches_wizRecvData (h.next hx rfl) fun data t _ h => ?_⟩
  refine (wpv_bind _ _).2 ((wpg_setSnCR snCrRecv).2 fun _ t' hx => ?_)
  refine catches_deadlineAbs (h.next hx rfl) fun d t h => ?_
  exact catches_first (catches_waitCrAccepted hreg (h.stuck rfl) d)

/-- The destination is good and there is space, but the SEND is not taken. -/
lemma caught_sendto {len : ℕ} {buf : Option (Vector Byte len)} {addr : Vector Byte 4} {port addrlen : ℕ}
    (hreg : Registered m.toGlobals) (hreach : Reaches m (.on sn (.sendto len buf addr port addrlen)))
    (hfits : len < 2 ^ 16) :
    CatchRun { status := sockUdp } sn (sendto b sn len buf addr port addrlen) m t := by
  obtain ⟨⟨hsn, hlen, hbuf, hfault, hhealthy, hvalid, haddr⟩, hidle⟩ := hreach
  obtain ⟨buf, rfl⟩ := Option.ne_none_iff_exists'.1 hbuf
  have commit (data : List Byte) (nonblocking : Bool) {t : IoTrace} (h : Held t) :
      Catches { status := sockUdp } sn (sendtoCommit b sn data nonblocking) m.toGlobals t := by
    refine catches_write h fun t h => catches_wizSendData h fun t h => ?_
    refine (wpv_bind _ _).2 ((wpg_setSnCR snCrSend).2 fun _ t' hx => catches_get fun m' _ => ?_)
    refine catches_sockDeadlineBegin hvalid (h.next hx rfl) fun d t h => ?_
    exact catches_first (catches_waitCrAccepted hreg (h.stuck rfl) d)
  refine catchRun_neg hlen (catchRun_neg (Nat.not_le.2 hsn) (catchRun_locked fun t h => ?_))
  refine catchRun_neg hfault (catchRun_neg hhealthy (catchRun_neg (not_not.2 hvalid) (catchRun_neg hidle ?_)))
  refine catchRun_of_view (catches_get fun m' hm => (wpv_bind _ _).2 ?_)
  rw [hm]
  -- the address phase, with the lock held throughout
  refine wpv_mono (Nonblocking.wpg_sendtoAddress_exact (J := Held) (Q := fun r g' t => r = .ok () ∧
    g' = m.toGlobals ∧ Held t) keeps_held keeps_held h _ addr port addrlen ?_ ?_ ?_ ?_) ?_ fun _ _ => id
  · exact fun hbad => absurd (haddr hidle) hbad
  · exact fun _ t h => ⟨rfl, rfl, h⟩
  · intro _ t x t' h hx
    refine ⟨h.next hx rfl, fun hclosed => absurd ?_ hclosed⟩
    rw [hx.1.1 rfl]
    exact .inr (.inl rfl)
  · exact fun t h => ⟨rfl, rfl, h⟩
  rintro r _ t ⟨rfl, rfl, h⟩
  refine (wpv_bind _ _).2 ((wpv_ite _ _ _).2 ⟨fun _ => (wpv_bind _ _).2 (wpg_getSnSR.2 fun x t' hx => ?_), fun _ => ?_⟩)
  · rw [hx.1.1 rfl]
    exact commit _ _ (h.next hx rfl)
  refine (wpv_bind _ _).1 ?_
  rw [bind_assoc]
  refine catches_deadlineAbs h fun d t h => catches_wait_first h fun t h => ?_
  refine (wpv_bind _ _).2 (catches_free h fun t h => (wpv_bind _ _).2 (wpg_getSnSR.2 fun x t' hx => ?_))
  have hspace : min len (m.txmaxCache sn) ≤ (0xFFFF : BitVec 16).toNat :=
    (Nat.min_le_left _ _).trans (Nat.le_of_lt_succ hfits)
  rw [hx.1.1 rfl, if_neg (by decide)]
  refine (wpv_ite _ _ _).2 ⟨fun _ => ⟨_, rfl, commit _ _ (h.next hx rfl)⟩, fun hnot => absurd hspace hnot⟩

lemma catches_recvfromFinish {packLen : ℕ} {out : Received} (hreg : Registered g) (h : Held t)
    (hheads : c.heads = false) (hevents : c.events = 0) :
    Catches c sn (recvfromFinish b sn packLen false out) g t := by
  refine catches_write h fun t h => catches_get fun m hm => ?_
  refine catches_first (catches_waitDatagramCrAccepted hreg hheads ?_ h _)
  rw [hevents]
  decide

/-- In blocking mode no packet comes, or the RECV for the rest of one is not taken. -/
lemma caught_blocking {len : ℕ} {addrPort : Bool} (hreg : Registered m.toGlobals)
    (husable : Usable sn m.toGlobals) (hmode : Datagram (m.sock sn).mode)
    (hio : (m.sock sn).ioMode = false) (hwaits : (m.sock sn).remainedSize = 0 ∨ addrPort = true) (h : Held t) :
    CatchRun { status := sockUdp } sn (recvfromLocked b sn len addrPort) m t := by
  refine catchRun_neg husable.healthy (catchRun_neg (not_not.2 husable.budgets) (catchRun_neg ?_ ?_))
  · simp only [Datagram] at hmode
    tauto
  rw [hio]
  refine (wp_ite _ _ _).2 ⟨fun _ => catchRun_of_view ?_, fun hrest => catchRun_of_view ?_⟩
  · refine catches_deadlineAbs h fun d t h => catches_first ((wpv_bind _ _).2 ?_)
    refine timed_waitPollInit.wpg keeps_held.ticks h fun poll t h => catches_pollLoop hreg ?_
    refine (wpv_bind _ _).2 (catches_received h fun t h => (wpv_bind _ _).2 (wpg_getSnSR.2 fun x t' hx => ?_))
    rw [hx.1.1 rfl]
    exact ⟨rfl, rfl, h.next hx rfl⟩
  · have chunk {t : IoTrace} (h : Held t) :
        Catches { status := sockUdp } sn (recvfromChunk b sn len false { ret := 0 }) m.toGlobals t := by
      refine catches_get fun m' _ => catches_wizRecvData h fun data t _ h => ?_
      exact catches_recvfromFinish hreg h rfl rfl
    have rest {m' : Driver} (hm : m'.toGlobals = m.toGlobals) : (m'.sock sn).remainedSize ≠ 0 := by
      rwa [hm]
    refine catches_neg (not_not.2 (hwaits.resolve_left hrest)) ?_
    refine (wpv_ite _ _ _).2 ⟨fun _ => catches_get fun m' hm => catches_neg (rest hm) (chunk h), fun _ => ?_⟩
    refine (wpv_ite _ _ _).2 ⟨fun _ => catches_get fun m' hm => catches_neg (rest hm) (chunk h), fun _ => ?_⟩
    refine catches_get fun m' hm => catches_neg (rest hm) (catches_get fun m'' hm' => ?_)
    exact catches_pos (Nat.pos_of_ne_zero (rest hm')) (chunk h)

/-- A MACRAW header of length zero closes the socket in either mode. -/
lemma caught_macraw {len : ℕ} (hreg : Registered m.toGlobals) (hsn : sn < sockNum)
    (husable : Usable sn m.toGlobals) (hmode : (m.sock sn).mode &&& 0x0F = snMrMacraw)
    (hempty : (m.sock sn).remainedSize = 0) (hio : (m.sock sn).ioMode = true) (h : Held t) :
    CatchRun { status := sockMacraw, received := 1, heads := true } sn (recvfromLocked b sn len true) m t := by
  have low : (m.sock sn).mode &&& 0x07 = snMrMacraw := by
    rw [show (0x07 : Byte) = 0x0F &&& 0x07 from rfl, ← BitVec.and_assoc, hmode]
    rfl
  refine catchRun_neg husable.healthy (catchRun_neg (not_not.2 husable.budgets) (catchRun_neg ?_ ?_))
  · rw [hmode]
    decide
  rw [hio]
  refine (wp_ite _ _ _).2 ⟨fun _ => catchRun_of_view ?_, fun hrest => absurd hempty hrest⟩
  refine catches_deadlineAbs h fun d t h => catches_wait_first h fun t h => ?_
  refine (wpv_bind _ _).2 (catches_received h fun t h => (wpv_bind _ _).2 (wpg_getSnSR.2 fun x t' hx => ?_))
  rw [hx.1.1 rfl, if_neg (by decide), if_pos (by decide)]
  refine ⟨_, rfl, catches_neg (by decide) (catches_neg (by rw [low]; decide) (catches_pos low ?_))⟩
  refine catches_get fun m' hm => catches_pos (by rwa [hm]) ?_
  simp only [recvHeader, bind_assoc]
  refine catches_get fun m'' _ => catches_wizRecvData (h.next hx rfl) fun data t hzero h => ?_
  -- the RECV of the header is seen taken by the first look
  refine (wpv_bind _ _).2 ((wpg_setSnCR snCrRecv).2 fun _ t₁ hy => (wpv_bind _ _).2 ((wpv_bind _ _).2 ?_))
  refine wpg_crOrTimeoutLook.2 fun z t₂ hz => ⟨fun _ => ?_, fun hnot => absurd ((hz.1.2.2.1 rfl).2 ?_) hnot⟩
  · refine (wpv_bind _ _).2 (catches_neg (p := sockOk ≠ sockOk) (not_not.2 rfl) ((wpv_bind _ _).2 ?_))
    refine (wpg_modifySock _ _).2 ?_
    refine catches_pos ?_ (catches_first ?_)
    · rw [hzero, hzero]
      decide
    · refine catches_closeInternal hreg hsn ⟨?_, husable.budgets⟩ (by decide) ((h.next hy rfl).next hz rfl)
      rw [Globals.setSock_same]
      exact husable.healthy
  · rw [hy.2]
    exact ⟨rfl, _, List.getLast?_concat, rfl⟩

lemma caught_recvfrom {buf : Bool} {len : ℕ} {addrPort : Bool} (hreg : Registered m.toGlobals)
    (hreach : Reaches m (.on sn (.recvfrom buf len addrPort))) :
    ∃ c, CatchRun c sn (recvfrom b sn buf len addrPort) m t := by
  obtain ⟨⟨hsn, hlen, hbuf, hhealthy, hvalid, hmode⟩, hwaits⟩ := hreach
  have enter {c : Stubborn} (hbody : ∀ t, Held t → CatchRun c sn (recvfromLocked b sn len addrPort) m t) :
      CatchRun c sn (recvfrom b sn buf len addrPort) m t := by
    refine catchRun_neg hlen (catchRun_neg (not_not.2 hbuf) (catchRun_neg (Nat.not_le.2 hsn) ?_))
    exact catchRun_locked hbody
  cases hio : (m.sock sn).ioMode with
  | false =>
    refine ⟨_, enter fun t h => caught_blocking hreg ⟨hhealthy, hvalid⟩ hmode hio ?_ h⟩
    rcases hwaits with ⟨-, hwaits⟩ | ⟨-, hempty, -⟩
    · exact hwaits
    · exact .inl hempty
  | true =>
    rcases hwaits with ⟨hio', -⟩ | ⟨hmac, hempty, rfl⟩
    · exact absurd (hio.symm.trans hio') (by decide)
    · exact ⟨_, enter fun t h => caught_macraw hreg hsn ⟨hhealthy, hvalid⟩ hmac hempty hio h⟩

lemma caught_keepalive {arg : Option ArgMem} (hreg : Registered m.toGlobals)
    (hreach : Reaches m (.on sn (.setsockopt .keepalivesend arg))) :
    CatchRun { status := sockEstablished } sn (setsockopt b sn .keepalivesend arg) m t := by
  obtain ⟨hsn, husable, htcp⟩ := hreach
  refine catchRun_neg (Nat.not_le.2 hsn) (catchRun_neg (fun hnull => hnull.2 rfl) ?_)
  refine catchRun_of_view (catches_locked fun t h => catches_get fun m₁ h₁ => ?_)
  refine catches_neg (h₁ ▸ husable.healthy) (catches_get fun m₂ h₂ => catches_neg (not_not.2 (h₂ ▸ htcp)) ?_)
  refine (wpv_bind _ _).2 ((wpg_wizchipRead b _).2 fun x t' hx => catches_neg ?_ (catches_get fun m₃ h₃ => ?_))
  · rw [hx.1.2.2.2.1 rfl]
    decide
  refine catches_neg (not_not.2 (h₃ ▸ husable.budgets)) (catches_deadlineAbs (h.next hx rfl) fun d t h => ?_)
  refine (wpv_bind _ _).2 (timed_waitPollInit.wpg keeps_held.ticks h fun poll t h => ?_)
  refine catches_write h fun t h => catches_pollLoop hreg ?_
  refine wpg_crOrTimeoutLook.2 fun y t₁ hy => ⟨fun hzero => ?_, fun _ z t₂ hz => ?_⟩
  · exact absurd ((hy.1.2.2.1 rfl).1 hzero) (h.stuck rfl).waits
  · rw [hz.1.2.1 rfl]
    exact ⟨fun hne => absurd (by decide) hne, fun _ => ⟨rfl, rfl, (h.next hy rfl).next hz rfl⟩⟩

/-- With a wait callback registered, every operation that reaches a wait can be made to call it. -/
lemma caught_op {op : Op} (hreg : Registered m.toGlobals) (hreach : Reaches m (.on sn op))
    (hfits : Fits (.on sn op)) : ∃ c, CatchRun c sn (op.run b sn) m t := by
  cases op with
  | socket protocol port flag => exact ⟨_, caught_socket hreg hreach⟩
  | close => exact ⟨_, caught_close hreg hreach⟩
  | listen => exact ⟨_, caught_listen hreg hreach⟩
  | connect addr port addrlen => exact ⟨_, caught_connect hreg hreach⟩
  | disconnect => exact ⟨_, caught_disconnect hreg hreach⟩
  | send len buf => exact ⟨_, caught_send hreg hreach hfits⟩
  | recv buf len => exact ⟨_, (wp_bind _ _).2 (caught_recv hreg hreach)⟩
  | sendto len buf addr port addrlen => exact ⟨_, caught_sendto hreg hreach hfits⟩
  | recvfrom buf len addrPort =>
    obtain ⟨c, h⟩ := caught_recvfrom (b := b) (t := t) hreg hreach
    exact ⟨c, (wp_bind _ _).2 h⟩
  | setsockopt sotype arg =>
    cases sotype with
    | keepalivesend => exact ⟨_, caught_keepalive hreg hreach⟩
    | _ => exact hreach.elim
  | _ => exact hreach.elim

end operations

section phy
variable {b : Build} {c : Stubborn} {α : Type} {sn : ℕ} {g : Globals} {m : Driver} {t : IoTrace}

/-- PHYCFGR never shows the reset. -/
lemma reset_unseen (v : Byte) : ¬ (0xFF : Byte) &&& wizphyResetMask = (v &&& ~~~wizphyRstBit) &&& wizphyResetMask := by
  intro h
  have bit := congrArg (fun w : Byte => w.getLsbD 7) h
  simp [wizphyResetMask, wizphyRstBit, phycfgrOpmd, phycfgrOpmdcAlla] at bit

lemma catches_wizphyResetLocked (hreg : Registered g) (h : Held t) (configured : Byte) :
    Catches c sn (wizphyResetLocked b configured) g t := by
  refine catches_write h fun t h => catches_first (catches_get fun m hm => catches_deadlineAbs h fun d t h => ?_)
  obtain ⟨n, hn⟩ := Nat.exists_eq_succ_of_ne_zero b.turns_pos.ne'
  rw [hn]
  refine (wpv_bind _ _).2 ((wpv_bind _ _).2 ((wpg_wizchipRead b _).2 fun x t' hx => ?_))
  rw [hx.1.2.2.2.2 rfl, if_neg (reset_unseen configured), if_neg (not_not.2 (hm ▸ hreg))]
  refine (wpv_bind _ _).2 ((wpv_perform _).2 fun y t₂ hy => ?_)
  have caught : Caught t₂ := ⟨t', ⟨_, .wait, y⟩, [], hy.2, trivial, h.next hx rfl⟩
  exact (wpv_bind _ _).1 (caught.catches _)

lemma catches_globalLocked {p : Drv α} (hbody : ∀ t, Held t → Catches c sn p g t) :
    Catches c sn (globalLocked p) g t := by
  simp only [globalLocked, globalLock, globalUnlock, ask, Catches, wpv_bind, wpv_perform, wpv_pure]
  rintro x _ ⟨-, rfl⟩
  refine wpv_mono (hbody _ (held_locked rfl)) ?_ fun _ _ => id
  rintro r g' t' h y _ ⟨-, rfl⟩
  exact h.append _

/-- A PHY that never shows the reset is waited for under the global lock. -/
lemma caught_ctlwizchip {cwtype : CtlwizchipType} (hreg : Registered m.toGlobals)
    (hreach : Reaches m (.ctlwizchip cwtype)) : CatchRun c sn (ctlwizchip b cwtype) m t := by
  cases cwtype with
  | resetPhy =>
    refine catchRun_of_view (catches_first (catches_globalLocked fun t h => ?_))
    refine (wpv_bind _ _).2 ((wpg_wizchipRead b _).2 fun x t' hx => ?_)
    exact catches_wizphyResetLocked hreg (h.next hx rfl) _
  | setPhyconf arg =>
    cases arg with
    | none => exact hreach.elim
    | some conf =>
      refine catchRun_of_view (catches_first (catches_neg (not_not.2 hreach) (catches_globalLocked fun t h => ?_)))
      refine (wpv_bind _ _).2 ((wpg_wizchipRead b _).2 fun x t' hx => ?_)
      exact catches_write (h.next hx rfl) fun t h => catches_wizphyResetLocked hreg h _
  | setPhypowmode arg =>
    cases arg with
    | none => exact hreach.elim
    | some pmode =>
      have hmode : ¬ (pmode ≠ phyPowerNorm ∧ pmode ≠ phyPowerDown) := by
        simp only [Reaches] at hreach
        tauto
      refine catchRun_of_view (catches_first (catches_neg hmode (catches_globalLocked fun t h => ?_)))
      refine (wpv_bind _ _).2 ((wpg_wizchipRead b _).2 fun x t' hx => catches_neg ?_ ?_)
      · rw [hx.1.2.2.2.2 rfl]
        decide
      · exact catches_write (h.next hx rfl) fun t h => catches_wizphyResetLocked hreg h _
  | _ => exact hreach.elim

end phy

/-- With a wait callback registered, every call that reaches a wait can be made to call it there. -/
lemma caught_call {b : Build} {m : Driver} {call : PublicCall} {t : IoTrace} (hreg : Registered m.toGlobals)
    (hreach : Reaches m call) (hfits : Fits call) : ∃ c sn, CatchRun c sn (call.run b) m t := by
  cases call with
  | on sn op =>
    obtain ⟨c, h⟩ := caught_op (b := b) (t := t) hreg hreach hfits
    exact ⟨c, sn, h⟩
  | ctlwizchip cwtype =>
    exact ⟨{ status := sockClosed }, 0, (wp_bind _ _).2 (wp_mono (caught_ctlwizchip hreg hreach)
      (fun _ _ _ caught => caught.catchRun _) fun _ _ => id)⟩
  | _ => exact hreach.elim

end IoLibrary.Callbacks
