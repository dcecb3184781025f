import IoLibrary.Calls
import IoLibrary.Effects.Exec
import IoLibrary.Socket.DatagramRules

/-! The lifecycle gate: what an operation does while the chip is not ready. -/
namespace IoLibrary.Gate
open Effects

/-- A call that writes a register or a buffer of the chip. -/
def Writes : Io → Prop
  | .write8 _ _ | .writeBuf _ _ => True
  | _ => False

/-- The operations of the gate, with a nonzero length where they have one. -/
def Gated : Op → Prop
  | .socket _ _ _ | .listen | .connect _ _ _ | .disconnect => True
  | .send len _ | .recv _ len | .sendto len _ _ _ _ | .recvfrom _ len _ => len ≠ 0
  | _ => False

/-- No event between the traces writes. -/
abbrev Clean (t t' : IoTrace) : Prop := Extends (fun v => ¬ Writes v.call) t t'

/-- Whatever the chip answers, the call returns an error and writes nothing. -/
def Refuses (b : Build) (sn : ℕ) (op : Op) (m : Driver) : Prop :=
  ∀ t r m' t', Eval anyChip (op.run b sn) m t r m' t' → (∀ a, r = some a → a < 0) ∧ Clean t t'

/-- sendto stops at its mode and address length checks. -/
def AddressRefused (mode : Byte) (addrlen : ℕ) : Prop :=
  ¬ Datagram mode ∨ mode ≠ snMrMacraw ∧ (addrlen ≠ 4 ∨ mode = snMrUdp6 ∨ mode = snMrIpraw6)

/-- recvfrom stops at its mode check, or after reads that end in its pointer check. -/
def ReceiveRefused (s : Sock) (addrPort : Bool) : Prop :=
  ¬ Datagram s.mode ∨ addrPort = false ∧ (s.remainedSize ≠ 0 ∨ s.ioMode = false)

/-- What stops a call whose operation does not look at the chip state: its own checks of the
arguments, of the socket and of the deadline budgets. -/
def Stopped (sn : ℕ) (g : Globals) : Op → Prop
  | .listen => sockNum ≤ sn ∨ (g.sock sn).health = .faulted ∨ ¬ g.deadlineConfigValid
  | .sendto _ buf _ _ addrlen => buf = none ∨ sockNum ≤ sn ∨ (g.sock sn).txState = .localFault ∨
      (g.sock sn).health = .faulted ∨ ¬ g.deadlineConfigValid ∨
      (g.sock sn).txState ≠ .dgramPending ∧ AddressRefused (g.sock sn).mode addrlen
  | .recvfrom buf _ addrPort => buf = false ∨ sockNum ≤ sn ∨ (g.sock sn).health = .faulted ∨
      ¬ g.deadlineConfigValid ∨ ReceiveRefused (g.sock sn) addrPort
  | _ => True

section refused
variable {b : Build} {sn : ℕ} {m : Driver} {t : IoTrace}

/-- Every run from `m` ends in an error, or is cut, with nothing written since `t`. -/
abbrev WpRefused (p : Drv ℤ) (t : IoTrace) (m : Driver) (t₁ : IoTrace) : Prop :=
  wp anyChip p (fun r _ t' => r < 0 ∧ Clean t t') (fun _ t' => Clean t t') m t₁

lemma refuses_iff {op : Op} : Refuses b sn op m ↔ ∀ t, WpRefused (op.run b sn) t m t := by
  refine forall_congr' fun t => Iff.trans ?_ (wp_iff_eval _).symm
  refine forall₃_congr fun r m' t' => imp_congr_right fun _ => ?_
  cases r with
  | none => simp
  | some a => simp

lemma refused_pure {r : ℤ} (hr : r < 0) : WpRefused (pure r) t m t := ⟨hr, .refl⟩

lemma refused_locked {α : Type} {body : Drv α} {P : α → Prop}
    (h : ∀ t₁, Clean t t₁ → wp anyChip body (fun r _ t' => P r ∧ Clean t t')
      (fun _ t' => Clean t t') m t₁) :
    wp anyChip (locked sn body) (fun r _ t' => P r ∧ Clean t t') (fun _ t' => Clean t t') m t := by
  have hlock : ¬ Writes (.sockLock sn) := id
  have hunlock : ¬ Writes (.sockUnlock sn) := id
  simp only [locked, sockLock, sockUnlock, ask, wp_bind, wp_perform, wp_pure]
  rintro x _ ⟨-, rfl⟩
  have body_run := h (t ++ [⟨m.toGlobals, .sockLock sn, x⟩]) (Extends.refl.snoc hlock)
  refine wp_mono body_run ?_ fun _ _ => id
  rintro r m' t' ⟨hr, ht'⟩ y _ ⟨-, rfl⟩
  exact ⟨hr, ht'.snoc hunlock⟩

lemma refused_socket (hm : m.chipState ≠ .ready) (protocol : Byte) (port : ℕ) (flag : Byte) :
    WpRefused (socket b sn protocol port flag) t m t := by
  unfold socket
  cases hcheck : socketArgCheck sn protocol flag with
  | some e => exact refused_pure (socketArgCheck_neg hcheck)
  | none =>
    simp only [wp_bind, wp_pure, wp_get, wp_ite, wp_modify]
    exact ⟨fun _ => ⟨by decide, .refl⟩, fun hready => absurd hm hready⟩

lemma refused_connect (hm : m.chipState ≠ .ready) (addr : Option (Vector Byte 4))
    (port addrlen : ℕ) : WpRefused (connect b sn addr port addrlen) t m t := by
  have body (addr : Vector Byte 4) :
      WpRefused (locked sn (connectLocked b sn addr port addrlen)) t m t := by
    refine refused_locked fun t₁ ht₁ => ?_
    simp only [connectLocked, wp_bind, wp_get, wp_ite, wp_pure]
    exact ⟨fun _ => ⟨by decide, ht₁⟩, fun hready => absurd hm hready⟩
  simp only [WpRefused, connect, wp_ite]
  refine ⟨fun _ => refused_pure (by decide), fun _ => ?_⟩
  cases addr with
  | none => exact refused_pure (by decide)
  | some addr =>
    simp only [wp_ite]
    refine ⟨fun _ => refused_pure (by decide), fun _ => ⟨fun _ => refused_pure (by decide), ?_⟩⟩
    exact fun _ => ⟨fun _ => refused_pure (by decide), fun _ => body addr⟩

lemma refused_disconnect (hm : m.chipState ≠ .ready) : WpRefused (disconnect b sn) t m t := by
  simp only [WpRefused, disconnect, wp_ite]
  refine ⟨fun _ => refused_pure (by decide), fun _ => refused_locked fun t₁ ht₁ => ?_⟩
  simp only [disconnectLocked, wp_bind, wp_get, wp_ite, wp_pure]
  exact ⟨fun _ => ⟨by decide, ht₁⟩, fun hready => absurd hm hready⟩

lemma refused_send (hm : m.chipState ≠ .ready) {len : ℕ} (hlen : len ≠ 0)
    (buf : Option (Vector Byte len)) : WpRefused (send b sn len buf) t m t := by
  simp only [WpRefused, send, wp_ite]
  refine ⟨fun h => absurd h hlen, fun _ => ?_⟩
  cases buf with
  | none => exact refused_pure (by decide)
  | some buf =>
    simp only [wp_bind, wp_get, wp_ite, wp_pure]
    refine ⟨fun _ => ⟨by decide, .refl⟩, fun _ => ⟨fun _ => ⟨by decide, .refl⟩, ?_⟩⟩
    exact fun hready => absurd hm hready

lemma refused_recv (hm : m.chipState ≠ .ready) {len : ℕ} (hlen : len ≠ 0) (buf : Bool) :
    WpRefused ((Op.recv buf len).run b sn) t m t := by
  simp only [WpRefused, Op.run, recv, wp_bind, wp_get, wp_ite, wp_pure]
  refine ⟨fun h => absurd h hlen, fun _ => ⟨fun _ => ⟨by decide, .refl⟩, fun _ => ?_⟩⟩
  refine ⟨fun _ => ⟨by decide, .refl⟩, fun _ => ⟨fun _ => ⟨by decide, .refl⟩, ?_⟩⟩
  exact fun hready => absurd hm hready

end refused

section stopped
variable {b : Build} {sn : ℕ} {g : Globals} {t t₁ : IoTrace}

/-- A refusal under the socket lock, proved through the globals. -/
lemma refused_of_view {α : Type} {m : Driver} {body : Drv α} {P : α → Prop}
    (h : ∀ t₁, Clean t t₁ → wpg (traceEnv fun _ _ _ => True) body (fun r _ t' => P r ∧ Clean t t')
      (fun _ t' => Clean t t') m.toGlobals t₁) :
    wp anyChip (locked sn body) (fun r _ t' => P r ∧ Clean t t') (fun _ t' => Clean t t') m t := by
  refine refused_locked fun t₁ ht₁ => ?_
  exact wp_of_wpg (h t₁ ht₁)

lemma ticks_clean {allowed : IoTrace → (e : Io) → e.Res → Prop} :
    Ticks (traceEnv allowed) g (Clean t) := by
  rintro w _ x _ (rfl | rfl) hw ⟨-, rfl⟩
  · exact hw.snoc id
  · exact hw.snoc id

abbrev WpgRefused (p : Drv ℤ) (g : Globals) (t t₁ : IoTrace) : Prop :=
  wpg (traceEnv fun _ _ _ => True) p (fun r _ t' => r < 0 ∧ Clean t t') (fun _ t' => Clean t t') g t₁

lemma stopped_listen (hstop : (g.sock sn).health = .faulted ∨ ¬ g.deadlineConfigValid)
    (ht₁ : Clean t t₁) : WpgRefused (listenLocked b sn) g t t₁ := by
  have hread : ¬ Writes (.read8 (Reg.snSR sn)) := id
  simp only [WpgRefused, listenLocked, wpv_bind, wpv_get, wpv_ite, wpv_pure, wpg_getSnSR]
  rintro m₁ rfl
  refine ⟨fun _ => ⟨by decide, ht₁⟩, fun hhealthy x _ hx => ?_⟩
  obtain ⟨-, rfl⟩ := hx
  have ht₂ := ht₁.snoc (v := ⟨m₁.toGlobals, _, x⟩) hread
  refine ⟨fun _ => ⟨by decide, ht₂⟩, fun _ m₂ hm₂ => ?_⟩
  refine wpg_sockDeadlineBegin ticks_clean ht₂ _ (fun hvalid => ?_) (fun _ => ⟨by decide, ht₂⟩)
  exact absurd hvalid (hstop.resolve_left hhealthy)

/-- The address checks of sendto refuse before they write. -/
lemma stopped_sendtoAddress {mode : Byte} {addrlen : ℕ} (h : AddressRefused mode addrlen)
    (addr : Vector Byte 4) (port : ℕ) (ht₁ : Clean t t₁) :
    wpg (traceEnv fun _ _ _ => True) (sendtoAddress b sn mode addr port addrlen)
      (fun r _ t' => (∃ e < 0, r = .error e) ∧ Clean t t') (fun _ t' => Clean t t') g t₁ := by
  have hmode : Datagram mode → mode ≠ snMrMacraw ∧
      (addrlen ≠ 4 ∨ mode = snMrUdp6 ∨ mode = snMrIpraw6) := fun hd => h.resolve_left (not_not.2 hd)
  have stop {e : ℤ} (he : e < 0) : (∃ e' < 0, (.error e : Except ℤ Unit) = .error e') ∧ Clean t t₁ :=
    ⟨⟨e, he, rfl⟩, ht₁⟩
  simp only [sendtoAddress, wpv_ite, wpv_pure, wpv_bind]
  refine ⟨fun _ => stop (by decide), fun hd => ?_⟩
  obtain ⟨hne, hlen⟩ := hmode (by simp only [Datagram]; tauto)
  refine ⟨fun _ => ⟨fun _ => stop (by decide), fun _ => ⟨fun h4 => ?_, fun _ => stop (by decide)⟩⟩,
    fun heq => absurd heq (not_not.2 hne)⟩
  exact ⟨fun _ => stop (by decide), fun hmode => absurd (hlen.resolve_left (not_not.2 h4)) hmode⟩

lemma stopped_sendto (hstop : (g.sock sn).txState = .localFault ∨ (g.sock sn).health = .faulted ∨
      ¬ g.deadlineConfigValid ∨
      (g.sock sn).txState ≠ .dgramPending ∧ AddressRefused (g.sock sn).mode addrlen)
    (buf : List Byte) (len : ℕ) (addr : Vector Byte 4) (port : ℕ) (ht₁ : Clean t t₁) :
    WpgRefused (sendtoLocked b sn buf len addr port addrlen) g t t₁ := by
  simp only [WpgRefused, sendtoLocked, wpv_bind, wpv_get, wpv_ite, wpv_pure]
  rintro m₁ rfl
  refine ⟨fun _ => ⟨by decide, ht₁⟩, fun hfault => ⟨fun _ => ⟨by decide, ht₁⟩, fun hhealthy => ?_⟩⟩
  refine ⟨fun _ => ⟨by decide, ht₁⟩, fun hvalid => ?_⟩
  obtain ⟨hidle, haddr⟩ :=
    ((hstop.resolve_left hfault).resolve_left hhealthy).resolve_left hvalid
  refine ⟨fun hpending => absurd hpending hidle, fun _ => ?_⟩
  simp only [sendtoIdle, wpv_bind, wpv_get]
  intro m₂ hm₂
  have hsock : m₂.sock sn = m₁.sock sn := congrArg (fun g : Globals => g.sock sn) hm₂
  rw [hsock]
  refine wpv_mono (stopped_sendtoAddress haddr addr port ht₁) ?_ fun _ _ => id
  rintro _ g' t' ⟨⟨e, he, rfl⟩, ht'⟩
  exact ⟨he, ht'⟩

/-- The wait of a blocking recvfrom reads only, and never reports SOCK_BUSY. -/
lemma clean_recvfromWait (d : ℕ) (ht₁ : Clean t t₁) :
    wpg (traceEnv fun _ _ _ => True) (recvfromWait b sn false d)
      (fun r _ t' => (∀ e, r = .error e → e < 0) ∧ Clean t t') (fun _ t' => Clean t t') g t₁ := by
  have hsize : ¬ Writes (.readBuf (Reg.snRXRSR sn) 2) := id
  have hstatus : ¬ Writes (.read8 (Reg.snSR sn)) := id
  have error {e : ℤ} (he : e < 0) : ∀ e', (.error e : Except ℤ ℕ) = .error e' → e' < 0 := by
    rintro _ ⟨⟩
    exact he
  simp only [recvfromWait, wpv_bind]
  refine timed_waitPollInit.wpg ticks_clean ht₁ fun poll w hw => ?_
  refine wpg_pollLoop ticks_clean hw (fun w hw => ?_) (fun w hw => ⟨error (by decide), hw⟩)
    fun _ hw => hw
  simp only [recvfromLook, readSnRxRsr, getSnRXRSRStable, wpv_bind]
  refine wpg_stableSize ticks_clean hw b _ (fun w x _ hw hx => ?_)
    (fun w hw => ⟨error (by decide), hw⟩) fun _ hw => hw
  obtain ⟨-, rfl⟩ := hx
  have hw₁ := hw.snoc (v := ⟨g, _, x⟩) hsize
  refine ⟨fun _ => ⟨hw₁, ?_⟩, fun _ => ⟨error (by decide), hw₁⟩⟩
  simp only [wpv_bind, wpg_getSnSR, wpv_ite, wpv_pure, looked_some, looked_none]
  rintro y _ ⟨-, rfl⟩
  have hw₂ := hw₁.snoc (v := ⟨g, _, y⟩) hstatus
  refine ⟨fun _ => ⟨error (by decide), hw₂⟩, fun _ => ⟨fun _ => ⟨by rintro _ ⟨⟩, hw₂⟩, fun _ => ?_⟩⟩
  exact ⟨fun h => absurd h Bool.false_ne_true, fun _ => ⟨trivial, hw₂⟩⟩

lemma stopped_recvfrom {addrPort : Bool} (hstop : (g.sock sn).health = .faulted ∨
      ¬ g.deadlineConfigValid ∨ ReceiveRefused (g.sock sn) addrPort)
    (len : ℕ) (ht₁ : Clean t t₁) :
    wpg (traceEnv fun _ _ _ => True) (recvfromLocked b sn len addrPort)
      (fun r _ t' => r.ret < 0 ∧ Clean t t') (fun _ t' => Clean t t') g t₁ := by
  simp only [recvfromLocked, wpv_bind, wpv_get, wpv_ite, wpv_pure]
  rintro m₁ rfl
  refine ⟨fun _ => ⟨by decide, ht₁⟩, fun hhealthy => ⟨fun _ => ⟨by decide, ht₁⟩, fun hvalid => ?_⟩⟩
  refine ⟨fun _ => ⟨by decide, ht₁⟩, fun hmode => ?_⟩
  have hrefused := (hstop.resolve_left hhealthy).resolve_left hvalid
  obtain ⟨rfl, hnext⟩ := hrefused.resolve_left (not_not.2 (by simp only [Datagram]; tauto))
  have refuse (packLen : ℕ) (mode : Byte) (nonblocking : Bool) {g' : Globals} {t₂ : IoTrace}
      (ht₂ : Clean t t₂) :
      wpg (traceEnv fun _ _ _ => True) (recvfromPacket b sn len packLen mode nonblocking false)
        (fun r _ t' => r.ret < 0 ∧ Clean t t') (fun _ t' => Clean t t') g' t₂ := by
    simp only [recvfromPacket, Bool.false_eq_true, not_false_iff, if_true, wpv_pure]
    exact ⟨by decide, ht₂⟩
  refine ⟨fun hempty => ?_, fun _ => refuse _ _ _ ht₁⟩
  refine (timed_deadlineAbs _).wpg ticks_clean ht₁ fun d t₂ ht₂ => ?_
  rw [hnext.resolve_left (not_not.2 hempty)]
  refine wpv_mono (clean_recvfromWait d ht₂) ?_ fun _ _ => id
  rintro r g' t' ⟨hr, ht'⟩
  cases r with
  | error e => exact ⟨hr e rfl, ht'⟩
  | ok packLen => exact refuse _ _ _ ht'

/-- A call that is stopped is refused whatever the chip answers. -/
lemma refuses_of_stopped {m : Driver} {op : Op} (hm : m.chipState ≠ .ready) (hop : Gated op)
    (h : Stopped sn m.toGlobals op) : Refuses b sn op m := by
  refine refuses_iff.2 fun t => ?_
  cases op with
  | socket protocol port flag => exact refused_socket hm protocol port flag
  | connect addr port addrlen => exact refused_connect hm addr port addrlen
  | disconnect => exact refused_disconnect hm
  | send len buf => exact refused_send hm hop buf
  | recv buf len => exact refused_recv hm hop buf
  | listen =>
    simp only [WpRefused, Op.run, listen, wp_ite]
    refine ⟨fun _ => refused_pure (by decide), fun hsn => ?_⟩
    exact refused_of_view fun t₁ ht₁ => stopped_listen (h.resolve_left hsn) ht₁
  | sendto len buf addr port addrlen =>
    simp only [WpRefused, Op.run, sendto, wp_ite]
    refine ⟨fun hlen => absurd hlen hop, fun _ => ?_⟩
    cases buf with
    | none => exact refused_pure (by decide)
    | some buf =>
      have hrest := h.resolve_left (Option.some_ne_none buf)
      simp only [wp_ite]
      refine ⟨fun _ => refused_pure (by decide), fun hsn => ?_⟩
      exact refused_of_view fun t₁ ht₁ => stopped_sendto (hrest.resolve_left hsn) _ _ _ _ ht₁
  | recvfrom buf len addrPort =>
    simp only [WpRefused, Op.run, recvfrom, wp_bind, wp_ite, wp_pure]
    refine ⟨fun hlen => absurd hlen hop, fun _ => ⟨fun _ => ⟨by decide, .refl⟩, fun hbuf => ?_⟩⟩
    refine ⟨fun _ => ⟨by decide, .refl⟩, fun hsn => ?_⟩
    have hrest := (h.resolve_left (by simpa using hbuf)).resolve_left hsn
    exact refused_of_view fun t₁ ht₁ => stopped_recvfrom hrest len ht₁
  | _ => exact hop.elim

end stopped

section admitted
variable {b : Build} {sn : ℕ} {g : Globals} {t : IoTrace} {size : ℕ}

/-- A chip without failures that shows SOCK_INIT, no event and `size` received bytes. -/
def Steady (sn size : ℕ) : (e : Io) → e.Res → Prop
  | .read8 a, x => x.2 = false ∧ (a = Reg.snSR sn → x.1 = sockInit) ∧ (a = Reg.snIR sn → x.1 = 0)
  | .readBuf a len, x => x.2 = false ∧ (a = Reg.snRXRSR sn → x.1 = frameBytes len (bytes16 size))
  | _, _ => True

abbrev steadyChip (sn size : ℕ) : Env Globals IoTrace Io Io.Res :=
  traceEnv fun _ e x => Steady sn size e x

lemma steadyChip_total (sn size : ℕ) (g : Globals) (t : IoTrace) (e : Io) :
    ∃ x t', steadyChip sn size g t e x t' := by
  have answers : ∃ x : e.Res, Steady sn size e x := by
    cases e with
    | read8 a =>
      by_cases h : a = Reg.snSR sn
      · have hne : a ≠ Reg.snIR sn := by simp [h, Reg.snSR, Reg.snIR]
        exact ⟨(sockInit, false), rfl, fun _ => rfl, fun h => absurd h hne⟩
      · exact ⟨(0, false), rfl, fun h' => absurd h' h, fun _ => rfl⟩
    | readBuf a len => exact ⟨(frameBytes len (bytes16 size), false), rfl, fun _ => rfl⟩
    | write8 a v => exact ⟨false, trivial⟩
    | writeBuf a data => exact ⟨false, trivial⟩
    | now => exact ⟨0, trivial⟩
    | _ => exact ⟨(), trivial⟩
  obtain ⟨x, hx⟩ := answers
  exact ⟨x, _, hx, rfl⟩

/-- Something was written. -/
def Wrote (t : IoTrace) : Prop := ∃ v ∈ t, Writes v.call

lemma Wrote.snoc (h : Wrote t) (v : Event Globals Io Io.Res) : Wrote (t ++ [v]) := by
  obtain ⟨u, hu, hw⟩ := h
  exact ⟨u, List.mem_append_left _ hu, hw⟩

/-- A program that a steady chip lets through: it writes, or its result is no error. -/
abbrev Admitted {α : Type} (size : ℕ) (sn : ℕ) (ret : α → ℤ) (p : Drv α) (g : Globals)
    (t : IoTrace) : Prop :=
  wpg (steadyChip sn size) p (fun r _ t' => 0 ≤ ret r ∨ Wrote t') (fun _ t' => Wrote t') g t

lemma admitted_wrote {α : Type} {ret : α → ℤ} {p : Drv α} (h : Wrote t) :
    Admitted size sn ret p g t := by
  have keep : wpg (steadyChip sn size) p (fun _ _ t' => Wrote t') (fun _ t' => Wrote t') g t :=
    wpv_of_within (within_all p) (fun _ t' => Wrote t') (fun _ _ _ _ h => h)
      (fun _ _ _ _ _ _ h hx => hx.2 ▸ h.snoc _) h
  exact wpv_mono keep (fun _ _ _ h => .inr h) fun _ _ h => h

lemma wrote_event {e : Io} {x : e.Res} (h : Writes e) : Wrote (t ++ [⟨g, e, x⟩]) :=
  ⟨⟨g, e, x⟩, by simp, h⟩

lemma admitted_write {α : Type} {ret : α → ℤ} (a : Addr) (v : Byte) (k : Unit → Drv α) :
    Admitted size sn ret (wizchipWrite b a v >>= k) g t := by
  simp only [Admitted, wpv_bind, wpg_wizchipWrite]
  rintro x _ ⟨-, rfl⟩
  exact admitted_wrote (wrote_event trivial)

lemma admitted_writeBuf {α : Type} {ret : α → ℤ} (a : Addr) {data : List Byte} (hdata : data ≠ [])
    (k : Unit → Drv α) : Admitted size sn ret (wizchipWriteBuf b a data >>= k) g t := by
  simp only [Admitted, wpv_bind, wpg_wizchipWriteBuf]
  refine ⟨fun hnil => absurd hnil hdata, ?_⟩
  rintro _ x _ ⟨-, rfl⟩
  exact admitted_wrote (wrote_event trivial)

lemma admitted_locked {α : Type} {ret : α → ℤ} {body : Drv α}
    (h : ∀ t, Admitted size sn ret body g t) : Admitted size sn ret (locked sn body) g t := by
  refine (wpg_locked sn body).2 fun x t₁ hx => wpv_mono (h t₁) ?_ fun _ _ h => h
  rintro r g' t' (hr | hw) y _ ⟨-, rfl⟩
  · exact .inl hr
  · exact .inr (hw.snoc _)

lemma ticks_any : Ticks (steadyChip sn size) g fun _ => True := fun _ _ _ _ _ _ _ => trivial

lemma admitted_listen (hhealthy : (g.sock sn).health ≠ .faulted) (hvalid : g.deadlineConfigValid) :
    Admitted size sn id (listenLocked b sn) g t := by
  simp only [Admitted, listenLocked, wpv_bind, wpv_get, wpv_ite, wpv_pure, wpg_getSnSR]
  rintro m₁ rfl
  refine ⟨fun hfault => absurd hfault hhealthy, fun _ x t₁ hx => ?_⟩
  have hinit : x.1 = sockInit := hx.1.2.1 rfl
  refine ⟨fun hne => absurd hinit hne, fun _ m₂ _ => ?_⟩
  refine wpg_sockDeadlineBegin ticks_any trivial _ (fun _ d t₂ _ => ?_)
    (fun hinvalid => absurd hvalid hinvalid)
  exact admitted_write _ _ _

/-- A pending sendto that sees no event reports SOCK_BUSY. -/
lemma admitted_sendtoPending : Admitted size sn id (sendtoPending b sn) g t := by
  simp only [Admitted, sendtoPending, wpv_bind, wpg_getSnIR, wpv_ite, mask_sendok, mask_timeout]
  intro x t₁ hx
  have hnone : x.1 = 0 := hx.1.2.2 rfl
  rw [hnone]
  refine ⟨fun hne => absurd (by decide) hne, fun _ => ⟨fun hne => absurd (by decide) hne, ?_⟩⟩
  exact fun _ => .inl (by decide)

/-- Past its mode and address checks sendto writes. -/
lemma admitted_sendtoIdle {addrlen : ℕ} (h : ¬ AddressRefused (g.sock sn).mode addrlen)
    (buf : List Byte) (len : ℕ) (addr : Vector Byte 4) (port : ℕ) :
    Admitted size sn id (sendtoIdle b sn buf len addr port addrlen) g t := by
  have hdatagram : Datagram (g.sock sn).mode := by
    by_contra hd
    exact h (.inl hd)
  have haddr : (g.sock sn).mode ≠ snMrMacraw → addrlen = 4 ∧ (g.sock sn).mode ≠ snMrUdp6 ∧
      (g.sock sn).mode ≠ snMrIpraw6 := by
    intro hne
    have hnot := fun h' => h (.inr ⟨hne, h'⟩)
    tauto
  have hdata : addr.toList ≠ [] := by simp
  refine (wpv_bind _ _).2 (wpv_get.2 ?_)
  rintro m₁ rfl
  refine (wpv_bind _ _).2 ?_
  simp only [sendtoAddress, wpv_ite, wpv_pure]
  refine ⟨fun hnot => ?_, fun _ => ⟨fun hne => ?_, fun heq => ?_⟩⟩
  · simp only [Datagram] at hdatagram
    tauto
  · obtain ⟨h4, hudp6, hipraw6⟩ := haddr hne
    refine ⟨fun h16 => absurd (h4.symm.trans h16) (by decide), fun _ => ⟨fun _ => ?_, ?_⟩⟩
    · refine ⟨fun h6 => absurd h6 (not_or.2 ⟨hudp6, hipraw6⟩), fun _ => ?_⟩
      refine (wpv_bind _ _).1 ?_
      rw [bind_assoc]
      exact admitted_writeBuf _ hdata _
    · exact fun h4' => absurd h4 h4'
  · have hmacraw : (m₁.sock sn).mode = snMrMacraw := not_not.1 heq
    simp only [sendtoAddress.portCheck, sendtoAddress.statusCheck, wpv_ite, wpv_pure, hmacraw]
    refine ⟨fun h2 => absurd h2 (by decide), fun _ => ⟨fun _ => ?_, fun hne => absurd rfl hne⟩⟩
    refine (wpv_bind _ _).2 ?_
    have hwait : sendtoWaitFree b sn (min len (m₁.txmaxCache sn)) true (m₁.sock sn).ioMode
        m₁.operationTimeoutUs = do
          let sr ← getSnSR b sn
          return if sr = sockClosed then .error sockerrSockclosed else .ok () := rfl
    have hdec : decide (snMrMacraw &&& 0x0F = snMrMacraw) = true := rfl
    rw [hdec, hwait]
    simp only [wpv_bind, wpg_getSnSR, wpv_pure]
    intro x t₁ hx
    have hinit : x.1 = sockInit := hx.1.2.1 rfl
    have hopen : ¬ sockInit = sockClosed := by decide
    rw [hinit, if_neg hopen]
    exact admitted_write _ _ _

/-- Copying received bytes out moves the read pointer. -/
lemma admitted_wizRecvData {α : Type} {ret : α → ℤ} {len : ℕ} (hsn : ¬ sockNum ≤ sn)
    (hlen : len ≠ 0) (k : List Byte → Drv α) :
    Admitted size sn ret (wizRecvData b sn len >>= k) g t := by
  have hguard : ¬ (sockNum ≤ sn ∨ len = 0) := not_or.2 ⟨hsn, hlen⟩
  have rest (ptr : ℕ) (t : IoTrace) : Admitted size sn ret (do
      let data ← wizchipReadBuf b ⟨ptr, .rxBuf sn⟩ len
      setSnRXRD b sn ((ptr + len) % 65536)
      k data) g t := by
    refine (wpv_bind _ _).2 ((wpg_wizchipReadBuf b _ len).2 ⟨fun h => absurd h hlen, ?_⟩)
    exact fun _ x t₁ _ => admitted_writeBuf _ (by simp [bytes16]) _
  rw [wizRecvData, if_neg hguard, bind_assoc]
  refine (wpv_bind _ _).2 (wpg_wizchipRead16Value b _ fun x t₁ _ => ⟨fun _ => ?_, fun _ => ?_⟩)
  · simpa only [bind_assoc, pure_bind] using rest _ t₁
  · simpa only [bind_assoc, pure_bind] using rest 0 t₁

lemma admitted_recvHeader {α : Type} {ret : α → ℤ} {n : ℕ} (hsn : ¬ sockNum ≤ sn) (hn : n ≠ 0)
    (nonblocking : Bool) (k : ℤ × List Byte → Drv α) :
    Admitted size sn ret (recvHeader b sn n nonblocking >>= k) g t := by
  rw [recvHeader, bind_assoc]
  refine (wpv_bind _ _).2 (wpv_get.2 fun m₁ _ => ?_)
  rw [bind_assoc]
  exact admitted_wizRecvData hsn hn _

lemma admitted_recvfromChunk {len : ℕ} (hsn : ¬ sockNum ≤ sn) (hlen : len ≠ 0)
    (hrest : (g.sock sn).remainedSize ≠ 0) (nonblocking : Bool) (out : Received) :
    Admitted size sn Received.ret (recvfromChunk b sn len nonblocking out) g t := by
  refine (wpv_bind _ _).2 (wpv_get.2 ?_)
  rintro m₁ rfl
  have hpack : min len (m₁.sock sn).remainedSize ≠ 0 := by omega
  exact admitted_wizRecvData hsn hpack _

/-- Past the pointer check every kind of packet is read, and the pointer moved. -/
lemma admitted_recvfromPacket {len : ℕ} (hsn : ¬ sockNum ≤ sn) (hlen : len ≠ 0) (packLen : ℕ)
    (mode : Byte) (nonblocking : Bool) :
    Admitted size sn Received.ret (recvfromPacket b sn len packLen mode nonblocking true) g t := by
  have chunk (h : (g.sock sn).remainedSize ≠ 0) (out : Received) :
      Admitted size sn Received.ret (recvfromChunk b sn len nonblocking out) g t :=
    admitted_recvfromChunk hsn hlen h nonblocking out
  have header {n : ℕ} (hn : n ≠ 0) (k : ℤ × List Byte → Drv Received) :
      Admitted size sn Received.ret (recvHeader b sn n nonblocking >>= k) g t :=
    admitted_recvHeader hsn hn nonblocking k
  rw [recvfromPacket, if_neg (by decide)]
  split
  · refine (wpv_bind _ _).2 (wpv_get.2 ?_)
    rintro m₁ rfl
    exact (wpv_ite _ _ _).2 ⟨fun _ => header (by decide) _, fun h => chunk h _⟩
  split
  · refine (wpv_bind _ _).2 (wpv_get.2 ?_)
    rintro m₁ rfl
    exact (wpv_ite _ _ _).2 ⟨fun _ => header (by decide) _, fun h => chunk h _⟩
  · refine (wpv_bind _ _).2 (wpv_get.2 ?_)
    rintro m₁ rfl
    refine (wpv_ite _ _ _).2 ⟨fun _ => header (by decide) _, fun h => ?_⟩
    refine (wpv_bind _ _).2 (wpv_get.2 fun m₂ hm₂ => ?_)
    have hpos : 0 < (m₂.sock sn).remainedSize := by
      rw [hm₂]
      omega
    rw [if_pos hpos]
    exact chunk h _

/-- The received size a steady chip shows to the wait of recvfrom. -/
lemma wpg_recvfromWait_steady {Q : Except ℤ ℕ → Globals → IoTrace → Prop}
    {H : Globals → IoTrace → Prop} {nonblocking : Bool} (hsize : size < 65536) (d : ℕ)
    (packet : size ≠ 0 → ∀ t, Q (.ok size) g t)
    (busy : size = 0 → nonblocking = true ∧ ∀ t, Q (.error sockBusy) g t) :
    wpg (steadyChip sn size) (recvfromWait b sn nonblocking d) Q H g t := by
  have hopen : ¬ sockInit = sockClosed := by decide
  refine (wpv_bind _ _).2 (timed_waitPollInit.wpg ticks_any trivial fun poll t₁ _ => ?_)
  refine wpg_pollLoop_first ((wpv_bind _ _).2 ?_)
  refine wpg_stableSize_steady ticks_any trivial b _ size (fun w x w₁ _ hx => ?_) fun t₂ _ => ?_
  · have hread : x.1 = frameBytes 2 (bytes16 size) := hx.1.2 rfl
    have hlist : x.1.toList = bytes16 size := by
      rw [hread]
      exact toList_frameBytes_two size
    exact ⟨hx.1.1, word16_of_toList hlist hsize, trivial⟩
  · simp only [wpv_bind, wpg_getSnSR, wpv_ite, wpv_pure]
    intro y t₃ hy
    have hinit : y.1 = sockInit := hy.1.2.1 rfl
    rw [hinit]
    refine ⟨fun h => absurd h hopen, fun _ => ⟨fun hne => ⟨_, rfl, packet hne t₃⟩, fun hz => ?_⟩⟩
    obtain ⟨hnb, hbusy⟩ := busy (not_not.1 hz)
    exact ⟨fun _ => ⟨_, rfl, hbusy t₃⟩, fun h => absurd hnb h⟩

/-- Some steady chip lets through every recvfrom that its checks do not stop. -/
lemma admitted_recvfrom {len : ℕ} {addrPort : Bool} (hsn : ¬ sockNum ≤ sn) (hlen : len ≠ 0)
    (hhealthy : (g.sock sn).health ≠ .faulted) (hvalid : g.deadlineConfigValid)
    (h : ¬ ReceiveRefused (g.sock sn) addrPort) :
    ∃ size, ∀ t, Admitted size sn Received.ret (recvfromLocked b sn len addrPort) g t := by
  have hdatagram : Datagram (g.sock sn).mode := by
    by_contra hd
    exact h (.inl hd)
  have hptr : addrPort = false → (g.sock sn).remainedSize = 0 ∧ (g.sock sn).ioMode = true := by
    intro hnull
    have hnot : ¬ ((g.sock sn).remainedSize ≠ 0 ∨ (g.sock sn).ioMode = false) :=
      fun h' => h (.inr ⟨hnull, h'⟩)
    rw [not_or, not_not, Bool.not_eq_false] at hnot
    exact hnot
  refine ⟨if (g.sock sn).ioMode then 0 else 1, fun t => (wpv_bind _ _).2 (wpv_get.2 ?_)⟩
  rintro m₁ rfl
  rw [if_neg hhealthy, if_neg (not_not.2 hvalid)]
  have hmode : ¬ ((m₁.sock sn).mode &&& 0x0F ≠ snMrUdp ∧ (m₁.sock sn).mode &&& 0x0F ≠ snMrIpraw ∧
      (m₁.sock sn).mode &&& 0x0F ≠ snMrIpraw6 ∧ (m₁.sock sn).mode &&& 0x0F ≠ snMrMacraw) := by
    simp only [Datagram] at hdatagram
    tauto
  rw [if_neg hmode]
  refine (wpv_ite _ _ _).2 ⟨fun hempty => ?_, fun hrest => ?_⟩
  · refine (wpv_bind _ _).2 ((timed_deadlineAbs _).wpg ticks_any trivial fun d t₁ _ => ?_)
    refine (wpv_bind _ _).2 (wpg_recvfromWait_steady ?_ d ?_ ?_)
    · split <;> decide
    · intro hne t₂
      have hio : (m₁.sock sn).ioMode = false := by
        cases hio : (m₁.sock sn).ioMode
        · rfl
        · exact absurd (if_pos hio) hne
      have haddr : addrPort = true := by
        cases haddr : addrPort
        · exact absurd ((hptr haddr).2.symm.trans hio) (by decide)
        · rfl
      rw [haddr]
      exact admitted_recvfromPacket hsn hlen _ _ _
    · intro hz
      cases hio : (m₁.sock sn).ioMode
      · rw [hio] at hz
        exact absurd hz (by decide)
      · exact ⟨rfl, fun t₂ => .inl (by decide)⟩
  · have haddr : addrPort = true := by
      cases haddr : addrPort
      · exact absurd (hptr haddr).1 hrest
      · rfl
    rw [haddr]
    exact admitted_recvfromPacket hsn hlen _ _ _

/-- A steady chip that lets a call through is a run that the gate forbids. -/
lemma not_refuses (size : ℕ) {op : Op} {m : Driver} (h : Admitted size sn id (op.run b sn) m.toGlobals []) :
    ¬ Refuses b sn op m := by
  intro hrefuses
  have total := fun (m : Driver) => steadyChip_total sn size m.toGlobals
  obtain ⟨r, m', t', hrun⟩ := exists_eval total (op.run b sn) m []
  have hresult := (wp_iff_eval _).1 (wp_of_wpv h) r m' t' hrun
  have hany : Eval anyChip (op.run b sn) m [] r m' t' :=
    hrun.mono fun _ _ _ _ _ hx => ⟨trivial, hx.2⟩
  obtain ⟨herror, hclean⟩ := hrefuses [] r m' t' hany
  have hsilent : ¬ Wrote t' := by
    rintro ⟨v, hv, hwrite⟩
    rcases hclean.mem hv with hnil | hnot
    · exact absurd hnil (List.not_mem_nil)
    · exact hnot hwrite
  cases r with
  | none => exact hsilent hresult
  | some a =>
    have hneg := herror a rfl
    rcases hresult with hpos | hwrote
    · exact absurd hneg (Int.not_lt.2 hpos)
    · exact hsilent hwrote

lemma stopped_of_refuses {op : Op} {m : Driver} (hop : Gated op) (h : Refuses b sn op m) :
    Stopped sn m.toGlobals op := by
  by_contra hstop
  cases op with
  | listen =>
    obtain ⟨hsn, hrest⟩ := not_or.1 hstop
    obtain ⟨hhealthy, hvalid⟩ := not_or.1 hrest
    refine not_refuses 0 ?_ h
    rw [Op.run, listen, if_neg hsn]
    exact admitted_locked fun t => admitted_listen hhealthy (not_not.1 hvalid)
  | sendto len buf addr port addrlen =>
    obtain ⟨hbuf, hrest⟩ := not_or.1 hstop
    obtain ⟨hsn, hrest⟩ := not_or.1 hrest
    obtain ⟨hfault, hrest⟩ := not_or.1 hrest
    obtain ⟨hhealthy, hrest⟩ := not_or.1 hrest
    obtain ⟨hvalid, hrest⟩ := not_or.1 hrest
    obtain ⟨buf, rfl⟩ := Option.ne_none_iff_exists'.1 hbuf
    refine not_refuses 0 ?_ h
    simp only [Op.run, sendto, if_neg hop, if_neg hsn]
    refine admitted_locked fun t => (wpv_bind _ _).2 (wpv_get.2 fun m₁ hm₁ => ?_)
    rw [← hm₁] at hfault hhealthy hvalid hrest
    rw [if_neg hfault, if_neg hhealthy, if_neg hvalid, ← hm₁]
    refine (wpv_ite _ _ _).2 ⟨fun _ => admitted_sendtoPending, fun hidle => ?_⟩
    exact admitted_sendtoIdle (fun haddr => hrest ⟨hidle, haddr⟩) _ _ _ _
  | recvfrom buf len addrPort =>
    obtain ⟨hbuf, hrest⟩ := not_or.1 hstop
    obtain ⟨hsn, hrest⟩ := not_or.1 hrest
    obtain ⟨hhealthy, hrest⟩ := not_or.1 hrest
    obtain ⟨hvalid, hrest⟩ := not_or.1 hrest
    obtain ⟨size, hbody⟩ := admitted_recvfrom (b := b) hsn hop hhealthy (not_not.1 hvalid) hrest
    refine not_refuses size ?_ h
    have hptr : ¬ ¬ buf = true := by simpa using hbuf
    simp only [Op.run, recvfrom, if_neg hop, if_neg hptr, if_neg hsn]
    exact (wpv_bind _ _).2 (admitted_locked hbody)
  | _ => exact hstop trivial

/-- While the chip is not ready, an operation of the gate is refused on every chip exactly when the
operation looks at the chip state, or when its other checks stop it. -/
theorem refuses_iff_stopped {op : Op} {m : Driver} (hm : m.chipState ≠ .ready) (hop : Gated op) :
    Refuses b sn op m ↔ Stopped sn m.toGlobals op :=
  ⟨stopped_of_refuses hop, refuses_of_stopped hm hop⟩

theorem refuses_iff_stopped_listen : Refuses .oneTurn 0 .listen (Driver.boot 1000 1000) ↔
    Stopped 0 (Driver.boot 1000 1000).toGlobals .listen :=
  refuses_iff_stopped (by decide) trivial

end admitted

section faulted

/-- A chip that opens socket 0; its status register is unreadable in a getsockopt. -/
def answer (c : Call) (t : IoTrace) : (e : Io) → e.Res
  | .read8 a =>
    if a = Reg.versionr then (4, false)
    else if a = Reg.snSR 0 then
      (if t.any fun v => v.call = .write8 (Reg.snCR 0) snCrOpen then sockInit else sockClosed,
        match c with
        | .on _ (.getsockopt _ _) => true
        | _ => false)
    else (0, false)
  | .readBuf _ len => (frameBytes len [192, 168, 0, 2], false)
  | .write8 _ _ | .writeBuf _ _ => false
  | .now => 0
  | .wait | .phyLink _ | .sockLock _ | .sockUnlock _ | .globalLock | .globalUnlock => ()

def faultingChip (c : Call) : Handler Driver IoTrace Io Io.Res := fun m t e =>
  (answer c t e, t ++ [⟨m.toGlobals, e, answer c t e⟩])

/-- A transport failure while a socket is open, after a complete initialisation. -/
@[irreducible] def faultedRun : List (Step Call Driver IoTrace ℤ) × Driver × IoTrace :=
  replay faultingChip (Call.run .oneTurn)
    [.init (some fun _ => 2) (some fun _ => 2), .on 0 (.socket snMrTcp 5000 0),
      .on 0 (.getsockopt .status true)] (Driver.boot 1000 1000) []

/-- The chip is faulted by a failed read, and listen still takes its healthy socket to LISTEN. -/
theorem faulted_chip_listens :
    ¬ ∀ steps m' t', History (fun _ => anyChip) (Call.run .oneTurn) steps (Driver.boot 1000 1000) []
        m' t' → m'.chipState ≠ .ready → ∀ sn op, Gated op → Refuses .oneTurn sn op m' := by
  intro claim
  have hrun : History (fun _ => anyChip) (Call.run .oneTurn) faultedRun.1 (Driver.boot 1000 1000) []
      faultedRun.2.1 faultedRun.2.2 := by
    unfold faultedRun
    exact history_replay (fun _ _ _ _ => ⟨trivial, rfl⟩) _ _ _ _
  have hchip : faultedRun.2.1.chipState ≠ .ready := by
    unfold faultedRun
    decide +kernel
  have hopen : ¬ (sockNum ≤ 0 ∨ (faultedRun.2.1.sock 0).health = .faulted ∨
      ¬ faultedRun.2.1.deadlineConfigValid) := by
    unfold faultedRun
    decide +kernel
  have hgated : Gated .listen := trivial
  exact hopen (stopped_of_refuses hgated (claim _ _ _ hrun hchip 0 .listen hgated))

end faulted

end IoLibrary.Gate
