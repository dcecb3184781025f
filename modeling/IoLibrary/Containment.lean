import IoLibrary.Calls
import IoLibrary.Effects.Exec
import IoLibrary.LifecycleFootprints
import IoLibrary.Socket.DatagramRules

/-! Containment of a faulted socket: what its operations do until the fault is released. -/
namespace IoLibrary.Containment
open Effects

/-- The commands that act on a connection or on the buffers of its socket. -/
def Command (v : Byte) : Prop :=
  v = snCrOpen ∨ v = snCrListen ∨ v = snCrConnect ∨ v = snCrDiscon ∨ v = snCrSend ∨
    v = snCrSendKeep ∨ v = snCrRecv

def InBuffers (sn : ℕ) (a : Addr) : Prop := a.block = .txBuf sn ∨ a.block = .rxBuf sn

/-- The accesses a faulted socket must not see. -/
def Forbidden (sn : ℕ) : Io → Prop
  | .read8 a | .readBuf a _ | .writeBuf a _ => InBuffers sn a
  | .write8 a v => InBuffers sn a ∨ a = Reg.snCR sn ∧ Command v
  | _ => False

/-- Success of a data or lifecycle operation. -/
def Reports (sn : ℕ) (r : ℤ) : Op → Prop
  | .ctlsocket _ _ | .setsockopt _ _ | .getsockopt _ _ => False
  | op => op.Succeeds sn r

/-- A step of a run of the public interface. -/
abbrev Turn := Step Call Driver IoTrace ℤ

/-- What the driver called during a step. -/
def events (s : Turn) : IoTrace := s.post.2.drop s.pre.2.length

/-- The socket is faulted, or a SEND of it may be stuck. -/
def Marked (sn : ℕ) (m : Driver) : Prop :=
  (m.sock sn).health = .faulted ∨ (m.sock sn).txState = .localFault

/-- A read of Sn_SR that answers SOCK_CLOSED. -/
def SeesClosed (sn : ℕ) : Event Globals Io Io.Res → Prop
  | ⟨_, .read8 a, x⟩ => a = Reg.snSR sn ∧ x.1 = sockClosed
  | _ => False

/-- What ends the containment: a reset of the chip that succeeds, or a close that saw the socket
closed in hardware. -/
def Released (sn : ℕ) (s : Turn) : Prop :=
  match s.call with
  | .init _ _ | .swReset => s.result = some 0
  | .on k .close => k = sn ∧ ∃ v ∈ events s, SeesClosed sn v
  | _ => False

/-- An earlier step left the socket marked, and none since has released it. -/
def Unreleased (sn : ℕ) (past : List Turn) : Prop :=
  ∃ before s between, past = before ++ s :: between ∧ Marked sn s.post.1 ∧
    ∀ u ∈ between, ¬ Released sn u

/-- The step keeps away from the hardware and reports no success, unless it releases. -/
def Contained (sn : ℕ) (op : Op) (s : Turn) : Prop :=
  (∀ v ∈ events s, ¬ Forbidden sn v.call) ∧
    (¬ Released sn s → ∀ r, s.result = some r → ¬ Reports sn r op)

/-- The calls that escape: close of a faulted socket, which resets its state without a look at
the chip, and listen on a socket whose fault a failed reset of the chip has cleared. -/
def Escapes (sn : ℕ) (g : Globals) : Call → Prop
  | .on k .close => k = sn ∧ (g.sock sn).health = .faulted ∧ g.deadlineConfigValid
  | .on k .listen => k = sn ∧ (g.sock sn).health ≠ .faulted ∧ g.deadlineConfigValid
  | _ => False

/-- A stuck SEND is a fault. -/
def Sound (sn : ℕ) (s : ℕ → Sock) : Prop :=
  (s sn).txState = .localFault → (s sn).health = .faulted

/-- An unreleased socket is faulted, or cleared while the chip is not ready. -/
def Held (sn : ℕ) (m : Driver) : Prop :=
  (m.sock sn).health = .faulted ∨
    (m.sock sn).mode = 0 ∧ (m.sock sn).txState = .idle ∧ m.chipState ≠ .ready

lemma unreleased_snoc {sn : ℕ} {past : List Turn} {s : Turn} (h : Unreleased sn (past ++ [s])) :
    Marked sn s.post.1 ∨ Unreleased sn past ∧ ¬ Released sn s := by
  obtain ⟨before, f, between, hsplit, hmarked, hkept⟩ := h
  rcases append_cons_of_snoc hsplit with ⟨-, rfl, -⟩ | ⟨between, rfl, hpast⟩
  · exact .inl hmarked
  · refine .inr ⟨⟨before, f, between, hpast, hmarked, fun v hv => hkept v ?_⟩, hkept s ?_⟩
    · simp [hv]
    · simp

section lifecycle
variable {b : Build} {sn : ℕ} {m : Driver} {t : IoTrace}

/-- A lifecycle call clears the socket or leaves it alone, and fails only with a chip that is
faulted or was not touched. -/
def Reset (sn : ℕ) (m : Driver) (r : ℤ) (m' : Driver) : Prop :=
  (m'.sock sn = m.sock sn ∨ m'.sock sn = (m.sock sn).cleared) ∧
    (r ≠ 0 → m' = m ∨ m'.chipState = .faulted)

lemma wp_transaction {body : Drv ℤ} (hbody : Within CacheUpdate (fun _ => True) body) :
    wp anyChip (do
      wizchipTransactionBegin
      let ret ← body
      wizchipTransactionFinish ret) (fun r m' _ => Reset sn m r m') (fun _ _ => True) m t := by
  have keepLocks {p : Drv Unit} (hp : Within (fun _ => False) Locks p) {m : Driver} {t : IoTrace}
      (f : Driver → Prop) (hf : f m) : wp anyChip p (fun _ m _ => f m) (fun m _ => f m) m t :=
    wp_of_within hp (fun m _ => f m) (fun _ h => h.elim) (fun _ _ _ _ _ _ h _ => h) hf
  let socks := fun m' : Driver => m'.sock sn = m.sock sn ∨ m'.sock sn = (m.sock sn).cleared
  simp only [wizchipTransactionBegin, wp_bind, wp_modify]
  have locked := keepLocks (t := t) within_wizchipTransactionLock (fun m' => m' = m) rfl
  refine wp_mono locked ?_ fun _ _ _ => trivial
  intro _ m₁ t₁ hm₁
  rw [hm₁]
  have begun : socks (Driver.socketsReset { m with chipState := .uninit, chipLastError := 0 }) := by
    simp only [socks, Driver.socketsReset]
    split
    · exact .inr rfl
    · exact .inl rfl
  refine wp_mono (wp_of_within hbody (fun m' _ => socks m') (fun f hf m' _ h => ?_)
    (fun _ _ _ _ _ _ h _ => h) begun) (fun ret m' t₂ h => ?_) fun _ _ _ => trivial
  · simp only [socks, (hf m').1]
    exact h
  · simp only [wizchipTransactionFinish, wp_bind, wp_modify, wp_pure]
    refine wp_mono (keepLocks within_wizchipTransactionUnlock socks h) ?_ fun _ _ _ => trivial
    intro _ m' t₃ h
    by_cases hr : ret = 0
    · refine ⟨?_, fun hne => absurd hr hne⟩
      simpa only [Driver.transactionFinished, if_pos hr] using h
    · refine ⟨?_, fun _ => .inr ?_⟩
      · simpa only [Driver.transactionFinished, if_neg hr] using h
      · simp only [Driver.transactionFinished, if_neg hr]

lemma wp_init (txsize rxsize : Option (ℕ → ℕ)) :
    wp anyChip (wizchipInit b txsize rxsize) (fun r m' _ => Reset sn m r m') (fun _ _ => True) m t := by
  have refused : Reset sn m (-1) m := ⟨.inl rfl, fun _ => .inl rfl⟩
  simp only [wizchipInit, wp_ite, wp_pure]
  exact ⟨fun _ => refused, fun _ => ⟨fun _ => refused, fun _ =>
    wp_transaction (within_initLocked (fun _ => cacheUpdate_noise) b cacheUpdate_setMax txsize rxsize
      (fun _ _ => trivial) fun _ _ _ => trivial)⟩⟩

lemma wp_swReset :
    wp anyChip (wizchipSwReset b) (fun r m' _ => Reset sn m r m') (fun _ _ => True) m t := by
  have body : Within CacheUpdate (fun _ => True) (do
      let ret ← wizchipSwResetLocked b
      if ret ≠ 0 then return ret
      let r ← wizchipRefreshSocketCaches b
      return r.getD 0) := by
    refine within_bind (within_wizchipSwResetLocked (fun _ => cacheUpdate_noise) b
      fun _ _ => trivial) fun ret => within_ite (within_pure _) ?_
    exact within_bind (within_wizchipRefreshSocketCaches (fun _ => cacheUpdate_noise) b
      cacheUpdate_setMax fun _ _ => trivial) fun r => within_pure _
  have run : wp anyChip _ (fun r m' _ => Reset sn m r m') (fun _ _ => True) m t :=
    wp_transaction body
  simp only [wp_bind, wp_ite, wp_pure] at run
  simp only [wizchipSwReset, wp_bind, wp_ite]
  exact run

end lifecycle

section sound
variable {b : Build} {sn : ℕ} {m : Driver} {t : IoTrace}

/-- A step of a socket state that cannot leave a stuck SEND without a fault. -/
def SoundStep (s s' : Sock) : Prop :=
  (s.txState = .localFault → s.health = .faulted) → s'.txState = .localFault → s'.health = .faulted

lemma sound_tame (s s' : Sock) (h : Tame True s s') : SoundStep s s' := by
  rcases h with ⟨-, rfl | rfl⟩ | keeps
  · exact fun _ hfault => nomatch hfault
  · exact fun _ hfault => nomatch hfault
  · exact fun hs hfault => keeps.health (hs (keeps.txState.symm.trans hfault))

lemma sound_within {α : Type} {cmd : Byte → Prop} {p : Drv α}
    (hp : WithinSocket SoundStep cmd sn p) (h : Sound sn m.sock) :
    wp anyChip p (fun _ m' _ => Sound sn m'.sock) (fun _ _ => True) m t := by
  have run : wp anyChip p (fun _ m' _ => Sound sn m'.sock) (fun m' _ => Sound sn m'.sock) m t :=
    wp_of_within hp (fun m' _ => Sound sn m'.sock) (fun f hf m' _ h => (hf m').sock h)
      (fun _ _ _ _ _ _ h _ => h) h
  exact wp_mono run (fun _ _ _ h => h) fun _ _ _ => trivial

/-- sendto marks a stuck SEND only after the wait for its command has faulted the socket. -/
lemma sound_sendto {g : Globals} (h : Sound sn g.sock) (buf : List Byte) (len : ℕ)
    (addr : Vector Byte 4) (port addrlen : ℕ) :
    wpg (traceEnv fun _ _ _ => True) (sendtoLocked b sn buf len addr port addrlen)
      (fun _ g' _ => Sound sn g'.sock) (fun _ _ => True) g t := by
  have updated {g : Globals} (f : Sock → Sock) (hf : (f (g.sock sn)).txState ≠ .localFault) :
      Sound sn (g.setSock sn f).sock := by
    intro hfault
    rw [Globals.setSock_same] at hfault
    exact absurd hfault hf
  have faulted {g : Globals} (f : Sock → Sock) (hf : (f (g.sock sn)).health = .faulted) :
      Sound sn (g.setSock sn f).sock := by
    intro _
    rw [Globals.setSock_same]
    exact hf
  refine (wpv_bind _ _).2 (wpv_get.2 ?_)
  rintro m₁ rfl
  simp only [wpv_ite, wpv_pure]
  refine ⟨fun _ => h, fun hlocal => ⟨fun _ => h, fun _ => ⟨fun _ => h, fun hvalid => ⟨?_, ?_⟩⟩⟩⟩
  · intro _
    refine wpg_sendtoPending.2 fun x t₁ _ => ⟨fun _ _ _ _ => updated _ (by rintro ⟨⟩), fun _ _ _ _ _ => ?_, ?_⟩
    · exact updated _ (by rintro ⟨⟩)
    · exact fun _ _ => h
  · intro _
    refine wpg_sendtoIdle (I := fun _ => True) (fun _ _ _ _ _ _ _ => trivial) trivial buf len addr
      port addrlen (fun _ _ _ => h) (fun _ t₁ _ => ?_) fun _ _ => trivial
    have accepted (n : ℕ) : Sound sn (m₁.toGlobals.setSock sn (Sock.accepted n)).sock :=
      updated _ hlocal
    refine wpg_sendtoCommit (I := fun _ => True) (C := fun _ => True) (J := fun _ => True)
      (A := fun _ => True) ?_ (not_not.1 hvalid) trivial
    refine ⟨fun _ _ _ _ _ => trivial, fun _ _ => ?_, fun _ _ _ _ _ => trivial,
      fun _ _ _ _ _ _ _ => trivial, fun _ _ _ _ _ => ⟨fun _ => trivial, fun _ => trivial⟩, ?_,
      fun _ _ => trivial, fun _ _ _ => updated _ (by rintro ⟨⟩), fun _ => ?_⟩
    · refine wpg_wizSendData _ (fun _ => ⟨rfl, trivial⟩) ?_
      exact fun _ _ _ _ _ _ _ _ _ _ _ _ => ⟨rfl, trivial⟩
    · exact fun _ _ => faulted _ rfl
    · exact ⟨fun _ _ _ _ _ _ _ => trivial, fun _ _ _ _ _ _ _ _ _ => accepted _,
        fun _ _ _ _ _ _ _ _ _ _ => accepted _, fun _ _ _ _ _ _ _ => trivial,
        fun _ _ => by
          rw [Globals.setSock_setSock]
          exact faulted _ rfl, fun _ _ => trivial⟩

lemma sound_op (op : Op) (h : Sound sn m.sock) :
    wp anyChip (op.run b sn) (fun _ m' _ => Sound sn m'.sock) (fun _ _ => True) m t := by
  cases op with
  | sendto len buf addr port addrlen =>
    simp only [Op.run, sendto, wp_ite, wp_pure]
    refine ⟨fun _ => h, fun _ => ?_⟩
    cases buf with
    | none => exact h
    | some buf =>
      simp only [wp_ite, wp_pure]
      have body (t₁ : IoTrace) := sound_sendto (b := b) (t := t₁) h buf.toList len addr port addrlen
      have run : wpg (traceEnv fun _ _ _ => True) _ (fun _ g' _ => Sound sn g'.sock)
          (fun _ _ => True) m.toGlobals t :=
        (wpg_locked sn _).2 fun _ t₁ _ => wpv_mono (body t₁) (fun _ _ _ h _ _ _ => h) fun _ _ h => h
      exact ⟨fun _ => h, fun _ => wp_of_wpg run⟩
  | _ =>
    exact sound_within (within_op b sn _ sound_tame (fun _ h => h) (fun _ h => h)
      (by rintro _ _ _ _ _ _ ⟨⟩) (by rintro _ _ _ _ _ ⟨⟩)) h

end sound

section held
variable {b : Build} {sn : ℕ} {m : Driver} {t : IoTrace}

/-- Nothing forbidden was called between the traces. -/
abbrev Safe (sn : ℕ) (t t' : IoTrace) : Prop := Extends (fun v => ¬ Forbidden sn v.call) t t'

lemma held_touches {m m' : Driver} {resets : Prop} (hresets : ¬ resets)
    (h : Touches (Tame resets) sn m m') (hm : Held sn m) : Held sn m' := by
  rcases h.sock with ⟨hreset, -⟩ | keeps
  · exact absurd hreset hresets
  rcases hm with hfault | ⟨hmode, hidle, hchip⟩
  · exact .inl (keeps.health hfault)
  · refine .inr ⟨keeps.mode.trans hmode, keeps.txState.trans hidle, ?_⟩
    rcases h.chip with hsame | hfault
    · rw [hsame]
      exact hchip
    · rw [hfault]
      exact nofun

lemma safe_quiet {cmds : List Byte} (hsafe : ∀ v ∈ cmds, ¬ Command v) (hrecv : snCrRecv ∉ cmds)
    {e : Io} (he : Quiet (· ∈ cmds) sn e) : ¬ Forbidden sn e := by
  have block {a : Addr} (ha : a.block = .socket sn) : ¬ InBuffers sn a := by
    rintro (htx | hrx)
    · exact nomatch ha.symm.trans htx
    · exact nomatch ha.symm.trans hrx
  cases he with
  | read8 ha => exact block ha
  | readBuf ha => exact block (ha.resolve_right fun hrx => hrecv hrx.2)
  | write8 ha command =>
    rintro (hbuf | ⟨hcr, hv⟩)
    · exact block ha hbuf
    · exact hsafe _ (command hcr) hv
  | writeBuf ha => exact block ha
  | now => exact id
  | wait => exact id
  | sockLock => exact id
  | sockUnlock => exact id

/-- An option call leaves a held socket held. -/
lemma held_option {α : Type} {p : Drv α} (hp : WithinQuiet (· ∈ []) sn p) (hm : Held sn m) :
    wp anyChip p (fun _ m' t' => Held sn m' ∧ Safe sn t t') (fun _ t' => Safe sn t t') m t := by
  have run : wp anyChip p (fun _ m' t' => Held sn m' ∧ Safe sn t t')
      (fun m' t' => Held sn m' ∧ Safe sn t t') m t := by
    refine wp_of_within hp (fun m' t' => Held sn m' ∧ Safe sn t t') (fun f hf m' t' h => ?_)
      (fun e he m' t' x t₁ h hx => ?_) ⟨hm, .refl⟩
    · exact ⟨held_touches (by simp) (hf m') h.1, h.2⟩
    · obtain ⟨-, rfl⟩ := hx
      exact ⟨h.1, h.2.snoc (safe_quiet (by simp) (by simp) he)⟩
  exact wp_mono run (fun _ _ _ h => h) fun _ _ h => h.2

/-- A refused call: its result is in `P`, nothing forbidden was called and the socket is held. -/
abbrev WpRefuses {α : Type} (sn : ℕ) (P : α → Prop) (t : IoTrace) (p : Drv α) (m : Driver)
    (t₁ : IoTrace) : Prop :=
  wp anyChip p (fun r m' t' => P r ∧ Held sn m' ∧ Safe sn t t') (fun _ t' => Safe sn t t') m t₁

lemma refused_locked {α : Type} {body : Drv α} {P : α → Prop} {t₁ : IoTrace} (ht₁ : Safe sn t t₁)
    (h : ∀ t₂, Safe sn t t₂ → WpRefuses sn P t body m t₂) :
    WpRefuses sn P t (locked sn body) m t₁ := by
  simp only [WpRefuses, locked, sockLock, sockUnlock, ask, wp_bind, wp_perform, wp_pure]
  rintro x _ ⟨-, rfl⟩
  have hlock : ¬ Forbidden sn (.sockLock sn) := id
  have hunlock : ¬ Forbidden sn (.sockUnlock sn) := id
  refine wp_mono (h _ (ht₁.snoc hlock)) ?_ fun _ _ => id
  rintro r m' t' ⟨hr, hm', ht'⟩ y _ ⟨-, rfl⟩
  exact ⟨hr, hm', ht'.snoc hunlock⟩

/-- A register read on the driver's memory. -/
lemma wp_wizchipRead {a : Addr} {Q : Byte → Driver → IoTrace → Prop} {H : Driver → IoTrace → Prop}
    (h : ∀ x m', m'.toGlobals = m.toGlobals →
      (m'.chipState = m.chipState ∨ m'.chipState = .faulted) →
      Q x.1 m' (t ++ [⟨m.toGlobals, .read8 a, x⟩])) :
    wp anyChip (wizchipRead b a) Q H m t := by
  simp only [wizchipRead, wizchipRead8CheckedOut, wp_bind, wp_perform, wp_pure]
  rintro x _ ⟨-, rfl⟩
  simp only [readStatus, wizchipSpiFault, wp_ite, wp_bind, wp_get, wp_modify, wp_pure]
  refine ⟨fun _ => ⟨fun _ => h x _ rfl (.inr rfl), fun _ => h x _ rfl (.inl rfl)⟩, fun _ => ?_⟩
  exact ⟨fun _ => h x _ rfl (.inl rfl), fun _ => ⟨fun _ => h x _ rfl (.inr rfl),
    fun _ => h x _ rfl (.inl rfl)⟩⟩

lemma held_ready {m : Driver} (hm : Held sn m) (hready : m.chipState = .ready) :
    (m.sock sn).health = .faulted := by
  rcases hm with hfault | ⟨-, -, hchip⟩
  · exact hfault
  · exact absurd hready hchip

lemma held_noise {m' : Driver} (hm : Held sn m) (hsock : m'.sock sn = m.sock sn)
    (hchip : m'.chipState = m.chipState ∨ m'.chipState = .faulted) : Held sn m' := by
  rcases hm with hfault | ⟨hmode, hidle, hnot⟩
  · left
    rw [hsock]
    exact hfault
  · right
    rw [hsock]
    refine ⟨hmode, hidle, ?_⟩
    rcases hchip with hsame | hfault
    · rw [hsame]
      exact hnot
    · rw [hfault]
      exact nofun

lemma refused_here {α : Type} {r : α} {P : α → Prop} (hr : P r) (hm : Held sn m)
    {t₁ : IoTrace} (ht : Safe sn t t₁) : WpRefuses sn P t (pure r) m t₁ := ⟨hr, hm, ht⟩

lemma refused_socket (hm : Held sn m) (protocol : Byte) (port : ℕ) (flag : Byte) :
    WpRefuses sn (· < 0) t (socket b sn protocol port flag) m t := by
  have hread : ¬ Forbidden sn (.read8 (Reg.snSR sn)) := by
    rintro (h | h) <;> cases h
  unfold socket
  cases hcheck : socketArgCheck sn protocol flag with
  | some e => exact refused_here (socketArgCheck_neg hcheck) hm .refl
  | none =>
    simp only [WpRefuses, wp_bind, wp_pure, wp_get, wp_ite, wp_modify]
    refine ⟨fun _ => ⟨by decide, held_noise hm rfl (.inl rfl), .refl⟩, fun hready => ?_⟩
    have hfault := held_ready hm (not_not.1 hready)
    refine wp_wizchipRead fun x m₁ hm₁ _ => ?_
    have ht₁ : Safe sn t (t ++ [⟨m.toGlobals, .read8 (Reg.snSR sn), x⟩]) := Extends.refl.snoc hread
    have source : wp anyChip (sourcePort port)
        (fun _ m' t' => (m'.sock sn).health = .faulted ∧ Safe sn t t')
        (fun m' t' => (m'.sock sn).health = .faulted ∧ Safe sn t t') m₁
        (t ++ [⟨m.toGlobals, .read8 (Reg.snSR sn), x⟩]) := by
      refine wp_of_within (within_sourcePort port)
        (fun m' t' => (m'.sock sn).health = .faulted ∧ Safe sn t t') (fun f hf m' t' h => ?_)
        (fun e he m' t' x t₁ h hx => ?_) ⟨by rw [hm₁]; exact hfault, ht₁⟩
      · obtain ⟨p, hp⟩ := hf m'
        rw [hp]
        exact h
      · obtain ⟨-, rfl⟩ := hx
        refine ⟨h.1, h.2.snoc ?_⟩
        rcases he with rfl | rfl
        · exact id
        · exact id
    refine wp_mono source (fun port m₂ t₂ h => refused_locked h.2 fun t₃ ht₃ => ?_) fun _ _ h => h.2
    refine (wp_bind _ _).2 (wp_get.2 ?_)
    rw [if_pos h.1]
    exact refused_here (by decide) (.inl h.1) ht₃

/-- A body that starts with the chip gate and then looks at the health. -/
lemma refused_gate {α : Type} {body : Driver → Drv α} {P : α → Prop} {e e' : α} (he : P e)
    (he' : P e') (hm : Held sn m) {t₁ : IoTrace} (ht₁ : Safe sn t t₁) :
    WpRefuses sn P t (do
      let m ← Prog.get
      if m.chipState ≠ .ready then return e
      if (m.sock sn).health = .faulted then return e'
      body m) m t₁ := by
  simp only [WpRefuses, wp_bind, wp_get, wp_ite, wp_pure]
  refine ⟨fun _ => ⟨he, hm, ht₁⟩, fun hready => ⟨fun _ => ⟨he', hm, ht₁⟩, fun hhealthy => ?_⟩⟩
  exact absurd (held_ready hm (not_not.1 hready)) hhealthy

lemma refused_connect (hm : Held sn m) (addr : Option (Vector Byte 4)) (port addrlen : ℕ) :
    WpRefuses sn (· ≤ 0) t (connect b sn addr port addrlen) m t := by
  have refuse {r : ℤ} (hr : r ≤ 0) : WpRefuses sn (· ≤ 0) t (pure r) m t := refused_here hr hm .refl
  simp only [WpRefuses, connect, wp_ite]
  refine ⟨fun _ => refuse (by decide), fun _ => ?_⟩
  cases addr with
  | none => exact refuse (by decide)
  | some addr =>
    simp only [wp_ite]
    refine ⟨fun _ => refuse (by decide), fun _ => ⟨fun _ => refuse (by decide), fun _ => ?_⟩⟩
    refine ⟨fun _ => refuse (by decide), fun _ => refused_locked .refl fun t₂ ht₂ => ?_⟩
    exact refused_gate (by decide) (by decide) hm ht₂

lemma refused_disconnect (hm : Held sn m) : WpRefuses sn (· ≤ 0) t (disconnect b sn) m t := by
  simp only [WpRefuses, disconnect, wp_ite]
  refine ⟨fun _ => refused_here (by decide) hm .refl, fun _ => refused_locked .refl fun t₂ ht₂ => ?_⟩
  exact refused_gate (by decide) (by decide) hm ht₂

/-- A body that looks at the health before anything else. -/
lemma refused_health {α : Type} {body : Driver → Drv α} {P : α → Prop} {e : α} (he : P e)
    (hfault : (m.sock sn).health = .faulted) {t₁ : IoTrace} (ht₁ : Safe sn t t₁) :
    WpRefuses sn P t (do
      let m ← Prog.get
      if (m.sock sn).health = .faulted then return e
      body m) m t₁ := by
  refine (wp_bind _ _).2 (wp_get.2 ?_)
  rw [if_pos hfault]
  exact refused_here he (.inl hfault) ht₁

lemma refused_send (hm : Held sn m) (len : ℕ) (buf : Option (Vector Byte len)) :
    WpRefuses sn (· ≤ 0) t (send b sn len buf) m t := by
  have refuse {r : ℤ} (hr : r ≤ 0) : WpRefuses sn (· ≤ 0) t (pure r) m t := refused_here hr hm .refl
  simp only [WpRefuses, send, wp_ite]
  refine ⟨fun _ => refuse (by decide), fun _ => ?_⟩
  cases buf with
  | none => exact refuse (by decide)
  | some buf =>
    simp only [wp_bind, wp_get, wp_ite]
    refine ⟨fun _ => refuse (by decide), fun _ => ⟨fun _ => refuse (by decide), fun hready => ?_⟩⟩
    refine refused_locked .refl fun t₂ ht₂ => ?_
    exact refused_health (by decide) (held_ready hm (not_not.1 hready)) ht₂

lemma refused_recv (hm : Held sn m) (buf : Bool) (len : ℕ) :
    WpRefuses sn (fun r => r.1 ≤ 0) t (recv b sn buf len) m t := by
  have refuse {r : ℤ × List Byte} (hr : r.1 ≤ 0) :
      WpRefuses sn (fun r => r.1 ≤ 0) t (pure r) m t := refused_here hr hm .refl
  simp only [WpRefuses, recv, wp_ite]
  refine ⟨fun _ => refuse (by decide), fun _ => ⟨fun _ => refuse (by decide), fun _ => ?_⟩⟩
  simp only [wp_bind, wp_get, wp_ite]
  refine ⟨fun _ => refuse (by decide), fun _ => ⟨fun _ => refuse (by decide), fun hready => ?_⟩⟩
  refine refused_locked .refl fun t₂ ht₂ => ?_
  exact refused_health (by decide) (held_ready hm (not_not.1 hready)) ht₂

lemma refused_sendto (hm : Held sn m) (len : ℕ) (buf : Option (Vector Byte len))
    (addr : Vector Byte 4) (port addrlen : ℕ) :
    WpRefuses sn (· ≤ 0) t (sendto b sn len buf addr port addrlen) m t := by
  have refuse {r : ℤ} (hr : r ≤ 0) {t₁ : IoTrace} (ht₁ : Safe sn t t₁) :
      WpRefuses sn (· ≤ 0) t (pure r) m t₁ := refused_here hr hm ht₁
  simp only [WpRefuses, sendto, wp_ite]
  refine ⟨fun _ => refuse (by decide) .refl, fun _ => ?_⟩
  cases buf with
  | none => exact refuse (by decide) .refl
  | some buf =>
    simp only [wp_ite]
    refine ⟨fun _ => refuse (by decide) .refl, fun _ => refused_locked .refl fun t₂ ht₂ => ?_⟩
    simp only [WpRefuses, sendtoLocked, sendtoIdle, sendtoAddress, wp_bind, wp_get, wp_ite]
    refine ⟨fun _ => refuse (by decide) ht₂, fun _ => ⟨fun _ => refuse (by decide) ht₂, ?_⟩⟩
    intro hhealthy
    obtain ⟨hmode, hidle, -⟩ := hm.resolve_left hhealthy
    refine ⟨fun _ => refuse (by decide) ht₂, fun _ => ⟨fun hpending => ?_, fun _ => ⟨fun _ => ?_, ?_⟩⟩⟩
    · cases hidle.symm.trans hpending
    · exact refuse (by decide) ht₂
    · intro hdatagram
      rw [hmode] at hdatagram
      exact absurd (by decide) hdatagram

lemma refused_recvfrom (hm : Held sn m) (buf : Bool) (len : ℕ) (addrPort : Bool) :
    WpRefuses sn (fun r => r.ret ≤ 0) t (recvfrom b sn buf len addrPort) m t := by
  have refuse {r : Received} (hr : r.ret ≤ 0) {t₁ : IoTrace} (ht₁ : Safe sn t t₁) :
      WpRefuses sn (fun r => r.ret ≤ 0) t (pure r) m t₁ := refused_here hr hm ht₁
  simp only [WpRefuses, recvfrom, wp_ite]
  refine ⟨fun _ => refuse (by decide) .refl, fun _ => ⟨fun _ => refuse (by decide) .refl, fun _ => ?_⟩⟩
  refine ⟨fun _ => refuse (by decide) .refl, fun _ => refused_locked .refl fun t₂ ht₂ => ?_⟩
  simp only [WpRefuses, recvfromLocked, wp_bind, wp_get, wp_ite]
  refine ⟨fun _ => refuse (by decide) ht₂, fun hhealthy => ⟨fun _ => refuse (by decide) ht₂, ?_⟩⟩
  obtain ⟨hmode, -, -⟩ := hm.resolve_left hhealthy
  refine fun _ => ⟨fun _ => refuse (by decide) ht₂, fun hdatagram => ?_⟩
  rw [hmode] at hdatagram
  exact absurd (by decide) hdatagram

/-- listen on a held socket stops before its command, unless it escapes. -/
lemma refused_listen (hm : Held sn m) (h : ¬ Escapes sn m.toGlobals (.on sn .listen)) :
    WpRefuses sn (· ≤ 0) t (listen b sn) m t := by
  simp only [WpRefuses, listen, wp_ite]
  refine ⟨fun _ => refused_here (by decide) hm .refl, fun _ => refused_locked .refl fun t₂ ht₂ => ?_⟩
  simp only [WpRefuses, listenLocked, wp_bind, wp_get, wp_ite]
  refine ⟨fun _ => refused_here (by decide) hm ht₂, fun hhealthy => ?_⟩
  have hinvalid : ¬ m.deadlineConfigValid := fun hvalid => h ⟨rfl, hhealthy, hvalid⟩
  refine wp_wizchipRead fun x m₁ hm₁ hchip => ?_
  have hread : ¬ Forbidden sn (.read8 (Reg.snSR sn)) := by
    rintro (h | h) <;> cases h
  have ht₃ := ht₂.snoc (v := ⟨m.toGlobals, .read8 (Reg.snSR sn), x⟩) hread
  have hm' : Held sn m₁ := held_noise hm (congrArg (fun g : Globals => g.sock sn) hm₁) hchip
  simp only [wp_ite, wp_bind, wp_get, sockDeadlineBegin, hm₁]
  refine ⟨fun _ => refused_here (by decide) hm' ht₃, fun _ => ⟨fun hvalid => ?_, fun _ => ?_⟩⟩
  · exact absurd hvalid hinvalid
  · exact refused_here (by decide) hm' ht₃

lemma refused_setsockopt_keepalivesend (hm : Held sn m) (arg : Option ArgMem) :
    WpRefuses sn (fun _ => True) t (setsockopt b sn .keepalivesend arg) m t := by
  have refuse {r : ℤ} {t₁ : IoTrace} (ht₁ : Safe sn t t₁) :
      WpRefuses sn (fun _ => True) t (pure r) m t₁ := refused_here trivial hm ht₁
  simp only [WpRefuses, setsockopt, wp_ite]
  refine ⟨fun _ => refuse .refl, fun _ => ⟨fun _ => refuse .refl, fun _ => ?_⟩⟩
  refine refused_locked .refl fun t₂ ht₂ => ?_
  simp only [WpRefuses, setsockoptLocked, keepaliveSend, wp_bind, wp_get, wp_ite]
  refine ⟨fun _ => refuse ht₂, fun hhealthy => ⟨fun _ => refuse ht₂, fun htcp => ?_⟩⟩
  obtain ⟨hmode, -, -⟩ := hm.resolve_left hhealthy
  rw [hmode] at htcp
  exact absurd (by decide) htcp

/-- Since `t`, a read of Sn_SR has answered SOCK_CLOSED. -/
def Seen (sn : ℕ) (t t' : IoTrace) : Prop :=
  ∃ before v after, t' = t ++ before ++ v :: after ∧ SeesClosed sn v

lemma Seen.snoc {t' : IoTrace} (h : Seen sn t t') (v : Event Globals Io Io.Res) :
    Seen sn t (t' ++ [v]) := by
  obtain ⟨before, u, after, rfl, hu⟩ := h
  exact ⟨before, u, after ++ [v], by simp, hu⟩

lemma seen_last {t' : IoTrace} {v : Event Globals Io Io.Res} (h : Safe sn t t')
    (hv : SeesClosed sn v) : Seen sn t (t' ++ [v]) := by
  obtain ⟨added, rfl, -⟩ := h
  exact ⟨added, v, [], by simp, hv⟩

lemma safe_close {e : Io} (he : CloseIo sn e) : ¬ Forbidden sn e := by
  have buffers {a : Addr} (ha : a.block = .socket sn) : ¬ InBuffers sn a := by
    rintro (htx | hrx)
    · exact nomatch ha.symm.trans htx
    · exact nomatch ha.symm.trans hrx
  cases he with
  | status => exact buffers rfl
  | command =>
    rintro (hbuf | ⟨-, hv⟩)
    · exact buffers rfl hbuf
    · revert hv
      unfold Command
      decide
  | accepted => exact buffers rfl
  | clear =>
    rintro (hbuf | ⟨hcr, -⟩)
    · exact buffers rfl hbuf
    · simp [Reg.snIR, Reg.snCR] at hcr
  | now => exact id
  | wait => exact id

/-- The close of a socket that is not faulted looks at the hardware, or faults the socket. -/
lemma wpg_closeInternal_sees {g : Globals} (hsn : sn < sockNum)
    (hhealthy : (g.sock sn).health ≠ .faulted) {t₁ : IoTrace} (ht₁ : Safe sn t t₁) :
    wpg (traceEnv fun _ _ _ => True) (closeInternal b sn 0)
      (fun r g' t' => Safe sn t t' ∧
        (Seen sn t t' ∨ r = sockerrTimeout ∧ (g'.sock sn).health = .faulted))
      (fun _ t' => Safe sn t t') g t₁ := by
  have calls : ∀ e, CloseIo sn e → ∀ t' x t'', Safe sn t t' →
      traceEnv (fun _ _ _ => True) g t' e x t'' → Safe sn t t'' := by
    rintro e he t' x _ ht' ⟨-, rfl⟩
    exact ht'.snoc (safe_close he)
  have ticks : Ticks (traceEnv fun _ _ _ => True) g (Safe sn t) := ticks_of_close calls
  have seen {t' t'' : IoTrace} {x : Byte × Bool} (ht' : Safe sn t t')
      (hx : traceEnv (fun _ _ _ => True) g t' (.read8 (Reg.snSR sn)) x t'')
      (hclosed : x.1 = sockClosed) : Seen sn t t'' := by
    obtain ⟨-, rfl⟩ := hx
    exact seen_last ht' ⟨rfl, hclosed⟩
  have same : ∃ f, g = g.setSock sn f := ⟨id, by simp [Globals.setSock]⟩
  refine wpg_closeInternal (P := fun r t' => Safe sn t t' ∧ (Seen sn t t' ∨ r = sockerrTimeout))
    ticks ht₁ hsn 0 (fun d t₂ ht₂ => ?_) (fun _ t₂ ht₂ => ⟨ht₂, .inr rfl⟩) fun r t₂ hP => ?_
  · simp only [closeCommand, waitCrAccepted, waitSrReached, wpv_bind, wpv_get, wpv_ite, wpv_pure,
      wpg_getSnSR, wpg_setSnCR, wpg_setSnIR]
    rintro m rfl
    refine ⟨fun hfault => absurd hfault hhealthy, fun _ x t₃ hx => ?_⟩
    have ht₃ := calls _ .status t₂ x t₃ ht₂ hx
    refine ⟨fun hclosed => ⟨same, ht₃, .inl (seen ht₂ hx hclosed)⟩, fun _ y t₄ hy => ?_⟩
    have ht₄ := calls _ .command t₃ y t₄ ht₃ hy
    refine wpg_waitRegister ticks ht₄ _ _ d (fun t' x t'' ht' hx => ?_) (fun t' ht' => ?_)
      fun _ h => h
    · have ht'' := calls _ .accepted t' x t'' ht' hx
      refine ⟨fun _ => ⟨fun hne => absurd rfl hne, fun _ z t₅ hz => ?_⟩, fun _ => ht''⟩
      have ht₅ := calls _ .clear t'' z t₅ ht'' hz
      refine wpg_waitRegister ticks ht₅ _ _ d (fun t' x t'' ht' hx => ?_) (fun t' ht' => ?_)
        fun _ h => h
      · have ht'' := calls _ .status t' x t'' ht' hx
        exact ⟨fun hclosed => ⟨same, ht'', .inl (seen ht' hx hclosed)⟩, fun _ => ht''⟩
      · exact ⟨⟨_, rfl⟩, ht', .inr rfl⟩
    · exact ⟨fun _ => ⟨⟨_, rfl⟩, ht', .inr rfl⟩, fun hne => absurd (by decide) hne⟩
  · obtain ⟨hsafe, hseen | rfl⟩ := hP
    · exact ⟨hsafe, .inl hseen⟩
    · refine ⟨hsafe, .inr ⟨rfl, ?_⟩⟩
      rw [Globals.setSock_same]
      rfl

lemma held_close (hm : Held sn m) (h : ¬ Escapes sn m.toGlobals (.on sn .close)) :
    wp anyChip (close b sn) (fun r m' t' => Safe sn t t' ∧ (Seen sn t t' ∨ r ≤ 0 ∧ Held sn m'))
      (fun _ t' => Safe sn t t') m t := by
  have hlock : ¬ Forbidden sn (.sockLock sn) := id
  have hunlock : ¬ Forbidden sn (.sockUnlock sn) := id
  simp only [close, wp_ite, wp_pure]
  refine ⟨fun _ => ⟨.refl, .inr ⟨by decide, hm⟩⟩, fun hsn => ?_⟩
  have body (t₁ : IoTrace) (ht₁ : Safe sn t t₁) :
      wp anyChip (closeInternal b sn 0)
        (fun r m' t' => Safe sn t t' ∧ (Seen sn t t' ∨ r ≤ 0 ∧ Held sn m'))
        (fun _ t' => Safe sn t t') m t₁ := by
    by_cases hfault : (m.sock sn).health = .faulted
    · have hinvalid : ¬ m.deadlineConfigValid := fun hvalid => h ⟨rfl, hfault, hvalid⟩
      simp only [closeInternal, sockDeadlineBegin, closeClearState, sockStateReset, markFaulted,
        modifySock, wp_ite, wp_bind, wp_get, wp_pure, wp_modify]
      refine ⟨fun h => absurd h hsn, fun _ => ⟨fun _ => ⟨fun h => absurd h hinvalid, fun _ => ?_⟩, ?_⟩⟩
      · refine ⟨fun _ => ⟨ht₁, .inr ⟨by decide, .inl ?_⟩⟩, fun hne => absurd trivial hne⟩
        simp only [Driver.setSock, Globals.setSock_setSock, Globals.setSock_same]
        rfl
      · exact fun hne => absurd trivial hne
    · refine wp_mono (wp_of_wpg (wpg_closeInternal_sees (Nat.not_le.1 hsn) hfault ht₁)) ?_
        fun _ _ h => h
      rintro r m' t' ⟨hsafe, hseen | ⟨rfl, hfault'⟩⟩
      · exact ⟨hsafe, .inl hseen⟩
      · exact ⟨hsafe, .inr ⟨by decide, .inl hfault'⟩⟩
  simp only [locked, sockLock, sockUnlock, ask, wp_bind, wp_perform, wp_pure]
  rintro x _ ⟨-, rfl⟩
  refine wp_mono (body _ (Extends.refl.snoc hlock)) ?_ fun _ _ => id
  rintro r m' t' ⟨hsafe, hrest⟩ y _ ⟨-, rfl⟩
  exact ⟨hsafe.snoc hunlock, hrest.imp_left fun hseen => hseen.snoc _⟩

/-- An operation on a held socket that does not escape. -/
lemma held_op {op : Op} (hm : Held sn m) (h : ¬ Escapes sn m.toGlobals (.on sn op)) :
    wp anyChip (op.run b sn)
      (fun r m' t' => Safe sn t t' ∧ (op = .close ∧ Seen sn t t' ∨ ¬ Reports sn r op ∧ Held sn m'))
      (fun _ t' => Safe sn t t') m t := by
  have refused {p : Drv ℤ} {P : ℤ → Prop} (hP : ∀ r, P r → ¬ Reports sn r op)
      (hp : WpRefuses sn P t p m t) : wp anyChip p (fun r m' t' => Safe sn t t' ∧
        (op = .close ∧ Seen sn t t' ∨ ¬ Reports sn r op ∧ Held sn m'))
        (fun _ t' => Safe sn t t') m t :=
    wp_mono hp (fun r _ _ h => ⟨h.2.2, .inr ⟨hP r h.1, h.2.1⟩⟩) fun _ _ h => h
  have notOk {r : ℤ} (hr : r ≤ 0) : r ≠ sockOk := by
    rintro rfl
    exact absurd hr (by decide)
  cases op with
  | socket protocol port flag =>
    refine refused (fun r hr => ?_) (refused_socket hm protocol port flag)
    rintro rfl
    exact absurd hr (Int.not_lt.2 (Int.natCast_nonneg sn))
  | close =>
    refine wp_mono (held_close hm h) (fun r m' t' h => ⟨h.1, ?_⟩) fun _ _ h => h
    exact h.2.imp (fun hseen => ⟨rfl, hseen⟩) fun hr => ⟨notOk hr.1, hr.2⟩
  | listen => exact refused (fun _ => notOk) (refused_listen hm h)
  | connect addr port addrlen => exact refused (fun _ => notOk) (refused_connect hm addr port addrlen)
  | disconnect => exact refused (fun _ => notOk) (refused_disconnect hm)
  | send len buf => exact refused (fun _ => Int.not_lt.2) (refused_send hm len buf)
  | recv buf len =>
    have run := refused_recv (b := b) (t := t) hm buf len
    exact refused (fun _ => Int.not_lt.2) ((wp_bind _ _).2 run)
  | sendto len buf addr port addrlen =>
    exact refused (fun _ => Int.not_lt.2) (refused_sendto hm len buf addr port addrlen)
  | recvfrom buf len addrPort =>
    have run := refused_recvfrom (b := b) (t := t) hm buf len addrPort
    exact refused (fun _ => Int.not_lt.2) ((wp_bind _ _).2 run)
  | ctlsocket cstype arg =>
    have hquiet := quiet_op b (k := sn) (.ctlsocket cstype arg) trivial
    refine wp_mono (held_option hquiet hm) (fun r _ _ h => ⟨h.2, .inr ⟨id, h.1⟩⟩) fun _ _ h => h
  | getsockopt sotype arg =>
    have hquiet := quiet_op b (k := sn) (.getsockopt sotype arg) trivial
    refine wp_mono (held_option hquiet hm) (fun r _ _ h => ⟨h.2, .inr ⟨id, h.1⟩⟩) fun _ _ h => h
  | setsockopt sotype arg =>
    by_cases hkeep : sotype = .keepalivesend
    · rw [hkeep]
      refine wp_mono (refused_setsockopt_keepalivesend hm arg) ?_ fun _ _ h => h
      exact fun r _ _ h => ⟨h.2.2, .inr ⟨id, h.2.1⟩⟩
    · have hcommands : (Op.setsockopt sotype arg).commands = [] := by
        cases sotype <;> first | rfl | exact absurd rfl hkeep
      have hquiet := quiet_op b (k := sn) (.setsockopt sotype arg) trivial
      rw [hcommands] at hquiet
      refine wp_mono (held_option hquiet hm) ?_ fun _ _ h => h
      exact fun r _ _ h => ⟨h.2, .inr ⟨id, h.1⟩⟩

end held

section runs
variable {b : Build} {sn : ℕ} {m : Driver} {t : IoTrace}

lemma events_of_extends {P : Event Globals Io Io.Res → Prop} {c : Call} {r : Option ℤ}
    {m' : Driver} {t' : IoTrace} (h : Extends P t t') :
    ∀ v ∈ events ⟨c, (m, t), r, (m', t')⟩, P v := by
  obtain ⟨added, rfl, hP⟩ := h
  intro v hv
  simp only [events, List.drop_left] at hv
  exact hP v hv

lemma released_of_seen {r : Option ℤ} {m' : Driver} {t' : IoTrace} (h : Seen sn t t') :
    Released sn ⟨.on sn .close, (m, t), r, (m', t')⟩ := by
  obtain ⟨before, v, after, rfl, hv⟩ := h
  refine ⟨rfl, v, ?_, hv⟩
  simp [events]

lemma step_sound (c : Call) (h : Sound sn m.sock) :
    wp anyChip (c.run b) (fun _ m' _ => Sound sn m'.sock) (fun _ _ => True) m t := by
  have reset {r : ℤ} {m' : Driver} (hreset : Reset sn m r m') : Sound sn m'.sock := by
    intro hfault
    rcases hreset.1 with hsame | hcleared
    · rw [hsame] at hfault ⊢
      exact h hfault
    · rw [hcleared] at hfault
      exact nomatch hfault
  cases c with
  | init txsize rxsize =>
    exact wp_mono (wp_init txsize rxsize) (fun _ _ _ => reset) fun _ _ _ => trivial
  | swReset => exact wp_mono wp_swReset (fun _ _ _ => reset) fun _ _ _ => trivial
  | on k op =>
    by_cases hk : k = sn
    · rw [hk]
      exact sound_op op h
    · have run : wp anyChip (op.run b k) (fun _ m' _ => Sound sn m'.sock)
          (fun m' _ => Sound sn m'.sock) m t := by
        refine wp_of_within (within_others b k op) (fun m' _ => Sound sn m'.sock) (fun f hf m' _ h => ?_)
          (fun _ _ _ _ _ _ h _ => h) h
        simp only [Sound, (hf m').others sn (Ne.symm hk)]
        exact h
      exact wp_mono run (fun _ _ _ h => h) fun _ _ _ => trivial

/-- One step on a held socket: what it does is contained, and only a release lets go. -/
lemma step_held (c : Call) (hm : Held sn m) (h : ¬ Escapes sn m.toGlobals c) :
    wp anyChip (c.run b)
      (fun a m' t' => (∀ op, c = .on sn op → Contained sn op ⟨c, (m, t), some a, (m', t')⟩) ∧
        (¬ Released sn ⟨c, (m, t), some a, (m', t')⟩ → Held sn m'))
      (fun m' t' => ∀ op, c = .on sn op → Contained sn op ⟨c, (m, t), none, (m', t')⟩) m t := by
  have reset {c : Call} {r : ℤ} {m' : Driver} {t' : IoTrace} (hreset : Reset sn m r m')
      (hc : r = 0 → Released sn ⟨c, (m, t), some r, (m', t')⟩) :
      ¬ Released sn ⟨c, (m, t), some r, (m', t')⟩ → Held sn m' := by
    intro hkept
    rcases hreset.2 fun hr => hkept (hc hr) with rfl | hchip
    · exact hm
    · rcases hreset.1 with hsame | hcleared
      · exact held_noise hm hsame (.inr hchip)
      · refine .inr ⟨?_, ?_, ?_⟩
        · rw [hcleared]
          rfl
        · rw [hcleared]
          rfl
        · rw [hchip]
          exact nofun
  cases c with
  | init txsize rxsize =>
    refine wp_mono (wp_init txsize rxsize) (fun r m' t' hr => ⟨nofun, reset hr ?_⟩) fun _ _ _ => nofun
    rintro rfl
    exact rfl
  | swReset =>
    refine wp_mono wp_swReset (fun r m' t' hr => ⟨nofun, reset hr ?_⟩) fun _ _ _ => nofun
    rintro rfl
    exact rfl
  | on k op =>
    by_cases hk : k = sn
    · rw [hk] at h ⊢
      refine wp_mono (held_op hm h) ?_ ?_
      · rintro r m' t' ⟨hsafe, ⟨rfl, hseen⟩ | ⟨hreports, hheld⟩⟩
        · have hreleased : Released sn ⟨.on sn .close, (m, t), some r, (m', t')⟩ :=
            released_of_seen hseen
          refine ⟨?_, fun hkept => absurd hreleased hkept⟩
          rintro _ ⟨⟩
          exact ⟨events_of_extends hsafe, fun hkept => absurd hreleased hkept⟩
        · refine ⟨?_, fun _ => hheld⟩
          rintro _ ⟨⟩
          refine ⟨events_of_extends hsafe, ?_⟩
          rintro - _ ⟨⟩
          exact hreports
      · rintro m' t' hsafe _ ⟨⟩
        exact ⟨events_of_extends hsafe, fun _ _ => nofun⟩
    · have other : ∀ op', Call.on k op ≠ .on sn op' := by
        rintro _ ⟨⟩
        exact hk rfl
      have run : wp anyChip (op.run b k) (fun _ m' _ => Held sn m') (fun m' _ => Held sn m') m t := by
        refine wp_of_within (within_others b k op) (fun m' _ => Held sn m') (fun f hf m' _ h => ?_)
          (fun _ _ _ _ _ _ h _ => h) hm
        exact held_noise h ((hf m').others sn (Ne.symm hk)) (hf m').chip
      refine wp_mono run (fun _ _ _ h => ⟨?_, fun _ => h⟩) fun _ _ _ => ?_
      · exact fun op' hop => absurd hop (other op')
      · exact fun op' hop => absurd hop (other op')

/-- In every run from power-up whose calls on an unreleased socket do not escape, each operation on
an unreleased socket is contained. -/
theorem unreleased_contained {steps : List Turn} {m' : Driver} {t' : IoTrace}
    (run : History (fun _ => anyChip) (Call.run b) steps m t m' t')
    (fresh : m.sock sn = Sock.boot)
    (careful : ∀ before s after, steps = before ++ s :: after → Unreleased sn before →
      ¬ Escapes sn s.pre.1.toGlobals s.call) :
    ∀ before s after, steps = before ++ s :: after → Unreleased sn before →
      ∀ op, s.call = .on sn op → Contained sn op s := by
  have start : ¬ Unreleased sn [] := by
    rintro ⟨before, s, between, hsplit, -⟩
    simp at hsplit
  have sound : Sound sn m.sock := by
    rw [Sound, fresh]
    exact nofun
  refine (history_rule (fun past c m _ => Unreleased sn past → ¬ Escapes sn m.toGlobals c)
    (fun past m _ => Sound sn m.sock ∧ (Unreleased sn past → Held sn m))
    (fun past s => Unreleased sn past → ∀ op, s.call = .on sn op → Contained sn op s)
    (fun past c m t hok hI => ?_) run [] careful ⟨sound, fun h => absurd h start⟩).1
  obtain ⟨hsound, hheld⟩ := hI
  have next {s : Turn} {m' : Driver} (hs : s.post.1 = m') (hsound' : Sound sn m'.sock)
      (hkeep : Unreleased sn past → ¬ Released sn s → Held sn m') :
      Unreleased sn (past ++ [s]) → Held sn m' := by
    intro hun
    rcases unreleased_snoc hun with hmarked | ⟨hpast, hkept⟩
    · rw [hs] at hmarked
      exact .inl (hmarked.elim id hsound')
    · exact hkeep hpast hkept
  by_cases hpast : Unreleased sn past
  · refine wp_mono (wp_and (step_sound c hsound) (step_held c (hheld hpast) (hok hpast))) ?_ ?_
    · rintro a m' t' ⟨hsound', hcontained, hkeep⟩
      exact ⟨fun _ => hcontained, hsound', next rfl hsound' fun _ => hkeep⟩
    · exact fun m' t' h _ => h.2
  · refine wp_mono (step_sound c hsound) (fun a m' t' hsound' => ?_) fun _ _ _ h => absurd h hpast
    exact ⟨fun h => absurd h hpast, hsound', next rfl hsound' fun h => absurd h hpast⟩

end runs

section faulted

/-- A chip that opens socket 0 and never takes its CONNECT; every look at its clock costs 5 ms. -/
def answer (c : Call) (t : IoTrace) : (e : Io) → e.Res
  | .read8 a =>
    if a = Reg.versionr then (4, false)
    else if a = Reg.snSR 0 then
      (if t.any fun v => v.call = .write8 (Reg.snCR 0) snCrOpen then sockInit else sockClosed, false)
    else if a = Reg.snCR 0 then
      (match c with
        | .on _ (.connect _ _ _) => snCrConnect
        | _ => 0, false)
    else (0, false)
  | .readBuf _ len => (frameBytes len [192, 168, 0, 2], false)
  | .write8 _ _ | .writeBuf _ _ => false
  | .now => 5000 * t.length
  | .wait | .phyLink _ | .sockLock _ | .sockUnlock _ | .globalLock | .globalUnlock => ()

def stuckChip (c : Call) : Handler Driver IoTrace Io Io.Res := fun m t e =>
  (answer c t e, t ++ [⟨m.toGlobals, e, answer c t e⟩])

/-- A connect that times out, and one more operation. -/
@[irreducible] def faultedRun (last : Op) : List Turn × Driver × IoTrace :=
  replay stuckChip (Call.run .oneTurn)
    [.init (some fun _ => 2) (some fun _ => 2), .on 0 (.socket snMrTcp 5000 0),
      .on 0 (.connect (some #[192, 168, 0, 1].toVector) 80 4), .on 0 last] (Driver.boot 1000 1000) []

lemma history_faultedRun (last : Op) :
    History (fun _ => anyChip) (Call.run .oneTurn) (faultedRun last).1 (Driver.boot 1000 1000) []
      (faultedRun last).2.1 (faultedRun last).2.2 := by
  unfold faultedRun
  exact history_replay (fun _ _ _ _ => ⟨trivial, rfl⟩) _ _ _ _

/-- Whether a step left socket 0 faulted, what it returned, and whether it saw the socket closed. -/
def look (s : Turn) : Bool × Option ℤ × Bool :=
  ((s.post.1.sock 0).health = .faulted, s.result, (events s).any fun v => match v.call, v.answer with
    | .read8 a, x => a = Reg.snSR 0 ∧ x.1 = sockClosed
    | _, _ => false)

lemma look_seen {s : Turn} (h : ∃ v ∈ events s, SeesClosed 0 v) : (look s).2.2 = true := by
  obtain ⟨⟨g, e, x⟩, hv, hsees⟩ := h
  refine List.any_eq_true.2 ⟨_, hv, ?_⟩
  cases e with
  | read8 a => exact decide_eq_true hsees
  | _ => exact hsees.elim

/-- The last step of the run follows one that left the socket faulted. -/
lemma faultedRun_last (last : Op) {held : Bool} {r : ℤ}
    (h : (faultedRun last).1.map look = [(false, some 0, false), (false, some 0, true),
      (true, some (-13), false), (held, some r, false)]) :
    ∃ before s, (faultedRun last).1 = before ++ s :: [] ∧ Unreleased 0 before ∧
      s.call = .on 0 last ∧ (look s).2 = (some r, false) := by
  obtain ⟨s₀, l, h₀, -, h⟩ := List.map_eq_cons_iff.1 h
  obtain ⟨s₁, l, rfl, -, h⟩ := List.map_eq_cons_iff.1 h
  obtain ⟨s₂, l, rfl, h₂, h⟩ := List.map_eq_cons_iff.1 h
  obtain ⟨s₃, l, rfl, h₃, h⟩ := List.map_eq_cons_iff.1 h
  obtain rfl := List.map_eq_nil_iff.1 h
  have hcalls := calls_replay stuckChip (Call.run .oneTurn)
    [.init (some fun _ => 2) (some fun _ => 2), .on 0 (.socket snMrTcp 5000 0),
      .on 0 (.connect (some #[192, 168, 0, 1].toVector) 80 4), .on 0 last] (Driver.boot 1000 1000) []
  have hfaulted : (s₂.post.1.sock 0).health = .faulted :=
    of_decide_eq_true (congrArg Prod.fst h₂)
  refine ⟨[s₀, s₁, s₂], s₃, h₀, ⟨[s₀, s₁], s₂, [], rfl, .inl hfaulted, by simp⟩, ?_,
    congrArg Prod.snd h₃⟩
  unfold faultedRun at h₀
  rw [h₀] at hcalls
  obtain ⟨rest, hrest⟩ := hcalls
  simp only [List.map_cons, List.map_nil, List.cons_append, List.cons.injEq] at hrest
  exact hrest.2.2.2.1

/-- close of a faulted socket reports SOCK_OK without a look at the hardware. -/
theorem faulted_close_succeeds :
    ¬ ∀ steps m' t', History (fun _ => anyChip) (Call.run .oneTurn) steps (Driver.boot 1000 1000) []
        m' t' → ∀ before s after, steps = before ++ s :: after → Unreleased 0 before →
      ∀ op, s.call = .on 0 op → Contained 0 op s := by
  intro claim
  have hlooks : (faultedRun .close).1.map look = [(false, some 0, false), (false, some 0, true),
      (true, some (-13), false), (false, some 1, false)] := by
    unfold faultedRun
    decide +kernel
  obtain ⟨before, s, hsplit, hun, hcall, hlook⟩ := faultedRun_last .close hlooks
  have hkept : ¬ Released 0 s := by
    intro hreleased
    rw [Released, hcall] at hreleased
    exact absurd ((congrArg Prod.snd hlook).symm.trans (look_seen hreleased.2)) (by decide)
  have hcontained := claim _ _ _ (history_faultedRun .close) before s [] hsplit hun .close hcall
  exact hcontained.2 hkept 1 (congrArg Prod.fst hlook) rfl

theorem unreleased_contained_disconnect :
    ∃ s ∈ (faultedRun .disconnect).1, s.call = .on 0 .disconnect ∧ Contained 0 .disconnect s := by
  have hlooks : (faultedRun .disconnect).1.map look = [(false, some 0, false),
      (false, some 0, true), (true, some (-13), false), (true, some (-3), false)] := by
    unfold faultedRun
    decide +kernel
  obtain ⟨before, s, hsplit, hun, hcall, -⟩ := faultedRun_last .disconnect hlooks
  have hcalls := calls_replay stuckChip (Call.run .oneTurn)
    [.init (some fun _ => 2) (some fun _ => 2), .on 0 (.socket snMrTcp 5000 0),
      .on 0 (.connect (some #[192, 168, 0, 1].toVector) 80 4), .on 0 .disconnect] (Driver.boot 1000 1000) []
  refine ⟨s, by simp [hsplit], hcall, ?_⟩
  refine unreleased_contained (history_faultedRun .disconnect) rfl (fun before u after hu _ => ?_)
    before s [] hsplit hun .disconnect hcall
  have hmem : u.call ∈ (faultedRun .disconnect).1.map Step.call :=
    List.mem_map_of_mem (by simp [hu])
  unfold faultedRun at hmem
  have hgiven := hcalls.subset hmem
  simp only [List.mem_cons, List.not_mem_nil, or_false] at hgiven
  rcases hgiven with h | h | h | h
  · rw [h]
    exact id
  · rw [h]
    exact id
  · rw [h]
    exact id
  · rw [h]
    exact id

end faulted

end IoLibrary.Containment
