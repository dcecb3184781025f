import IoLibrary.Chips
import IoLibrary.Containment

/-! What close promises: SOCK_OK for a socket that it has seen closed, and an error that keeps the
state of the socket. -/
namespace IoLibrary.Closing
open Effects Containment

/-- The software state of a socket, its health aside, is that of a closed one. -/
def Blank (s : Sock) : Prop := s.faulted = s.cleared.faulted

/-- SOCK_OK means that CLOSED was read and the state is cleared; an error leaves the socket faulted
and its other state alone. -/
def Truthful (sn : ℕ) (m : Driver) (t : IoTrace) (r : ℤ) (m' : Driver) (t' : IoTrace) : Prop :=
  (r = sockOk → Seen sn t t' ∧ m'.sock sn = (m.sock sn).cleared) ∧
    (r ≠ sockOk → m'.sock sn = (m.sock sn).faulted)

/-- The socket is healthy if there are deadlines, and its state is blank if it is not seen closed. -/
def Closable (sn : ℕ) (m : Driver) (t t' : IoTrace) : Prop :=
  ((m.sock sn).health = .faulted → ¬ m.deadlineConfigValid) ∧
    (m.deadlineConfigValid ∧ Seen sn t t' ∨ Blank (m.sock sn))

/-- No event since `t` sees the socket closed. -/
abbrev Unseen (sn : ℕ) (t t' : IoTrace) : Prop := Extends (fun v => ¬ SeesClosed sn v) t t'

section close
variable {b : Build} {sn : ℕ} {g : Globals} {t t' : IoTrace}

lemma Unseen.not_seen (h : Unseen sn t t') : ¬ Seen sn t t' := by
  rintro ⟨before, v, after, ht', hv⟩
  obtain ⟨added, rfl, hadded⟩ := h
  rw [List.append_assoc, List.append_cancel_left_eq] at ht'
  refine hadded v ?_ hv
  rw [ht']
  exact List.mem_append_right _ List.mem_cons_self

lemma Unseen.sees (h : Unseen sn t t') {v : Event Globals Io Io.Res} (hv : SeesClosed sn v) :
    Seen sn t (t' ++ [v]) := by
  obtain ⟨added, rfl, -⟩ := h
  exact ⟨added, v, [], by simp, hv⟩

/-- How close_internal ends, from what it has seen. -/
def Ended (sn : ℕ) (g : Globals) (t : IoTrace) (r : ℤ) (t' : IoTrace) : Prop :=
  r = sockOk ∧ g.deadlineConfigValid ∧ ((g.sock sn).health = .faulted ∧ Unseen sn t t' ∨
    (g.sock sn).health ≠ .faulted ∧ Seen sn t t') ∨
  r = sockerrTimeout ∧ Unseen sn t t' ∧ (g.deadlineConfigValid → (g.sock sn).health ≠ .faulted)

/-- The calls of close_internal that are no look at the status see nothing. -/
lemma Unseen.snoc_of_ne (h : Unseen sn t t') {e : Io} {x : e.Res} (he : e ≠ .read8 (Reg.snSR sn)) :
    Unseen sn t (t' ++ [⟨g, e, x⟩]) := by
  refine Extends.snoc h ?_
  cases e with
  | read8 a =>
    rintro ⟨ha, -⟩
    exact he (congrArg Io.read8 ha)
  | _ => exact id

lemma Unseen.snoc_of_open (h : Unseen sn t t') {x : Byte × Bool} (hx : x.1 ≠ sockClosed) :
    Unseen sn t (t' ++ [⟨g, .read8 (Reg.snSR sn), x⟩]) := by
  refine Extends.snoc h ?_
  rintro ⟨-, hclosed⟩
  exact hx hclosed

/-- A healthy socket is closed in sight, or not at all. -/
lemma wpg_closeCommand_healthy (hhealthy : (g.sock sn).health ≠ .faulted) (d : ℕ)
    (ht' : Unseen sn t t') :
    wpg (traceEnv fun _ _ _ => True) (closeCommand b sn d)
      (fun r g' t' => (∃ f, g' = g.setSock sn f) ∧
        (r = sockOk ∧ Seen sn t t' ∨ r = sockerrTimeout ∧ Unseen sn t t')) (fun _ _ => True) g t' := by
  have ticks : Ticks (traceEnv fun _ _ _ => True) g (Unseen sn t) := by
    rintro t' _ x _ (rfl | rfl) h ⟨-, rfl⟩
    · exact h.snoc_of_ne (by simp)
    · exact h.snoc_of_ne (by simp)
  have same : ∃ f, g = g.setSock sn f := ⟨id, by simp [Globals.setSock]⟩
  simp only [closeCommand, waitCrAccepted, waitSrReached, wpv_bind, wpv_get, wpv_ite, wpv_pure,
    wpg_getSnSR, wpg_setSnCR, wpg_setSnIR]
  rintro m rfl
  refine ⟨fun hfault => absurd hfault hhealthy, fun _ x _ hx => ?_⟩
  obtain ⟨-, rfl⟩ := hx
  refine ⟨fun hclosed => ⟨same, .inl ⟨trivial, ht'.sees ⟨rfl, hclosed⟩⟩⟩, fun hopen y _ hy => ?_⟩
  obtain ⟨-, rfl⟩ := hy
  have hcommand := (ht'.snoc_of_open (g := m.toGlobals) hopen).snoc_of_ne (g := m.toGlobals)
    (e := .write8 (Reg.snCR sn) snCrClose) (x := y) (by simp)
  refine wpg_waitRegister ticks hcommand _ _ d (fun t' x _ ht' hx => ?_) (fun t' ht' => ?_)
    fun _ _ => trivial
  · obtain ⟨-, rfl⟩ := hx
    have haccepted := ht'.snoc_of_ne (g := m.toGlobals) (e := .read8 (Reg.snCR sn)) (x := x)
      (by simp [Reg.snCR, Reg.snSR])
    refine ⟨fun _ => ⟨fun hne => absurd rfl hne, fun _ z _ hz => ?_⟩, fun _ => haccepted⟩
    obtain ⟨-, rfl⟩ := hz
    have hclear := haccepted.snoc_of_ne (g := m.toGlobals)
      (e := .write8 (Reg.snIR sn) (0xFF &&& 0x1F)) (x := z) (by simp)
    refine wpg_waitRegister ticks hclear _ _ d (fun t' x _ ht' hx => ?_) (fun t' ht' => ?_)
      fun _ _ => trivial
    · obtain ⟨-, rfl⟩ := hx
      exact ⟨fun hclosed => ⟨same, .inl ⟨rfl, ht'.sees ⟨rfl, hclosed⟩⟩⟩, ht'.snoc_of_open⟩
    · exact ⟨⟨_, rfl⟩, .inr ⟨rfl, ht'⟩⟩
  · exact ⟨fun _ => ⟨⟨_, rfl⟩, .inr ⟨rfl, ht'⟩⟩, fun hne => absurd (by decide) hne⟩

lemma wpg_closeInternal_ended (hsn : sn < sockNum) (ht' : Unseen sn t t') :
    wpg (traceEnv fun _ _ _ => True) (closeInternal b sn 0)
      (fun r g' t' => g' = g.setSock sn (Sock.closed r) ∧ Ended sn g t r t') (fun _ _ => True) g
      t' := by
  have ticks : Ticks (traceEnv fun _ _ _ => True) g (Unseen sn t) := by
    rintro t' _ x _ (rfl | rfl) h ⟨-, rfl⟩
    · exact h.snoc_of_ne (by simp)
    · exact h.snoc_of_ne (by simp)
  have clear {r : ℤ} {t' : IoTrace} (h : Ended sn g t r t') :
      wpg (traceEnv fun _ _ _ => True) (closeClearState sn r)
        (fun r g' t' => g' = g.setSock sn (Sock.closed r) ∧ Ended sn g t r t') (fun _ _ => True) g
        t' := by
    have hid : g.setSock sn id = g := by simp [Globals.setSock]
    have hclear : wpg (traceEnv fun _ _ _ => True) (closeClearState sn r)
        (fun r g' t' => g' = g.setSock sn (Sock.closed r) ∧ Ended sn g t r t') (fun _ _ => True)
        (g.setSock sn id) t' := wpg_closeClearState r id ⟨rfl, h⟩
    rwa [hid] at hclear
  simp only [closeInternal, wpv_ite, wpv_bind, wpv_pure, wpv_get]
  refine ⟨fun hle => absurd hsn (Nat.not_lt.2 hle), fun _ => ⟨fun _ m hm => ?_, fun h => ?_⟩⟩
  · subst hm
    refine wpg_sockDeadlineBegin ticks ht' _ (fun hvalid d t' ht' => ?_) fun hinvalid => ?_
    · simp only [wpv_bind]
      by_cases hfault : (m.sock sn).health = .faulted
      · simp only [closeCommand, wpv_bind, wpv_get, wpv_ite, wpv_pure]
        rintro m' hm'
        have hfault' : (m'.sock sn).health = .faulted := by rw [← hfault, hm']
        refine ⟨fun _ => ?_, fun hne => absurd hfault' hne⟩
        exact clear (.inl ⟨rfl, hvalid, .inl ⟨hfault, ht'⟩⟩)
      · refine wpv_mono (wpg_closeCommand_healthy hfault d ht') ?_ fun _ _ => id
        rintro r _ t' ⟨⟨f, rfl⟩, ⟨rfl, hseen⟩ | ⟨rfl, hunseen⟩⟩
        · exact wpg_closeClearState _ _ ⟨rfl, .inl ⟨rfl, hvalid, .inr ⟨hfault, hseen⟩⟩⟩
        · exact wpg_closeClearState _ _ ⟨rfl, .inr ⟨rfl, hunseen, fun _ => hfault⟩⟩
    · exact clear (.inr ⟨rfl, ht', fun hvalid => absurd hvalid hinvalid⟩)
  · exact absurd trivial h

/-- What every run of close comes to. -/
lemma close_ended (hsn : sn < sockNum) {m m' : Driver} {r : ℤ}
    (run : Eval anyChip (close b sn) m t (some r) m' t') :
    m'.toGlobals = m.toGlobals.setSock sn (Sock.closed r) ∧ Ended sn m.toGlobals t r t' := by
  have hspec : wpg (traceEnv fun _ _ _ => True) (close b sn)
      (fun r g' t' => g' = m.toGlobals.setSock sn (Sock.closed r) ∧ Ended sn m.toGlobals t r t')
      (fun _ _ => True) m.toGlobals t := by
    simp only [close, wpv_ite, wpv_pure, wpg_locked]
    refine ⟨fun hle => absurd hsn (Nat.not_lt.2 hle), fun _ x _ hx => ?_⟩
    obtain ⟨-, rfl⟩ := hx
    have hlocked : Unseen sn t (t ++ [⟨m.toGlobals, .sockLock sn, x⟩]) :=
      Unseen.snoc_of_ne .refl (by simp)
    refine wpv_mono (wpg_closeInternal_ended hsn hlocked) ?_ fun _ _ => id
    rintro r g' t' ⟨hg', hended⟩ y _ ⟨-, rfl⟩
    refine ⟨hg', ?_⟩
    rcases hended with ⟨hr, hvalid, ⟨hfault, hunseen⟩ | ⟨hhealthy, hseen⟩⟩ | ⟨hr, hunseen, hhealthy⟩
    · exact .inl ⟨hr, hvalid, .inl ⟨hfault, hunseen.snoc_of_ne (by simp)⟩⟩
    · exact .inl ⟨hr, hvalid, .inr ⟨hhealthy, hseen.snoc _⟩⟩
    · exact .inr ⟨hr, hunseen.snoc_of_ne (by simp), hhealthy⟩
  exact wp_returns (wp_of_wpg hspec) run

end close

/-- close keeps its promise in exactly these runs, whatever the chip answers. -/
theorem truthful_iff {b : Build} {sn : ℕ} {m m' : Driver} {t t' : IoTrace} {r : ℤ}
    (hsn : sn < sockNum) (run : Eval anyChip (close b sn) m t (some r) m' t') :
    Truthful sn m t r m' t' ↔ Closable sn m t t' := by
  obtain ⟨hm', hended⟩ := close_ended hsn run
  have hsock : m'.sock sn = Sock.closed r (m.sock sn) := by rw [hm', Globals.setSock_same]
  rw [Truthful, hsock]
  rcases hended with ⟨rfl, hvalid, ⟨hfault, hunseen⟩ | ⟨hhealthy, hseen⟩⟩ | ⟨rfl, hunseen, hhealthy⟩
  · constructor
    · intro h
      exact absurd (h.1 rfl).1 hunseen.not_seen
    · intro h
      exact absurd hvalid (h.1 hfault)
  · constructor
    · exact fun _ => ⟨fun hfault => absurd hfault hhealthy, .inl ⟨hvalid, hseen⟩⟩
    · exact fun _ => ⟨fun _ => ⟨hseen, rfl⟩, fun hne => absurd rfl hne⟩
  · constructor
    · intro h
      refine ⟨fun hfault hvalid => hhealthy hvalid hfault, .inr ?_⟩
      exact (h.2 (by decide)).symm
    · rintro ⟨-, ⟨-, hseen⟩ | hblank⟩
      · exact absurd hseen hunseen.not_seen
      · exact ⟨fun hok => absurd hok (by decide), fun _ => Eq.symm hblank⟩

/-- A closed socket that was never opened. -/
theorem truthful_iff_boot : ∃ r m' t',
    Eval anyChip (close .oneTurn 0) (Driver.boot 1 1) [] (some r) m' t' ∧
      Truthful 0 (Driver.boot 1 1) [] r m' t' := by
  have hresult : (exec (recorded (holding (fun _ => 0) (fun _ => []) 0)) (close .oneTurn 0)
      (Driver.boot 1 1) []).1 = some sockOk := by decide
  have run := eval_of_exec hresult
  refine ⟨_, _, _, run, (truthful_iff (by decide) run).2 ⟨fun hfault => ?_, .inr rfl⟩⟩
  exact absurd hfault (by decide)

/-- close of a faulted socket succeeds unseen. -/
theorem faulted_unseen : ¬ ∀ b sn m t r m' t', sn < sockNum →
    Eval anyChip (close b sn) m t (some r) m' t' → Truthful sn m t r m' t' := by
  intro h
  have hresult : (exec (recorded (holding (fun _ => 0) (fun _ => []) 0)) (close .oneTurn 0)
      ((Driver.boot 1 1).setSock 0 Sock.faulted) []).1 = some sockOk := by decide
  have run := eval_of_exec hresult
  have hseen := ((h _ _ _ _ _ _ _ (by decide) run).1 rfl).1
  obtain ⟨-, ⟨-, -, ⟨-, hunseen⟩ | ⟨hhealthy, -⟩⟩ | ⟨hr, -⟩⟩ := close_ended (by decide) run
  · exact hunseen.not_seen hseen
  · exact hhealthy rfl
  · exact absurd hr (by decide)

end IoLibrary.Closing
