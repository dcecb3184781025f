import IoLibrary.PollBound

/-! The time that has passed when a wait expires. A wait that counts its polls may expire by the
count; any other expiry comes after the budget of the wait's deadline. -/
namespace IoLibrary.Expiry
open Effects PollBound

/-- The times of `D` were made from readings before `i`: `(d, T)` is `T` after one of them. -/
def Made (t : ℕ → ℕ) (D : Set (ℕ × ℕ)) (i : ℕ) : Prop :=
  ∀ d T, (d, T) ∈ D → ∃ n < i, t n < 2 ^ 64 ∧ d = (t n + T) % 2 ^ 64

/-- Before reading `i'` the clock has been seen `T` after reading `n`, if 64 bits hold that time. -/
def Elapsed (t : ℕ → ℕ) (T n i' : ℕ) : Prop := t n + T < 2 ^ 64 → t n + T ≤ t (i' - 1)

/-- A run of the wait that expires leaves the clock at a reading of `E`. -/
def Expires (t : ℕ → ℕ) {α : Type} (wait : Drv (Option α)) (m : Driver) (i : ℕ) (E : ℕ → Prop) :
    Prop := wp (clocked t) wait (fun r _ i' => r = none → E i') (fun _ _ => True) m i

/-- With the budgets `c` and `o`, a time source and the times `D` made: every wait of the program
that expires does so after its budget, or after `pollMax` polls where it counts them, which read
the clock twice each but for the last one. A wait's expiry is seen by letting it return `none`. -/
inductive Timely (t : ℕ → ℕ) (b : Build) (c o : ℕ) : Set (ℕ × ℕ) → {α : Type} → Drv α → Prop
  | ret {D : Set (ℕ × ℕ)} {α : Type} (a : α) : Timely t b c o D (.ret a)
  | bind {D : Set (ℕ × ℕ)} {α β : Type} {p : Drv α} {f : α → Drv β} (hp : Timely t b c o D p)
      (hf : ∀ a, Timely t b c o D (f a)) : Timely t b c o D (p >>= f)
  | mem {D : Set (ℕ × ℕ)} {α : Type} {f : Driver → Driver} {k : Driver → Drv α} (hf : KeepsClock f)
      (hk : ∀ m : Driver, m.commandTimeoutUs = c → m.operationTimeoutUs = o →
        Timely t b c o D (k m)) : Timely t b c o D (.mem f k)
  | call {D : Set (ℕ × ℕ)} {α : Type} {e : Io} {k : e.Res → Drv α}
      (hk : ∀ x, Timely t b c o D (k x)) : Timely t b c o D (.call e k)
  | opens {D : Set (ℕ × ℕ)} {α : Type} {T : ℕ} {f : ℕ → Drv α} (hT : T = c ∨ T = o)
      (hf : ∀ d, Timely t b c o (insert (d, T) D) (f d)) :
      Timely t b c o D (wizchipDeadlineAbs T >>= f)
  | reads {D : Set (ℕ × ℕ)} {α : Type} {f : ℕ → Drv α}
      (hf : ∀ now, Timely t b c o (insert (now, 0) D) (f now)) :
      Timely t b c o D (wizchipTimeNow >>= f)
  | counted {D : Set (ℕ × ℕ)} {α : Type} {d now : ℕ} {look : Drv (Option α)} {expired : Drv α}
      (hlook : Timely t b c o D look) (hexpired : Timely t b c o D expired)
      (hexpiry : ∀ m i, Config c o true m → Made t D i →
        ∃ T n, (T = c ∨ T = o) ∧ n < i ∧ d = (t n + T) % 2 ^ 64 ∧
          Expires t (pollLoop b d ⟨now, 2 ^ 64 - 1, 0⟩ (Option.map some <$> look) (return none)) m i
            fun i' => Elapsed t T n i' ∨ i + 2 * (pollMax - 1) ≤ i') :
      Timely t b c o D (pollLoop b d ⟨now, 2 ^ 64 - 1, 0⟩ look expired)
  | timed {D : Set (ℕ × ℕ)} {α : Type} {T : ℕ} {g : ℕ → ℕ} {look : Drv (Option α)}
      {expired : Drv α} (hT : T = o ∨ T = pollMax) (hlook : Timely t b c o D look)
      (hexpired : Timely t b c o D expired)
      (hexpiry : ∀ m i, Config c o true m →
        Expires t (do
          let d ← wizchipDeadlineAbs T
          clockLoop b (g d) (Option.map some <$> look) (return none)) m i (Elapsed t T i)) :
      Timely t b c o D (do
        let d ← wizchipDeadlineAbs T
        clockLoop b (g d) look expired)

section keeps
variable {t : ℕ → ℕ} {b : Build} {c o : ℕ} {α β : Type}

/-- The program keeps the budgets and the time source, and time does not run back. -/
def Keeps (t : ℕ → ℕ) (c o : ℕ) (p : Drv α) : Prop :=
  ∀ active m i, Config c o active m →
    wp (clocked t) p (fun _ m' i' => Config c o active m' ∧ i ≤ i') (fun _ _ => True) m i

lemma Keeps.ret (a : α) : Keeps t c o (pure a : Drv α) := fun _ _ _ h => ⟨h, le_rfl⟩

lemma Keeps.bind {p : Drv α} {f : α → Drv β} (hp : Keeps t c o p) (hf : ∀ a, Keeps t c o (f a)) :
    Keeps t c o (p >>= f) := by
  intro active m i h
  refine (wp_bind _ _).2 (wp_mono (hp active m i h) ?_ fun _ _ => id)
  intro a m₁ i₁ ⟨h₁, hi₁⟩
  refine wp_mono (hf a active m₁ i₁ h₁) ?_ fun _ _ => id
  exact fun x m₂ i₂ ⟨h₂, hi₂⟩ => ⟨h₂, hi₁.trans hi₂⟩

lemma keeps_timeNow : Keeps t c o wizchipTimeNow := fun _ _ _ h =>
  wp_timeNow h (fun _ _ _ h' => ⟨h', Nat.le_succ _⟩) fun _ => ⟨h, le_rfl⟩

lemma keeps_deadlineAbs (T : ℕ) : Keeps t c o (wizchipDeadlineAbs T) := fun _ _ _ h =>
  wp_deadlineAbs T h (fun _ _ _ h' => ⟨h', Nat.le_succ _⟩) fun _ _ h' _ => ⟨h', le_rfl⟩

lemma keeps_deadlineExpired (d : ℕ) : Keeps t c o (wizchipDeadlineExpired d) := fun _ _ _ h =>
  wp_deadlineExpired d h (fun _ _ _ h' => ⟨h', Nat.le_succ _⟩) fun _ _ h' _ => ⟨h', le_rfl⟩

lemma keeps_waitPollExpired (poll : Poll) (d : ℕ) : Keeps t c o (waitPollExpired poll d) :=
  fun _ _ _ h => wp_waitPollExpired poll d h fun _ _ _ _ h' hp => ⟨h', hp.le⟩

lemma keeps_loop {σ : Type} {body : σ → Drv (Prog.Turn σ α)} (hbody : ∀ s, Keeps t c o (body s))
    (n : ℕ) (s : σ) : Keeps t c o (Prog.loop body n s) := by
  intro active m i h
  refine wp_loop (fun _ m' i' => Config c o active m' ∧ i ≤ i') ?_ (fun _ _ _ _ => trivial) n
    ⟨h, le_rfl⟩
  intro s m₁ i₁ ⟨h₁, hi₁⟩
  refine wp_mono (hbody s active m₁ i₁ h₁) ?_ fun _ _ => id
  intro r m₂ i₂ ⟨h₂, hi₂⟩
  cases r with
  | again s' => exact ⟨h₂, hi₁.trans hi₂⟩
  | leave a => exact ⟨h₂, hi₁.trans hi₂⟩

variable {look : Drv (Option α)} {expired : Drv α}

lemma keeps_pollLoop (hlook : Keeps t c o look) (hexpired : Keeps t c o expired) (d : ℕ)
    (poll : Poll) : Keeps t c o (pollLoop b d poll look expired) := by
  refine keeps_loop (fun poll => hlook.bind fun r => ?_) _ poll
  cases r with
  | some a => exact .ret _
  | none =>
    refine (keeps_waitPollExpired poll d).bind fun r => ?_
    split
    split
    · exact hexpired.bind fun _ => .ret _
    · exact .ret _

lemma keeps_clockLoop (hlook : Keeps t c o look) (hexpired : Keeps t c o expired) (d : ℕ) :
    Keeps t c o (clockLoop b d look expired) := by
  refine keeps_loop (fun _ => hlook.bind fun r => ?_) _ ()
  cases r with
  | some a => exact .ret _
  | none =>
    refine (keeps_deadlineExpired d).bind fun late => ?_
    split
    · exact hexpired.bind fun _ => .ret _
    · exact .ret _

lemma keeps_waits {A : Set ℕ} {D : Set (ℕ × ℕ)} {p : Drv α} (hp : Waits b A c o D p) :
    Keeps t c o p := by
  induction hp with
  | ret a => exact .ret a
  | bind _ _ ihp ihf => exact ihp.bind ihf
  | mem hf _ ih => exact fun active m i h => ih m h.command h.operation active _ i (h.update hf)
  | call _ ih =>
    intro active m i h x i' hx
    refine wp_mono (ih x active m i' h) ?_ fun _ _ => id
    exact fun a m'' i'' h'' => ⟨h''.1, (le_of_clocked hx).trans h''.2⟩
  | opens _ _ ih => exact (keeps_deadlineAbs _).bind ih
  | reads _ ih => exact keeps_timeNow.bind ih
  | counted _ _ _ _ ihlook ihexpired => exact keeps_pollLoop ihlook ihexpired _ _
  | timed _ _ _ ihlook ihexpired =>
    exact (keeps_deadlineAbs _).bind fun d => keeps_clockLoop ihlook ihexpired d
  | stable _ _ ihlook =>
    exact (keeps_deadlineAbs _).bind fun d => keeps_clockLoop ihlook (.ret _) _

end keeps

section expiry
variable {t : ℕ → ℕ} {b : Build} {c o : ℕ} {α : Type} {look : Drv (Option α)} {m : Driver}
  {d n s i T : ℕ}

lemma elapsed_of_le {k : ℕ} (hd : d = (t n + T) % 2 ^ 64) (h : d ≤ t k) : Elapsed t T n (k + 1) := by
  intro hsmall
  rw [Nat.add_sub_cancel, ← Nat.mod_eq_of_lt hsmall, ← hd]
  exact h

/-- The timer of a poll that started at reading `s` runs for the whole 64 bits. -/
lemma elapsed_of_timer (mono : Monotone t) {k : ℕ} (hs : s ≤ k) (hk : t k < 2 ^ 64)
    (h : 2 ^ 64 - 1 ≤ (t k + 2 ^ 64 - t s) % 2 ^ 64) : Elapsed t T n (k + 1) := by
  intro hsmall
  have hle : t s ≤ t k := mono hs
  rw [Nat.add_sub_cancel]
  omega

/-- One look of a wait that shows its expiry. -/
lemma wp_shown (hlook : Keeps t c o look) (h : Config c o true m)
    {Q : Option (Option α) → Driver → ℕ → Prop}
    (found : ∀ a m' i', Config c o true m' → i ≤ i' → Q (some (some a)) m' i')
    (missed : ∀ m' i', Config c o true m' → i ≤ i' → Q none m' i') :
    wp (clocked t) (Option.map some <$> look) Q (fun _ _ => True) m i := by
  refine (wp_map _ _).2 (wp_mono (hlook true m i h) ?_ fun _ _ => id)
  intro r m' i' ⟨h', hi'⟩
  cases r with
  | some a => exact found a m' i' h' hi'
  | none => exact missed m' i' h' hi'

lemma expires_pollLoop (mono : Monotone t) (hlook : Keeps t c o look) (h : Config c o true m)
    (hs : s < i) (hd : d = (t n + T) % 2 ^ 64) :
    Expires t (pollLoop b d ⟨t s, 2 ^ 64 - 1, 0⟩ (Option.map some <$> look) (return none)) m i
      fun i' => Elapsed t T n i' ∨ i + 2 * (pollMax - 1) ≤ i' := by
  refine wp_loop (fun poll m' i' => Config c o true m' ∧ poll.startedUs = t s ∧
    poll.timeoutUs = 2 ^ 64 - 1 ∧ i + 2 * poll.polls ≤ i') ?_ (fun _ _ _ _ => trivial) _
    ⟨h, rfl, rfl, le_rfl⟩
  intro poll m₁ i₁ ⟨h₁, hstarted, htimeout, hcount⟩
  refine (wp_bind _ _).2 (wp_shown hlook h₁ (fun a m₂ i₂ _ _ => nofun) fun m₂ i₂ h₂ hi₂ => ?_)
  refine (wp_bind _ _).2 (wp_waitPollExpired poll d h₂ fun late polled m₃ i₃ h₃ hp => ?_)
  refine (wp_ite _ _ _).2 ⟨fun hlate _ => ?_, fun hearly => ?_⟩
  · rcases hp.last hlate rfl with hmax | ⟨k, rfl, hk, hsmall, htimer | hpast⟩
    · right
      have := hp.le
      omega
    · rw [hstarted, htimeout] at htimer
      exact .inl (elapsed_of_timer mono (by omega) hsmall htimer)
    · exact .inl (elapsed_of_le hd hpast)
  · have hearly : late = false := by simpa using hearly
    have htwice := hp.twice hearly rfl
    obtain ⟨rfl, -⟩ := hp.counted hearly
    exact ⟨h₃, hstarted, htimeout, by simp only; omega⟩

lemma expires_clockLoop (hlook : Keeps t c o look) (h : Config c o true m)
    (hd : t n + T < 2 ^ 64 → (t n + T) % 2 ^ 64 ≤ d) :
    Expires t (clockLoop b d (Option.map some <$> look) (return none)) m i (Elapsed t T n) := by
  refine wp_loop (fun _ m' _ => Config c o true m') ?_ (fun _ _ _ _ => trivial) _ h
  intro _ m₁ i₁ h₁
  refine (wp_bind _ _).2 (wp_shown hlook h₁ (fun a m₂ i₂ _ _ => nofun) fun m₂ i₂ h₂ hi₂ => ?_)
  refine (wp_bind _ _).2 (wp_deadlineExpired d h₂ (fun _ _ m₃ h₃ => ?_) nofun)
  refine (wp_ite _ _ _).2 ⟨fun hlate _ hsmall => ?_, fun _ => h₃⟩
  have hpast : d ≤ t i₂ := of_decide_eq_true hlate
  exact elapsed_of_le rfl ((hd hsmall).trans hpast) hsmall

lemma expires_timed {g : ℕ → ℕ} (hg : ∀ d, d ≤ g d) (hlook : Keeps t c o look)
    (h : Config c o true m) :
    Expires t (do
      let d ← wizchipDeadlineAbs T
      clockLoop b (g d) (Option.map some <$> look) (return none)) m i (Elapsed t T i) :=
  (wp_bind _ _).2 (wp_deadlineAbs T h
    (fun _ _ _ h' => expires_clockLoop hlook h' fun _ => hg _) nofun)

/-- Every loop of the program is a wait, and so it expires in time. -/
lemma timely_waits (mono : Monotone t) {A : Set ℕ} {D : Set (ℕ × ℕ)} {p : Drv α}
    (hp : Waits b A c o D p) : Timely t b c o D p := by
  induction hp with
  | ret a => exact .ret a
  | bind _ _ ihp ihf => exact ihp.bind ihf
  | mem hf _ ih => exact .mem hf ih
  | call _ ih => exact .call ih
  | opens hT _ ih => exact .opens hT ih
  | reads _ ih => exact .reads ih
  | counted hd hnow hlook _ ihlook ihexpired =>
    refine .counted ihlook ihexpired fun m i h hmade => ?_
    obtain ⟨T, hT, hmem⟩ := hd
    obtain ⟨n, hn, -, hd⟩ := hmade _ T hmem
    obtain ⟨s, hs, hsmall, rfl⟩ := hmade _ 0 hnow
    refine ⟨T, n, hT, hn, hd, ?_⟩
    rw [Nat.add_zero, Nat.mod_eq_of_lt hsmall]
    exact expires_pollLoop mono (keeps_waits hlook) h hs hd
  | timed _ hlook _ ihlook ihexpired =>
    exact .timed (g := id) (.inl rfl) ihlook ihexpired fun m i h =>
      expires_timed (fun _ => le_rfl) (keeps_waits hlook) h
  | stable _ hlook ihlook =>
    refine .timed (g := fun opened => if opened = 0 then pollMax else opened) (.inr rfl) ihlook
      (.ret _) fun m i h => expires_timed (fun d => ?_) (keeps_waits hlook) h
    split
    · omega
    · exact le_rfl

end expiry

section early
variable {t : ℕ → ℕ} {j d s : ℕ} {m : Driver}

/-- A poll before the deadline that is not the last. -/
lemma eval_waitPollExpired (ht : Clock t) (h : Due t m j) (hwait : ¬ (m.waitUs || m.waitHook) = true)
    {polls : ℕ} (hmore : polls + 1 < pollMax) (hs : s ≤ j) (hd : t (j + 1) < d) (hsmall : d < 2 ^ 64) :
    ∃ m', Due t m' (j + 2) ∧ m'.toGlobals = m.toGlobals ∧
      Eval (clocked t) (waitPollExpired ⟨t s, 2 ^ 64 - 1, polls⟩ d) m j
        (some (false, ⟨t s, 2 ^ 64 - 1, polls + 1⟩)) m' (j + 2) := by
  have hstarted : t s ≤ t j := ht.mono hs
  have hnext : t j ≤ t (j + 1) := ht.mono (Nat.le_succ j)
  obtain ⟨m₁, hdue₁, hglobals₁, hrun₁⟩ := h.eval_timeNow ht (by omega)
  obtain ⟨m₂, hdue₂, hglobals₂, hrun₂⟩ := hdue₁.eval_deadlineExpired ht (by omega) d
  have htimer : ¬ 2 ^ 64 - 1 ≤ (t j + 2 ^ 64 - t s) % 2 ^ 64 := by omega
  rw [decide_eq_false (not_le.2 hd)] at hrun₂
  refine ⟨m₂, hdue₂, hglobals₂.trans hglobals₁, ?_⟩
  refine Eval.bind (a := (false, ⟨t s, 2 ^ 64 - 1, polls + 1⟩)) ?_ (.neg nofun (hrun₂.bind .ret))
  refine Eval.bind (.get (.neg hwait .ret)) (.neg (not_le.2 hmore) (.get (.pos h.active ?_)))
  refine hrun₁.bind ?_
  rw [decide_eq_false htimer]
  exact .ret

/-- The last poll does not look at the time. -/
lemma eval_waitPollExpired_last (hwait : ¬ (m.waitUs || m.waitHook) = true) {poll : Poll}
    (hlast : pollMax ≤ poll.polls + 1) :
    Eval (clocked t) (waitPollExpired poll d) m j
      (some (true, { poll with polls := poll.polls + 1 })) m j := by
  refine Eval.bind (a := (true, { poll with polls := poll.polls + 1 })) ?_ (.pos rfl .ret)
  exact Eval.bind (.get (.neg hwait .ret)) (.pos hlast .ret)

/-- With `n` polls to go of a wait that began at reading `j` with the globals `g`. -/
structure Counting (t : ℕ → ℕ) (g : Globals) (j s n : ℕ) (poll : Poll) (m : Driver) (j' : ℕ) :
    Prop where
  more : 0 < n
  due : Due t m j'
  globals : m.toGlobals = g
  polls : ∃ k, poll = ⟨t s, 2 ^ 64 - 1, k⟩ ∧ k + n = pollMax ∧ j' = j + 2 * k

/-- A wait that never finds what it waits for is over after `pollMax` polls. -/
lemma eval_pollLoop_capped (ht : Clock t) {α : Type} {look : Drv (Option α)} {expired : Drv α}
    {a : α} {f : Driver → Driver}
    (hlook : ∀ m j, Eval (clocked t) look m j (some none) m j)
    (hexpired : ∀ m j, Eval (clocked t) expired m j (some a) (f m) j)
    (h : Due t m j) (hwait : ¬ (m.waitUs || m.waitHook) = true) (hs : s ≤ j)
    (hd : t (j + 2 * pollMax) < d) (hsmall : d < 2 ^ 64) :
    ∃ m', m'.toGlobals = m.toGlobals ∧
      Eval (clocked t) (pollLoop Build.polled d ⟨t s, 2 ^ 64 - 1, 0⟩ look expired) m j (some a)
        (f m') (j + 2 * (pollMax - 1)) := by
  have capped : ∃ x m' j', Eval (clocked t)
      (pollLoop Build.polled d ⟨t s, 2 ^ 64 - 1, 0⟩ look expired) m j (some x) m' j' ∧
      x = a ∧ j' = j + 2 * (pollMax - 1) ∧ ∃ m₀, m' = f m₀ ∧ m₀.toGlobals = m.toGlobals := by
    refine Eval.loop_leave (Counting t m.toGlobals j s) ?_ (fun _ _ _ hI => hI.more.false) pollMax
      ⟨by decide, h, rfl, 0, rfl, Nat.zero_add _, rfl⟩
    intro n poll m₁ j₁ ⟨_, hdue, hglobals, k, hpoll, hcount, hj⟩
    subst hpoll
    have hwait₁ : ¬ (m₁.waitUs || m₁.waitHook) = true := hglobals ▸ hwait
    rcases Nat.eq_zero_or_pos n with rfl | hn
    · right
      have hlast : Eval (clocked t) (waitPollExpired ⟨t s, 2 ^ 64 - 1, k⟩ d) m₁ j₁ _ m₁ j₁ :=
        eval_waitPollExpired_last hwait₁ hcount.ge
      refine ⟨a, f m₁, j₁, ?_, rfl, by omega, m₁, rfl, hglobals⟩
      exact (hlook m₁ j₁).bind (hlast.bind (.pos rfl ((hexpired m₁ j₁).bind .ret)))
    · left
      have hmore : k + 1 < pollMax := by omega
      have hs₁ : s ≤ j₁ := by omega
      have hpast : t (j₁ + 1) < d := (ht.mono (by omega)).trans_lt hd
      obtain ⟨m₂, hdue₂, hglobals₂, hrun⟩ :=
        eval_waitPollExpired ht hdue hwait₁ hmore hs₁ hpast hsmall
      refine ⟨_, m₂, j₁ + 2, (hlook m₁ j₁).bind (hrun.bind (.neg nofun .ret)), ?_⟩
      exact ⟨hn, hdue₂, hglobals₂.trans hglobals, k + 1, rfl, by omega, by omega⟩
  obtain ⟨x, m', j', hrun, rfl, rfl, m₀, rfl, hglobals⟩ := capped
  exact ⟨m₀, hglobals, hrun⟩

/-- listen on a chip that never takes the command, with a clock that moves on by 1 µs from reading
to reading. -/
lemma eval_listen : ∃ m', (m'.sock 0).health = .faulted ∧
    Eval (clocked id) (Op.run Build.polled 0 .listen) (tcpReady id 1000000 0) 0
      (some sockerrTimeout) m' 200000 := by
  have ht : Clock id := ⟨monotone_id, fun i => by simp only [id]; omega⟩
  have hdue : Due id (tcpReady id 1000000 0) 0 := due_tcpReady _ _
  obtain ⟨m₁, hdue₁, hglobals₁, hopen⟩ := hdue.eval_deadlineAbs ht (by decide) 1000000
  have hdue₂ : Due id { m₁ with transportHealthy := false } 1 := ⟨hdue₁.active, hdue₁.tracks⟩
  obtain ⟨m₂, hdue₃, hglobals₃, hstart⟩ := hdue₂.eval_timeNow ht (by decide)
  have hglobals : m₂.toGlobals = (tcpReady id 1000000 0).toGlobals := hglobals₃.trans hglobals₁
  have hlook (m : Driver) (j : ℕ) :
      Eval (clocked id) (waitRegister.look Build.polled (Reg.snCR 0) 0) m j (some none) m j :=
    (eval_wizchipRead _ snCrListen m j).bind (.neg (by decide) .ret)
  have hexpired (m : Driver) (j : ℕ) : Eval (clocked id) (faultedTimeout 0) m j
      (some sockerrTimeout) (m.setSock 0 Sock.faulted) j := .mem .ret
  obtain ⟨m₃, -, hwait⟩ := eval_pollLoop_capped ht hlook hexpired (s := 1) (d := 1000000) hdue₃
    (hglobals ▸ (by rintro ⟨⟩)) (by decide) (by decide) (by decide)
  refine ⟨m₃.setSock 0 Sock.faulted, by simp [Driver.setSock, Sock.faulted], ?_⟩
  have hvalid : (tcpReady id 1000000 0).deadlineConfigValid = true := by decide
  have hdeadline : Eval (clocked id) (sockDeadlineBegin 1000000) (tcpReady id 1000000 0) 0
      (some (some 1000000)) m₁ 1 := .get (.pos hvalid (hopen.bind .ret))
  have hcommand : Eval (clocked id) (setSnCR Build.polled 0 snCrListen) m₁ 1 (some ())
      { m₁ with transportHealthy := false } 1 := .mem (.call (x := false) rfl .ret)
  have hcr : Eval (clocked id) (waitCrAccepted Build.polled 0 1000000)
      { m₁ with transportHealthy := false } 1 (some sockerrTimeout)
      (m₃.setSock 0 Sock.faulted) 200000 := by
    have hpoll : Eval (clocked id) waitPollInit { m₁ with transportHealthy := false } 1
        (some ⟨id 1, 2 ^ 64 - 1, 0⟩) m₂ 2 := hstart.bind .ret
    rw [waitCrAccepted, waitRegister]
    exact hpoll.bind hwait
  have hlocked : Eval (clocked id) (listenLocked Build.polled 0) (tcpReady id 1000000 0) 0
      (some sockerrTimeout) (m₃.setSock 0 Sock.faulted) 200000 := by
    refine .get (.neg (by rintro ⟨⟩) ((eval_wizchipRead _ sockInit _ _).bind (.neg (fun h => h rfl) ?_)))
    exact .get (hdeadline.bind (hcommand.bind (hcr.bind (.pos (by decide) .ret))))
  have hnum : ¬ sockNum ≤ 0 := by decide
  rw [Op.run, listen, if_neg hnum]
  exact Eval.bind (.call (x := ()) rfl .ret) (hlocked.bind (.call (x := ()) rfl .ret))

end early

end IoLibrary.Expiry
