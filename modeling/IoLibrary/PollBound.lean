import IoLibrary.Socket.Waits
import IoLibrary.TimeSource

/-! The number of polls of the waits. The waits that count their polls are bounded whatever the
clock does; the others are bounded when the clock moves on while they poll. -/
namespace IoLibrary.PollBound
open Effects WrapCounter TimeSource

/-- The time as the driver reads it. -/
def Driver.time (m : Driver) : ℕ := (m.wrapBaseUs + m.wrapLastRawUs) % 2 ^ 64

/-- Any chip, and a clock whose `i`-th reading by the driver is `t i`. -/
def clocked (t : ℕ → ℕ) : Env Driver ℕ Io Io.Res := fun m i e x i' =>
  match e, x with
  | .now, raw => Driver.time (m.sampled raw) = t i ∧ i' = i + 1
  | _, _ => i' = i

/-- A deadline of `T` opened at reading `i` has passed `pollMax` readings later. -/
def Reaches (t : ℕ → ℕ) (T i : ℕ) : Prop := (t i + T) % 2 ^ 64 ≤ t (i + pollMax)

/-- No wait of the call goes on after `pollMax` polls: none is cut there. -/
def Bounded (t : ℕ → ℕ) (sn : ℕ) (op : Op) (m : Driver) : Prop :=
  ∀ (b : Build) (i : ℕ) m' i', b.turns = pollMax → ¬ Eval (clocked t) (op.run b sn) m i none m' i'

/-- The budgets are `c` and `o`; `active` says whether a time source is registered. -/
structure Config (c o : ℕ) (active : Bool) (m : Driver) : Prop where
  command : m.commandTimeoutUs = c
  operation : m.operationTimeoutUs = o
  source : m.timeSourceActive = active

section clock
variable {t : ℕ → ℕ} {c o : ℕ} {active : Bool} {m : Driver} {i : ℕ} {H : Driver → ℕ → Prop}

lemma Config.update (h : Config c o active m) {f : Driver → Driver} (hf : KeepsClock f) :
    Config c o active (f m) := by
  obtain ⟨hc, ho, hs⟩ := hf m
  exact ⟨hc.trans h.command, ho.trans h.operation, hs.trans h.source⟩

lemma le_of_clocked {e : Io} {x : e.Res} {i' : ℕ} (h : clocked t m i e x i') : i ≤ i' := by
  cases e with
  | now =>
    obtain ⟨-, rfl⟩ := h
    exact Nat.le_succ i
  | _ => exact h.ge

lemma wp_timeNow {Q : ℕ → Driver → ℕ → Prop} (h : Config c o active m)
    (ticks : active = true → t i < 2 ^ 64 → ∀ m', Config c o active m' → Q (t i) m' (i + 1))
    (counts : active = false → Q m.pollCounter m i) : wp (clocked t) wizchipTimeNow Q H m i := by
  simp only [wizchipTimeNow, wp_bind, wp_get, wp_ite, wp_perform, wp_modify, wp_pure]
  refine ⟨fun hactive => ?_, fun hactive => ?_⟩
  · rintro raw _ ⟨htime, rfl⟩
    rw [Driver.time] at htime
    rw [htime]
    have hsmall : t i < 2 ^ 64 := htime ▸ Nat.mod_lt _ (by decide)
    exact ticks (h.source ▸ hactive) hsmall _ ⟨h.command, h.operation, h.source⟩
  · exact counts (by simpa [h.source] using hactive)

/-- Without a time source a deadline starts a count of polls. -/
lemma wp_deadlineAbs {Q : ℕ → Driver → ℕ → Prop} (T : ℕ) (h : Config c o active m)
    (ticks : active = true → t i < 2 ^ 64 → ∀ m', Config c o active m' →
      Q ((t i + T) % 2 ^ 64) m' (i + 1))
    (counts : active = false → ∀ m', Config c o active m' → m'.pollCounter = 0 → Q 0 m' i) :
    wp (clocked t) (wizchipDeadlineAbs T) Q H m i := by
  simp only [wizchipDeadlineAbs, wp_bind, wp_get, wp_ite, wp_modify, wp_pure]
  refine ⟨fun hactive => ?_, fun hactive => ?_⟩
  · refine wp_timeNow h ticks fun hfalse => ?_
    rw [h.source, hfalse] at hactive
    cases hactive
  · exact counts (by simpa [h.source] using hactive) _ ⟨h.command, h.operation, h.source⟩ rfl

lemma wp_deadlineExpired {Q : Bool → Driver → ℕ → Prop} (d : ℕ) (h : Config c o active m)
    (ticks : active = true → t i < 2 ^ 64 → ∀ m', Config c o active m' →
      Q (d ≤ t i) m' (i + 1))
    (counts : active = false → ∀ m', Config c o active m' →
      m'.pollCounter = (m.pollCounter + 1) % 2 ^ 32 → Q (d ≤ m'.pollCounter) m' i) :
    wp (clocked t) (wizchipDeadlineExpired d) Q H m i := by
  simp only [wizchipDeadlineExpired, wp_bind, wp_get, wp_ite, wp_modify, wp_pure]
  refine ⟨fun hactive => wp_timeNow h ticks fun hfalse => ?_, fun hactive => ?_⟩
  · rw [h.source, hfalse] at hactive
    cases hactive
  · exact counts (by simpa [h.source] using hactive) _ ⟨h.command, h.operation, h.source⟩ rfl

lemma wp_waitCallback {Q : Unit → Driver → ℕ → Prop} (h : Q () m i) :
    wp (clocked t) waitCallback Q H m i := by
  simp only [waitCallback, wp_bind, wp_get, wp_ite, wp_perform, wp_pure]
  refine ⟨?_, fun _ => h⟩
  rintro - _ _ rfl
  exact h

/-- What one poll at reading `i` comes to. A poll that is not the last is counted; with a time
source it reads the time twice, and the last one has polls or the time against it. -/
structure Polled (t : ℕ → ℕ) (active : Bool) (d : ℕ) (poll : Poll) (i : ℕ) (late : Bool)
    (polled : Poll) (i' : ℕ) : Prop where
  le : i ≤ i'
  counted : late = false →
    polled = { poll with polls := poll.polls + 1 } ∧ poll.polls + 1 < pollMax
  twice : late = false → active = true → i + 2 ≤ i'
  last : late = true → active = true → pollMax ≤ poll.polls + 1 ∨
    ∃ k, i' = k + 1 ∧ i ≤ k ∧ t k < 2 ^ 64 ∧
      (poll.timeoutUs ≤ (t k + 2 ^ 64 - poll.startedUs) % 2 ^ 64 ∨ d ≤ t k)

lemma wp_waitPollExpired {Q : Bool × Poll → Driver → ℕ → Prop} (poll : Poll) (d : ℕ)
    (h : Config c o active m)
    (hQ : ∀ late polled m' i', Config c o active m' → Polled t active d poll i late polled i' →
      Q (late, polled) m' i') : wp (clocked t) (waitPollExpired poll d) Q H m i := by
  simp only [waitPollExpired, wizchipDeadlinePoll, wp_bind]
  refine wp_waitCallback ((wp_ite _ _ _).2 ⟨fun hmax => ?_, fun hmore => ?_⟩)
  · exact hQ _ _ _ _ h ⟨le_rfl, by rintro ⟨⟩, by rintro ⟨⟩, fun _ _ => .inl hmax⟩
  have hlt : poll.polls + 1 < pollMax := not_le.1 hmore
  refine (wp_bind _ _).2 (wp_get.2 ((wp_ite _ _ _).2 ⟨fun hactive => ?_, fun hinactive => ?_⟩))
  · have hactive : active = true := h.source ▸ hactive
    subst hactive
    refine (wp_bind _ _).2 (wp_timeNow h (fun _ hi m₁ h₁ => ?_) (by rintro ⟨⟩))
    refine (wp_ite _ _ _).2 ⟨fun hlate => ?_, fun _ => (wp_bind _ _).2 ?_⟩
    · refine hQ _ _ _ _ h₁ ⟨Nat.le_succ i, by rintro ⟨⟩, by rintro ⟨⟩, fun _ _ => .inr ?_⟩
      exact ⟨i, rfl, le_rfl, hi, .inl (of_decide_eq_true hlate)⟩
    · refine wp_deadlineExpired d h₁ (fun _ hi₁ m₂ h₂ => ?_) (by rintro ⟨⟩)
      refine hQ _ _ _ _ h₂ ⟨by omega, fun _ => ⟨rfl, hlt⟩, fun _ _ => le_rfl, fun hlate _ => .inr ?_⟩
      exact ⟨i + 1, rfl, Nat.le_succ i, hi₁, .inr (of_decide_eq_true hlate)⟩
  · have hinactive : active = false := by simpa [h.source] using hinactive
    subst hinactive
    refine (wp_ite _ _ _).2 ⟨by rintro ⟨⟩, fun _ => (wp_bind _ _).2 ?_⟩
    refine wp_deadlineExpired d h (by rintro ⟨⟩) fun _ m₁ h₁ _ => ?_
    exact hQ _ _ _ _ h₁ ⟨le_rfl, fun _ => ⟨rfl, hlt⟩, fun _ h => absurd h Bool.false_ne_true,
      fun _ h => absurd h Bool.false_ne_true⟩

end clock

section loops
variable {t : ℕ → ℕ} {b : Build} {c o : ℕ} {active : Bool} {α : Type}

/-- No run of the program from a configured memory is cut. -/
def Ends (t : ℕ → ℕ) (c o : ℕ) {α : Type} (p : Drv α) : Prop :=
  ∀ active m i, Config c o active m →
    wp (clocked t) p (fun _ m' i' => Config c o active m' ∧ i ≤ i') (fun _ _ => False) m i

variable {look : Drv (Option α)} {expired : Drv α}

/-- A wait that counts its polls ends, whatever its deadline. -/
lemma ends_pollLoop (hb : b.turns = pollMax) (hlook : Ends t c o look)
    (hexpired : Ends t c o expired) (d now timeoutUs : ℕ) : Ends t c o (pollLoop b d ⟨now, timeoutUs, 0⟩ look expired) := by
  intro active m i h
  refine wp_loop_count (fun n poll m' i' => poll.polls + n = pollMax ∧ 0 < n ∧
    Config c o active m' ∧ i ≤ i') ?_ (fun poll m' i' hI => absurd hI.2.1 (lt_irrefl 0)) _
    ⟨by simp [hb], hb ▸ by decide, h, le_rfl⟩
  rintro n poll m₁ i₁ ⟨hcount, -, h₁, hi₁⟩
  refine (wp_bind _ _).2 (wp_mono (hlook active m₁ i₁ h₁) ?_ fun _ _ => id)
  rintro (_ | a) m₂ i₂ ⟨h₂, hi₂⟩
  · refine (wp_bind _ _).2 (wp_waitPollExpired poll d h₂ fun late polled m₃ i₃ h₃ hp => ?_)
    have hi₃ := hp.le
    refine (wp_ite _ _ _).2 ⟨fun _ => ?_, fun hlate => ?_⟩
    · refine (wp_bind _ _).2 (wp_mono (hexpired active m₃ i₃ h₃) ?_ fun _ _ => id)
      exact fun a m₄ i₄ h₄ => ⟨h₄.1, by omega⟩
    · obtain ⟨rfl, hlt⟩ := hp.counted (by simpa using hlate)
      exact ⟨by simp only; omega, by omega, h₃, by omega⟩
  · exact ⟨h₂, by omega⟩

lemma Ends.ret (a : α) : Ends t c o (pure a : Drv α) := fun _ _ _ h => ⟨h, le_rfl⟩

lemma Ends.bind {β : Type} {p : Drv α} {f : α → Drv β} (hp : Ends t c o p)
    (hf : ∀ a, Ends t c o (f a)) : Ends t c o (p >>= f) := by
  intro active m i h
  refine (wp_bind _ _).2 (wp_mono (hp active m i h) ?_ fun _ _ => id)
  intro a m₁ i₁ ⟨h₁, hi₁⟩
  refine wp_mono (hf a active m₁ i₁ h₁) ?_ fun _ _ => id
  intro x m₂ i₂ ⟨h₂, hi₂⟩
  exact ⟨h₂, hi₁.trans hi₂⟩

/-- A wait for a deadline `d` opened at reading `i` ends when `d` has passed `pollMax` readings
later. -/
lemma ends_clockLoop_ticks (mono : Monotone t) (hb : b.turns = pollMax) (hlook : Ends t c o look)
    (hexpired : Ends t c o expired) {d i j : ℕ} {m : Driver} (h : Config c o true m)
    (hd : d ≤ t (i + pollMax)) (hj : i + 1 ≤ j) :
    wp (clocked t) (clockLoop b d look expired) (fun _ m' i' => Config c o true m' ∧ j ≤ i')
      (fun _ _ => False) m j := by
  refine wp_loop_count (fun n _ m' i' => i + 1 + pollMax ≤ i' + n ∧ 0 < n ∧
    Config c o true m' ∧ j ≤ i') ?_ (fun _ m' i' hI => absurd hI.2.1 (lt_irrefl 0)) _
    ⟨by omega, hb ▸ by decide, h, le_rfl⟩
  intro n _ m₁ i₁ ⟨hcount, _, h₁, hi₁⟩
  refine (wp_bind _ _).2 (wp_mono (hlook true m₁ i₁ h₁) ?_ fun _ _ => id)
  intro r m₂ i₂ ⟨h₂, hi₂⟩
  cases r with
  | some a => exact ⟨h₂, by omega⟩
  | none =>
    refine (wp_bind _ _).2 (wp_deadlineExpired d h₂ (fun _ _ m₃ h₃ => ?_) nofun)
    refine (wp_ite _ _ _).2 ⟨fun _ => ?_, fun hearly => ?_⟩
    · refine (wp_bind _ _).2 (wp_mono (hexpired true m₃ _ h₃) ?_ fun _ _ => id)
      exact fun a m₄ i₄ h₄ => ⟨h₄.1, by omega⟩
    · have hlt : t i₂ < t (i + pollMax) := (not_le.1 (by simpa using hearly)).trans_le hd
      have hread : i₂ < i + pollMax := mono.reflect_lt hlt
      exact ⟨by omega, by omega, h₃, by omega⟩

/-- A wait of connect and disconnect: with no time source it expires at its first look. -/
lemma ends_clockLoop (mono : Monotone t) (hb : b.turns = pollMax) (hlook : Ends t c o look)
    (hexpired : Ends t c o expired) {T : ℕ} (hT : ∀ i, Reaches t T i) :
    Ends t c o (do
      let d ← wizchipDeadlineAbs T
      clockLoop b d look expired) := by
  intro active m i h
  refine (wp_bind _ _).2 (wp_deadlineAbs T h (fun hactive _ m₁ h₁ => ?_) fun hactive m₁ h₁ _ => ?_)
  · subst hactive
    refine wp_mono (ends_clockLoop_ticks mono hb hlook hexpired h₁ (hT i) le_rfl) ?_ fun _ _ => id
    exact fun _ m' i' h' => ⟨h'.1, by omega⟩
  · subst hactive
    refine wp_loop_count (fun n _ m' i' => 0 < n ∧ Config c o false m' ∧ i ≤ i') ?_
      (fun _ m' i' hI => absurd hI.1 (lt_irrefl 0)) _ ⟨b.turns_pos, h₁, le_rfl⟩
    intro n _ m₂ i₂ ⟨_, h₂, hi₂⟩
    refine (wp_bind _ _).2 (wp_mono (hlook false m₂ i₂ h₂) ?_ fun _ _ => id)
    intro r m₃ i₃ ⟨h₃, hi₃⟩
    cases r with
    | some a => exact ⟨h₃, by omega⟩
    | none =>
      refine (wp_bind _ _).2 (wp_deadlineExpired 0 h₃ nofun fun _ m₄ h₄ _ => ?_)
      refine (wp_ite _ _ _).2 ⟨fun _ => ?_, fun hearly => absurd (decide_eq_true (Nat.zero_le _)) hearly⟩
      refine (wp_bind _ _).2 (wp_mono (hexpired false m₄ _ h₄) ?_ fun _ _ => id)
      exact fun a m₅ i₅ h₅ => ⟨h₅.1, by omega⟩

/-- A transfer does not touch the count of polls. -/
lemma wp_readStatus {Q : ℤ → Driver → ℕ → Prop} {H : Driver → ℕ → Prop} {m : Driver} {i : ℕ}
    (fault : Bool) (h : Config c o active m)
    (hQ : ∀ r m', Config c o active m' → m'.pollCounter = m.pollCounter → Q r m' i) :
    wp (clocked t) (readStatus b fault) Q H m i := by
  have hfault : wp (clocked t) wizchipSpiFault Q H m i :=
    hQ _ _ ⟨h.command, h.operation, h.source⟩ rfl
  refine (wp_ite _ _ _).2 ⟨fun _ => ?_, fun _ => ?_⟩
  · exact (wp_ite _ _ _).2 ⟨fun _ => hfault, fun _ => hQ _ _ h rfl⟩
  · refine (wp_bind _ _).2 (wp_get.2 ((wp_ite _ _ _).2 ⟨fun _ => hQ _ _ h rfl, fun _ => ?_⟩))
    refine (wp_ite _ _ _).2 ⟨fun _ => hfault, fun _ => ?_⟩
    exact hQ _ _ ⟨h.command, h.operation, h.source⟩ rfl

lemma wp_wizchipRead16 {Q : Option ℕ → Driver → ℕ → Prop} {H : Driver → ℕ → Prop} {m : Driver}
    {i : ℕ} (a : Addr) (h : Config c o active m)
    (hQ : ∀ r m', Config c o active m' → m'.pollCounter = m.pollCounter → Q r m' i) :
    wp (clocked t) (wizchipRead16 b a) Q H m i := by
  refine (wp_bind _ _).2 ?_
  rintro x _ rfl
  exact (wp_bind _ _).2 (wp_readStatus x.2 h fun r m' h' hpolls => hQ _ m' h' hpolls)

lemma wp_sizeLook {m : Driver} {i : ℕ} (a : Addr) (h : Config c o active m) :
    wp (clocked t) (sizeLook b a) (fun _ m' i' => Config c o active m' ∧
      m'.pollCounter = m.pollCounter ∧ i' = i) (fun _ _ => False) m i := by
  refine (wp_bind _ _).2 (wp_wizchipRead16 a h fun r m₁ h₁ hp₁ => ?_)
  cases r with
  | none => exact ⟨h₁, hp₁, rfl⟩
  | some first =>
    refine (wp_bind _ _).2 (wp_wizchipRead16 a h₁ fun r m₂ h₂ hp₂ => ?_)
    have hp₂ := hp₂.trans hp₁
    cases r with
    | none => exact ⟨h₂, hp₂, rfl⟩
    | some second =>
      refine (wp_ite _ _ _).2 ⟨fun _ => ⟨h₂, hp₂, rfl⟩, fun _ => ?_⟩
      refine (wp_bind _ _).2 (wp_wizchipRead16 a h₂ fun r m₃ h₃ hp₃ => ?_)
      have hp₃ := hp₃.trans hp₂
      cases r with
      | none => exact ⟨h₃, hp₃, rfl⟩
      | some third =>
        exact (wp_ite _ _ _).2 ⟨fun _ => ⟨h₃, hp₃, rfl⟩, fun _ => ⟨h₃, hp₃, rfl⟩⟩

/-- With no time source the stable reads count their turns. -/
lemma ends_stableSize (mono : Monotone t) (hb : b.turns = pollMax)
    (hT : ∀ i, Reaches t pollMax i) (a : Addr) : Ends t c o (stableSize b a) := by
  intro active m i h
  refine (wp_bind _ _).2 (wp_deadlineAbs pollMax h (fun hactive hsmall m₁ h₁ => ?_) ?_)
  · subst hactive
    have hlook : Ends t c o (sizeLook b a) := fun active m i h =>
      wp_mono (wp_sizeLook a h) (fun _ m' i' h' => ⟨h'.1, h'.2.2.ge⟩) fun _ _ => id
    have hd : (if (t i + pollMax) % 2 ^ 64 = 0 then pollMax else (t i + pollMax) % 2 ^ 64) ≤
        t (i + pollMax) := by
      split
      · next hzero =>
        have hle : t i ≤ t (i + pollMax) := mono (Nat.le_add_right i pollMax)
        have : pollMax = 100000 := rfl
        omega
      · exact hT i
    refine wp_mono (ends_clockLoop_ticks mono hb hlook (.ret _) h₁ hd le_rfl) ?_ fun _ _ => id
    exact fun _ m' i' h' => ⟨h'.1, by omega⟩
  · intro hactive m₁ h₁ hzero
    subst hactive
    refine wp_loop_count (fun n _ m' i' => m'.pollCounter + n = pollMax ∧ 0 < n ∧
      Config c o false m' ∧ i ≤ i') ?_ (fun _ m' i' hI => absurd hI.2.1 (lt_irrefl 0)) _
      ⟨by omega, hb ▸ by decide, h₁, le_rfl⟩
    intro n _ m₂ i₂ ⟨hcount, _, h₂, hi₂⟩
    refine (wp_bind _ _).2 (wp_mono (wp_sizeLook a h₂) ?_ fun _ _ => id)
    rintro r m₃ _ ⟨h₃, hpolls, rfl⟩
    cases r with
    | some r => exact ⟨h₃, hi₂⟩
    | none =>
      refine (wp_bind _ _).2 (wp_deadlineExpired _ h₃ nofun fun _ m₄ h₄ hpolled => ?_)
      have hnext : m₄.pollCounter = m₂.pollCounter + 1 := by
        rw [hpolled, hpolls]
        have : pollMax = 100000 := rfl
        omega
      refine (wp_ite _ _ _).2 ⟨fun _ => ⟨h₄, hi₂⟩, fun hearly => ?_⟩
      have hlt : m₄.pollCounter < pollMax := by simpa using hearly
      exact ⟨by omega, by omega, h₄, hi₂⟩

/-- Every wait ends, the ones that only look at the time if time moves on. -/
lemma ends_waits (mono : Monotone t) (hb : b.turns = pollMax) {A : Set ℕ} {D : Set (ℕ × ℕ)}
    {p : Drv α}
    (hp : Waits b A c o D p) (hA : ∀ T ∈ A, ∀ i, Reaches t T i) : Ends t c o p := by
  induction hp with
  | ret a => exact .ret a
  | bind _ _ ihp ihf => exact ihp.bind ihf
  | mem hf _ ih =>
    intro active m i h
    exact ih m h.command h.operation active _ i (h.update hf)
  | call _ ih =>
    intro active m i h x i' hx
    refine wp_mono (ih x active m i' h) ?_ fun _ _ => id
    exact fun a m'' i'' h'' => ⟨h''.1, (le_of_clocked hx).trans h''.2⟩
  | opens _ _ ih =>
    refine Ends.bind ?_ ih
    intro active m i h
    exact wp_deadlineAbs _ h (fun _ _ m' h' => ⟨h', Nat.le_succ i⟩) fun _ m' h' _ => ⟨h', le_rfl⟩
  | reads _ ih =>
    refine Ends.bind ?_ ih
    intro active m i h
    refine wp_timeNow h (fun _ _ m' h' => ⟨h', Nat.le_succ i⟩) fun _ => ⟨h, le_rfl⟩
  | counted _ _ _ _ ihlook ihexpired => exact ends_pollLoop hb ihlook ihexpired _ _ _
  | timed ho _ _ ihlook ihexpired => exact ends_clockLoop mono hb ihlook ihexpired (hA _ ho)
  | stable hmax _ => exact ends_stableSize mono hb (hA _ hmax) _

end loops

section stuck
variable {t : ℕ → ℕ} {i j : ℕ} {m : Driver}

/-- Before reading `j` the driver's total follows the clock, from less than a period ago. -/
structure Due (t : ℕ → ℕ) (m : Driver) (j : ℕ) : Prop where
  active : m.timeSourceActive = true
  tracks : ∃ s, s ≤ t j ∧ t j < s + 2 ^ 32 ∧ Tracks (2 ^ 32) (2 ^ 64) 0 s (Driver.total m)

/-- A clock that the driver reads before its source wraps twice. -/
structure Clock (t : ℕ → ℕ) : Prop where
  mono : Monotone t
  close : ∀ i, t (i + 1) < t i + 2 ^ 32

lemma Due.sampled (ht : Clock t) (h : Due t m j) (hj : t j < 2 ^ 64) :
    Due t (m.sampled (t j % 2 ^ 32)) (j + 1) ∧ Driver.time (m.sampled (t j % 2 ^ 32)) = t j := by
  obtain ⟨s, hle, hclose, htracks⟩ := h.tracks
  have htotal : Driver.total (m.sampled (t j % 2 ^ 32)) =
      (Driver.total m).sample (2 ^ 32) (2 ^ 64) (t j % 2 ^ 32) := by
    simp only [Driver.total, Driver.sampled, Total.sample, Nat.mod_mod]
    rfl
  have hnext := htracks.sample hle hclose
  rw [← htotal] at hnext
  refine ⟨⟨h.active, t j, ht.mono (Nat.le_succ j), ht.close j, hnext⟩, ?_⟩
  exact (hnext.value (Nat.zero_le _)).trans (Nat.mod_eq_of_lt hj)

lemma Due.eval_timeNow (ht : Clock t) (h : Due t m j) (hj : t j < 2 ^ 64) :
    ∃ m', Due t m' (j + 1) ∧ m'.toGlobals = m.toGlobals ∧
      Eval (clocked t) wizchipTimeNow m j (some (t j)) m' (j + 1) := by
  obtain ⟨hdue, htime⟩ := h.sampled ht hj
  have value (m : Driver) {v : ℕ} (hv : Driver.time m = v) :
      Eval (clocked t) (pure (Driver.time m)) m (j + 1) (some v) m (j + 1) := by
    subst hv
    exact .ret
  exact ⟨_, hdue, rfl, .get (.pos h.active (.call ⟨htime, rfl⟩ (.mem (.mem (value _ htime)))))⟩

lemma Due.eval_deadlineAbs (ht : Clock t) (h : Due t m j) (hj : t j < 2 ^ 64) (T : ℕ) :
    ∃ m', Due t m' (j + 1) ∧ m'.toGlobals = m.toGlobals ∧
      Eval (clocked t) (wizchipDeadlineAbs T) m j (some ((t j + T) % 2 ^ 64)) m' (j + 1) := by
  obtain ⟨m', hdue, hglobals, hrun⟩ := h.eval_timeNow ht hj
  exact ⟨m', hdue, hglobals, .get (.pos h.active (hrun.bind .ret))⟩

lemma Due.eval_deadlineExpired (ht : Clock t) (h : Due t m j) (hj : t j < 2 ^ 64) (d : ℕ) :
    ∃ m', Due t m' (j + 1) ∧ m'.toGlobals = m.toGlobals ∧
      Eval (clocked t) (wizchipDeadlineExpired d) m j (some (d ≤ t j)) m' (j + 1) := by
  obtain ⟨m', hdue, hglobals, hrun⟩ := h.eval_timeNow ht hj
  exact ⟨m', hdue, hglobals, .get (.pos h.active (hrun.bind .ret))⟩

/-- WIZCHIP_SAFE_SPI with waits of up to _WIZCHIP_POLL_MAX_ polls. -/
def Build.polled : Build := ⟨true, pollMax, by decide⟩

/-- A wait for a deadline opened at reading `i` that `pollMax` readings do not reach goes on
when its looks can find nothing. -/
lemma eval_clockLoop_cut (ht : Clock t) {d : ℕ} (hd : t (i + pollMax) < d) (hsmall : d < 2 ^ 64)
    {α : Type} {look : Drv (Option α)} (expired : Drv α)
    (hlook : ∀ m j, Eval (clocked t) look m j (some none) m j) (h : Due t m (i + 1)) :
    ∃ m' i', Eval (clocked t) (clockLoop Build.polled d look expired) m (i + 1) none m' i' := by
  refine Eval.loop_cut (fun n _ m' j => Due t m' j ∧ j + n = i + 1 + pollMax) ?_ _ ⟨h, rfl⟩
  intro n _ m₁ j ⟨hdue, hcount⟩
  have hj : t j < d := (ht.mono (by omega)).trans_lt hd
  obtain ⟨m₂, hdue₂, -, hrun⟩ := hdue.eval_deadlineExpired ht (hj.trans hsmall) d
  have hearly : ¬ d ≤ t j := not_le.2 hj
  rw [decide_eq_false hearly] at hrun
  exact ⟨(), m₂, j + 1, (hlook m₁ j).bind (hrun.bind .ret), hdue₂, by omega⟩

/-- A ready driver before reading `i`, whose sockets are TCP sockets. -/
def tcpReady (t : ℕ → ℕ) (B i : ℕ) : Driver :=
  { Driver.boot B B with
    chipState := .ready, sock := fun _ => { Sock.boot with mode := snMrTcp }
    wrapBaseUs := t i / 2 ^ 32 * 2 ^ 32, wrapLastRawUs := t i % 2 ^ 32 }

lemma due_tcpReady (B i : ℕ) : Due t (tcpReady t B i) i := by
  refine ⟨rfl, t i, le_rfl, by omega, rfl, ?_⟩
  have : t i / 2 ^ 32 * 2 ^ 32 + t i % 2 ^ 32 + 0 = t i := by omega
  exact this ▸ Nat.ModEq.refl _

lemma eval_wizchipRead (a : Addr) (v : Byte) (m : Driver) (j : ℕ) :
    Eval (clocked t) (wizchipRead Build.polled a) m j (some v) m j :=
  .call (x := (v, false)) rfl .ret

/-- disconnect waits for CLOSED by the clock alone. -/
lemma disconnect_cut (ht : Clock t) {B : ℕ} (hB : B ≠ 0) (h : ¬ Reaches t B i) :
    ¬ Bounded t 0 .disconnect (tcpReady t B i) := by
  intro hbounded
  -- Sn_SR reads SOCK_FIN_WAIT
  have hlook (m : Driver) (j : ℕ) :
      Eval (clocked t) (disconnectLook Build.polled 0) m j (some none) m j := by
    refine (eval_wizchipRead _ 0x18 m j).bind (.neg (by decide) ?_)
    exact Eval.bind (.bind (.bind (eval_wizchipRead _ 0 m j) .ret) (.neg (by decide) .ret))
      (.neg (by decide) .ret)
  have hdue : Due t ((tcpReady t B i).setSock 0 Sock.notSending) i :=
    ⟨rfl, (due_tcpReady B i).tracks⟩
  have hlate : t (i + pollMax) < (t i + B) % 2 ^ 64 := not_le.1 h
  have hwrap : (t i + B) % 2 ^ 64 < 2 ^ 64 := Nat.mod_lt _ (by decide)
  have hi : t i < 2 ^ 64 := ((ht.mono (Nat.le_add_right i pollMax)).trans_lt hlate).trans hwrap
  obtain ⟨m₁, hdue₁, -, hopen⟩ := hdue.eval_deadlineAbs ht hi B
  obtain ⟨m', i', hcut⟩ :=
    eval_clockLoop_cut ht hlate hwrap (faultedIo 0) hlook hdue₁
  refine hbounded Build.polled i m' i' rfl ?_
  have hnum : ¬ sockNum ≤ 0 := by decide
  rw [Op.run, disconnect, if_neg hnum]
  refine Eval.bind (.call (x := ()) rfl .ret) (Eval.bind_cut (.get (.neg ?_ (.neg ?_ (.neg ?_ ?_)))))
  · exact fun h => h rfl
  · exact nofun
  · have hmode : snMrTcp &&& 0x03 = 0x01 := by decide
    exact fun hne => hne hmode
  refine (eval_wizchipRead _ 0x18 _ i).bind (.neg (by decide) (.neg (by decide) ?_))
  refine .mem (.get (.neg ?_ (hopen.bind hcut)))
  have hvalid : (tcpReady t B i).deadlineConfigValid = true := by
    simp [Globals.deadlineConfigValid, Globals.timeSourceActive, tcpReady, Driver.boot, hB]
  exact fun hinvalid => hinvalid hvalid

/-- The stable reads wait for two equal samples by the clock alone. -/
lemma getsockopt_cut (ht : Clock t) (B : ℕ) (h : ¬ Reaches t pollMax i) :
    ¬ Bounded t 0 (.getsockopt .sendbuf true) (tcpReady t B i) := by
  intro hbounded
  have hread (a : Addr) (hi lo : Byte) (m : Driver) (j : ℕ) :
      Eval (clocked t) (wizchipRead16 Build.polled a) m j (some (some (word16 hi lo))) m j :=
    .call (x := (#v[hi, lo], false)) rfl .ret
  have hlook (m : Driver) (j : ℕ) :
      Eval (clocked t) (sizeLook Build.polled (Reg.snTXFSR 0)) m j (some none) m j := by
    refine (hread _ 0 1 m j).bind ((hread _ 0 2 m j).bind (.neg (by decide) ?_))
    exact (hread _ 0 3 m j).bind (.neg (by decide) .ret)
  have hlate : t (i + pollMax) < (t i + pollMax) % 2 ^ 64 := not_le.1 h
  have hwrap : (t i + pollMax) % 2 ^ 64 < 2 ^ 64 := Nat.mod_lt _ (by decide)
  have hi : t i < 2 ^ 64 := ((ht.mono (Nat.le_add_right i pollMax)).trans_lt hlate).trans hwrap
  obtain ⟨m₁, hdue₁, -, hopen⟩ := (due_tcpReady B i).eval_deadlineAbs ht hi pollMax
  obtain ⟨m', i', hcut⟩ :=
    eval_clockLoop_cut ht hlate hwrap (return .error sockerrDeadline) hlook hdue₁
  have hstable : Eval (clocked t) (stableSize Build.polled (Reg.snTXFSR 0)) (tcpReady t B i) i none
      m' i' := by
    refine hopen.bind ?_
    rw [if_neg (Nat.ne_zero_of_lt hlate)]
    exact hcut
  refine hbounded Build.polled i m' i' rfl ?_
  have hnum : ¬ sockNum ≤ 0 := by decide
  rw [Op.run, getsockopt, if_neg hnum]
  refine Eval.bind_cut (.neg (fun h => h rfl) ?_)
  refine Eval.bind (.call (x := ()) rfl .ret) (Eval.bind_cut (.get (.neg ?_ ?_)))
  · exact nofun
  · exact hstable.bind_cut

end stuck

/-- No wait of any operation goes on after _WIZCHIP_POLL_MAX_ polls where the clock, when it is
read as often, passes the budgets of the waits that do not count their polls; and if the clock does
not, for some operation and some chip a wait goes on. -/
theorem waits_bounded {t : ℕ → ℕ} (mono : Monotone t) :
    (∀ sn op m, (∀ T ∈ op.clockOnly m.operationTimeoutUs, ∀ i, Reaches t T i) → Bounded t sn op m) ∧
    ((∀ i, t (i + 1) < t i + 2 ^ 32) → ∀ B,
      (∀ sn op m, m.operationTimeoutUs = B → Bounded t sn op m) ↔
        ∀ T, T = B ∨ T = pollMax → ∀ i, Reaches t T i) := by
  have enough (sn : ℕ) (op : Op) (m : Driver)
      (hT : ∀ T ∈ op.clockOnly m.operationTimeoutUs, ∀ i, Reaches t T i) : Bounded t sn op m := by
    intro b i m' i' hb hrun
    have hends := ends_waits mono hb (waits_op b m.commandTimeoutUs _ sn op) hT
    exact wp_cuts (hends m.timeSourceActive m i ⟨rfl, rfl, rfl⟩) hrun
  refine ⟨enough, fun close B => ⟨fun hall T hT i => ?_, fun hT sn op m hm => ?_⟩⟩
  · have ht : Clock t := ⟨mono, close⟩
    by_contra hreaches
    rcases hT with rfl | rfl
    · by_cases hzero : T = 0
      · refine hreaches ?_
        rw [Reaches, hzero, Nat.add_zero]
        exact (Nat.mod_le _ _).trans (mono (Nat.le_add_right i pollMax))
      · exact disconnect_cut ht hzero hreaches (hall _ _ _ rfl)
    · exact getsockopt_cut ht B hreaches (hall _ _ _ rfl)
  · refine enough sn op m fun T hmem => hT T ?_
    subst hm
    cases op with
    | connect | disconnect => exact .inl hmem
    | send | recv | sendto | recvfrom | getsockopt => exact .inr hmem
    | _ => exact absurd hmem (Set.notMem_empty T)

/-- A clock that moves on by 20 µs from reading to reading. -/
theorem waits_bounded_twenty :
    Bounded (20 * ·) 0 .disconnect (tcpReady (20 * ·) 1000000 0) := by
  have mono : Monotone (20 * · : ℕ → ℕ) := fun i j h => Nat.mul_le_mul_left 20 h
  have close (i : ℕ) : 20 * (i + 1) < 20 * i + 2 ^ 32 := by omega
  refine ((waits_bounded mono).2 close 1000000).2 (fun T hT i => ?_) 0 .disconnect _ rfl
  have hmax : pollMax = 100000 := rfl
  have hle : T ≤ 1000000 := by omega
  calc (20 * i + T) % 2 ^ 64
      ≤ 20 * i + T := Nat.mod_le _ _
    _ ≤ 20 * (i + pollMax) := by omega

/-- disconnect polls for as long as the clock stands still. -/
theorem disconnect_unbounded :
    ¬ ∀ t : ℕ → ℕ, Monotone t → ∀ sn op m, Bounded t sn op m := by
  intro hall
  have ht : Clock fun _ => 0 := ⟨fun _ _ _ => le_rfl, fun _ => by decide⟩
  have hreaches : ¬ Reaches (fun _ => 0) 1000000 0 := by
    unfold Reaches
    decide
  exact disconnect_cut ht (by decide) hreaches (hall _ ht.mono 0 .disconnect _)

end IoLibrary.PollBound
