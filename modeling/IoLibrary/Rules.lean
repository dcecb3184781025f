import IoLibrary.Deadline
import IoLibrary.Effects.Results

/-! Rules for the transfers and the clock, seen through the globals: a transfer is one
frame whatever its status does to the chip state, and time only asks the clock. -/
namespace IoLibrary
open Effects

variable {W : Type} {env : Env Globals W Io Io.Res} {g : Globals} {w : W}

abbrev wpg (env : Env Globals W Io Io.Res) {α : Type} (p : Drv α)
    (Q : α → Globals → W → Prop) (H : Globals → W → Prop) : Globals → W → Prop :=
  wpv Driver.toGlobals env p Q H

lemma exists_driver (g : Globals) : ∃ m : Driver, m.toGlobals = g :=
  ⟨⟨g, .ready, 0, true, 0, 0, 0, 0, 0⟩, rfl⟩

/-- What the view lets vary is irrelevant to a fact about the view. -/
@[simp] lemma forall_driver {p : Globals → Prop} :
    (∀ m : Driver, m.toGlobals = g → p m.toGlobals) ↔ p g := by
  constructor
  · intro h
    obtain ⟨m, rfl⟩ := exists_driver g
    exact h m rfl
  · rintro h m rfl
    exact h

@[simp] lemma forall_driver_const {p : Prop} : (∀ m : Driver, m.toGlobals = g → p) ↔ p :=
  forall_driver (p := fun _ => p)

section transfers
variable {Q : Globals → W → Prop} {H : Globals → W → Prop}

@[simp] lemma wpg_modifySock {Q : Unit → Globals → W → Prop} (sn : ℕ) (f : Sock → Sock) :
    wpg env (modifySock sn f) Q H g w ↔ Q () (g.setSock sn f) w := by
  simp only [modifySock, wpv_modify, Driver.setSock]
  exact forall_driver (p := fun g => Q () (g.setSock sn f) w)

@[simp] lemma wpg_readStatus (b : Build) (fault : Bool) :
    wpg env (readStatus b fault) (fun _ => Q) H g w ↔ Q g w := by
  cases hs : b.safeSpi <;> cases fault <;>
    simp [readStatus, wizchipSpiFault, hs, forall_driver (p := fun g => Q g w)]
  all_goals
    constructor
    · intro h
      obtain ⟨m, rfl⟩ := exists_driver g
      cases hm : m.transportHealthy
      · exact (h m rfl).2 hm
      · exact (h m rfl).1 hm
    · rintro h m rfl
      exact ⟨fun _ => h, fun _ => h⟩

@[simp] lemma wpg_writeStatus (b : Build) (fault : Bool) :
    wpg env (writeStatus b fault) (fun _ => Q) H g w ↔ Q g w := by
  unfold writeStatus
  split <;> simp [wizchipSpiFault, forall_driver (p := fun g => Q g w)]

/-- Without WIZCHIP_SAFE_SPI a failure may go unnoticed. -/
lemma wpg_wizchipRead8CheckedOut {Q : ℤ × Byte → Globals → W → Prop} (b : Build) (a : Addr)
    (h : ∀ x w₁, env g w (.read8 a) x w₁ →
      (¬ (b.safeSpi ∧ x.2) → Q (0, x.1) g w₁) ∧ (x.2 → Q (sockerrIo, x.1) g w₁)) :
    wpg env (wizchipRead8CheckedOut b a) Q H g w := by
  simp only [wizchipRead8CheckedOut, wpv_bind, wpv_perform]
  intro x w₁ hx
  obtain ⟨ok, failed⟩ := h x w₁ hx
  cases hs : b.safeSpi <;> cases hf : x.2 <;>
    simp_all [readStatus, wizchipSpiFault]

lemma wpg_wizchipWrite8Checked {Q : ℤ → Globals → W → Prop} (b : Build) (a : Addr) (v : Byte)
    (h : ∀ x w₁, env g w (.write8 a v) x w₁ →
      (¬ (b.safeSpi ∧ x) → Q 0 g w₁) ∧ (b.safeSpi ∧ x → Q sockerrIo g w₁)) :
    wpg env (wizchipWrite8Checked b a v) Q H g w := by
  simp only [wizchipWrite8Checked, wpv_bind, wpv_modify, wpv_perform]
  rintro m rfl x w₁ hx
  obtain ⟨ok, failed⟩ := h x w₁ hx
  unfold writeStatus
  split
  · next hf =>
    simp only [wizchipSpiFault, wpv_bind, wpv_modify, wpv_pure]
    exact (forall_driver (p := fun g => Q sockerrIo g w₁)).2 (failed hf)
  · next hf => exact ok hf

@[simp] lemma wpg_wizchipRead {Q : Byte → Globals → W → Prop} (b : Build) (a : Addr) :
    wpg env (wizchipRead b a) Q H g w ↔ ∀ x w₁, env g w (.read8 a) x w₁ → Q x.1 g w₁ := by
  simp [wizchipRead, wizchipRead8CheckedOut]

@[simp] lemma wpg_wizchipWrite {Q : Unit → Globals → W → Prop} (b : Build) (a : Addr) (v : Byte) :
    wpg env (wizchipWrite b a v) Q H g w ↔ ∀ x w₁, env g w (.write8 a v) x w₁ → Q () g w₁ := by
  simp only [wizchipWrite, wizchipWrite8Checked, wpv_bind, wpv_modify, wpv_pure, wpg_writeStatus,
    wpv_perform]
  exact forall_driver (p := fun g => ∀ x w₁, env g w (.write8 a v) x w₁ → Q () g w₁)

@[simp] lemma wpg_wizchipReadBuf {Q : List Byte → Globals → W → Prop} (b : Build) (a : Addr)
    (len : ℕ) : wpg env (wizchipReadBuf b a len) Q H g w ↔
      (len = 0 → Q [] g w) ∧
        (len ≠ 0 → ∀ x w₁, env g w (.readBuf a len) x w₁ → Q x.1.toList g w₁) := by
  by_cases h : len = 0 <;> simp [wizchipReadBuf, wizchipReadBufChecked, h]

@[simp] lemma wpg_wizchipWriteBufChecked (b : Build) (a : Addr) (data : List Byte) :
    wpg env (wizchipWriteBufChecked b a data) (fun _ => Q) H g w ↔
      (data = [] → Q g w) ∧ (data ≠ [] → ∀ x w₁, env g w (.writeBuf a data) x w₁ → Q g w₁) := by
  by_cases h : data = []
  · simp [wizchipWriteBufChecked, h]
  · simp only [wizchipWriteBufChecked, h, if_false, wpv_bind, wpv_modify, wpv_perform,
      wpg_writeStatus, false_imp_iff, not_false_iff, true_imp_iff, true_and, ne_eq]
    exact forall_driver (p := fun g => ∀ x w₁, env g w (.writeBuf a data) x w₁ → Q g w₁)

@[simp] lemma wpg_wizchipWriteBuf {Q : Unit → Globals → W → Prop} (b : Build) (a : Addr)
    (data : List Byte) : wpg env (wizchipWriteBuf b a data) Q H g w ↔
      (data = [] → Q () g w) ∧
        (data ≠ [] → ∀ x w₁, env g w (.writeBuf a data) x w₁ → Q () g w₁) := by
  simp [wizchipWriteBuf]

/-- A 16-bit read fails only when its frame does. -/
lemma wpg_wizchipRead16 {Q : Option ℕ → Globals → W → Prop} (b : Build) (a : Addr)
    (h : ∀ x w₁, env g w (.readBuf a 2) x w₁ →
      (¬ (b.safeSpi ∧ x.2) → Q (some (word16 (getElem x.1 0 Nat.zero_lt_two) (getElem x.1 1 Nat.one_lt_two))) g w₁) ∧ (x.2 → Q none g w₁)) :
    wpg env (wizchipRead16 b a) Q H g w := by
  simp only [wizchipRead16, wpv_bind, wpv_perform]
  intro x w₁ hx
  obtain ⟨ok, failed⟩ := h x w₁ hx
  cases hs : b.safeSpi <;> cases hf : x.2 <;>
    simp_all [readStatus, wizchipSpiFault, sockerrIo]

lemma wpg_wizchipRead16Value {Q : ℕ → Globals → W → Prop} (b : Build) (a : Addr)
    (h : ∀ x w₁, env g w (.readBuf a 2) x w₁ →
      (¬ (b.safeSpi ∧ x.2) → Q (word16 (getElem x.1 0 Nat.zero_lt_two) (getElem x.1 1 Nat.one_lt_two)) g w₁) ∧ (x.2 → Q 0 g w₁)) :
    wpg env (wizchipRead16Value b a) Q H g w := by
  simp only [wizchipRead16Value, wpv_bind, wpv_pure]
  exact wpg_wizchipRead16 b a h

@[simp] lemma wpg_locked {α : Type} {Q : α → Globals → W → Prop} (sn : ℕ) (body : Drv α) :
    wpg env (locked sn body) Q H g w ↔ ∀ x w₁, env g w (.sockLock sn) x w₁ →
      wpg env body (fun r g' w' => ∀ y w₂, env g' w' (.sockUnlock sn) y w₂ → Q r g' w₂) H g w₁ := by
  simp [locked, sockLock, sockUnlock]

end transfers

/-- Asking the clock, or waiting, keeps `I`. -/
def Ticks (env : Env Globals W Io Io.Res) (g : Globals) (I : W → Prop) : Prop :=
  ∀ w e x w₁, e = Io.now ∨ e = Io.wait → I w → env g w e x w₁ → I w₁

/-- A program that only passes time: its result can be anything, and what a tick keeps
it keeps. -/
structure Timed {α : Type} (p : Drv α) : Prop where
  wpg : ∀ {W : Type} {env : Env Globals W Io Io.Res} {g : Globals} {w : W} {I : W → Prop}
    {Q : α → Globals → W → Prop} {H : Globals → W → Prop},
    Ticks env g I → I w → (∀ a w, I w → Q a g w) → wpg env p Q H g w

section timed
variable {α β : Type}

lemma timed_pure (a : α) : Timed (pure a : Drv α) := ⟨fun _ h hQ => hQ a _ h⟩

lemma Timed.bind {p : Drv α} {f : α → Drv β} (hp : Timed p) (hf : ∀ a, Timed (f a)) :
    Timed (p >>= f) :=
  ⟨fun ticks h hQ => (wpv_bind _ _).2 (hp.wpg ticks h fun a _ ha => (hf a).wpg ticks ha hQ)⟩

lemma Timed.ite {c : Prop} [Decidable c] {p q : Drv α} (hp : Timed p) (hq : Timed q) :
    Timed (if c then p else q) := by
  split
  · exact hp
  · exact hq

lemma timed_get : Timed Prog.get := ⟨fun _ h hQ => wpv_get.2 fun m _ => hQ m _ h⟩

lemma timed_modify {f : Driver → Driver} (hf : ∀ m, (f m).toGlobals = m.toGlobals) :
    Timed (Prog.modify f) := by
  refine ⟨fun _ h hQ => (wpv_modify f).2 fun m hm => ?_⟩
  rw [hf, hm]
  exact hQ () _ h

lemma timed_now : Timed (ask .now) :=
  ⟨fun ticks h hQ => (wpv_perform _).2 fun x _ hx => hQ x _ (ticks _ _ _ _ (.inl rfl) h hx)⟩

lemma timed_wait : Timed (ask .wait) :=
  ⟨fun ticks h hQ => (wpv_perform _).2 fun x _ hx => hQ x _ (ticks _ _ _ _ (.inr rfl) h hx)⟩

lemma timed_sampled (raw : ℕ) : Timed (Prog.modify fun m => m.sampled raw) :=
  timed_modify fun _ => rfl

lemma timed_pollsReset (t : ℕ) : Timed (Prog.modify fun m => m.pollsReset t) :=
  timed_modify fun _ => rfl

lemma timed_pollCounted : Timed (Prog.modify fun m => m.pollCounted) := timed_modify fun _ => rfl

lemma timed_timeNow : Timed wizchipTimeNow := by
  refine timed_get.bind fun _ => .ite ?_ (timed_pure _)
  refine timed_now.bind fun raw => (timed_sampled raw).bind fun _ => ?_
  exact timed_get.bind fun _ => timed_pure _

lemma timed_deadlineAbs (t : ℕ) : Timed (wizchipDeadlineAbs t) := by
  refine timed_get.bind fun _ => .ite ?_ ?_
  · exact timed_timeNow.bind fun _ => timed_pure _
  · exact (timed_pollsReset t).bind fun _ => timed_pure _

lemma timed_deadlineExpired (d : ℕ) : Timed (wizchipDeadlineExpired d) := by
  refine timed_get.bind fun _ => .ite ?_ ?_
  · exact timed_timeNow.bind fun _ => timed_pure _
  · exact timed_pollCounted.bind fun _ => timed_get.bind fun _ => timed_pure _

lemma timed_waitCallback : Timed waitCallback :=
  timed_get.bind fun _ => .ite timed_wait (timed_pure _)

lemma timed_deadlinePoll (poll : Poll) : Timed (wizchipDeadlinePoll poll) := by
  refine timed_waitCallback.bind fun _ => .ite (timed_pure _) ?_
  refine timed_get.bind fun _ => .ite ?_ (timed_pure _)
  exact timed_timeNow.bind fun _ => timed_pure _

lemma timed_waitPollInit : Timed waitPollInit := timed_timeNow.bind fun _ => timed_pure _

lemma timed_waitPollExpired (poll : Poll) (d : ℕ) : Timed (waitPollExpired poll d) := by
  refine (timed_deadlinePoll poll).bind fun _ => .ite (timed_pure _) ?_
  exact (timed_deadlineExpired d).bind fun _ => timed_pure _

end timed

section clock
variable {I : W → Prop} {H : Globals → W → Prop}

/-- A deadline is opened exactly when the time source and the budgets are configured. -/
lemma wpg_sockDeadlineBegin {Q : Option ℕ → Globals → W → Prop} (ticks : Ticks env g I) (h : I w)
    (budget : ℕ) (opened : g.deadlineConfigValid → ∀ d w, I w → Q (some d) g w)
    (invalid : ¬ g.deadlineConfigValid → Q none g w) :
    wpg env (sockDeadlineBegin budget) Q H g w := by
  simp only [sockDeadlineBegin, wpv_bind, wpv_get]
  rintro m rfl
  split
  · next hv => exact (wpv_bind _ _).2 ((timed_deadlineAbs _).wpg ticks h fun d w hw => opened hv d w hw)
  · next hv => exact invalid hv

/-- A look either ends the wait in `Q`, or leaves the globals alone and keeps `I`. -/
def Looked {α : Type} (Q : α → Globals → W → Prop) (g : Globals) (I : W → Prop) :
    Option α → Globals → W → Prop
  | some a => Q a
  | none => fun g' w => g' = g ∧ I w

@[simp] lemma looked_some {α : Type} {Q : α → Globals → W → Prop} {g' : Globals} (a : α) :
    Looked Q g I (some a) g' w ↔ Q a g' w := Iff.rfl

@[simp] lemma looked_none {α : Type} {Q : α → Globals → W → Prop} {g' : Globals} :
    Looked Q g I none g' w ↔ g' = g ∧ I w := Iff.rfl

/-- The rule for a wait: `I` holds before each look, and when the time has passed. -/
lemma wpg_clockLoop {α : Type} {Q : α → Globals → W → Prop} (ticks : Ticks env g I) (h : I w)
    {b : Build} {d : ℕ} {look : Drv (Option α)} {expired : Drv α}
    (turn : ∀ w, I w → wpg env look (Looked Q g I) H g w)
    (late : ∀ w, I w → wpg env expired Q H g w) (stop : ∀ w, I w → H g w) :
    wpg env (clockLoop b d look expired) Q H g w := by
  refine wpv_loop (fun _ g' w => g' = g ∧ I w) ?_ ?_ _ ⟨rfl, h⟩
  · rintro _ _ w ⟨rfl, hw⟩
    refine (wpv_bind _ _).2 (wpv_mono (turn w hw) ?_ fun _ _ => id)
    rintro (_ | a) g' w' hr
    · obtain ⟨rfl, hw'⟩ := hr
      refine (wpv_bind _ _).2 ((timed_deadlineExpired d).wpg ticks hw' fun l w hw => ?_)
      simp only [wpv_ite, wpv_bind, wpv_pure]
      exact ⟨fun _ => late w hw, fun _ => ⟨trivial, hw⟩⟩
    · exact hr
  · rintro _ _ w ⟨rfl, hw⟩
    exact stop w hw

lemma wpg_pollLoop {α : Type} {Q : α → Globals → W → Prop} (ticks : Ticks env g I) (h : I w)
    {b : Build} {d : ℕ} {poll : Poll} {look : Drv (Option α)} {expired : Drv α}
    (turn : ∀ w, I w → wpg env look (Looked Q g I) H g w)
    (late : ∀ w, I w → wpg env expired Q H g w) (stop : ∀ w, I w → H g w) :
    wpg env (pollLoop b d poll look expired) Q H g w := by
  refine wpv_loop (fun _ g' w => g' = g ∧ I w) ?_ ?_ _ ⟨rfl, h⟩
  · rintro poll _ w ⟨rfl, hw⟩
    refine (wpv_bind _ _).2 (wpv_mono (turn w hw) ?_ fun _ _ => id)
    rintro (_ | a) g' w' hr
    · obtain ⟨rfl, hw'⟩ := hr
      refine (wpv_bind _ _).2 ((timed_waitPollExpired poll d).wpg ticks hw' fun ⟨l, p⟩ w hw => ?_)
      simp only [wpv_ite, wpv_bind, wpv_pure]
      exact ⟨fun _ => late w hw, fun _ => ⟨trivial, hw⟩⟩
    · exact hr
  · rintro _ _ w ⟨rfl, hw⟩
    exact stop w hw

/-- A poll that lets the wait go on has been counted, and was not the last. -/
lemma gives_waitPollExpired (poll : Poll) (d : ℕ) : Gives
    (fun r : Bool × Poll => r.2.polls = poll.polls + 1 ∧ (r.1 = false → poll.polls + 1 < pollMax))
    (waitPollExpired poll d) := by
  have counted : Gives
      (fun r : Bool × Poll => r.2.polls = poll.polls + 1 ∧ (r.1 = false → poll.polls + 1 < pollMax))
      (wizchipDeadlinePoll poll) := by
    refine gives_then fun _ => gives_ite (fun _ => ⟨rfl, nofun⟩) fun hmore => gives_then fun m => ?_
    have hlt : poll.polls + 1 < pollMax := Nat.lt_of_not_le hmore
    exact gives_ite (fun _ => gives_then fun now => ⟨rfl, fun _ => hlt⟩) fun _ => ⟨rfl, fun _ => hlt⟩
  refine gives_bind counted fun r hr => ?_
  obtain ⟨late, poll'⟩ := r
  refine gives_ite (fun _ => ⟨hr.1, nofun⟩) fun hlate => gives_then fun l => ⟨hr.1, fun _ => hr.2 ?_⟩
  exact Bool.eq_false_iff.2 hlate

/-- The rule for a wait that counts its polls: `C n` holds after `n` looks. -/
lemma wpg_pollLoop_counted {α : Type} {Q : α → Globals → W → Prop} {C : ℕ → W → Prop}
    (ticks : ∀ n, Ticks env g (C n)) {poll : Poll} (h : C poll.polls w) (hlt : poll.polls < pollMax)
    {d : ℕ} {look : Drv (Option α)} {expired : Drv α}
    (turn : ∀ n w, n < pollMax → C n w → wpg env look (Looked Q g (C (n + 1))) H g w)
    (late : ∀ n w, n ≤ pollMax → C n w → wpg env expired Q H g w)
    (stop : ∀ n w, n < pollMax → C n w → H g w) : wpg env (pollLoop b d poll look expired) Q H g w := by
  refine wpv_loop (fun poll g' w => g' = g ∧ C poll.polls w ∧ poll.polls < pollMax) ?_ ?_ _ ⟨rfl, h, hlt⟩
  · rintro poll _ w ⟨rfl, hw, hlt⟩
    refine (wpv_bind _ _).2 (wpv_mono (turn _ w hlt hw) ?_ fun _ _ => id)
    rintro (_ | a) g' w' hr
    · obtain ⟨rfl, hw'⟩ := hr
      have time := (timed_waitPollExpired poll d).wpg (H := H) (ticks _) hw'
        (Q := fun _ g'' w => g'' = g' ∧ C (poll.polls + 1) w) fun _ w hw => ⟨rfl, hw⟩
      refine (wpv_bind _ _).2 (wpv_mono (wpv_and time (wpv_of_gives (gives_waitPollExpired poll d)))
        ?_ fun _ _ hcut => hcut.1)
      rintro ⟨l, poll'⟩ _ w ⟨⟨rfl, hw⟩, hpolls, hmore⟩
      simp only [wpv_ite, wpv_bind, wpv_pure]
      refine ⟨fun _ => late _ w hlt hw, fun hl => ⟨trivial, ?_, ?_⟩⟩
      · exact hpolls ▸ hw
      · exact hpolls ▸ hmore (Bool.eq_false_iff.2 hl)
    · exact hr
  · rintro poll _ w ⟨rfl, hw, hlt⟩
    exact stop _ w hlt hw

/-- A wait that ends with its first look. -/
lemma wpg_clockLoop_first {α : Type} {Q : α → Globals → W → Prop} {H : Globals → W → Prop}
    {b : Build} {d : ℕ} {look : Drv (Option α)} {expired : Drv α}
    (h : wpg env look (fun r g w => ∃ a, r = some a ∧ Q a g w) H g w) :
    wpg env (clockLoop b d look expired) Q H g w := by
  refine wpv_loop_first b.turns_pos ((wpv_bind _ _).2 (wpv_mono h ?_ fun _ _ => id))
  rintro _ g w ⟨a, rfl, ha⟩
  exact ⟨a, rfl, ha⟩

lemma wpg_pollLoop_first {α : Type} {Q : α → Globals → W → Prop} {H : Globals → W → Prop}
    {b : Build} {d : ℕ} {poll : Poll} {look : Drv (Option α)} {expired : Drv α}
    (h : wpg env look (fun r g w => ∃ a, r = some a ∧ Q a g w) H g w) :
    wpg env (pollLoop b d poll look expired) Q H g w := by
  refine wpv_loop_first b.turns_pos ((wpv_bind _ _).2 (wpv_mono h ?_ fun _ _ => id))
  rintro _ g w ⟨a, rfl, ha⟩
  exact ⟨a, rfl, ha⟩

/-- The rule for a wait that ends with its first look when `sure` holds. -/
lemma wpg_pollLoop_sure {α : Type} {Q : α → Globals → W → Prop} {sure : Prop} (ticks : Ticks env g I) (h : I w)
    {b : Build} {d : ℕ} {poll : Poll} {look : Drv (Option α)} {expired : Drv α}
    (turn : ∀ w, I w → wpg env look (fun r g' w' => (sure → r ≠ none) ∧ Looked Q g I r g' w') H g w)
    (late : ¬ sure → ∀ w, I w → wpg env expired Q H g w) (stop : ¬ sure → ∀ w, I w → H g w) :
    wpg env (pollLoop b d poll look expired) Q H g w := by
  by_cases hsure : sure
  · refine wpg_pollLoop_first (wpv_mono (turn w h) ?_ fun _ _ => id)
    rintro (_ | a) g' w' ⟨hsome, hr⟩
    · exact absurd rfl (hsome hsure)
    · exact ⟨a, rfl, hr⟩
  · exact wpg_pollLoop ticks h (fun w hw => wpv_mono (turn w hw) (fun _ _ _ => And.right) fun _ _ => id) (late hsure) (stop hsure)

/-- A size read of a chip that answers `v` to every sample. -/
lemma wpg_stableSize_steady {Q : Except ℤ ℕ → Globals → W → Prop} {H : Globals → W → Prop}
    (ticks : Ticks env g I) (h : I w) (b : Build) (a : Addr) (v : ℕ)
    (sample : ∀ w x w₁, I w → env g w (.readBuf a 2) x w₁ →
      x.2 = false ∧ word16 (getElem x.1 0 Nat.zero_lt_two) (getElem x.1 1 Nat.one_lt_two) = v ∧ I w₁)
    (steady : ∀ w, I w → Q (.ok v) g w) : wpg env (stableSize b a) Q H g w := by
  simp only [stableSize, wpv_bind]
  refine (timed_deadlineAbs _).wpg ticks h fun opened w hw => wpg_clockLoop_first ?_
  have read {Q : Option ℕ → Globals → W → Prop} {w : W} (hw : I w)
      (hQ : ∀ w, I w → Q (some v) g w) : wpg env (wizchipRead16 b a) Q H g w := by
    refine wpg_wizchipRead16 b a fun x w₁ hx => ?_
    obtain ⟨hf, hv, hI⟩ := sample w x w₁ hw hx
    rw [hv, hf]
    exact ⟨fun _ => hQ w₁ hI, by rintro ⟨⟩⟩
  simp only [sizeLook, wpv_bind]
  refine read hw fun w hw => ?_
  simp only [wpv_bind]
  refine read hw fun w hw => ?_
  simp only [wpv_ite, wpv_pure, not_true_eq_false, false_imp_iff, and_true]
  exact fun _ => ⟨_, rfl, steady w hw⟩

/-- A size read returns what its last sample answered, or an error. -/
lemma wpg_stableSize {Q : Except ℤ ℕ → Globals → W → Prop} (ticks : Ticks env g I) (h : I w)
    (b : Build) (a : Addr)
    (sample : ∀ w x w₁, I w → env g w (.readBuf a 2) x w₁ →
      (¬ (b.safeSpi ∧ x.2) → I w₁ ∧ Q (.ok (word16 (getElem x.1 0 Nat.zero_lt_two) (getElem x.1 1 Nat.one_lt_two))) g w₁) ∧
        (x.2 → Q (.error sockerrIo) g w₁))
    (late : ∀ w, I w → Q (.error sockerrDeadline) g w) (stop : ∀ w, I w → H g w) :
    wpg env (stableSize b a) Q H g w := by
  simp only [stableSize, wpv_bind]
  refine (timed_deadlineAbs _).wpg ticks h fun opened w hw => ?_
  refine wpg_clockLoop ticks hw (fun w hw => ?_) (fun w hw => late w hw) stop
  simp only [sizeLook, wpv_bind]
  refine wpg_wizchipRead16 b a fun x w₁ hx => ⟨fun hok => ?_, (sample w x w₁ hw hx).2⟩
  obtain ⟨hw₁, -⟩ := (sample w x w₁ hw hx).1 hok
  simp only [wpv_bind]
  refine wpg_wizchipRead16 b a fun y w₂ hy => ⟨fun hok => ?_, (sample w₁ y w₂ hw₁ hy).2⟩
  obtain ⟨hw₂, hq₂⟩ := (sample w₁ y w₂ hw₁ hy).1 hok
  simp only [wpv_ite, wpv_pure, wpv_bind]
  refine ⟨fun _ => hq₂, fun _ => ?_⟩
  refine wpg_wizchipRead16 b a fun z w₃ hz => ⟨fun hok => ?_, (sample w₂ z w₃ hw₂ hz).2⟩
  obtain ⟨hw₃, hq₃⟩ := (sample w₂ z w₃ hw₂ hz).1 hok
  simp only [wpv_ite, wpv_pure]
  exact ⟨fun _ => hq₃, fun _ => ⟨rfl, hw₃⟩⟩

end clock

end IoLibrary
