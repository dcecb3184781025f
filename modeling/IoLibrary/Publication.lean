import IoLibrary.LockDiscipline

/-! The publication of the chip state. A transaction makes the chip unready under its locks and
writes the outcome after it has released them, so that two transactions can overlap in between. -/
namespace IoLibrary.Publication
open Effects

section programs
variable {M E : Type} {R : E → Type} {α : Type}

/-- The program returns `a` and makes no further call. -/
def Yields : Prog M E R α → α → Prop
  | .ret b, a => b = a
  | .mem _ k, a => ∀ m, Yields (k m) a
  | .call _ _, _ | .cut, _ => False

def isMem : Prog M E R α → Bool
  | .mem _ _ => true
  | _ => false

end programs

/-- The calls that are init and reset transactions. -/
def transacts : Call → Bool
  | .on _ _ => false
  | .init _ _ | .swReset => true

/-- Any number of tasks that reset the chip and use its sockets. -/
abbrev System (ι W : Type) := Tasks ι Call Lock Driver W Io Io.Res ℤ

section watch
variable {ι W : Type}

def Transacts (s : System ι W) (i : ι) : Prop := (s.running i).any fun r => transacts r.1

/-- Task `i` is about to access the memory. -/
def AtMem (s : System ι W) (i : ι) : Prop := (s.running i).any fun r => isMem r.2

/-- The step from `s` to `s'` takes the last lock of a transaction. -/
def Enters (i : ι) (s s' : System ι W) : Prop :=
  Transacts s i ∧ s.owner (.sock (sockNum - 1)) = none ∧ s'.owner (.sock (sockNum - 1)) = some i

/-- The step from `s` to `s'` releases the last lock of a transaction. -/
def Leaves (i : ι) (s s' : System ι W) : Prop :=
  Transacts s i ∧ s.owner .global = some i ∧ s'.owner .global = none

/-- What is left of the call of task `i` returns 0. -/
def Succeeds (s : System ι W) (i : ι) : Prop := ∃ c p, s.running i = some (c, p) ∧ Yields p 0

/-- Task `i` has released the locks of a transaction that succeeded, and has yet to write
chip_state. -/
def Unpublished (s : System ι W) (i : ι) : Prop := Transacts s i ∧ AtMem s i ∧ Succeeds s i

/-- What an observer of the locks notes: the tasks between the last acquisition and the last
release of a transaction, and whether the last transaction to release its locks succeeded. -/
structure Watch (ι : Type) where
  inside : ι → Prop
  succeeded : Prop

def Watch.initial : Watch ι := ⟨fun _ => False, False⟩

def Watch.next (w : Watch ι) (i : ι) (s s' : System ι W) : Watch ι where
  inside j := j = i ∧ Enters i s s' ∨ w.inside j ∧ ¬ (j = i ∧ Leaves i s s')
  succeeded := Leaves i s s' ∧ Succeeds s' i ∨ ¬ Leaves i s s' ∧ w.succeeded

lemma Watch.next_quiet (w : Watch ι) {i : ι} {s s' : System ι W} (enters : ¬ Enters i s s')
    (leaves : ¬ Leaves i s s') : w.next i s s' = w := by simp [Watch.next, enters, leaves]

/-- The memory accesses of a transaction under its locks belong to the step that took the last of
them: none is left to do. -/
def Settled (s : System ι W) (w : Watch ι) : Prop := ∀ i, w.inside i → ¬ AtMem s i

/-- READY means that no transaction is between its acquisition and release, and that the last one
to release its locks succeeded. -/
def Truthful (s : System ι W) (w : Watch ι) : Prop :=
  s.mem.chipState = .ready → (∀ i, ¬ w.inside i) ∧ w.succeeded

/-- No transaction takes its last lock while another has yet to publish its success. -/
def NoOverlap (i : ι) (s s' : System ι W) : Prop := Enters i s s' → ∀ j, ¬ Unpublished s j

variable [DecidableEq ι]

/-- The states reached, with what the observer has noted, in steps that meet `K`. -/
inductive Watched (b : Build) (env : Env Driver W Io Io.Res)
    (K : ι → System ι W → System ι W → Prop) (s₀ : System ι W) (w₀ : Watch ι) :
    System ι W → Watch ι → Prop
  | start : Watched b env K s₀ w₀ s₀ w₀
  | step {s s' w i} (before : Watched b env K s₀ w₀ s w)
      (last : TaskStep env Io.lockAct (Call.run b) i s s') (meets : K i s s') :
      Watched b env K s₀ w₀ s' (w.next i s s')

variable {b : Build} {env : Env Driver W Io Io.Res} {K : ι → System ι W → System ι W → Prop}
variable {s₀ s : System ι W} {w₀ w : Watch ι}

lemma Watched.reached (h : Watched b env K s₀ w₀ s w) :
    Reached env Io.lockAct (Call.run b) s₀ s := by
  induction h with
  | start => exact .start
  | step _ last _ ih => exact .step ih last

end watch

section phases

/-- Where a call is: an operation on a socket is outside throughout, a transaction waits, takes its
locks, works and releases them. -/
inductive Phase
  | outside
  | waiting
  | taking
  | fresh
  | inside
  | released (ret : ℤ)
  | done (ret : ℤ)

/-- In these phases a transaction holds the global lock. -/
def Phase.Holds (p : Phase) : Prop := p = .taking ∨ p = .fresh ∨ p = .inside

/-- In these it holds all its locks. -/
def Phase.Within (p : Phase) : Prop := p = .fresh ∨ p = .inside

lemma Phase.Within.holds {p : Phase} (h : p.Within) : p.Holds := .inr h

/-- An update after which the chip is as ready as before, or faulted. -/
def KeepsChip (f : Driver → Driver) : Prop :=
  ∀ m, (f m).chipState = m.chipState ∨ (f m).chipState = .faulted

def phases : Automaton Phase Driver Io where
  update
    | .outside, f, p => p = .outside ∧ KeepsChip f
    | .fresh, f, p => p = .inside ∧ ∀ m, (f m).chipState ≠ .ready
    | .inside, f, p => p = .inside ∧ KeepsChip f
    | .released r, f, p => p = .done r ∧ f = Driver.transactionFinished r
    | _, _, _ => False
  call
    | .outside, _, p => p = .outside
    | .waiting, e, p => e = .globalLock ∧ p = .taking
    | .taking, e, p => ∃ n, e = .sockLock n ∧ p = if n = sockNum - 1 then .fresh else .taking
    | .inside, e, p => (Lockless e ∨ ∃ n, e = .sockUnlock n) ∧ p = .inside ∨
        e = .globalUnlock ∧ ∃ r, p = .released r
    | _, _, _ => False
  cut p := p = .outside ∨ p = .inside

/-- The phases in which a call may return. -/
def Ends (a : ℤ) (p : Phase) : Prop := p = .outside ∨ p = .waiting ∧ a ≠ 0 ∨ p = .done a

lemma keepsChip_noise {f : Driver → Driver} (hf : Noise f) : KeepsChip f := fun m => (hf m).2

lemma keepsChip_setMax (d : Dir) (sn v : ℕ) : KeepsChip fun m => m.setMax d sn v := fun m =>
  (cacheUpdate_setMax d sn v m).2

lemma follows_transactionLock :
    Follows phases wizchipTransactionLock .waiting fun _ p => p = .fresh := by
  refine follows_bind (Q := fun _ p => p = .taking) (follows_perform ⟨rfl, rfl⟩ fun _ => rfl) ?_
  rintro _ _ rfl
  refine follows_bind (Q := fun _ p => p = Phase.fresh) ?_ fun _ _ h => h
  refine follows_each (fun n p => p = if n = sockNum then Phase.fresh else Phase.taking) ?_ rfl
    fun _ h => by simpa using h
  rintro n p hn rfl
  have hne : n ≠ sockNum := by omega
  rw [if_neg hne]
  refine follows_perform ⟨n, rfl, rfl⟩ fun _ => ?_
  by_cases hlast : n = sockNum - 1
  · have hnext : n + 1 = sockNum := by simp [hlast, sockNum]
    rw [if_pos hlast, if_pos hnext]
  · have hnext : n + 1 ≠ sockNum := by omega
    rw [if_neg hlast, if_neg hnext]

lemma follows_transactionBegin :
    Follows phases wizchipTransactionBegin .waiting fun _ p => p = .inside := by
  refine follows_bind follows_transactionLock ?_
  rintro _ _ rfl
  refine follows_bind (Q := fun _ p => p = .inside) ?_ ?_
  · exact follows_modify ⟨rfl, nofun⟩ rfl
  · rintro _ _ rfl
    exact follows_modify ⟨rfl, fun m => .inl rfl⟩ rfl

lemma follows_inside {α : Type} {p : Drv α} (hp : Within KeepsChip Lockless p) :
    Follows phases p .inside fun _ ph => ph = .inside :=
  follows_of_within hp (fun _ hf => ⟨rfl, hf⟩) (fun _ he => .inl ⟨.inl he, rfl⟩) (.inr rfl)

lemma follows_transactionFinish (ret : ℤ) :
    Follows phases (wizchipTransactionFinish ret) .inside Ends := by
  refine follows_bind (Q := fun _ p => p = .released ret) ?_ ?_
  · refine follows_bind (Q := fun _ p => p = .inside) ?_ ?_
    · refine follows_each (fun _ p => p = .inside) ?_ rfl fun _ h => h
      rintro i _ - rfl
      exact follows_perform (.inl ⟨.inr ⟨_, rfl⟩, rfl⟩) fun _ => rfl
    · rintro _ _ rfl
      exact follows_perform (.inr ⟨rfl, ret, rfl⟩) fun _ => rfl
  · rintro _ _ rfl
    refine follows_bind (Q := fun _ p => p = .done ret) ?_ ?_
    · exact follows_modify ⟨rfl, rfl⟩ rfl
    · rintro _ _ rfl
      exact .inr (.inr rfl)

variable (b : Build)

lemma follows_wizchipSwReset : Follows phases (wizchipSwReset b) .waiting Ends := by
  have reset : Within KeepsChip Lockless (wizchipSwResetLocked b) :=
    within_wizchipSwResetLocked (fun _ => keepsChip_noise) b fun _ => lockless_of_reset
  have refresh : Within KeepsChip Lockless (wizchipRefreshSocketCaches b) :=
    within_wizchipRefreshSocketCaches (fun _ => keepsChip_noise) b keepsChip_setMax fun _ _ => rfl
  refine follows_bind follows_transactionBegin ?_
  rintro _ _ rfl
  refine follows_bind (follows_inside reset) ?_
  rintro ret _ rfl
  refine follows_ite (follows_transactionFinish ret) ?_
  refine follows_bind (follows_inside refresh) ?_
  rintro r _ rfl
  exact follows_transactionFinish _

lemma follows_wizchipInit (txsize rxsize : Option (ℕ → ℕ)) :
    Follows phases (wizchipInit b txsize rxsize) .waiting Ends := by
  have refused : Follows phases (pure (-1) : Drv ℤ) .waiting Ends := .inr (.inl ⟨rfl, by decide⟩)
  have body : Within KeepsChip Lockless (initLocked b txsize rxsize) :=
    within_initLocked (fun _ => keepsChip_noise) b keepsChip_setMax txsize rxsize
      (fun _ => lockless_of_reset) fun _ _ _ => rfl
  refine follows_ite refused (follows_ite refused ?_)
  refine follows_bind follows_transactionBegin ?_
  rintro _ _ rfl
  refine follows_bind (follows_inside body) ?_
  rintro ret _ rfl
  exact follows_transactionFinish ret

/-- The phase in which a call starts. -/
def first (c : Call) : Phase := if transacts c then .waiting else .outside

lemma follows_call (c : Call) : Follows phases (c.run b) (first c) Ends := by
  cases c with
  | on sn op =>
    refine follows_mono (follows_of_within (within_others b sn op) (fun f hf => ⟨rfl, fun m => ?_⟩)
      (fun _ _ => rfl) (.inl rfl)) fun a p h => .inl h
    exact (hf m).chip
  | init txsize rxsize => exact follows_wizchipInit b txsize rxsize
  | swReset => exact follows_wizchipSwReset b

lemma balanced_call (c : Call) : LockDiscipline.Sound (c.run b) := by
  cases c with
  | on sn op => exact LockDiscipline.sound_call b (.on sn op)
  | init txsize rxsize => exact LockDiscipline.sound_call b (.init txsize rxsize)
  | swReset => exact LockDiscipline.sound_call b .swReset

section moves
variable {ph ph' : Phase} {f : Driver → Driver} {e : Io} {l : Lock}

/-- What an update can do to the phase: it makes the chip ready when the outcome is written. -/
lemma phase_update (h : phases.update ph f ph') :
    (ph' = .outside ↔ ph = .outside) ∧ (ph'.Within ↔ ph.Within) ∧ (ph'.Holds → ph.Holds) ∧
      ph' ≠ .released 0 ∧ ∀ m : Driver, (f m).chipState = .ready →
        m.chipState = .ready ∧ ph' = ph ∨ ph = .released 0 ∧ ph' ≠ .inside := by
  have kept (hf : KeepsChip f) (m : Driver) (hready : (f m).chipState = .ready) :
      m.chipState = .ready := by
    rcases hf m with hsame | hfaulted
    · rwa [hsame] at hready
    · rw [hfaulted] at hready
      cases hready
  cases ph with
  | outside =>
    obtain ⟨rfl, hf⟩ := h
    exact ⟨Iff.rfl, Iff.rfl, id, nofun, fun m hready => .inl ⟨kept hf m hready, rfl⟩⟩
  | fresh =>
    obtain ⟨rfl, hf⟩ := h
    exact ⟨by simp, by simp [Phase.Within], fun _ => .inr (.inl rfl), nofun,
      fun m hready => absurd hready (hf m)⟩
  | inside =>
    obtain ⟨rfl, hf⟩ := h
    exact ⟨Iff.rfl, Iff.rfl, id, nofun, fun m hready => .inl ⟨kept hf m hready, rfl⟩⟩
  | released r =>
    obtain ⟨rfl, rfl⟩ := h
    refine ⟨by simp, by simp [Phase.Within], by simp [Phase.Holds], nofun, fun m hready => ?_⟩
    have hr : r = 0 := by
      by_contra hne
      simp [Driver.transactionFinished, hne] at hready
    exact .inr ⟨by rw [hr], nofun⟩
  | _ => exact h.elim

lemma phase_other (h : phases.call ph e ph') (he : e.lockAct = .other) : ph' = ph := by
  cases ph with
  | outside => exact h
  | waiting =>
    obtain ⟨rfl, -⟩ := h
    cases he
  | taking =>
    obtain ⟨n, rfl, -⟩ := h
    cases he
  | inside =>
    rcases h with ⟨-, rfl⟩ | ⟨rfl, -⟩
    · rfl
    · cases he
  | _ => exact h.elim

/-- What an acquisition can be. -/
lemma phase_acquire (h : phases.call ph e ph') (he : e.lockAct = .acquire l) :
    (ph = .outside ∧ ph' = .outside) ∨ (ph = .waiting ∧ ph' = .taking ∧ l = .global) ∨
      (ph = .taking ∧ ph' = .taking ∧ l ≠ .global ∧ l ≠ .sock (sockNum - 1)) ∨
      (ph = .taking ∧ ph' = .fresh ∧ l = .sock (sockNum - 1)) := by
  cases ph with
  | outside => exact .inl ⟨rfl, h⟩
  | waiting =>
    obtain ⟨rfl, rfl⟩ := h
    exact .inr (.inl ⟨rfl, rfl, (LockAct.acquire.inj he).symm⟩)
  | taking =>
    obtain ⟨n, rfl, rfl⟩ := h
    obtain rfl : Lock.sock n = l := LockAct.acquire.inj he
    by_cases hn : n = sockNum - 1
    · exact .inr (.inr (.inr ⟨rfl, if_pos hn, by rw [hn]⟩))
    · exact .inr (.inr (.inl ⟨rfl, if_neg hn, nofun, fun h => hn (Lock.sock.inj h)⟩))
  | inside =>
    rcases h with ⟨hfree | ⟨n, rfl⟩, -⟩ | ⟨rfl, -⟩
    · rw [Lockless, he] at hfree
      cases hfree
    · cases he
    · cases he
  | _ => exact h.elim

lemma phase_release (h : phases.call ph e ph') (he : e.lockAct = .release l) :
    (ph = .outside ∧ ph' = .outside) ∨ (ph = .inside ∧ ph' = .inside ∧ l ≠ .global) ∨
      (ph = .inside ∧ l = .global ∧ ∃ r, ph' = .released r) := by
  cases ph with
  | outside => exact .inl ⟨rfl, h⟩
  | waiting =>
    obtain ⟨rfl, -⟩ := h
    cases he
  | taking =>
    obtain ⟨n, rfl, -⟩ := h
    cases he
  | inside =>
    rcases h with ⟨hfree | ⟨n, rfl⟩, rfl⟩ | ⟨rfl, hr⟩
    · rw [Lockless, he] at hfree
      cases hfree
    · obtain rfl : Lock.sock n = l := LockAct.release.inj he
      exact .inr (.inl ⟨rfl, rfl, nofun⟩)
    · exact .inr (.inr ⟨rfl, (LockAct.release.inj he).symm, hr⟩)
  | _ => exact h.elim

end moves

end phases

section invariant
variable {ι W : Type}

/-- What is left of the call of a task continues its phase. -/
def Continues : Option (Call × Drv ℤ) → Phase → Prop
  | none, ph => ph = .outside
  | some (c, p), ph => Follows phases p ph Ends ∧ (ph = .outside ↔ transacts c = false)

/-- The invariant, for a phase of each task. -/
structure Consistent (s : System ι W) (w : Watch ι) (phase : ι → Phase) : Prop where
  continues : ∀ i, Continues (s.running i) (phase i)
  inside : ∀ i, w.inside i ↔ (phase i).Within
  owner : ∀ i, (phase i).Holds → s.owner .global = some i
  ready : s.mem.chipState = .ready → w.succeeded ∧ ∀ i, phase i ≠ .inside
  unpublished : ∀ i, phase i = .released 0 → w.succeeded ∧ ∀ j, ¬ w.inside j

/-- Only a transaction that has released its locks returns without a further call. -/
lemma phase_of_yields {p : Drv ℤ} {ph : Phase} {a : ℤ} (hp : Follows phases p ph Ends)
    (hy : Yields p a) :
    ph = .outside ∨ ph = .waiting ∧ a ≠ 0 ∨ ph = .released a ∨ ph = .done a := by
  induction p generalizing ph with
  | ret x =>
    obtain rfl : x = a := hy
    rcases hp with h | h | h
    · exact .inl h
    · exact .inr (.inl h)
    · exact .inr (.inr (.inr h))
  | mem f k ih =>
    obtain ⟨ph', hupdate, hk⟩ := hp
    have hph' := ih (Driver.boot 1 1) (hk _) (hy _)
    cases ph with
    | outside => exact .inl rfl
    | fresh | inside =>
      obtain ⟨rfl, -⟩ := hupdate
      simp at hph'
    | released r =>
      obtain ⟨rfl, -⟩ := hupdate
      obtain rfl : r = a := by simpa using hph'
      exact .inr (.inr (.inl rfl))
    | _ => exact hupdate.elim
  | call e k ih => exact hy.elim
  | cut => exact hy.elim

lemma returns_of_done {p : Drv ℤ} {r : ℤ} (hp : Follows phases p (.done r) Ends) : p = .ret r := by
  cases p with
  | ret a =>
    obtain rfl : r = a := by simpa [Follows, Ends] using hp
    rfl
  | mem f k =>
    obtain ⟨_, hupdate, -⟩ := hp
    exact hupdate.elim
  | call e k =>
    obtain ⟨_, hcall, -⟩ := hp
    exact hcall.elim
  | cut => simp [Follows, phases] at hp

/-- After the locks only the outcome is written. -/
lemma publishes_of_released {p : Drv ℤ} {r : ℤ} (hp : Follows phases p (.released r) Ends) :
    ∃ k, p = .mem (Driver.transactionFinished r) k ∧ ∀ m, k m = .ret r := by
  cases p with
  | ret a => simp [Follows, Ends] at hp
  | mem f k =>
    obtain ⟨_, ⟨rfl, rfl⟩, hk⟩ := hp
    exact ⟨k, rfl, fun m => returns_of_done (hk m)⟩
  | call e k =>
    obtain ⟨_, hcall, -⟩ := hp
    exact hcall.elim
  | cut => simp [Follows, phases] at hp

variable {s s' : System ι W} {w : Watch ι} {phase : ι → Phase} {i : ι}

lemma Consistent.at_call (h : Consistent s w phase) {c : Call} {p : Drv ℤ}
    (hrun : s.running i = some (c, p)) :
    Follows phases p (phase i) Ends ∧ (phase i = .outside ↔ transacts c = false) := by
  have hi := h.continues i
  rw [hrun] at hi
  exact hi

lemma Consistent.transacts_iff (h : Consistent s w phase) : Transacts s i ↔ phase i ≠ .outside := by
  have hi := h.continues i
  unfold Transacts
  cases hrun : s.running i with
  | none =>
    rw [hrun] at hi
    simpa [Continues] using hi
  | some r =>
    rw [hrun] at hi
    obtain ⟨-, hi⟩ := hi
    rw [Ne, hi]
    simp

lemma Consistent.released_of_unpublished (h : Consistent s w phase) (hu : Unpublished s i) :
    phase i = .released 0 := by
  obtain ⟨htransacts, hmem, c, p, hrun, hyields⟩ := hu
  obtain ⟨hp, -⟩ := h.at_call hrun
  rcases phase_of_yields hp hyields with hph | ⟨-, hne⟩ | hph | hph
  · exact absurd hph (h.transacts_iff.1 htransacts)
  · exact absurd rfl hne
  · exact hph
  · rw [AtMem, hrun] at hmem
    rw [hph] at hp
    cases p with
    | mem f k =>
      obtain ⟨_, hupdate, -⟩ := hp
      exact hupdate.elim
    | _ => simp [isMem] at hmem

/-- Such a transaction has its success to publish. -/
lemma Consistent.unpublished_of_released (h : Consistent s w phase) (hph : phase i = .released 0) :
    Unpublished s i := by
  have htransacts : Transacts s i := h.transacts_iff.2 (by simp [hph])
  have hi := h.continues i
  rw [hph] at hi
  cases hrun : s.running i with
  | none =>
    rw [hrun] at hi
    simp [Continues] at hi
  | some r =>
    obtain ⟨c, p⟩ := r
    rw [hrun] at hi
    obtain ⟨k, rfl, hk⟩ := publishes_of_released hi.1
    refine ⟨htransacts, by simp [AtMem, hrun, isMem], c, _, hrun, fun m => ?_⟩
    rw [hk m]
    rfl

section steps
variable [DecidableEq ι]

/-- A step of one task that takes and releases no transaction. -/
lemma Consistent.quiet (h : Consistent s w phase) {ph : Phase}
    (others : ∀ j ≠ i, s'.running j = s.running j) (continues : Continues (s'.running i) ph)
    (within : ph.Within ↔ (phase i).Within)
    (owners : ∀ j ≠ i, s.owner .global = some j → s'.owner .global = some j)
    (owner : ph.Holds → s'.owner .global = some i)
    (ready : s'.mem.chipState = .ready →
      (s.mem.chipState = .ready ∨ phase i = .released 0) ∧ ph ≠ .inside)
    (unreleased : ph ≠ .released 0) : Consistent s' w (Function.update phase i ph) := by
  refine ⟨fun j => ?_, fun j => ?_, fun j hj => ?_, fun hready => ?_, fun j hj => ?_⟩
  · by_cases hji : j = i
    · subst hji
      rwa [Function.update_self]
    · rw [Function.update_of_ne hji, others j hji]
      exact h.continues j
  · by_cases hji : j = i
    · subst hji
      rw [Function.update_self, within]
      exact h.inside j
    · rw [Function.update_of_ne hji]
      exact h.inside j
  · by_cases hji : j = i
    · subst hji
      rw [Function.update_self] at hj
      exact owner hj
    · rw [Function.update_of_ne hji] at hj
      exact owners j hji (h.owner j hj)
  · obtain ⟨hbefore, hph⟩ := ready hready
    have hother : w.succeeded ∧ ∀ j ≠ i, phase j ≠ .inside := by
      rcases hbefore with hbefore | hreleased
      · exact ⟨(h.ready hbefore).1, fun j _ => (h.ready hbefore).2 j⟩
      · obtain ⟨hsucceeded, hnone⟩ := h.unpublished i hreleased
        exact ⟨hsucceeded, fun j _ hj => hnone j ((h.inside j).2 (.inr hj))⟩
    refine ⟨hother.1, fun j => ?_⟩
    by_cases hji : j = i
    · subst hji
      rwa [Function.update_self]
    · rw [Function.update_of_ne hji]
      exact hother.2 j hji
  · have hji : j ≠ i := by
      rintro rfl
      rw [Function.update_self] at hj
      exact unreleased hj
    rw [Function.update_of_ne hji] at hj
    exact h.unpublished j hj

omit [DecidableEq ι] in
lemma not_enters_of_owner (howner : s'.owner = s.owner) : ¬ Enters i s s' := by
  rintro ⟨-, hfree, htaken⟩
  rw [howner, hfree] at htaken
  cases htaken

omit [DecidableEq ι] in
lemma next_of_owner (howner : s'.owner = s.owner) : w.next i s s' = w := by
  refine w.next_quiet (not_enters_of_owner howner) fun h => ?_
  obtain ⟨-, hheld, hfree⟩ := h
  rw [howner, hheld] at hfree
  cases hfree

omit [DecidableEq ι] in
lemma Consistent.next (h : Consistent s' w phase) (howner : s'.owner = s.owner) :
    Consistent s' (w.next i s s') phase := by rwa [next_of_owner howner]

lemma Consistent.starts (h : Consistent s w phase) (idle : s.running i = none) (b : Build)
    (c : Call) : Consistent (s.goesOn i (some (c, c.run b))) w (Function.update phase i (first c)) := by
  have hout : phase i = .outside := by simpa [Continues, idle] using h.continues i
  have hfirst : first c = .waiting ∨ first c = .outside := by
    unfold first
    split
    · exact .inl rfl
    · exact .inr rfl
  refine h.quiet (fun j hj => Function.update_of_ne hj ..) ?_ ?_ (fun _ _ => id) ?_ (fun hready => ?_) ?_
  · simp only [Tasks.goesOn, Function.update_self]
    exact ⟨follows_call b c, by simp [first]⟩
  · rcases hfirst with hf | hf <;> simp [hf, hout, Phase.Within]
  · rcases hfirst with hf | hf <;> simp [hf, Phase.Holds]
  · exact ⟨.inl hready, by rcases hfirst with hf | hf <;> simp [hf]⟩
  · rcases hfirst with hf | hf <;> simp [hf]

lemma Consistent.updates (h : Consistent s w phase) {c : Call} {f : Driver → Driver}
    {k : Driver → Drv ℤ} (hrun : s.running i = some (c, .mem f k)) :
    ∃ ph, Consistent { s.goesOn i (some (c, k s.mem)) with mem := f s.mem } w
      (Function.update phase i ph) := by
  obtain ⟨⟨ph, hupdate, hk⟩, hout⟩ := h.at_call hrun
  obtain ⟨houtside, hwithin, hholds, hreleased, hready⟩ := phase_update hupdate
  refine ⟨ph, h.quiet (fun j hj => Function.update_of_ne hj ..) ?_ hwithin (fun _ _ => id)
    (fun hph => h.owner i (hholds hph)) (fun hpost => ?_) hreleased⟩
  · simp only [Tasks.goesOn, Function.update_self]
    exact ⟨hk _, houtside.trans hout⟩
  · rcases hready s.mem hpost with ⟨hbefore, rfl⟩ | ⟨hreleased, hph⟩
    · exact ⟨.inl hbefore, (h.ready hbefore).2 i⟩
    · exact ⟨.inr hreleased, hph⟩

lemma Consistent.answers (h : Consistent s w phase) {c : Call} {e : Io} {k : e.Res → Drv ℤ}
    (hrun : s.running i = some (c, .call e k)) (plain : e.lockAct = .other) (x : e.Res) (v : W) :
    ∃ ph, Consistent { s.goesOn i (some (c, k x)) with world := v } w (Function.update phase i ph) := by
  obtain ⟨⟨ph, hcall, hk⟩, hout⟩ := h.at_call hrun
  obtain rfl := phase_other hcall plain
  refine ⟨phase i, h.quiet (fun j hj => Function.update_of_ne hj ..) ?_ Iff.rfl (fun _ _ => id)
    (h.owner i) (fun hready => ⟨.inl hready, (h.ready hready).2 i⟩) fun hph => ?_⟩
  · simp only [Tasks.goesOn, Function.update_self]
    exact ⟨hk x, hout⟩
  · obtain ⟨k', hpub, -⟩ := publishes_of_released (hph ▸ (h.at_call hrun).1)
    cases hpub

lemma Consistent.returns (h : Consistent s w phase) {c : Call} {a : ℤ}
    (hrun : s.running i = some (c, .ret a)) :
    Consistent (s.goesOn i none) w (Function.update phase i .outside) := by
  have hends : Ends a (phase i) := (h.at_call hrun).1
  refine h.quiet (fun j hj => Function.update_of_ne hj ..) ?_ ?_ (fun _ _ => id) ?_
    (fun hready => ⟨.inl hready, nofun⟩) nofun
  · simp [Tasks.goesOn, Continues]
  · rcases hends with hph | ⟨hph, -⟩ | hph <;> simp [hph, Phase.Within]
  · simp [Phase.Holds]

/-- The step that takes the last lock of a transaction. -/
lemma Consistent.enters (h : Consistent s w phase) (taking : phase i = .taking)
    (others : ∀ j ≠ i, s'.running j = s.running j) (continues : Continues (s'.running i) .fresh)
    (owner : s'.owner .global = s.owner .global) (mem : s'.mem = s.mem) (enters : Enters i s s')
    (unpublished : ∀ j, ¬ Unpublished s j) :
    Consistent s' (w.next i s s') (Function.update phase i .fresh) := by
  have leaves : ¬ Leaves i s s' := by
    rintro ⟨-, hheld, hfree⟩
    rw [owner, hheld] at hfree
    cases hfree
  have hsucceeded : (w.next i s s').succeeded ↔ w.succeeded := by simp [Watch.next, leaves]
  refine ⟨fun j => ?_, fun j => ?_, fun j hj => ?_, fun hready => ?_, fun j hj => ?_⟩
  · by_cases hji : j = i
    · subst hji
      rwa [Function.update_self]
    · rw [Function.update_of_ne hji, others j hji]
      exact h.continues j
  · by_cases hji : j = i
    · subst hji
      simp [Watch.next, enters, Phase.Within]
    · rw [Function.update_of_ne hji, ← h.inside j]
      simp [Watch.next, hji]
  · rw [owner]
    by_cases hji : j = i
    · subst hji
      exact h.owner j (.inl taking)
    · rw [Function.update_of_ne hji] at hj
      exact h.owner j hj
  · rw [mem] at hready
    refine ⟨hsucceeded.2 (h.ready hready).1, fun j => ?_⟩
    by_cases hji : j = i
    · subst hji
      simp
    · rw [Function.update_of_ne hji]
      exact (h.ready hready).2 j
  · by_cases hji : j = i
    · subst hji
      simp at hj
    · rw [Function.update_of_ne hji] at hj
      exact absurd (h.unpublished_of_released hj) (unpublished j)

/-- The step that releases the last lock of a transaction. -/
lemma Consistent.leaves (h : Consistent s w phase) (inside : phase i = .inside) {r : ℤ}
    (others : ∀ j ≠ i, s'.running j = s.running j)
    (continues : Continues (s'.running i) (.released r)) (mem : s'.mem = s.mem)
    (enters : ¬ Enters i s s') (leaves : Leaves i s s') :
    Consistent s' (w.next i s s') (Function.update phase i (.released r)) := by
  have howner : s.owner .global = some i := h.owner i (.inr (.inr inside))
  have alone (j : ι) (hj : (phase j).Holds) : j = i := by
    have hglobal := h.owner j hj
    rw [howner] at hglobal
    exact (Option.some.inj hglobal).symm
  have hsucceeds : Succeeds s' i ↔ r = 0 := by
    cases hrun : s'.running i with
    | none =>
      rw [hrun] at continues
      cases continues
    | some x =>
      obtain ⟨c, p⟩ := x
      rw [hrun] at continues
      obtain ⟨k, rfl, hk⟩ := publishes_of_released continues.1
      have hyields : Yields (.mem (Driver.transactionFinished r) k) 0 ↔ r = 0 := by
        simp only [Yields, hk]
        exact ⟨fun h => h (Driver.boot 1 1), fun h _ => h⟩
      simp [Succeeds, hrun, hyields]
  have hsucceeded : (w.next i s s').succeeded ↔ r = 0 := by simp [Watch.next, leaves, hsucceeds]
  have hinside (j : ι) : ¬ (w.next i s s').inside j := by
    rintro (⟨-, h⟩ | ⟨hj, hne⟩)
    · exact enters h
    · exact hne ⟨alone j ((h.inside j).1 hj).holds, leaves⟩
  have hphase (j : ι) : ¬ (Function.update phase i (.released r) j).Holds := by
    intro hj
    by_cases hji : j = i
    · subst hji
      simp [Phase.Holds] at hj
    · rw [Function.update_of_ne hji] at hj
      exact hji (alone j hj)
  refine ⟨fun j => ?_, fun j => ⟨fun hj => absurd hj (hinside j), fun hj => absurd hj.holds (hphase j)⟩,
    fun j hj => absurd hj (hphase j), fun hready => ?_, fun j hj => ⟨?_, hinside⟩⟩
  · by_cases hji : j = i
    · subst hji
      rwa [Function.update_self]
    · rw [Function.update_of_ne hji, others j hji]
      exact h.continues j
  · rw [mem] at hready
    exact absurd inside ((h.ready hready).2 i)
  · rw [hsucceeded]
    by_cases hji : j = i
    · subst hji
      simpa using hj
    · -- no success is left to publish while a transaction is inside
      rw [Function.update_of_ne hji] at hj
      exact absurd ((h.inside i).2 (.inr inside)) ((h.unpublished j hj).2 i)

omit [DecidableEq ι] in
/-- A task that holds a lock that is released is its owner. -/
lemma owner_of_release {c : Call} {e : Io} {k : e.Res → Drv ℤ} {l : Lock}
    (orderly : s.OrderlyAt Io.lockAct i) (hrun : s.running i = some (c, .call e k))
    (unlock : e.lockAct = .release l) : s.owner l = some i := by
  obtain ⟨held, hheld, hin, -⟩ := orderly.of_call hrun
  simp only [InOrder, unlock] at hin
  exact (hheld l).1 hin

lemma Consistent.acquires (h : Consistent s w phase) {c : Call} {e : Io} {k : e.Res → Drv ℤ}
    {l : Lock} (hrun : s.running i = some (c, .call e k)) (lock : e.lockAct = .acquire l)
    (free : s.owner l = none) (x : e.Res)
    (meets : NoOverlap i s ((s.goesOn i (some (c, k x))).own l (some i))) :
    ∃ phase', Consistent ((s.goesOn i (some (c, k x))).own l (some i))
      (w.next i s ((s.goesOn i (some (c, k x))).own l (some i))) phase' := by
  generalize hs' : (s.goesOn i (some (c, k x))).own l (some i) = s' at *
  have hrunning : s'.running = Function.update s.running i (some (c, k x)) := by
    rw [← hs']
    rfl
  have howner : s'.owner = Function.update s.owner l (some i) := by
    rw [← hs']
    rfl
  have hmem : s'.mem = s.mem := by
    rw [← hs']
    rfl
  obtain ⟨⟨ph, hcall, hk⟩, hout⟩ := h.at_call hrun
  have others (j : ι) (hj : j ≠ i) : s'.running j = s.running j := by
    rw [hrunning, Function.update_of_ne hj]
  have continues (hph : ph = .outside ↔ phase i = .outside) : Continues (s'.running i) ph := by
    rw [hrunning, Function.update_self]
    exact ⟨hk x, hph.trans hout⟩
  have owners (j : ι) (_ : j ≠ i) (hj : s.owner .global = some j) : s'.owner .global = some j := by
    have hne : Lock.global ≠ l := by
      rintro rfl
      rw [free] at hj
      cases hj
    rw [howner, Function.update_of_ne hne, hj]
  have leaves : ¬ Leaves i s s' := by
    rintro ⟨-, hheld, hfree⟩
    by_cases hl : Lock.global = l
    · rw [← hl, hheld] at free
      cases free
    · rw [howner, Function.update_of_ne hl, hheld] at hfree
      cases hfree
  have enters (hl : phase i = .outside ∨ l ≠ .sock (sockNum - 1)) : ¬ Enters i s s' := by
    rintro ⟨htransacts, hnone, hsome⟩
    rcases hl with hph | hl
    · exact h.transacts_iff.1 htransacts hph
    · rw [howner, Function.update_of_ne (Ne.symm hl), hnone] at hsome
      cases hsome
  rcases phase_acquire hcall lock with ⟨hph, rfl⟩ | ⟨hph, rfl, rfl⟩ | ⟨hph, rfl, hglobal, hlast⟩ |
    ⟨hph, rfl, rfl⟩
  · rw [w.next_quiet (enters (.inl hph)) leaves]
    refine ⟨_, h.quiet others (continues (by simp [hph])) (by rw [hph]) owners ?_ ?_ nofun⟩
    · simp [Phase.Holds]
    · exact fun hready => ⟨.inl (hmem ▸ hready), nofun⟩
  · rw [w.next_quiet (enters (.inr nofun)) leaves]
    refine ⟨_, h.quiet others (continues (by simp [hph])) (by simp [hph, Phase.Within]) owners ?_ ?_
      nofun⟩
    · exact fun _ => by rw [howner, Function.update_self]
    · exact fun hready => ⟨.inl (hmem ▸ hready), nofun⟩
  · rw [w.next_quiet (enters (.inr hlast)) leaves]
    refine ⟨_, h.quiet others (continues (by simp [hph])) (by rw [hph]) owners ?_ ?_ nofun⟩
    · intro _
      rw [howner, Function.update_of_ne (Ne.symm hglobal)]
      exact h.owner i (.inl hph)
    · exact fun hready => ⟨.inl (hmem ▸ hready), nofun⟩
  · have hne : Lock.global ≠ .sock (sockNum - 1) := nofun
    have htransacts : Transacts s i := h.transacts_iff.2 (by simp [hph])
    have henters : Enters i s s' := ⟨htransacts, free, by rw [howner, Function.update_self]⟩
    refine ⟨_, h.enters hph others (continues (by simp [hph])) ?_ hmem henters (meets henters)⟩
    rw [howner, Function.update_of_ne hne]

lemma Consistent.releases (h : Consistent s w phase) {c : Call} {e : Io} {k : e.Res → Drv ℤ}
    {l : Lock} (orderly : s.OrderlyAt Io.lockAct i) (hrun : s.running i = some (c, .call e k))
    (unlock : e.lockAct = .release l) (x : e.Res) :
    ∃ phase', Consistent ((s.goesOn i (some (c, k x))).own l none)
      (w.next i s ((s.goesOn i (some (c, k x))).own l none)) phase' := by
  have hheld : s.owner l = some i := owner_of_release orderly hrun unlock
  generalize hs' : (s.goesOn i (some (c, k x))).own l none = s' at *
  have hrunning : s'.running = Function.update s.running i (some (c, k x)) := by
    rw [← hs']
    rfl
  have howner : s'.owner = Function.update s.owner l none := by
    rw [← hs']
    rfl
  have hmem : s'.mem = s.mem := by
    rw [← hs']
    rfl
  obtain ⟨⟨ph, hcall, hk⟩, hout⟩ := h.at_call hrun
  have others (j : ι) (hj : j ≠ i) : s'.running j = s.running j := by
    rw [hrunning, Function.update_of_ne hj]
  have continues (hph : ph = .outside ↔ phase i = .outside) : Continues (s'.running i) ph := by
    rw [hrunning, Function.update_self]
    exact ⟨hk x, hph.trans hout⟩
  have owners (j : ι) (hji : j ≠ i) (hj : s.owner .global = some j) : s'.owner .global = some j := by
    have hne : Lock.global ≠ l := by
      rintro rfl
      rw [hheld] at hj
      exact hji (Option.some.inj hj).symm
    rw [howner, Function.update_of_ne hne, hj]
  have enters : ¬ Enters i s s' := by
    rintro ⟨-, hnone, hsome⟩
    by_cases hl : Lock.sock (sockNum - 1) = l
    · rw [hl, hheld] at hnone
      cases hnone
    · rw [howner, Function.update_of_ne hl, hnone] at hsome
      cases hsome
  rcases phase_release hcall unlock with ⟨hph, rfl⟩ | ⟨hph, rfl, hl⟩ | ⟨hph, rfl, r, rfl⟩
  · have leaves : ¬ Leaves i s s' := fun hleaves => h.transacts_iff.1 hleaves.1 hph
    rw [w.next_quiet enters leaves]
    refine ⟨_, h.quiet others (continues (by simp [hph])) (by rw [hph]) owners ?_ ?_ nofun⟩
    · simp [Phase.Holds]
    · exact fun hready => ⟨.inl (hmem ▸ hready), nofun⟩
  · have hglobal : s'.owner .global = some i := by
      rw [howner, Function.update_of_ne (Ne.symm hl)]
      exact h.owner i (.inr (.inr hph))
    have leaves : ¬ Leaves i s s' := by
      rintro ⟨-, -, hfree⟩
      rw [hglobal] at hfree
      cases hfree
    rw [w.next_quiet enters leaves]
    refine ⟨_, h.quiet others (continues (by simp [hph])) (by rw [hph]) owners (fun _ => hglobal) ?_
      nofun⟩
    intro hready
    exact absurd hph ((h.ready (hmem ▸ hready)).2 i)
  · have htransacts : Transacts s i := h.transacts_iff.2 (by simp [hph])
    have hleaves : Leaves i s s' := ⟨htransacts, hheld, by rw [howner, Function.update_self]⟩
    exact ⟨_, h.leaves hph others (continues (by simp [hph])) hmem enters hleaves⟩

variable {b : Build} {env : Env Driver W Io Io.Res} {s₀ : System ι W} {w₀ : Watch ι}

/-- The step lemma. -/
lemma consistent_step (h : Consistent s w phase) (orderly : s.OrderlyAt Io.lockAct i)
    (last : TaskStep env Io.lockAct (Call.run b) i s s') (meets : NoOverlap i s s') :
    ∃ phase', Consistent s' (w.next i s s') phase' := by
  cases last with
  | start c idle => exact ⟨_, (h.starts idle b c).next rfl⟩
  | mem at_mem =>
    obtain ⟨ph, hph⟩ := h.updates at_mem
    exact ⟨_, hph.next rfl⟩
  | call at_call plain answer =>
    obtain ⟨ph, hph⟩ := h.answers at_call plain _ _
    exact ⟨_, hph.next rfl⟩
  | acquire x at_call lock free => exact h.acquires at_call lock free x meets
  | release x at_call unlock => exact h.releases orderly at_call unlock x
  | finish at_ret => exact ⟨_, (h.returns at_ret).next rfl⟩

omit [DecidableEq ι] in
lemma consistent_idle (idle : s.Idle) (h : s.mem.chipState ≠ .ready) :
    Consistent s Watch.initial fun _ => .outside := by
  refine ⟨fun i => ?_, fun i => ?_, fun i hi => ?_, fun hready => absurd hready h, nofun⟩
  · rw [idle.1 i]
    rfl
  · simp [Watch.initial, Phase.Within]
  · simp [Phase.Holds] at hi

/-- The run lemma. -/
lemma consistent_watched (idle : s₀.Idle) (boot : s₀.mem.chipState ≠ .ready)
    (h : Watched b env NoOverlap s₀ Watch.initial s w) : ∃ phase, Consistent s w phase := by
  induction h with
  | start => exact ⟨_, consistent_idle idle boot⟩
  | step before last meets ih =>
    obtain ⟨phase, hphase⟩ := ih
    have orderly := orderlyAt_reached (balanced_call b) idle before.reached
    exact consistent_step hphase (orderly _) last meets

omit [DecidableEq ι] in
/-- A transaction that has taken its last lock and made its memory accesses is inside. -/
lemma Consistent.truthful (h : Consistent s w phase) (settled : Settled s w) : Truthful s w := by
  intro hready
  obtain ⟨hsucceeded, hnone⟩ := h.ready hready
  refine ⟨fun i hi => ?_, hsucceeded⟩
  have hfresh : phase i = .fresh := ((h.inside i).1 hi).resolve_right (hnone i)
  have hcontinues := h.continues i
  have hquiet := settled i hi
  rw [hfresh] at hcontinues
  unfold AtMem at hquiet
  cases hrun : s.running i with
  | none =>
    rw [hrun] at hcontinues
    cases hcontinues
  | some r =>
    obtain ⟨c, p⟩ := r
    rw [hrun] at hcontinues hquiet
    obtain ⟨hp, -⟩ := hcontinues
    cases p with
    | ret a => simp [Follows, Ends] at hp
    | mem f k => simp [isMem] at hquiet
    | call e k =>
      obtain ⟨_, hcall, -⟩ := hp
      exact hcall.elim
    | cut => simp [Follows, phases] at hp

/-- Without a condition on the schedule. -/
def anyStep : ι → System ι W → System ι W → Prop := fun _ _ _ => True

lemma Watched.quietly {K : ι → System ι W → System ι W → Prop} (h : Watched b env K s₀ w₀ s w)
    (last : TaskStep env Io.lockAct (Call.run b) i s s') (howner : s'.owner = s.owner)
    (meets : K i s s') : Watched b env K s₀ w₀ s' w := by
  have hnext := Watched.step h last meets
  rwa [next_of_owner howner] at hnext

lemma Watched.trans {K : ι → System ι W → System ι W → Prop} {v : Watch ι}
    (h : Watched b env K s₀ w₀ s w) (h' : Watched b env K s w s' v) : Watched b env K s₀ w₀ s' v := by
  induction h' with
  | start => exact h
  | step _ last meets ih => exact ih.step last meets

/-- A task can run up to its next call while the others rest. -/
lemma exists_settled (p : Drv ℤ) {c : Call} {s : System ι W} (w : Watch ι)
    (hrun : s.running i = some (c, p)) :
    ∃ t, Watched b env anyStep s w t w ∧ ¬ AtMem t i ∧ ∀ j ≠ i, t.running j = s.running j := by
  induction p generalizing s with
  | mem f k ih =>
    obtain ⟨t, hwatched, hmem, hothers⟩ := ih s.mem (s := { s.goesOn i (some (c, k s.mem)) with
      mem := f s.mem }) (Function.update_self ..)
    refine ⟨t, ?_, hmem, fun j hj => (hothers j hj).trans (Function.update_of_ne hj ..)⟩
    exact (Watched.start.quietly (.mem hrun) rfl trivial).trans hwatched
  | ret a | call e k | cut => exact ⟨s, .start, by simp [AtMem, hrun, isMem], fun _ _ => rfl⟩

omit [DecidableEq ι] in
/-- A task with a success to publish makes the chip ready. -/
lemma publishes_of_unpublished (h : Consistent s w phase) (hu : Unpublished s i) :
    ∃ c k, s.running i = some (c, .mem (Driver.transactionFinished 0) k) ∧ ∀ m, k m = .ret 0 := by
  have hph := h.released_of_unpublished hu
  obtain ⟨-, -, c, p, hrun, -⟩ := hu
  obtain ⟨hp, -⟩ := h.at_call hrun
  rw [hph] at hp
  obtain ⟨k, rfl, hk⟩ := publishes_of_released hp
  exact ⟨c, k, hrun, hk⟩

/-- Only an acquisition takes the last lock of a transaction. -/
lemma call_of_enters (last : TaskStep env Io.lockAct (Call.run b) i s s') (enters : Enters i s s') :
    ∃ c e k x, s.running i = some (c, .call e k) ∧ s'.running = Function.update s.running i (some (c, k x)) := by
  cases last with
  | acquire x at_call lock free => exact ⟨_, _, _, x, at_call, rfl⟩
  | @release c e k l x at_call unlock =>
    obtain ⟨-, hfree, htaken⟩ := enters
    by_cases hl : Lock.sock (sockNum - 1) = l
    · simp [Tasks.own, hl] at htaken
    · simp [Tasks.own, Tasks.goesOn, hl, hfree] at htaken
  | _ => exact absurd enters (not_enters_of_owner rfl)

/-- Where a transaction takes its last lock and another has its success to publish, the chip can
become ready while the first is inside. -/
lemma exists_untruthful (h : Consistent s w phase)
    (last : TaskStep env Io.lockAct (Call.run b) i s s') (overlap : ¬ NoOverlap i s s') :
    ∃ t v, Watched b env anyStep s' (w.next i s s') t v ∧ Settled t v ∧ ¬ Truthful t v := by
  obtain ⟨enters, j, hj⟩ : Enters i s s' ∧ ∃ j, Unpublished s j := by simpa [NoOverlap] using overlap
  obtain ⟨c, k, hrun, hk⟩ := publishes_of_unpublished h hj
  have hinside (l : ι) : (w.next i s s').inside l → l = i := by
    rintro (⟨hl, -⟩ | ⟨hl, -⟩)
    · exact hl
    · exact absurd hl ((h.unpublished j (h.released_of_unpublished hj)).2 l)
  have henters : (w.next i s s').inside i := .inl ⟨rfl, enters⟩
  obtain ⟨c', e, k', x, hcall, hrunning⟩ := call_of_enters last enters
  have hji : j ≠ i := by
    rintro rfl
    rw [hrun] at hcall
    cases hcall
  have hi : s'.running i = some (c', k' x) := by rw [hrunning, Function.update_self]
  obtain ⟨t, hwatched, hmem, hothers⟩ := exists_settled (b := b) (k' x) (w.next i s s') hi
  have hj' : t.running j = some (c, .mem (Driver.transactionFinished 0) k) := by
    rw [hothers j hji, hrunning, Function.update_of_ne hji, hrun]
  refine ⟨_, _, hwatched.quietly (.mem hj') rfl trivial, fun l hl => ?_, fun truthful => ?_⟩
  · obtain rfl := hinside l hl
    have hsame : (Function.update t.running j (some (c, k t.mem))) l = t.running l :=
      Function.update_of_ne (Ne.symm hji) ..
    simpa [AtMem, Tasks.goesOn, hsame] using hmem
  · exact (truthful (by simp [Driver.transactionFinished])).1 i henters

end steps

end invariant

/-- READY is true wherever no transaction took its last lock while another had yet to publish its
success. After such an overlap a state can be reached in which READY is false. -/
theorem ready_truthful {ι W : Type} [DecidableEq ι] (b : Build) (env : Env Driver W Io Io.Res)
    {s₀ : System ι W} (idle : s₀.Idle) (boot : s₀.mem.chipState ≠ .ready) :
    (∀ s w, Watched b env NoOverlap s₀ .initial s w → Settled s w → Truthful s w) ∧
    ∀ s w i s', Watched b env NoOverlap s₀ .initial s w →
      TaskStep env Io.lockAct (Call.run b) i s s' → ¬ NoOverlap i s s' →
      ∃ t v, Watched b env anyStep s' (w.next i s s') t v ∧ Settled t v ∧ ¬ Truthful t v := by
  refine ⟨fun s w h settled => ?_, fun s w i s' h last overlap => ?_⟩
  · obtain ⟨phase, hphase⟩ := consistent_watched idle boot h
    exact hphase.truthful settled
  · obtain ⟨phase, hphase⟩ := consistent_watched idle boot h
    exact exists_untruthful hphase last overlap

section runs
variable {ι : Type} [DecidableEq ι]

/-- A chip of version 4 on a bus without failures. -/
def answer : (e : Io) → e.Res
  | .read8 a => (if a = Reg.versionr then 4 else 0, false)
  | .readBuf _ len => (frameBytes len [], false)
  | .write8 _ _ | .writeBuf _ _ => false
  | .now => 0
  | .wait | .phyLink _ | .sockLock _ | .sockUnlock _ | .globalLock | .globalUnlock => ()

def soundChip : Handler Driver Unit Io Io.Res := fun _ _ e => (answer e, ())

/-- Tasks that have not called yet. -/
def resting : System ι Unit := ⟨fun _ => none, fun _ => none, Driver.boot 1000 1000, ()⟩

omit [DecidableEq ι] in
lemma resting_idle : (resting : System ι Unit).Idle := ⟨fun _ => rfl, fun _ => rfl⟩

/-- The call of a reset by task `i`. -/
def resetBy (i : ι) (s : System ι Unit) : System ι Unit :=
  s.goesOn i (some (.swReset, Call.run .oneTurn .swReset))

/-- The next `n` steps of task `i`. -/
def turns (i : ι) (n : ℕ) (s : System ι Unit) : System ι Unit :=
  (Tasks.turn soundChip Io.lockAct i)^[n] s

abbrev anyAnswer : Env Driver Unit Io Io.Res := LockDiscipline.anyAnswer

variable {K : ι → System ι Unit → System ι Unit → Prop} {s₀ s : System ι Unit} {w : Watch ι}

lemma Watched.resets (h : Watched .oneTurn anyAnswer K s₀ .initial s w) {i : ι}
    (rests : s.running i = none) (meets : K i s (resetBy i s)) :
    Watched .oneTurn anyAnswer K s₀ .initial (resetBy i s) w :=
  h.quietly (.start .swReset rests) rfl meets

lemma computed (i : ι) (s : System ι Unit) : s.turn soundChip Io.lockAct i = s ∨
    TaskStep anyAnswer Io.lockAct (Call.run .oneTurn) i s (s.turn soundChip Io.lockAct i) :=
  Tasks.turn_step (fun _ _ _ => trivial) (Call.run .oneTurn) i s

lemma Watched.turns (h : Watched .oneTurn anyAnswer K s₀ .initial s w) (i : ι) (n : ℕ)
    (meets : ∀ s s', TaskStep anyAnswer Io.lockAct (Call.run .oneTurn) i s s' → K i s s') :
    ∃ v, Watched .oneTurn anyAnswer K s₀ .initial (turns i n s) v := by
  induction n generalizing s w with
  | zero => exact ⟨w, h⟩
  | succ n ih =>
    rw [Publication.turns, Function.iterate_succ_apply]
    rcases computed i s with hsame | hstep
    · rw [hsame]
      exact ih h
    · exact ih (h.step hstep (meets _ _ hstep))

/-- A task that is alone overlaps with none. -/
lemma noOverlap_alone [Subsingleton ι] {i : ι} {s s' : System ι Unit}
    (last : TaskStep anyAnswer Io.lockAct (Call.run .oneTurn) i s s') : NoOverlap i s s' := by
  intro enters j hj
  obtain rfl := Subsingleton.elim i j
  obtain ⟨c, e, k, x, hcall, -⟩ := call_of_enters last enters
  simpa [AtMem, hcall, isMem] using hj.2.1

/-- One task that resets the chip, after its last step. -/
@[irreducible] def published : System (Fin 1) Unit := turns 0 70 (resetBy 0 resting)

lemma published_facts : published.mem.chipState = .ready ∧
    (published.running 0).any (fun r => isMem r.2) = false := by
  unfold published
  decide +kernel

theorem ready_truthful_reset : ∃ (s : System (Fin 1) Unit) (w : Watch (Fin 1)),
    Watched .oneTurn anyAnswer NoOverlap resting .initial s w ∧ s.mem.chipState = .ready ∧ (∀ i, ¬ w.inside i) ∧ w.succeeded := by
  let s₀ : System (Fin 1) Unit := resting
  have called : Watched .oneTurn anyAnswer NoOverlap s₀ .initial (resetBy 0 s₀) .initial :=
    Watched.start.resets rfl fun h => absurd h (not_enters_of_owner rfl)
  obtain ⟨w, hw⟩ := called.turns 0 70 fun _ _ => noOverlap_alone
  have hw' : Watched .oneTurn anyAnswer NoOverlap resting .initial published w := by
    unfold published
    exact hw
  have settled : Settled published w := by
    intro i _ hi
    obtain rfl : i = 0 := Subsingleton.elim _ _
    rw [AtMem, published_facts.2] at hi
    cases hi
  have boot : (resting : System (Fin 1) Unit).mem.chipState ≠ .ready := nofun
  exact ⟨published, w, hw', published_facts.1,
    (ready_truthful .oneTurn anyAnswer resting_idle boot).1 _ _ hw' settled published_facts.1⟩

/-- A transaction stays inside while the global lock is held. -/
lemma Watched.turns_inside {i j : ι} (h : Watched .oneTurn anyAnswer anyStep s₀ .initial s w)
    (inside : w.inside i) (n : ℕ)
    (held : ∀ k ≤ n, ((Publication.turns j k s).owner .global).isSome) :
    ∃ v, Watched .oneTurn anyAnswer anyStep s₀ .initial (Publication.turns j n s) v ∧ v.inside i := by
  induction n with
  | zero => exact ⟨w, h, inside⟩
  | succ n ih =>
    obtain ⟨v, hv, hinside⟩ := ih fun k hk => held k (by omega)
    have hheld := held (n + 1) le_rfl
    rw [Publication.turns, Function.iterate_succ_apply'] at hheld ⊢
    rcases computed j (Publication.turns j n s) with hsame | hstep
    · exact ⟨v, hsame.symm ▸ hv, hinside⟩
    · refine ⟨_, hv.step hstep trivial, .inr ⟨hinside, ?_⟩⟩
      rintro ⟨-, -, -, hfree⟩
      simp [hfree] at hheld

/-- Task 0 has released the locks of its reset, task 1 is about to take the last one for its own. -/
@[irreducible] def gap : System (Fin 2) Unit :=
  let first : Fin 2 := ⟨0, Nat.two_pos⟩
  turns (.last 1) 8 (turns first 69 (resetBy (.last 1) (resetBy first resting)))

/-- Task 1 takes it and makes the chip unready. -/
@[irreducible] def entered : System (Fin 2) Unit := turns (.last 1) 3 (gap.turn soundChip Io.lockAct (.last 1))

/-- Task 0 publishes. -/
@[irreducible] def overlapped : System (Fin 2) Unit := turns ⟨0, Nat.two_pos⟩ 1 entered

lemma gap_facts : (gap.running 1).any (fun r => transacts r.1) = true ∧
    gap.owner (.sock (sockNum - 1)) = none ∧
    (gap.turn soundChip Io.lockAct 1).owner (.sock (sockNum - 1)) = some 1 ∧
    ∀ k ≤ 3, ((turns 1 k (gap.turn soundChip Io.lockAct 1)).owner .global).isSome := by
  unfold gap
  decide +kernel

lemma overlapped_facts : (∀ k ≤ 1, ((turns 0 k entered).owner .global).isSome) ∧
    overlapped.mem.chipState = .ready ∧
    ∀ i, (overlapped.running i).any (fun r => isMem r.2) = false := by
  unfold overlapped entered gap
  decide +kernel

lemma watched_overlapped : ∃ w, Watched .oneTurn anyAnswer anyStep resting .initial overlapped w ∧
    w.inside 1 := by
  let s₀ : System (Fin 2) Unit := resting
  have called : Watched .oneTurn anyAnswer anyStep s₀ .initial (resetBy 1 (resetBy 0 s₀)) .initial :=
    (Watched.start.resets rfl trivial).resets rfl trivial
  obtain ⟨w₁, hw₁⟩ := called.turns 0 69 fun _ _ _ => trivial
  obtain ⟨w₂, hw₂⟩ := hw₁.turns 1 8 fun _ _ _ => trivial
  have hgap : Watched .oneTurn anyAnswer anyStep s₀ .initial gap w₂ := by
    unfold gap
    exact hw₂
  obtain ⟨htransacts, hfree, htaken, hheld⟩ := gap_facts
  have enters : Enters 1 gap (gap.turn soundChip Io.lockAct 1) := ⟨htransacts, hfree, htaken⟩
  have hstep := (computed 1 gap).resolve_left fun h => by
    rw [h, hfree] at htaken
    cases htaken
  obtain ⟨w₃, hw₃, inside⟩ := (hgap.step hstep trivial).turns_inside (.inl ⟨rfl, enters⟩) 3 hheld
  have hentered : Watched .oneTurn anyAnswer anyStep s₀ .initial entered w₃ := by
    unfold entered
    exact hw₃
  obtain ⟨w₄, hw₄, inside'⟩ := hentered.turns_inside inside 1 overlapped_facts.1
  refine ⟨w₄, ?_, inside'⟩
  unfold overlapped
  exact hw₄

/-- Two resets in the order of the gap. -/
theorem overlap_untruthful :
    ¬ ∀ (ι W : Type) [DecidableEq ι] (b : Build) (env : Env Driver W Io Io.Res) (s₀ s : System ι W)
      (w : Watch ι), s₀.Idle → s₀.mem.chipState ≠ .ready →
      Watched b env anyStep s₀ .initial s w → Settled s w → Truthful s w := by
  intro claim
  obtain ⟨w, hw, inside⟩ := watched_overlapped
  have settled : Settled overlapped w := by
    intro i _ hi
    rw [AtMem, overlapped_facts.2.2 i] at hi
    cases hi
  have boot : (resting : System (Fin 2) Unit).mem.chipState ≠ .ready := nofun
  exact (claim _ _ _ _ _ _ w resting_idle boot hw settled overlapped_facts.2.1).1 1 inside

end runs

end IoLibrary.Publication
