import IoLibrary.Effects.Roles
import IoLibrary.Locking
import IoLibrary.Socket.Footprints
import IoLibrary.Socket.OpenRules

/-! Overlapping calls of socket on one socket number: between any two steps of one call the
others may run, in front of the lock and behind it. -/
namespace IoLibrary.Overlap
open Effects

/-- The status of the socket, and the commands it has been given. -/
structure Chip where
  status : Byte
  commands : List Byte

/-- The status leaves SOCK_CLOSED only after an OPEN, and comes back to it only after a CLOSE. -/
def Chip.Moves (c c' : Chip) (commands : List Byte) : Prop :=
  c'.commands = commands ∧
    (c.status = sockClosed → c'.status ≠ sockClosed → snCrOpen ∈ commands) ∧
    (c.status ≠ sockClosed → c'.status = sockClosed → snCrClose ∈ commands)

/-- The status is read without failure; the other registers answer anything. -/
def chip (sn : ℕ) : Env Driver Chip Io Io.Res := fun _ c e x c' =>
  match e, x with
  | .read8 a, x => c.Moves c' c.commands ∧ (a = Reg.snSR sn → x = (c'.status, false))
  | .write8 a v, _ => c.Moves c' (if a = Reg.snCR sn then c.commands ++ [v] else c.commands)
  | _, _ => c.Moves c' c.commands

/-- The arguments of a call besides the socket number. -/
structure Args where
  protocol : Byte
  port : ℕ
  flag : Byte

def Args.run (b : Build) (sn : ℕ) (c : Args) : Drv ℤ := socket b sn c.protocol c.port c.flag

abbrev Calls (ι : Type) : Type := Tasks ι Args Lock Driver Chip Io Io.Res ℤ

/-- All have called socket, none has done anything yet, and the socket is closed. -/
def entered {ι : Type} (b : Build) (sn : ℕ) (calls : ι → Args) (m : Driver) : Calls ι where
  running i := some (calls i, (calls i).run b sn)
  owner _ := none
  mem := m
  world := ⟨sockClosed, []⟩

/-- A status read in front of the lock answers SOCK_CLOSED. -/
def SampledClosed {ι : Type} (sn : ℕ) (i : ι) (s s' : Calls ι) : Prop :=
  ∀ c k, s.running i = some (c, .call (.read8 (Reg.snSR sn)) k) → s.owner (.sock sn) ≠ some i →
    s'.world.status = sockClosed

/-- Call `i` has come to its end with result `r`. -/
def Returned {ι : Type} (s : Calls ι) (i : ι) (r : ℤ) : Prop := ∃ c, s.running i = some (c, .ret r)

/-- Where a call is: in front of the lock, behind it and what it has seen there, or past it. -/
inductive Place
  | outside
  | inside
  | opening
  | opened
  | gone (won : Bool)
  deriving DecidableEq

def Place.holds : Place → Prop
  | .inside | .opening | .opened => True
  | _ => False

/-- It has seen the socket open after its own OPEN. -/
def Place.won : Place → Prop
  | .opened | .gone true => True
  | _ => False

/-- It has found the socket closed behind the lock, and has not failed since. -/
def Place.leads : Place → Prop
  | .opening | .opened | .gone true => True
  | _ => False

/-- The status has been read. -/
def Place.seen (v : Byte) : Place → Place
  | .inside => if v = sockClosed then .opening else .inside
  | .opening => if v = sockClosed then .opening else .opened
  | p => p

def Place.after (sn : ℕ) (p : Place) : (e : Io) → e.Res → Place
  | .read8 a, x => if a = Reg.snSR sn then p.seen x.1 else p
  | .sockLock k, _ => if k = sn then .inside else p
  | .sockUnlock k, _ => if k = sn then .gone (p = .opened) else p
  | _, _ => p

/-- A command is given only by a call that has found the socket closed behind the lock, and is
OPEN. -/
def caller (sn : ℕ) : Role Place Io Io.Res where
  may p e := match e with
    | .write8 a v => a = Reg.snCR sn → p = .opening ∧ v = snCrOpen
    | .sockLock k => k = sn → p = .outside
    | .sockUnlock k => k = sn → p.holds
    | _ => True
  next p e x p' := p' = p.after sn e x ∧ match e, x with
    | .read8 a, x => a = Reg.snSR sn → p = .outside → x.1 = sockClosed
    | _, _ => True

/-- The result of a call tells whether it has opened the socket. -/
def Ends (sn : ℕ) (r : ℤ) (p : Place) : Prop := r = sn ∧ p = .gone true ∨ r < 0

section body
variable {b : Build} {sn : ℕ} {p : Place}

/-- Calls that do not touch the locks, the commands or the status. -/
def Aside (sn : ℕ) : Io → Prop
  | .read8 a => a ≠ Reg.snSR sn
  | .write8 a _ => a ≠ Reg.snCR sn
  | .sockLock _ | .sockUnlock _ => False
  | _ => True

lemma plays_aside {α : Type} {q : Drv α} (hq : Within (fun _ => True) (Aside sn) q) :
    Plays (caller sn) q p fun _ p' => p' = p := by
  refine plays_of_within hq fun e he => ?_
  cases e with
  | read8 a => exact ⟨trivial, fun x p' hx => hx.1.trans (if_neg he)⟩
  | write8 a v => exact ⟨fun ha => absurd ha he, fun x p' hx => hx.1⟩
  | sockLock k => exact he.elim
  | sockUnlock k => exact he.elim
  | _ => exact ⟨trivial, fun x p' hx => hx.1⟩

lemma plays_getSnSR {Q : Byte → Place → Prop}
    (h : ∀ v, (p = .outside → v = sockClosed) → Q v (p.seen v)) :
    Plays (caller sn) (getSnSR b sn) p Q := by
  have status (fault : Bool) : Within (fun _ => True) (Aside sn) (readStatus b fault) :=
    within_readStatus (fun _ _ => trivial) b fault
  simp only [getSnSR, wizchipRead, wizchipRead8CheckedOut, plays_bind, plays_pure, plays_perform]
  refine ⟨trivial, ?_⟩
  rintro x _ ⟨rfl, hx⟩
  refine plays_mono (plays_aside (status x.2)) ?_
  rintro _ _ rfl
  rw [Place.after, if_pos rfl]
  exact h x.1 (hx rfl)

lemma within_waitCrAccepted (d : ℕ) : Within (fun _ => True) (Aside sn) (waitCrAccepted b sn d) := by
  have hcr : Aside sn (.read8 (Reg.snCR sn)) := by simp [Aside, Reg.snCR, Reg.snSR]
  refine within_bind (within_waitPollInit (fun _ _ => trivial) trivial) fun poll => ?_
  refine within_pollLoop (fun _ _ => trivial) b trivial trivial ?_ ?_ d poll
  · exact within_bind (within_wizchipRead (fun _ _ => trivial) b hcr) fun v =>
      within_ite (within_pure _) (within_pure _)
  · exact within_bind ((within_modify _).2 trivial) fun _ => within_pure _

lemma gives_waitRegister (a : Addr) (wanted : Byte) (d : ℕ) :
    Gives (fun r => r = sockOk ∨ r < 0) (waitRegister b sn a wanted d) := by
  have timeout : Gives (fun r : ℤ => r = sockOk ∨ r < 0) (faultedTimeout sn) :=
    gives_then fun _ => .inr (by decide)
  refine gives_then fun poll => gives_pollLoop (gives_then fun v => ?_) timeout
  exact gives_ite (fun _ => looked_result (.inl rfl)) fun _ => nofun

/-- The wait for the open status shows the socket open when it succeeds. -/
lemma plays_waitSrReached {wanted : Byte} (hwanted : wanted ≠ sockClosed) (d : ℕ)
    (h : p = .opening ∨ p = .opened) :
    Plays (caller sn) (waitSrReached b sn wanted d) p fun r p' =>
      r = sockOk ∧ p' = .opened ∨ r = sockerrTimeout ∧ (p' = .opening ∨ p' = .opened) := by
  simp only [waitSrReached, waitRegister, plays_bind]
  refine plays_mono (plays_aside (within_waitPollInit (fun _ _ => trivial) trivial)) ?_
  rintro poll _ rfl
  refine plays_loop (fun _ p => p = .opening ∨ p = .opened) (fun poll p h => ?_) _ h
  have timeout (p' : Place) (h' : p' = .opening ∨ p' = .opened) :
      Plays (caller sn) (faultedTimeout sn) p' fun r p' =>
        r = sockOk ∧ p' = .opened ∨ r = sockerrTimeout ∧ (p' = .opening ∨ p' = .opened) :=
    fun _ => .inr ⟨rfl, h'⟩
  have onwards (p' : Place) (h' : p' = .opening ∨ p' = .opened) :
      Plays (caller sn) (waitPollExpired poll d) p' fun _ p' => p' = .opening ∨ p' = .opened :=
    plays_mono (plays_aside (within_waitPollExpired (fun _ _ => trivial) trivial trivial poll d))
      fun _ _ hp => hp ▸ h'
  have seen (v : Byte) : p.seen v = .opening ∨ p.seen v = .opened := by
    rcases h with rfl | rfl
    · simp only [Place.seen]
      split
      · exact .inl rfl
      · exact .inr rfl
    · exact .inr rfl
  simp only [waitRegister.look, plays_bind, plays_ite]
  refine plays_getSnSR (b := b) fun v _ => ⟨?_, fun hne => ?_⟩
  · rintro rfl
    refine .inl ⟨rfl, ?_⟩
    rcases h with rfl | rfl
    · exact if_neg hwanted
    · rfl
  · refine (plays_pure none).2 ((plays_bind _ _).2 (plays_mono (onwards _ (seen v)) ?_))
    intro late p' hp'
    refine (plays_ite _ _ _).2 ⟨fun _ => (plays_bind _ _).2 ?_, fun _ => hp'⟩
    exact plays_mono (timeout p' hp') fun _ _ => id

/-- The protocols that socket accepts have an open status. -/
lemma openStatus_ne_closed {protocol flag : Byte} (h : socketArgCheck sn protocol flag = none) :
    socketOpenStatus protocol ≠ sockClosed := by
  have hmode : ¬ (protocol &&& 0x0F ≠ snMrTcp ∧ protocol &&& 0x0F ≠ snMrUdp ∧
      protocol &&& 0x0F ≠ snMrMacraw ∧ protocol &&& 0x0F ≠ snMrIpraw) := by
    intro hnone
    simp only [socketArgCheck, if_pos hnone] at h
    split at h <;> cases h
  simp only [socketOpenStatus]
  split
  · decide
  split
  · decide
  split
  · decide
  split
  · decide
  · tauto

/-- What the body of socket leaves behind. -/
def Leaves (sn : ℕ) (r : ℤ) (p : Place) : Prop := r = sn ∧ p = .opened ∨ r < 0 ∧ p.holds

lemma plays_socketOpenClosed {protocol flag : Byte} {port d : ℕ}
    (hargs : socketArgCheck sn protocol flag = none) :
    Plays (caller sn) (socketOpenClosed b sn protocol flag port d) .opening (Leaves sn) := by
  have aside {α : Type} {q : Drv α} (hq : Within (fun _ => True) (Aside sn) q) :
      Plays (caller sn) q .opening fun _ p => p = .opening := plays_aside hq
  have openCommand : Plays (caller sn) (socketOpenClosed.openCommand b sn protocol flag port d)
      .opening (Leaves sn) := by
    have hmr : Aside sn (.write8 (Reg.snMR sn) (protocol ||| (flag &&& ~~~sfIoNonblock &&& 0xF0))) := by
      simp [Aside, Reg.snMR, Reg.snCR]
    have status (fault : Bool) : Within (fun _ => True) (Aside sn) (writeStatus b fault) :=
      within_writeStatus (fun _ _ => trivial) b fault
    refine (plays_bind _ _).2 (plays_mono (aside (within_wizchipWrite (fun _ _ => trivial) b hmr)) ?_)
    rintro - _ rfl
    refine (plays_bind _ _).2 (plays_mono (aside (within_bind
      (within_wizchipWriteBufChecked (fun _ _ => trivial) b trivial) fun _ => within_pure _)) ?_)
    rintro - _ rfl
    simp only [setSnCR, wizchipWrite, wizchipWrite8Checked, plays_bind, plays_modify, plays_perform,
      plays_pure]
    refine fun _ => ⟨fun _ => ⟨rfl, rfl⟩, ?_⟩
    rintro x _ ⟨rfl, -⟩
    refine plays_mono (aside (status x)) ?_
    rintro st _ rfl
    refine plays_mono (plays_and_gives (aside (within_waitCrAccepted d)) (gives_waitRegister _ _ _)) ?_
    rintro ret _ ⟨rfl, hret⟩
    refine (plays_ite _ _ _).2 ⟨fun hne => .inr ⟨hret.resolve_left hne, trivial⟩, fun _ => ?_⟩
    refine (plays_bind _ _).2 (plays_mono (plays_waitSrReached (openStatus_ne_closed hargs) d (.inl rfl)) ?_)
    rintro ret p' (⟨rfl, rfl⟩ | ⟨rfl, h⟩)
    · exact (plays_ite _ _ _).2 ⟨fun hne => absurd rfl hne, fun _ _ => .inl ⟨rfl, rfl⟩⟩
    · refine (plays_ite _ _ _).2 ⟨fun _ => .inr ⟨by decide, ?_⟩, fun heq => absurd (by decide) heq⟩
      rcases h with rfl | rfl <;> trivial
  refine (plays_ite _ _ _).2 ⟨fun _ => (plays_bind _ _).2 ?_, fun _ => openCommand⟩
  refine plays_mono (aside (within_wizchipReadBuf (fun _ _ => trivial) b trivial)) ?_
  rintro sipr _ rfl
  exact (plays_ite _ _ _).2 ⟨fun _ => .inr ⟨by decide, trivial⟩, fun _ => openCommand⟩

/-- Behind the lock, with a status that was SOCK_CLOSED in front of it: a socket that is not
closed any more is left alone. -/
lemma plays_socketLocked {protocol flag : Byte} {port : ℕ}
    (hargs : socketArgCheck sn protocol flag = none) :
    Plays (caller sn) (socketLocked b sn protocol flag port sockClosed) .inside (Leaves sn) := by
  simp only [socketLocked, plays_bind, plays_get, plays_ite]
  refine fun m => ⟨fun _ => .inr ⟨by decide, trivial⟩, fun _ => ?_⟩
  refine plays_mono (plays_aside (within_sockDeadlineBegin (fun _ _ => trivial) trivial _)) ?_
  rintro d _ rfl
  cases d with
  | none => exact .inr ⟨by decide, trivial⟩
  | some d =>
    refine (plays_bind _ _).2 (plays_getSnSR fun v _ => (plays_ite _ _ _).2 ⟨?_, fun hopen => ?_⟩)
    · rintro rfl
      exact plays_socketOpenClosed hargs
    · refine (plays_ite _ _ _).2 ⟨fun _ => .inr ⟨by decide, ?_⟩, fun h => absurd trivial h⟩
      rw [Place.seen, if_neg hopen]
      trivial

theorem plays_socket (protocol flag : Byte) (port : ℕ) :
    Plays (caller sn) (socket b sn protocol port flag) .outside (Ends sn) := by
  unfold socket
  cases hargs : socketArgCheck sn protocol flag with
  | some e => exact .inr (socketArgCheck_neg hargs)
  | none =>
    simp only [plays_bind, plays_pure, plays_get, plays_ite, plays_modify]
    refine fun m => ⟨fun _ _ => .inr (by decide), fun _ => plays_getSnSR fun v hv => ?_⟩
    rw [hv rfl]
    have source : Within (fun _ => True) (Aside sn) (sourcePort port) :=
      (within_sourcePort port).mono (fun _ _ => trivial) fun e he => by rcases he with rfl | rfl <;> trivial
    refine plays_mono (plays_aside source) ?_
    rintro port _ rfl
    simp only [locked, sockLock, sockUnlock, ask, plays_bind, plays_perform, plays_pure]
    refine ⟨fun _ => rfl, ?_⟩
    rintro x _ ⟨rfl, -⟩
    rw [Place.after, if_pos rfl]
    refine plays_mono (plays_socketLocked hargs) fun r p h => ⟨fun _ => ?_, ?_⟩
    · rcases h with ⟨-, rfl⟩ | ⟨-, h⟩
      · trivial
      · exact h
    · rintro y _ ⟨rfl, -⟩
      rw [Place.after, if_pos rfl]
      rcases h with ⟨rfl, rfl⟩ | ⟨hneg, -⟩
      · exact .inl ⟨rfl, rfl⟩
      · exact .inr hneg

end body

section invariant
variable {ι : Type} [DecidableEq ι] {sn : ℕ} {place : ι → Place} {owner : Lock → Option ι} {c c' : Chip}

/-- The places of the calls against the lock and the chip: at most one call leads, and none while
the socket that another has opened is open. -/
structure Inv (sn : ℕ) (place : ι → Place) (owner : Lock → Option ι) (c : Chip) : Prop where
  owns : ∀ i, owner (.sock sn) = some i ↔ (place i).holds
  unclosed : snCrClose ∉ c.commands
  shown : ∀ i, (place i).won → c.status ≠ sockClosed
  one : ∀ i j, (place i).won → (place j).leads → i = j

/-- What a call that has opened the socket can rely on. -/
def Kept (place : ι → Place) (c : Chip) (place' : ι → Place) (c' : Chip) : Prop :=
  ∀ i, place i = .gone true → place' i = .gone true ∧ c'.commands = c.commands

lemma won_leads {p : Place} (h : p.won) : p.leads := by
  cases p with
  | gone won => cases won <;> trivial
  | _ => trivial

omit [DecidableEq ι] in
/-- Without a CLOSE an open socket stays open. -/
lemma Inv.move {commands : List Byte} (h : Inv sn place owner c) (hmove : c.Moves c' commands)
    (hclose : snCrClose ∉ commands) : Inv sn place owner c' where
  owns := h.owns
  unclosed := hmove.1 ▸ hclose
  shown i hi hclosed := hclose (hmove.2.2 (h.shown i hi) hclosed)
  one := h.one

/-- A call that stays where it is. -/
lemma Inv.stays (h : Inv sn place owner c) {i : ι} {p : Place} (hp : p = place i) :
    Inv sn (Function.update place i p) owner c := by
  rw [hp, Function.update_eq_self]
  exact h

lemma kept_stays {i : ι} {p : Place} (hp : p = place i) (hcommands : c'.commands = c.commands) :
    Kept place c (Function.update place i p) c' := by
  rw [hp, Function.update_eq_self]
  exact fun j hj => ⟨hj, hcommands⟩

lemma kept_update {i : ι} {p : Place} (hi : place i ≠ .gone true) (hcommands : c'.commands = c.commands) :
    Kept place c (Function.update place i p) c' := by
  intro j hj
  have hne : j ≠ i := by
    rintro rfl
    exact hi hj
  exact ⟨by rw [Function.update_of_ne hne, hj], hcommands⟩

/-- The status is read under the lock. -/
lemma Inv.seen (h : Inv sn place owner c) (i : ι) :
    Inv sn (Function.update place i ((place i).seen c.status)) owner c := by
  cases hp : place i with
  | inside =>
    by_cases hclosed : c.status = sockClosed
    · have hnone (j : ι) : ¬ (place j).won := fun hj => h.shown j hj hclosed
      have hi : Place.seen c.status .inside = .opening := if_pos hclosed
      have hnone' (j : ι) : ¬ (Function.update place i (Place.seen c.status .inside) j).won := by
        rw [hi]
        by_cases hj : j = i
        · subst hj
          rw [Function.update_self]
          exact id
        · rw [Function.update_of_ne hj]
          exact hnone j
      refine ⟨fun j => ?_, h.unclosed, fun j hj => absurd hj (hnone' j), fun j k hj => absurd hj (hnone' j)⟩
      rw [h.owns j, hi]
      by_cases hj : j = i
      · subst hj
        rw [Function.update_self, hp]
        exact Iff.rfl
      · rw [Function.update_of_ne hj]
    · exact h.stays ((if_neg hclosed).trans hp.symm)
  | opening =>
    by_cases hclosed : c.status = sockClosed
    · exact h.stays ((if_pos hclosed).trans hp.symm)
    · have hi : Place.seen c.status .opening = .opened := if_neg hclosed
      have hleads : (place i).leads := by
        rw [hp]
        trivial
      rw [hi]
      -- whoever leads holds the lock, or has opened the socket before
      have only (j : ι) (hj : (place j).leads) : j = i := by
        cases hpj : place j with
        | opening | opened =>
          have hown := (h.owns j).2 (by rw [hpj]; trivial)
          exact Option.some.inj (hown.symm.trans ((h.owns i).2 (by rw [hp]; trivial)))
        | gone won =>
          refine h.one j i ?_ hleads
          rw [hpj] at hj ⊢
          cases won
          · exact hj.elim
          · trivial
        | _ =>
          rw [hpj] at hj
          exact hj.elim
      have only' (j : ι) (hj : (Function.update place i .opened j).leads) : j = i := by
        by_contra hne
        rw [Function.update_of_ne hne] at hj
        exact hne (only j hj)
      refine ⟨fun j => ?_, h.unclosed, fun j _ => hclosed, fun j k hj hk => ?_⟩
      · rw [h.owns j]
        by_cases hj : j = i
        · subst hj
          rw [Function.update_self, hp]
          exact Iff.rfl
        · rw [Function.update_of_ne hj]
      · rw [only' j (won_leads hj), only' k hk]
  | _ => exact h.stays hp.symm

/-- A call that takes or releases a lock. -/
lemma Inv.goes {owner' : Lock → Option ι} (h : Inv sn place owner c) {i : ι} {p : Place}
    (owns : ∀ j, owner' (.sock sn) = some j ↔ (Function.update place i p j).holds)
    (hwon : p.won → (place i).won) (hleads : p.leads → (place i).leads) :
    Inv sn (Function.update place i p) owner' c := by
  have won (j : ι) (hj : (Function.update place i p j).won) : (place j).won := by
    by_cases hji : j = i
    · subst hji
      rw [Function.update_self] at hj
      exact hwon hj
    · rwa [Function.update_of_ne hji] at hj
  have leads (j : ι) (hj : (Function.update place i p j).leads) : (place j).leads := by
    by_cases hji : j = i
    · subst hji
      rw [Function.update_self] at hj
      exact hleads hj
    · rwa [Function.update_of_ne hji] at hj
  exact ⟨owns, h.unclosed, fun j hj => h.shown j (won j hj),
    fun j k hj hk => h.one j k (won j hj) (leads k hk)⟩

/-- A call takes the lock of the socket. -/
lemma Inv.acquires (h : Inv sn place owner c) {i : ι} (hfree : owner (.sock sn) = none) :
    Inv sn (Function.update place i .inside) (Function.update owner (.sock sn) (some i)) c := by
  refine h.goes (fun j => ?_) False.elim False.elim
  rw [Function.update_self]
  by_cases hj : j = i
  · subst hj
    rw [Function.update_self]
    exact ⟨fun _ => trivial, fun _ => rfl⟩
  · rw [Function.update_of_ne hj, ← h.owns j, hfree]
    simp [Ne.symm hj]

/-- The holder releases the lock of the socket. -/
lemma Inv.releases (h : Inv sn place owner c) {i : ι} (hholds : (place i).holds) :
    Inv sn (Function.update place i (.gone (place i = .opened))) (Function.update owner (.sock sn) none)
      c := by
  have hown : owner (.sock sn) = some i := (h.owns i).2 hholds
  have hwon : (Place.gone (place i = .opened)).won → (place i).won := by
    cases hp : place i <;> simp [Place.won]
  refine h.goes (fun j => ?_) hwon fun hl => won_leads (hwon ?_)
  · rw [Function.update_self]
    by_cases hj : j = i
    · subst hj
      rw [Function.update_self]
      exact ⟨nofun, False.elim⟩
    · rw [Function.update_of_ne hj, ← h.owns j, hown]
      simp [Ne.symm hj]
  · cases hp : place i <;> simp_all [Place.won, Place.leads]

omit [DecidableEq ι] in
/-- Another lock changes hands. -/
lemma Inv.other (h : Inv sn place owner c) {l : Lock} (hl : Lock.sock sn ≠ l) (o : Option ι) :
    Inv sn place (Function.update owner l o) c where
  owns i := by
    rw [Function.update_of_ne hl]
    exact h.owns i
  unclosed := h.unclosed
  shown := h.shown
  one := h.one

/-- Every step of a call keeps the invariant, if every status in front of the lock reads CLOSED. -/
lemma sustains_inv :
    Sustains (caller sn) (chip sn) Io.lockAct (SampledClosed (ι := ι) sn) (Inv sn) Kept where
  mem place c i hi := ⟨hi, rfl⟩
  call {s i c e k x w place} hrun plain answer sampled h may := by
    have stays {p : Place} (hp : p = place i) (hmove : s.world.Moves w s.world.commands) :
        Inv sn (Function.update place i p) s.owner w ∧
          Kept place s.world (Function.update place i p) w :=
      ⟨(h.move hmove h.unclosed).stays hp, kept_stays hp hmove.1⟩
    cases e with
    | read8 a =>
      obtain ⟨hmove, hstatus⟩ := answer
      by_cases ha : a = Reg.snSR sn
      · subst ha
        obtain rfl := hstatus rfl
        have houtside : place i = .outside → w.status = sockClosed := by
          intro hp
          refine sampled c k hrun fun hown => ?_
          have := (h.owns i).1 hown
          rwa [hp] at this
        refine ⟨(place i).seen w.status, ⟨(if_pos rfl).symm, fun _ => houtside⟩, ?_, ?_⟩
        · exact (h.move hmove h.unclosed).seen i
        · intro j hj
          have hsame : Function.update place i ((place i).seen w.status) j = .gone true := by
            by_cases hji : j = i
            · subst hji
              rw [Function.update_self, hj]
              rfl
            · rw [Function.update_of_ne hji, hj]
          exact ⟨hsame, hmove.1⟩
      · exact ⟨place i, ⟨(if_neg ha).symm, fun ha' => absurd ha' ha⟩, stays rfl hmove⟩
    | write8 a v =>
      refine ⟨place i, ⟨rfl, trivial⟩, ?_⟩
      by_cases ha : a = Reg.snCR sn
      · obtain ⟨hp, rfl⟩ := may ha
        have hmove : s.world.Moves w (s.world.commands ++ [snCrOpen]) := by
          rwa [chip, if_pos ha] at answer
        have hclose : snCrClose ∉ s.world.commands ++ [snCrOpen] := by
          rw [List.mem_append, not_or]
          exact ⟨h.unclosed, by decide⟩
        refine ⟨(h.move hmove hclose).stays rfl, fun j hj => ?_⟩
        -- the call that gives a command leads, so that no other has opened the socket
        have hji : j = i := h.one j i (by rw [hj]; trivial) (by rw [hp]; trivial)
        rw [hji, hp] at hj
        exact absurd hj nofun
      · have hmove : s.world.Moves w s.world.commands := by
          rwa [chip, if_neg ha] at answer
        exact stays rfl hmove
    | sockLock n | sockUnlock n | globalLock | globalUnlock => exact absurd plain nofun
    | _ => exact ⟨place i, ⟨rfl, trivial⟩, stays rfl answer⟩
  acquire {owner i e l w place} x lock free h may := by
    have aside (hl : Lock.sock sn ≠ l) (hp : (place i).after sn e x = place i) :
        ∃ p, (caller sn).next (place i) e x p ∧
          Inv sn (Function.update place i p) (Function.update owner l (some i)) w ∧
          Kept place w (Function.update place i p) w := by
      cases e with
      | sockLock | globalLock =>
        exact ⟨place i, ⟨hp.symm, trivial⟩, (h.other hl _).stays rfl, kept_stays rfl rfl⟩
      | _ => exact absurd lock nofun
    cases e with
    | sockLock n =>
      obtain rfl : Lock.sock n = l := LockAct.acquire.inj lock
      by_cases hn : n = sn
      · subst hn
        have hp : place i = .outside := may rfl
        refine ⟨.inside, ⟨(if_pos rfl).symm, trivial⟩, h.acquires free, kept_update ?_ rfl⟩
        rw [hp]
        nofun
      · exact aside (fun heq => hn (Lock.sock.inj heq).symm) (if_neg hn)
    | globalLock =>
      obtain rfl : Lock.global = l := LockAct.acquire.inj lock
      exact aside nofun rfl
    | _ => exact absurd lock nofun
  release {owner i e l w place} x unlock h may := by
    have aside (hl : Lock.sock sn ≠ l) (hp : (place i).after sn e x = place i) :
        ∃ p, (caller sn).next (place i) e x p ∧
          Inv sn (Function.update place i p) (Function.update owner l none) w ∧
          Kept place w (Function.update place i p) w := by
      cases e with
      | sockUnlock | globalUnlock =>
        exact ⟨place i, ⟨hp.symm, trivial⟩, (h.other hl _).stays rfl, kept_stays rfl rfl⟩
      | _ => exact absurd unlock nofun
    cases e with
    | sockUnlock n =>
      obtain rfl : Lock.sock n = l := LockAct.release.inj unlock
      by_cases hn : n = sn
      · subst hn
        have hholds : (place i).holds := may rfl
        refine ⟨_, ⟨(if_pos rfl).symm, trivial⟩, h.releases hholds, kept_update ?_ rfl⟩
        intro hp
        rw [hp] at hholds
        exact hholds
      · exact aside (fun heq => hn (Lock.sock.inj heq).symm) (if_neg hn)
    | globalUnlock =>
      obtain rfl : Lock.global = l := LockAct.release.inj unlock
      exact aside nofun rfl
    | _ => exact absurd unlock nofun

end invariant

section runs
variable {ι : Type} [DecidableEq ι] {b : Build} {sn : ℕ} {calls : ι → Args} {m : Driver}
variable {s s' : Calls ι}

/-- The states of overlapping calls in which every status in front of the lock reads CLOSED. -/
abbrev Reaches (b : Build) (sn : ℕ) (s s' : Calls ι) : Prop :=
  Along (chip sn) Io.lockAct (Args.run b sn) (SampledClosed sn) s s'

omit [DecidableEq ι] in
lemma inv_entered : Inv sn (fun _ => Place.outside) (entered b sn calls m).owner (entered b sn calls m).world where
  owns _ := ⟨nofun, False.elim⟩
  unclosed := List.not_mem_nil
  shown _ := False.elim
  one _ _ := False.elim

omit [DecidableEq ι] in
lemma play_entered :
    (entered b sn calls m).Play (caller sn) (Ends sn) fun _ => .outside := fun i =>
  ⟨calls i, (calls i).run b sn, rfl, plays_socket _ _ _⟩

omit [DecidableEq ι] in
lemma kept_trans {p p' p'' : ι → Place} {c c' c'' : Chip} (h : Kept p c p' c')
    (h' : Kept p' c' p'' c'') : Kept p c p'' c'' := fun i hi =>
  ⟨(h' i (h i hi).1).1, (h' i (h i hi).1).2.trans (h i hi).2⟩

omit [DecidableEq ι] in
lemma ends_of_returned {place : ι → Place} (hplay : s.Play (caller sn) (Ends sn) place) {i : ι} {r : ℤ}
    (h : Returned s i r) : Ends sn r (place i) := by
  obtain ⟨c, hrun⟩ := h
  obtain ⟨c', p, hrun', hp⟩ := hplay i
  obtain ⟨-, rfl⟩ := Prod.mk.inj (Option.some.inj (hrun.symm.trans hrun'))
  exact hp

/-- A command is given under the lock. -/
lemma owner_of_command {place : ι → Place} (hplay : s.Play (caller sn) (Ends sn) place)
    (hinv : Inv sn place s.owner s.world) {i : ι}
    (last : TaskStep (chip sn) Io.lockAct (Args.run b sn) i s s')
    (hcommand : s'.world.commands ≠ s.world.commands) : s.owner (.sock sn) = some i := by
  obtain ⟨c, p, hrun, hp⟩ := hplay i
  cases last with
  | @call c' e k x w at_call plain answer =>
    obtain ⟨rfl, rfl⟩ := Prod.mk.inj (Option.some.inj (hrun.symm.trans at_call))
    have aside (h : s.world.Moves w s.world.commands) : s.owner (.sock sn) = some i :=
      absurd h.1 hcommand
    cases e with
    | read8 a => exact aside answer.1
    | write8 a v =>
      by_cases ha : a = Reg.snCR sn
      · refine (hinv.owns i).2 ?_
        rw [(hp.1 ha).1]
        trivial
      · refine aside ?_
        rwa [chip, if_neg ha] at answer
    | _ => exact aside answer
  | _ => exact absurd rfl hcommand

/-- Overlapping calls of socket on one closed socket, each of which reads SOCK_CLOSED in front of
the lock: at most one returns the socket number and the others an error; no CLOSE is given, every
command is given under the lock, and once a call has returned the socket number the socket stays
open and is given no command. -/
theorem one_opens (h : Reaches b sn (entered b sn calls m) s) :
    (∀ i j, Returned s i sn → Returned s j sn → i = j) ∧
    (∀ i r, Returned s i r → r = sn ∨ r < 0) ∧ snCrClose ∉ s.world.commands ∧
    (∀ i s', TaskStep (chip sn) Io.lockAct (Args.run b sn) i s s' →
      s'.world.commands ≠ s.world.commands → s.owner (.sock sn) = some i) ∧
    ∀ i, Returned s i sn → ∀ s', Reaches b sn s s' →
      s'.world.commands = s.world.commands ∧ s'.world.status ≠ sockClosed := by
  obtain ⟨place, hplay, hinv, -⟩ := play_along sustains_inv (fun _ _ _ _ _ _ => kept_trans)
    play_entered inv_entered h
  have won (i : ι) (hi : Returned s i sn) : place i = .gone true := by
    rcases ends_of_returned hplay hi with ⟨-, hp⟩ | hneg
    · exact hp
    · omega
  refine ⟨fun i j hi hj => ?_, fun i r hi => ?_, hinv.unclosed,
    fun i s' => owner_of_command hplay hinv, fun i hi s' h' => ?_⟩
  · exact hinv.one i j (by rw [won i hi]; trivial) (by rw [won j hj]; trivial)
  · exact (ends_of_returned hplay hi).imp And.left id
  · obtain ⟨place', -, hinv', hkept⟩ := play_along sustains_inv (fun _ _ _ _ _ _ => kept_trans)
      hplay hinv h'
    obtain ⟨hi', hcommands⟩ := hkept i (won i hi)
    exact ⟨hcommands, hinv'.shown i (by rw [hi']; trivial)⟩

end runs

/-- A chip that opens and closes the socket at once. -/
def quickChip : Handler Driver Chip Io Io.Res := fun _ c e =>
  match e with
  | .read8 a => ((if a = Reg.snSR 0 then c.status else 0, false), c)
  | .write8 a v =>
    (false, if a = Reg.snCR 0 then
      ⟨if v = snCrOpen then sockUdp else if v = snCrClose then sockClosed else c.status,
        c.commands ++ [v]⟩
      else c)
  | .readBuf _ len => ((frameBytes len [], false), c)
  | .writeBuf _ _ => (false, c)
  | .now => (0, c)
  | .wait | .phyLink _ | .sockLock _ | .sockUnlock _ | .globalLock | .globalUnlock => ((), c)

lemma quickChip_allowed (m : Driver) (c : Chip) (e : Io) :
    chip 0 m c e (quickChip m c e).1 (quickChip m c e).2 := by
  have still : c.Moves c c.commands := ⟨rfl, fun h h' => absurd h h', fun h h' => absurd h' h⟩
  cases e with
  | read8 a =>
    refine ⟨still, ?_⟩
    rintro rfl
    rfl
  | write8 a v =>
    by_cases ha : a = Reg.snCR 0
    · simp only [chip, quickChip, if_pos ha]
      by_cases hopen : v = snCrOpen
      · subst hopen
        exact ⟨rfl, fun _ _ => by simp, fun _ h => absurd h (show sockUdp ≠ sockClosed by decide)⟩
      · by_cases hclose : v = snCrClose
        · subst hclose
          exact ⟨rfl, fun _ h => absurd rfl h, fun _ _ => by simp⟩
        · rw [if_neg hopen, if_neg hclose]
          exact ⟨rfl, fun h h' => absurd h h', fun h h' => absurd h' h⟩
    · simp only [chip, quickChip, if_neg ha]
      exact still
  | _ => exact still

/-- Call `i` goes on, if it has not come to its end. -/
def Calls.advance (s : Calls (Fin 2)) (i : Fin 2) : Calls (Fin 2) :=
  match s.running i with
  | some (_, .ret _) => s
  | _ => s.turn quickChip Io.lockAct i

def Calls.result (s : Calls (Fin 2)) (i : Fin 2) : Option ℤ :=
  match s.running i with
  | some (_, .ret r) => some r
  | _ => none

lemma returned_of_result {s : Calls (Fin 2)} {i : Fin 2} {r : ℤ} (h : s.result i = some r) :
    Returned s i r := by
  unfold Calls.result at h
  split at h
  · next c r' hrun => exact ⟨c, hrun.trans (by rw [Option.some.inj h])⟩
  · cases h

lemma advance_step (s : Calls (Fin 2)) (i : Fin 2) : s.advance i = s ∨
    TaskStep (chip 0) Io.lockAct (Args.run .oneTurn 0) i s (s.advance i) := by
  unfold Calls.advance
  split
  · exact .inl rfl
  · exact Tasks.turn_step quickChip_allowed _ i s

lemma running_advance {s : Calls (Fin 2)} (h : ∀ j, s.running j ≠ none) (i j : Fin 2) :
    (s.advance i).running j ≠ none := by
  have update (r : Args × Drv ℤ) : Function.update s.running i (some r) j ≠ none := by
    by_cases hj : j = i
    · subst hj
      rw [Function.update_self]
      exact nofun
    · rw [Function.update_of_ne hj]
      exact h j
  unfold Calls.advance
  split
  · exact h j
  · next hnot =>
    unfold Tasks.turn
    split
    · exact update _
    · simp only
      split
      · exact update _
      · split
        · exact update _
        · exact h j
      · exact update _
    · next c r hrun => exact absurd hrun (hnot c r)
    · exact h j

/-- Every step of the schedule is one that `ok` allows. -/
def Allowed (ok : Fin 2 → Calls (Fin 2) → Calls (Fin 2) → Prop) :
    List (Fin 2) → Calls (Fin 2) → Prop
  | [], _ => True
  | i :: rest, s => ok i s (s.advance i) ∧ Allowed ok rest (s.advance i)

lemma along_advance {ok : Fin 2 → Calls (Fin 2) → Calls (Fin 2) → Prop} {s₀ s : Calls (Fin 2)}
    {schedule : List (Fin 2)} (hs : Along (chip 0) Io.lockAct (Args.run .oneTurn 0) ok s₀ s)
    (hrun : ∀ j, s.running j ≠ none) (hok : Allowed ok schedule s) :
    Along (chip 0) Io.lockAct (Args.run .oneTurn 0) ok s₀ (schedule.foldl Calls.advance s) := by
  induction schedule generalizing s with
  | nil => exact hs
  | cons i rest ih =>
    refine ih ?_ (running_advance hrun i) hok.2
    rcases advance_step s i with heq | hstep
    · rwa [heq]
    · exact .step hs hstep (running_advance hrun i i) hok.1

lemma allowed_any (schedule : List (Fin 2)) (s : Calls (Fin 2)) :
    Allowed (fun _ _ _ => True) schedule s := by
  induction schedule generalizing s with
  | nil => trivial
  | cons i rest ih => exact ⟨trivial, ih _⟩

/-- `SampledClosed`, and with it the steps of a schedule, computed. -/
def readsClosed (i : Fin 2) (s s' : Calls (Fin 2)) : Bool :=
  match s.running i with
  | some (_, .call (.read8 a) _) =>
    a ≠ Reg.snSR 0 || s.owner (.sock 0) = some i || s'.world.status = sockClosed
  | _ => true

def allReadClosed : List (Fin 2) → Calls (Fin 2) → Bool
  | [], _ => true
  | i :: rest, s => readsClosed i s (s.advance i) && allReadClosed rest (s.advance i)

lemma allowed_readsClosed {schedule : List (Fin 2)} {s : Calls (Fin 2)}
    (h : allReadClosed schedule s) : Allowed (SampledClosed 0) schedule s := by
  induction schedule generalizing s with
  | nil => trivial
  | cons i rest ih =>
    obtain ⟨hi, hrest⟩ := Bool.and_eq_true_iff.1 h
    refine ⟨fun c k hrun hown => ?_, ih hrest⟩
    simpa [readsClosed, hrun, hown] using hi

/-- The calls before their first step: two for a UDP socket. -/
def twoCalls : Calls (Fin 2) :=
  entered .oneTurn 0 (fun _ => ⟨snMrUdp, 5000, 0⟩) { Driver.boot 1000 1000 with chipState := .ready }

@[irreducible] def raced (schedule : List (Fin 2)) : Calls (Fin 2) := schedule.foldl Calls.advance twoCalls

/-- Both read the status before either takes the lock. -/
def early : List (Fin 2) :=
  let first : Fin 2 := ⟨0, Nat.two_pos⟩
  [first, first, .last 1, .last 1] ++ List.replicate 40 first ++ List.replicate 40 (.last 1)

/-- The second reads the status between the OPEN of the first and its unlock. -/
def late : List (Fin 2) :=
  let first : Fin 2 := ⟨0, Nat.two_pos⟩
  List.replicate 20 first ++ List.replicate 2 (.last 1) ++ List.replicate 40 first ++ List.replicate 100 (.last 1)

lemma running_twoCalls (j : Fin 2) : twoCalls.running j ≠ none := nofun

theorem one_opens_early : Returned (raced early) 0 0 ∧ Returned (raced early) 1 sockerrSockstatus ∧
    (∀ i j, Returned (raced early) i 0 → Returned (raced early) j 0 → i = j) ∧
    snCrClose ∉ (raced early).world.commands := by
  have hfirst : (raced early).result 0 = some 0 := by
    unfold raced
    decide +kernel
  have hsecond : (raced early).result 1 = some sockerrSockstatus := by
    unfold raced
    decide +kernel
  have hreads : allReadClosed early twoCalls := by decide +kernel
  have hrun : Reaches .oneTurn 0 twoCalls (raced early) := by
    unfold raced
    exact along_advance .start running_twoCalls (allowed_readsClosed hreads)
  obtain ⟨hone, -, hclose, -⟩ := one_opens hrun
  exact ⟨returned_of_result hfirst, returned_of_result hsecond, hone, hclose⟩

/-- A status read between the OPEN of one call and its unlock makes the other call close and reopen
the socket: both return its number. -/
theorem both_open : ¬ ∀ (b : Build) (sn : ℕ) (calls : Fin 2 → Args) (m : Driver) (s : Calls (Fin 2)),
    Along (chip sn) Io.lockAct (Args.run b sn) (fun _ _ _ => True) (entered b sn calls m) s →
    ∀ i j, Returned s i sn → Returned s j sn → i = j := by
  intro claim
  have hresult (i : Fin 2) : (raced late).result i = some 0 := by
    unfold raced
    revert i
    decide +kernel
  have hrun : Along (chip 0) Io.lockAct (Args.run .oneTurn 0) (fun _ _ _ => True) twoCalls
      (raced late) := by
    unfold raced
    exact along_advance .start running_twoCalls (allowed_any _ _)
  have heq := claim _ _ _ _ _ hrun 0 1 (returned_of_result (hresult 0)) (returned_of_result (hresult 1))
  exact absurd heq (by decide)

end IoLibrary.Overlap
