import IoLibrary.Calls
import IoLibrary.Effects.Exec

/-! SENDOK and TIMEOUT across the sessions of a socket: Sn_IR keeps them until the driver writes them back, and an OPEN
does not clear them. -/
namespace IoLibrary.Freshness
open Effects

/-- SENDOK and TIMEOUT, with the session in which each was raised last, the number of OPENs so far, whether the chip
may raise them, and the last command under the present lock. -/
structure Chip where
  sendok : Option ℕ
  timeout : Option ℕ
  session : ℕ
  running : Bool
  command : Option Byte

/-- What the chip may do between two accesses. -/
inductive Event
  | sendok
  | timeout
  | stop

def Chip.event (c : Chip) : Event → Chip
  | .sendok => if c.running then { c with sendok := some c.session } else c
  | .timeout => if c.running then { c with timeout := some c.session } else c
  | .stop => { c with running := false }

def Chip.pass (c : Chip) (events : List Event) : Chip := events.foldl Chip.event c

/-- A write to Sn_IR clears the bits that are set in it. -/
def Chip.clear (c : Chip) (v : Byte) : Chip :=
  { c with
    sendok := if v &&& snIrSendok ≠ 0 then none else c.sendok
    timeout := if v &&& snIrTimeout ≠ 0 then none else c.timeout }

/-- What an access does: a bit that is written back is cleared, OPEN starts a session, and a CLOSE that has been taken
ends it. -/
def Chip.access (sn : ℕ) (c : Chip) : (e : Io) → e.Res → Chip
  | .read8 a, x => if a = Reg.snCR sn ∧ x.1 = 0 ∧ c.command = some snCrClose then { c with running := false } else c
  | .write8 a v, _ =>
    if a = Reg.snIR sn then c.clear v
    else if a = Reg.snCR sn then
      if v = snCrOpen then { c with session := c.session + 1, running := true, command := some v }
      else { c with command := some v }
    else c
  | .sockLock k, _ | .sockUnlock k, _ => if k = sn then { c with command := none } else c
  | _, _ => c

/-- Sn_IR shows the bits that are set. -/
def Chip.Answers (sn : ℕ) (c : Chip) : (e : Io) → e.Res → Prop
  | .read8 a, x => a = Reg.snIR sn →
    (x.1 &&& snIrSendok ≠ 0 ↔ c.sendok ≠ none) ∧ (x.1 &&& snIrTimeout ≠ 0 ↔ c.timeout ≠ none)
  | _, _ => True

/-- An access, with the operation that makes it and the chip that it meets. -/
structure Access where
  op : Op
  chip : Chip
  io : Io
  answer : io.Res

structure World where
  chip : Chip
  accesses : List Access

/-- The chip under an operation. -/
def sessions (sn : ℕ) (op : Op) : Env Globals World Io Io.Res := fun _ w e x w' =>
  ∃ events, (w.chip.pass events).Answers sn e x ∧
    w' = ⟨(w.chip.pass events).access sn e x, w.accesses ++ [⟨op, w.chip.pass events, e, x⟩]⟩

/-- The bits that are set were raised in the present session. -/
structure Chip.Fresh (c : Chip) : Prop where
  sendok : ∀ s, c.sendok = some s → s = c.session
  timeout : ∀ s, c.timeout = some s → s = c.session

/-- No bit is set, and none is raised before the next OPEN. -/
structure Chip.Rests (c : Chip) : Prop where
  running : c.running = false
  sendok : c.sendok = none
  timeout : c.timeout = none

/-- The operations that act on the bits. -/
def Acts : Op → Prop
  | .connect _ _ _ | .disconnect | .send _ _ => True
  | _ => False

/-- A bit that connect, disconnect or send reads as set was raised in the present session. -/
def Access.Fresh (sn : ℕ) : Access → Prop
  | ⟨op, c, .read8 a, x⟩ => Acts op → a = Reg.snIR sn →
    (x.1 &&& snIrSendok ≠ 0 → c.sendok = some c.session) ∧ (x.1 &&& snIrTimeout ≠ 0 → c.timeout = some c.session)
  | _ => True

/-- Where socket, before any command of its own, reads Sn_SR as CLOSED, the chip rests. -/
def Access.Clean (sn : ℕ) : Access → Prop
  | ⟨.socket _ _ _, c, .read8 a, x⟩ => a = Reg.snSR sn → x.1 = sockClosed → c.command = none → c.Rests
  | _ => True

section chips
variable {sn : ℕ} {c : Chip} {e : Io} {x : e.Res}

lemma Chip.Rests.fresh (h : c.Rests) : c.Fresh := by
  constructor
  · intro s hs
    rw [h.sendok] at hs
    cases hs
  · intro s hs
    rw [h.timeout] at hs
    cases hs

lemma Chip.Fresh.event (h : c.Fresh) (v : Event) : (c.event v).Fresh := by
  cases v with
  | sendok =>
    rw [Chip.event]
    split_ifs
    · exact ⟨fun s hs => (Option.some.inj hs).symm, h.timeout⟩
    · exact h
  | timeout =>
    rw [Chip.event]
    split_ifs
    · exact ⟨h.sendok, fun s hs => (Option.some.inj hs).symm⟩
    · exact h
  | stop => exact ⟨h.sendok, h.timeout⟩

lemma Chip.Fresh.pass (h : c.Fresh) (events : List Event) : (c.pass events).Fresh := by
  induction events generalizing c with
  | nil => exact h
  | cons v events ih => exact ih (h.event v)

/-- A chip that rests stays as it is. -/
lemma Chip.pass_of_stopped (h : c.running = false) (events : List Event) : c.pass events = c := by
  have hevent (v : Event) : c.event v = c := by
    cases v with
    | sendok => exact if_neg (by simp [h])
    | timeout => exact if_neg (by simp [h])
    | stop =>
      rw [Chip.event, ← h]
  induction events with
  | nil => rfl
  | cons v events ih =>
    change (c.event v).pass events = c
    rw [hevent, ih]

lemma command_event (c : Chip) (v : Event) : (c.event v).command = c.command := by
  cases v with
  | sendok =>
    rw [Chip.event]
    split_ifs <;> rfl
  | timeout =>
    rw [Chip.event]
    split_ifs <;> rfl
  | stop => rfl

lemma command_pass (c : Chip) (events : List Event) : (c.pass events).command = c.command := by
  induction events generalizing c with
  | nil => rfl
  | cons v events ih => exact (ih (c.event v)).trans (command_event c v)

/-- A write of OPEN to the command register. -/
def Opens (sn : ℕ) (e : Io) : Prop := e = .write8 (Reg.snCR sn) snCrOpen

lemma Chip.Fresh.clear (h : c.Fresh) (v : Byte) : (c.clear v).Fresh := by
  constructor
  · intro s hs
    change (if v &&& snIrSendok ≠ 0 then none else c.sendok) = some s at hs
    split_ifs at hs
    exact h.sendok s hs
  · intro s hs
    change (if v &&& snIrTimeout ≠ 0 then none else c.timeout) = some s at hs
    split_ifs at hs
    exact h.timeout s hs

lemma Chip.Rests.clear (h : c.Rests) (v : Byte) : (c.clear v).Rests := by
  refine ⟨h.running, ?_, ?_⟩
  · rw [Chip.clear, h.sendok]
    exact ite_self none
  · rw [Chip.clear, h.timeout]
    exact ite_self none

/-- Only OPEN makes a bit old. -/
lemma Chip.Fresh.access (h : c.Fresh) (he : ¬ Opens sn e) : (c.access sn e x).Fresh := by
  cases e with
  | read8 a =>
    rw [Chip.access]
    split_ifs
    · exact ⟨h.sendok, h.timeout⟩
    · exact h
  | write8 a v =>
    rw [Chip.access]
    split_ifs with hir hcr hopen
    · exact h.clear v
    · exact absurd (by rw [Opens, hcr, hopen]) he
    · exact ⟨h.sendok, h.timeout⟩
    · exact h
  | sockLock k =>
    rw [Chip.access]
    split_ifs
    · exact ⟨h.sendok, h.timeout⟩
    · exact h
  | sockUnlock k =>
    rw [Chip.access]
    split_ifs
    · exact ⟨h.sendok, h.timeout⟩
    · exact h
  | _ => exact h

lemma Chip.Rests.access (h : c.Rests) (he : ¬ Opens sn e) : (c.access sn e x).Rests := by
  cases e with
  | read8 a =>
    rw [Chip.access]
    split_ifs
    · exact ⟨rfl, h.sendok, h.timeout⟩
    · exact h
  | write8 a v =>
    rw [Chip.access]
    split_ifs with hir hcr hopen
    · exact h.clear v
    · exact absurd (by rw [Opens, hcr, hopen]) he
    · exact ⟨h.running, h.sendok, h.timeout⟩
    · exact h
  | sockLock k =>
    rw [Chip.access]
    split_ifs
    · exact ⟨h.running, h.sendok, h.timeout⟩
    · exact h
  | sockUnlock k =>
    rw [Chip.access]
    split_ifs
    · exact ⟨h.running, h.sendok, h.timeout⟩
    · exact h
  | _ => exact h

/-- What an access meets is fresh where the chip is. -/
lemma Chip.Fresh.seen {op : Op} (h : c.Fresh) (hx : c.Answers sn e x) : Access.Fresh sn ⟨op, c, e, x⟩ := by
  cases e with
  | read8 a =>
    intro _ ha
    obtain ⟨hsendok, htimeout⟩ := hx ha
    constructor
    · intro hbit
      obtain ⟨s, hs⟩ := Option.ne_none_iff_exists'.1 (hsendok.1 hbit)
      rw [hs, h.sendok s hs]
    · intro hbit
      obtain ⟨s, hs⟩ := Option.ne_none_iff_exists'.1 (htimeout.1 hbit)
      rw [hs, h.timeout s hs]
  | _ => trivial

end chips

section worlds
variable {sn : ℕ} {op : Op} {g : Globals} {w w' : World} {e : Io} {x : e.Res}

/-- What the clean runs satisfy: all that has been read was fresh. -/
def World.Sound (sn : ℕ) (P : Chip → Prop) (w : World) : Prop :=
  (∀ a ∈ w.accesses, a.Clean sn) → P w.chip ∧ ∀ a ∈ w.accesses, a.Fresh sn

lemma World.Sound.mono {P Q : Chip → Prop} (h : w.Sound sn P) (hPQ : P w.chip → Q w.chip) : w.Sound sn Q :=
  fun hclean => ⟨hPQ (h hclean).1, (h hclean).2⟩

/-- An access that takes the fresh chip from one assertion to another. -/
lemma World.Sound.step {P Q : Chip → Prop} (h : w.Sound sn P) (hx : sessions sn op g w e x w')
    (hfresh : ∀ events, P w.chip → (w.chip.pass events).Fresh)
    (hnext : ∀ events, P w.chip → Access.Clean sn ⟨op, w.chip.pass events, e, x⟩ →
      Q ((w.chip.pass events).access sn e x)) : w'.Sound sn Q := by
  obtain ⟨events, hanswers, rfl⟩ := hx
  intro hclean
  have hbefore : ∀ a ∈ w.accesses, a.Clean sn := fun a ha => hclean a (List.mem_append_left _ ha)
  obtain ⟨hP, hall⟩ := h hbefore
  refine ⟨hnext events hP (hclean _ (List.mem_append_right _ (List.mem_singleton_self _))), fun a ha => ?_⟩
  rcases List.mem_append.1 ha with ha | ha
  · exact hall a ha
  · rw [List.mem_singleton.1 ha]
    exact (hfresh events hP).seen hanswers

abbrev World.Ok (sn : ℕ) (w : World) : Prop := w.Sound sn Chip.Fresh

/-- Before a command of the operation under the lock. -/
def World.Entered (sn : ℕ) (w : World) : Prop := w.Ok sn ∧ w.chip.command = none

/-- After a CLOSE. -/
def World.Closing (sn : ℕ) (w : World) : Prop := w.Ok sn ∧ w.chip.command = some snCrClose

/-- After a CLOSE that has been taken. -/
abbrev World.Stopped (sn : ℕ) (w : World) : Prop := w.Sound sn fun c => c.Fresh ∧ c.running = false

/-- Ready for OPEN. -/
abbrev World.AtRest (sn : ℕ) (w : World) : Prop := w.Sound sn Chip.Rests

lemma World.AtRest.ok (h : w.AtRest sn) : w.Ok sn := h.mono Chip.Rests.fresh

lemma ok_step (h : w.Ok sn) (hx : sessions sn op g w e x w') (he : ¬ Opens sn e) : w'.Ok sn :=
  h.step hx (fun events hP => hP.pass events) fun events hP _ => (hP.pass events).access he

lemma rest_step (h : w.AtRest sn) (hx : sessions sn op g w e x w') (he : ¬ Opens sn e) : w'.AtRest sn := by
  refine h.step hx (fun events hP => hP.fresh.pass events) fun events hP _ => ?_
  rw [Chip.pass_of_stopped hP.running]
  exact hP.access he

/-- OPEN on a chip at rest starts a session with no bit set. -/
lemma open_step (h : w.AtRest sn) {x : Bool} (hx : sessions sn op g w (.write8 (Reg.snCR sn) snCrOpen) x w') :
    w'.Ok sn := by
  refine h.step hx (fun events hP => hP.fresh.pass events) fun events hP _ => ?_
  rw [Chip.pass_of_stopped hP.running]
  have hne : Reg.snCR sn ≠ Reg.snIR sn := by simp [Reg.snCR, Reg.snIR]
  rw [Chip.access, if_neg hne, if_pos rfl, if_pos rfl]
  constructor
  · intro s hs
    exact absurd (hP.sendok.symm.trans hs) (by rintro ⟨⟩)
  · intro s hs
    exact absurd (hP.timeout.symm.trans hs) (by rintro ⟨⟩)

/-- An access that issues no command and takes or returns no lock of the socket. -/
def Leaves (sn : ℕ) : Io → Prop
  | .write8 a _ => a ≠ Reg.snCR sn
  | .sockLock k | .sockUnlock k => k ≠ sn
  | _ => True

lemma command_access {c : Chip} (he : Leaves sn e) : (c.access sn e x).command = c.command := by
  cases e with
  | read8 a =>
    rw [Chip.access]
    split_ifs <;> rfl
  | write8 a v =>
    rw [Chip.access, if_neg he]
    split_ifs <;> rfl
  | sockLock k => exact congrArg Chip.command (if_neg he)
  | sockUnlock k => exact congrArg Chip.command (if_neg he)
  | _ => rfl

lemma not_opens_of_leaves (he : Leaves sn e) : ¬ Opens sn e := by
  rintro rfl
  exact he rfl

lemma command_step (hx : sessions sn op g w e x w') (he : Leaves sn e) : w'.chip.command = w.chip.command := by
  obtain ⟨events, -, rfl⟩ := hx
  exact (command_access he).trans (command_pass _ events)

lemma entered_step (h : w.Entered sn) (hx : sessions sn op g w e x w') (he : Leaves sn e) : w'.Entered sn :=
  ⟨ok_step h.1 hx (not_opens_of_leaves he), (command_step hx he).trans h.2⟩

lemma closing_step (h : w.Closing sn) (hx : sessions sn op g w e x w') (he : Leaves sn e) : w'.Closing sn :=
  ⟨ok_step h.1 hx (not_opens_of_leaves he), (command_step hx he).trans h.2⟩

/-- The lock is taken. -/
lemma lock_step (h : w.Ok sn) {x : Unit} (hx : sessions sn op g w (.sockLock sn) x w') : w'.Entered sn := by
  refine ⟨ok_step h hx nofun, ?_⟩
  obtain ⟨events, -, rfl⟩ := hx
  exact congrArg Chip.command (if_pos rfl)

/-- A look of socket at the status. -/
lemma status_step {protocol flag : Byte} {port : ℕ} (h : w.Entered sn) {x : Byte × Bool}
    (hx : sessions sn (.socket protocol port flag) g w (.read8 (Reg.snSR sn)) x w') :
    (x.1 = sockClosed → w'.AtRest sn) ∧ w'.Entered sn := by
  refine ⟨fun hclosed => ?_, entered_step h hx trivial⟩
  refine h.1.step hx (fun events hP => hP.pass events) fun events _ hclean => ?_
  exact (hclean rfl hclosed ((command_pass _ events).trans h.2)).access nofun

lemma close_step (h : w.Ok sn) {x : Bool} (hx : sessions sn op g w (.write8 (Reg.snCR sn) snCrClose) x w') :
    w'.Closing sn := by
  refine ⟨ok_step h hx (by simp [Opens, snCrClose, snCrOpen]), ?_⟩
  obtain ⟨events, -, rfl⟩ := hx
  have hne : Reg.snCR sn ≠ Reg.snIR sn := by simp [Reg.snCR, Reg.snIR]
  have hopen : snCrClose ≠ snCrOpen := by decide
  dsimp only
  rw [Chip.access, if_neg hne, if_pos rfl, if_neg hopen]

/-- The CLOSE has been taken. -/
lemma taken_step (h : w.Closing sn) {x : Byte × Bool} (hx : sessions sn op g w (.read8 (Reg.snCR sn)) x w')
    (hzero : x.1 = 0) : w'.Stopped sn := by
  refine h.1.step hx (fun events hP => hP.pass events) fun events hP _ => ?_
  refine ⟨(hP.pass events).access nofun, ?_⟩
  rw [Chip.access, if_pos ⟨rfl, hzero, (command_pass _ events).trans h.2⟩]

lemma clear_step (h : w.Stopped sn) {x : Bool} (hx : sessions sn op g w (.write8 (Reg.snIR sn) 0x1F) x w') :
    w'.AtRest sn := by
  refine h.step hx (fun events hP => hP.1.pass events) fun events hP _ => ?_
  rw [Chip.pass_of_stopped hP.2, Chip.access, if_pos rfl]
  have hsendok : (0x1F : Byte) &&& snIrSendok ≠ 0 := by decide
  have htimeout : (0x1F : Byte) &&& snIrTimeout ≠ 0 := by decide
  refine ⟨hP.2, ?_, ?_⟩
  · rw [Chip.clear, if_pos hsendok]
  · rw [Chip.clear, if_pos htimeout]

end worlds

section operations
variable {b : Build} {sn : ℕ} {op : Op} {g : Globals} {w : World}

lemma ticks_of_step {I : World → Prop}
    (h : ∀ w e (x : e.Res) w', I w → sessions sn op g w e x w' → Leaves sn e → I w') : Ticks (sessions sn op) g I := by
  rintro w _ x w' (rfl | rfl) hw hx
  · exact h w _ x w' hw hx trivial
  · exact h w _ x w' hw hx trivial

/-- close_internal within socket leaves a chip at rest, or an error. -/
lemma wpg_closeInternal_rests {protocol flag : Byte} {port : ℕ} (hsn : sn < sockNum)
    (hhealthy : (g.sock sn).health ≠ .faulted) (d : ℕ) (h : w.Entered sn) :
    wpg (sessions sn (.socket protocol port flag)) (closeInternal b sn d)
      (fun r _ w' => w'.Ok sn ∧ (r = sockOk → w'.AtRest sn)) (fun _ w' => w'.Ok sn) g w := by
  have same : ∃ f, g = g.setSock sn f := ⟨id, by simp [Globals.setSock]⟩
  have hlate : sockerrTimeout ≠ sockOk := by decide
  refine wpg_closeInternal (P := fun r w' => w'.Ok sn ∧ (r = sockOk → w'.AtRest sn))
    (ticks_of_step fun w e x w' hw hx he => entered_step hw hx he) h hsn d (fun d w hw => ?_)
    (fun _ w hw => ⟨hw.1, fun hr => absurd hr hlate⟩) fun _ _ hP => hP
  simp only [closeCommand, waitCrAccepted, waitSrReached, wpv_bind, wpv_get, wpv_ite, wpv_pure,
    wpg_getSnSR, wpg_setSnCR, wpg_setSnIR]
  rintro m rfl
  refine ⟨fun hfault => absurd hfault hhealthy, fun _ x w₁ hx => ?_⟩
  obtain ⟨hrest, hentered⟩ := status_step hw hx
  refine ⟨fun hclosed => ⟨same, (hrest hclosed).ok, fun _ => hrest hclosed⟩, fun _ y w₂ hy => ?_⟩
  have hclosing := close_step hentered.1 hy
  refine wpg_waitRegister (ticks_of_step fun w e x w' hw hx he => closing_step hw hx he) hclosing _ _ d
    (fun w x w' hw hx => ⟨fun hzero => ?_, fun _ => closing_step hw hx trivial⟩) (fun w hw => ?_) fun w hw => hw.1
  · have hstopped := taken_step hw hx hzero
    refine ⟨fun hne => absurd rfl hne, fun _ z w₃ hz => ?_⟩
    refine wpg_waitRegister (ticks_of_step fun w e x w' hw hx he => rest_step hw hx (not_opens_of_leaves he))
      (clear_step hstopped hz) _ _ d (fun w x w' hw hx => ?_) (fun w hw => ?_) fun w hw => hw.ok
    · have hrest' := rest_step hw hx (by rintro ⟨⟩)
      exact ⟨fun _ => ⟨same, hrest'.ok, fun _ => hrest'⟩, fun _ => hrest'⟩
    · exact ⟨⟨_, rfl⟩, hw.ok, fun hr => absurd hr hlate⟩
  · exact ⟨fun _ => ⟨⟨_, rfl⟩, hw.1, fun hr => absurd hr hlate⟩, fun hne => absurd hlate hne⟩

/-- What socket does with a chip at rest. -/
lemma opening_ok (protocol flag : Byte) {op : Op} : Opening (sessions sn op) g sn protocol flag (·.AtRest sn) (·.Ok sn)
    (fun _ _ w' => w'.Ok sn) (fun _ w' => w'.Ok sn) where
  prepare e he w x w₁ hw hx := by
    refine rest_step hw hx ?_
    rintro rfl
    cases he
  command w x w₁ hw hx := open_step hw hx
  poll e he w x w₁ hw hx := by
    refine ok_step hw hx ?_
    rintro rfl
    cases he
  refused w hw := hw.ok
  late w hw := hw
  opened w hw := hw
  stop w hw := hw

lemma ok_socketLocked {protocol flag status : Byte} {port port' : ℕ} (hsn : sn < sockNum) (h : w.Entered sn) :
    wpg (sessions sn (.socket protocol port flag)) (socketLocked b sn protocol flag port' status)
      (fun _ _ w' => w'.Ok sn) (fun _ w' => w'.Ok sn) g w := by
  by_cases hfault : (g.sock sn).health = .faulted
  · refine (wpv_bind _ _).2 (wpv_get.2 ?_)
    rintro m rfl
    rw [if_pos hfault]
    exact h.1
  · have opens (d : ℕ) {g' : Globals} {w : World} (hw : w.AtRest sn) :
        wpg (sessions sn (.socket protocol port flag)) (socketOpenClosed b sn protocol flag port' d)
          (fun _ _ w' => w'.Ok sn) (fun _ w' => w'.Ok sn) g' w :=
      wpg_socketOpenClosed (opening_ok protocol flag) port' d hw
    refine wpg_socketLocked (ticks_of_step fun w e x w' hw hx he => entered_step hw hx he) h protocol flag status port'
      (fun _ _ _ hw => hw.1) (fun d w x w₁ hw hx => ?_) fun d w hw => ?_
    · obtain ⟨hrest, hentered⟩ := status_step hw hx
      exact ⟨fun hclosed => opens d (hrest hclosed), fun _ => hentered⟩
    · refine wpv_mono (wpg_closeInternal_rests hsn hfault d hw) (fun r g' w' h' => ?_) fun _ _ h => h
      exact ⟨fun _ => h'.1, fun hr => opens d (h'.2 hr)⟩

lemma ok_socket (protocol flag : Byte) (port : ℕ) (h : w.Ok sn) :
    wpg (sessions sn (.socket protocol port flag)) (IoLibrary.socket b sn protocol port flag)
      (fun _ _ w' => w'.Ok sn) (fun _ w' => w'.Ok sn) g w := by
  refine wpg_socket (I := fun w => w.Ok sn) (L := fun w => w.Entered sn) (fun g e he w x w₁ hw hx => ?_) h protocol flag port
    (fun _ _ _ _ => h) (fun _ w x w₁ hw hx => lock_step hw hx) (fun status port' g' w hcheck _ hw => ?_) fun _ w hw => hw
  · refine ok_step hw hx ?_
    rintro rfl
    cases he
  · refine wpv_mono (ok_socketLocked (lt_of_socketArgCheck hcheck) hw) (fun r g' w' hok y w₂ hy => ?_) fun _ _ h => h
    exact ok_step hok hy nofun

/-- The operations but socket issue no OPEN. -/
lemma not_opens_of_active (hop : snCrOpen ∉ op.commands) {e : Io} (he : Active (· ∈ op.commands) sn e) : ¬ Opens sn e := by
  rintro rfl
  cases he with
  | quiet h =>
    cases h with
    | write8 block command => exact hop (command rfl)

lemma ok_op (op : Op) {m : Driver} (h : w.Ok sn) :
    wp (Env.along (sessions sn op) Driver.toGlobals) (op.run b sn) (fun _ _ w' => w'.Ok sn) (fun _ w' => w'.Ok sn) m w := by
  have others (hop : snCrOpen ∉ op.commands) : wp (Env.along (sessions sn op) Driver.toGlobals) (op.run b sn)
      (fun _ _ w' => w'.Ok sn) (fun _ w' => w'.Ok sn) m w :=
    wp_of_within (within_others b sn op) (fun _ (w : World) => w.Ok sn) (fun _ _ _ _ h => h)
      (fun e he m w x w₁ hw hx => ok_step hw hx (not_opens_of_active hop he)) h
  cases op with
  | socket protocol port flag => exact wp_of_wpv (ok_socket protocol flag port h)
  | setsockopt sotype arg =>
    apply others
    cases sotype <;> simp [Op.commands, snCrOpen, snCrSendKeep]
  | _ => exact others (by simp [Op.commands, snCrOpen, snCrClose, snCrListen, snCrConnect, snCrDiscon, snCrSend, snCrRecv])

/-- In every run in which socket opens only a chip at rest, what connect, disconnect and send act on is fresh. -/
theorem events_fresh {steps : List (Step Op Driver World ℤ)} {m m' : Driver} {w w' : World} (hstart : w.chip.Fresh)
    (hempty : w.accesses = [])
    (run : History (fun op => Env.along (sessions sn op) Driver.toGlobals) (Op.run b sn) steps m w m' w')
    (hclean : ∀ a ∈ w'.accesses, a.Clean sn) : ∀ a ∈ w'.accesses, a.Fresh sn := by
  have start : w.Ok sn := by
    intro _
    rw [hempty]
    exact ⟨hstart, fun a ha => absurd ha List.not_mem_nil⟩
  have rule := history_rule (fun _ _ _ _ => True) (fun _ _ (w : World) => w.Ok sn) (fun _ s => s.post.2.Ok sn)
    (fun _ op m w _ hw => wp_mono (ok_op op hw) (fun _ _ _ h => ⟨h, h⟩) fun _ _ h => h) run [] (fun _ _ _ _ => trivial) start
  have hok : w'.Ok sn := by
    rcases run.ends with ⟨-, -, rfl⟩ | ⟨before, s, rfl, hs⟩
    · exact start
    · have hend := rule.1 before s [] rfl
      rwa [hs] at hend
  exact (hok hclean).2

end operations

section runs

/-- A chip that shows socket 0 closed until an OPEN and, after CONNECT, waiting for its peer. -/
def answer (c : Chip) : (e : Io) → e.Res
  | .read8 a =>
    if a = Reg.snSR 0 then
      (if c.session < 2 then sockClosed else if c.command = some snCrConnect then 0x15 else sockInit, false)
    else if a = Reg.snIR 0 then
      ((if c.sendok = none then 0 else snIrSendok) ||| (if c.timeout = none then 0 else snIrTimeout), false)
    else (0, false)
  | .readBuf _ len => (frameBytes len [10, 0, 0, 1], false)
  | .write8 _ _ | .writeBuf _ _ => false
  | .now => 0
  | .wait | .phyLink _ | .sockLock _ | .sockUnlock _ | .globalLock | .globalUnlock => ()

def waiting (op : Op) : Handler Driver World Io Io.Res := fun _ w e =>
  (answer w.chip e, ⟨w.chip.access 0 e (answer w.chip e), w.accesses ++ [⟨op, w.chip, e, answer w.chip e⟩]⟩)

lemma waiting_allowed (op : Op) (m : Driver) (w : World) (e : Io) :
    Env.along (sessions 0 op) Driver.toGlobals m w e (waiting op m w e).1 (waiting op m w e).2 := by
  refine ⟨[], ?_, rfl⟩
  cases e with
  | read8 a =>
    rintro rfl
    have hne : Reg.snIR 0 ≠ Reg.snSR 0 := by decide
    simp only [waiting, answer, if_neg hne]
    change (_ ↔ w.chip.sendok ≠ none) ∧ (_ ↔ w.chip.timeout ≠ none)
    cases w.chip.sendok with
    | none =>
      cases w.chip.timeout with
      | none => simp
      | some s => simp [snIrSendok, snIrTimeout]
    | some s =>
      cases w.chip.timeout with
      | none => simp [snIrSendok, snIrTimeout]
      | some s => simp [snIrSendok, snIrTimeout]
  | _ => trivial

/-- The second session, with what the first one has left of TIMEOUT. -/
def after (timeout : Option ℕ) : World := ⟨⟨none, timeout, 1, false, none⟩, []⟩

def ready : Driver := { Driver.boot 1000 1000 with chipState := .ready }

lemma after_fresh {timeout : Option ℕ} (h : ∀ s, timeout = some s → s = 1) : (after timeout).chip.Fresh :=
  ⟨fun s hs => (Option.some_ne_none s hs.symm).elim, h⟩

@[irreducible] def reconnected (timeout : Option ℕ) : List (Step Op Driver World ℤ) × Driver × World :=
  replay waiting (Op.run .oneTurn 0) [.socket snMrTcp 5000 0, .connect (some #v[10, 0, 0, 2]) 80 4] ready (after timeout)

lemma history_reconnected (timeout : Option ℕ) :
    History (fun op => Env.along (sessions 0 op) Driver.toGlobals) (Op.run .oneTurn 0) (reconnected timeout).1 ready
      (after timeout) (reconnected timeout).2.1 (reconnected timeout).2.2 := by
  unfold reconnected
  exact history_replay waiting_allowed _ _ _ _

/-- A look of socket at a closed socket with a bit left. -/
def Access.finds : Access → Bool
  | ⟨.socket _ _ _, c, .read8 a, x⟩ =>
    a = Reg.snSR 0 && x.1 = sockClosed && c.command = none && !(c.running = false && c.sendok = none && c.timeout = none)
  | _ => false

lemma clean_of_not_finds {a : Access} (h : a.finds = false) : a.Clean 0 := by
  obtain ⟨op, c, e, x⟩ := a
  cases op with
  | socket protocol port flag =>
    cases e with
    | read8 a =>
      rintro rfl hx hc
      simp only [Access.finds, hx, hc] at h
      simp at h
      exact ⟨h.1.1, h.1.2, h.2⟩
    | _ => trivial
  | _ => trivial

/-- A look at a TIMEOUT of an earlier session. -/
def Access.stale : Access → Bool
  | ⟨op, c, .read8 a, x⟩ =>
    (match op with | .connect _ _ _ => true | _ => false) && a = Reg.snIR 0 && x.1 &&& snIrTimeout ≠ 0 &&
      c.timeout ≠ some c.session
  | _ => false

lemma not_fresh_of_stale {a : Access} (h : a.stale = true) : ¬ a.Fresh 0 := by
  obtain ⟨op, c, e, x⟩ := a
  cases e with
  | read8 a =>
    intro hfresh
    cases op with
    | connect addr port addrlen =>
      simp [Access.stale] at h
      obtain ⟨⟨rfl, hbit⟩, hold⟩ := h
      exact hold ((hfresh trivial rfl).2 hbit)
    | _ => simp [Access.stale] at h
  | _ => simp [Access.stale] at h

theorem events_fresh_reconnected : (reconnected none).1.length = 2 ∧ ∀ a ∈ (reconnected none).2.2.accesses, a.Fresh 0 := by
  have hfresh : (after none).chip.Fresh := after_fresh fun s hs => (Option.some_ne_none s hs.symm).elim
  refine ⟨?_, events_fresh hfresh rfl (history_reconnected none) fun a ha => clean_of_not_finds ?_⟩
  · unfold reconnected
    decide +kernel
  · have hall : (reconnected none).2.2.accesses.all (fun a => a.finds = false) = true := by
      unfold reconnected
      decide +kernel
    simpa using List.all_eq_true.1 hall a ha

/-- A TIMEOUT that an earlier session has left fails the connect. -/
theorem old_timeout_acted_on : ¬ ∀ (steps : List (Step Op Driver World ℤ)) (m m' : Driver) (w w' : World), w.chip.Fresh →
    w.accesses = [] →
    History (fun op => Env.along (sessions 0 op) Driver.toGlobals) (Op.run .oneTurn 0) steps m w m' w' →
    ∀ a ∈ w'.accesses, a.Fresh 0 := by
  intro hall
  have hfresh := hall _ _ _ _ _ (after_fresh fun s hs => (Option.some.inj hs).symm) rfl (history_reconnected (some 1))
  have hany : (reconnected (some 1)).2.2.accesses.any Access.stale = true := by
    unfold reconnected
    decide +kernel
  obtain ⟨a, ha, hstale⟩ := List.any_eq_true.1 hany
  exact not_fresh_of_stale hstale (hfresh a ha)

end runs

end IoLibrary.Freshness
