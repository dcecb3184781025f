import IoLibrary.Calls
import IoLibrary.Effects.Exec
import IoLibrary.Socket.DatagramRules

/-! The discipline of SEND: a SEND is outstanding until the driver has seen and cleared its end, and
no other is issued, and no payload copied, in between. -/
namespace IoLibrary.SendDiscipline
open Effects

abbrev IoEvent := Event Globals Io Io.Res

section events
variable (sn : ℕ)

def Sends (v : IoEvent) : Prop := v.call = .write8 (Reg.snCR sn) snCrSend

def Opens (v : IoEvent) : Prop := v.call = .write8 (Reg.snCR sn) snCrOpen

/-- A write to TX memory. -/
def Copies (v : IoEvent) : Prop :=
  match v.call with
  | .write8 a _ | .writeBuf a _ => a.block = .txBuf sn
  | _ => False

/-- A read of Sn_SR whose answer satisfies `P`. -/
def Shows (P : Byte → Prop) : IoEvent → Prop
  | ⟨_, .read8 a, x⟩ => a = Reg.snSR sn ∧ P x.1
  | _ => False

/-- A read of Sn_IR whose answer has the bit. -/
def Observes (bit : Byte) : IoEvent → Prop
  | ⟨_, .read8 a, x⟩ => a = Reg.snIR sn ∧ x.1 &&& bit ≠ 0
  | _ => False

/-- A write of Sn_IR that clears the bit. -/
def Clears (bit : Byte) : IoEvent → Prop
  | ⟨_, .write8 a v, _⟩ => a = Reg.snIR sn ∧ v &&& bit ≠ 0
  | _ => False

/-- Among the events SENDOK or TIMEOUT was observed and then cleared. -/
def Settled (l : IoTrace) : Prop :=
  ∃ bit, (bit = snIrSendok ∨ bit = snIrTimeout) ∧ ∃ before r between c after,
    l = before ++ r :: (between ++ c :: after) ∧ Observes sn bit r ∧ Clears sn bit c

/-- A SEND was issued and its end not observed and cleared since. -/
def Outstanding (t : IoTrace) : Prop :=
  ∃ before u after, t = before ++ u :: after ∧ Sends sn u ∧ ¬ Settled sn after

/-- The connection was seen in ESTABLISHED or CLOSE_WAIT since the last OPEN. -/
def Up (t : IoTrace) : Prop := Since (Shows sn Sendable) (Opens sn) t

/-- The connection was seen up and, later, in another status; no OPEN came after that. -/
def Left (t : IoTrace) : Prop :=
  ∃ before v after, t = before ++ v :: after ∧ Up sn before ∧ Shows sn (¬ Sendable ·) v ∧
    ∀ u ∈ after, ¬ Opens sn u

/-- The chip does not let a connection that has left come back without a new OPEN. -/
def NoReentry (t : IoTrace) : (e : Io) → e.Res → Prop
  | .read8 a, x => a = Reg.snSR sn → Left sn t → ¬ Sendable x.1
  | _, _ => True

/-- No SEND is pending for the driver. -/
def Free (s : Sock) : Prop :=
  s.isSending = false ∧ s.txState ≠ .dgramPending ∧ s.txState ≠ .localFault

/-- Between two SENDs the end of the first was observed and cleared; a SEND is issued, and a payload
copied, only with none pending. -/
structure Disciplined (t : IoTrace) : Prop where
  settled : ∀ before u between v after, t = before ++ u :: (between ++ v :: after) →
    Sends sn u → Sends sn v → Settled sn between
  free : ∀ v ∈ t, Sends sn v ∨ Copies sn v → Free (v.mem.sock sn)

/-- Neither SEND nor OPEN, and no write to TX memory. -/
def Calm : Io → Prop
  | .write8 a v => a.block ≠ .txBuf sn ∧ (a = Reg.snCR sn → v ≠ snCrSend ∧ v ≠ snCrOpen)
  | .writeBuf a _ => a.block ≠ .txBuf sn
  | _ => True

end events

section traces
variable {sn : ℕ} {t : IoTrace} {v : IoEvent}

lemma calm_command {c : Byte} (hsend : c ≠ snCrSend) (hopen : c ≠ snCrOpen) :
    Calm sn (.write8 (Reg.snCR sn) c) := ⟨by simp [Reg.snCR], fun _ => ⟨hsend, hopen⟩⟩

lemma calm_snIR (c : Byte) : Calm sn (.write8 (Reg.snIR sn) c) := by simp [Calm, Reg.snIR, Reg.snCR]

lemma not_sends_of_calm (h : Calm sn v.call) : ¬ Sends sn v := by
  intro hs
  rw [hs] at h
  exact (h.2 rfl).1 rfl

lemma not_opens_of_calm (h : Calm sn v.call) : ¬ Opens sn v := by
  intro ho
  rw [ho] at h
  exact (h.2 rfl).2 rfl

lemma not_copies_of_calm (h : Calm sn v.call) : ¬ Copies sn v := by
  intro hc
  obtain ⟨g, e, x⟩ := v
  cases e with
  | write8 a c => exact h.1 hc
  | writeBuf a data => exact h hc
  | _ => exact hc

lemma Settled.snoc {l : IoTrace} (h : Settled sn l) (v : IoEvent) : Settled sn (l ++ [v]) := by
  obtain ⟨bit, hbit, before, r, between, c, after, rfl, hr, hc⟩ := h
  exact ⟨bit, hbit, before, r, between, c, after ++ [v], by simp, hr, hc⟩

lemma outstanding_snoc (h : Outstanding sn (t ++ [v])) : Sends sn v ∨ Outstanding sn t := by
  obtain ⟨before, u, after, hsplit, hu, hafter⟩ := h
  rcases append_cons_of_snoc hsplit with ⟨-, rfl, -⟩ | ⟨after, rfl, ht⟩
  · exact .inl hu
  · exact .inr ⟨before, u, after, ht, hu, fun hsettled => hafter (hsettled.snoc v)⟩

/-- What is observed and at once cleared ends an outstanding SEND. -/
lemma not_outstanding_of_cleared {bit : Byte} {r c : IoEvent}
    (hbit : bit = snIrSendok ∨ bit = snIrTimeout) (hr : Observes sn bit r) (hc : Clears sn bit c) :
    ¬ Outstanding sn (t ++ [r] ++ [c]) := by
  have hrs : ¬ Sends sn r := by
    intro hs
    obtain ⟨g, e, x⟩ := r
    obtain rfl : e = _ := hs
    exact hr
  have hcs : ¬ Sends sn c := by
    intro hs
    obtain ⟨g, e, x⟩ := c
    obtain rfl : e = _ := hs
    exact absurd hc.1 (by simp [Reg.snCR, Reg.snIR])
  rintro ⟨before, u, after, hsplit, hu, hafter⟩
  rcases append_cons_of_snoc hsplit with ⟨-, rfl, -⟩ | ⟨after, rfl, hsplit'⟩
  · exact hcs hu
  rcases append_cons_of_snoc hsplit' with ⟨-, rfl, -⟩ | ⟨after, rfl, -⟩
  · exact hrs hu
  · exact hafter ⟨bit, hbit, after, r, [], c, [], by simp, hr, hc⟩

lemma Left.snoc (h : Left sn t) (hv : ¬ Opens sn v) : Left sn (t ++ [v]) := by
  obtain ⟨before, u, after, rfl, hup, hu, hafter⟩ := h
  refine ⟨before, u, after ++ [v], by simp, hup, hu, fun w hw => ?_⟩
  rcases List.mem_append.1 hw with hw | hw
  · exact hafter w hw
  · rw [List.mem_singleton.1 hw]
    exact hv

lemma left_now (h : Up sn t) (hv : Shows sn (¬ Sendable ·) v) : Left sn (t ++ [v]) :=
  ⟨t, v, [], rfl, h, hv, by simp⟩

lemma Disciplined.snoc (h : Disciplined sn t) (hsend : Sends sn v → ¬ Outstanding sn t)
    (hfree : Sends sn v ∨ Copies sn v → Free (v.mem.sock sn)) : Disciplined sn (t ++ [v]) := by
  refine ⟨fun before u between w after hsplit hu hw => ?_, fun w hw => ?_⟩
  · have hsplit' : t ++ [v] = (before ++ u :: between) ++ w :: after := by simpa using hsplit
    rcases append_cons_of_snoc hsplit' with ⟨ht, rfl, -⟩ | ⟨after, -, ht⟩
    · by_contra hunsettled
      exact hsend hw ⟨before, u, between, ht.symm, hu, hunsettled⟩
    · exact h.settled before u between w after (by simpa using ht) hu hw
  · rcases List.mem_append.1 hw with hw | hw
    · exact h.free w hw
    · rw [List.mem_singleton.1 hw]
      exact hfree

lemma disciplined_nil : Disciplined sn [] := ⟨by simp, by simp⟩

lemma Disciplined.calm (h : Disciplined sn t) (hv : Calm sn v.call) : Disciplined sn (t ++ [v]) :=
  h.snoc (fun hs => absurd hs (not_sends_of_calm hv)) fun hsc =>
    absurd hsc (not_or_intro (not_sends_of_calm hv) (not_copies_of_calm hv))

end traces

section invariant
variable {sn : ℕ} {s s' : Sock} {t : IoTrace} {v : IoEvent}

/-- The state of a socket in use matches what is outstanding. -/
structure Live (sn : ℕ) (s : Sock) (t : IoTrace) : Prop where
  kept : Outstanding sn t → s.isSending ∨ s.txState ≠ .idle ∨ s.mode &&& 0x03 = 0x01 ∧ Left sn t
  stream : s.isSending → s.mode &&& 0x03 = 0x01 ∧ Up sn t
  datagram : s.txState ≠ .idle → s.mode &&& 0x03 ≠ 0x01

/-- The invariant between the calls: a socket that is neither faulted nor closed is live. -/
def Tracked (sn : ℕ) (s : Sock) (t : IoTrace) : Prop :=
  s.health = .faulted ∨ s.mode = 0 ∨ Live sn s t

structure Good (sn : ℕ) (s : Sock) (t : IoTrace) : Prop where
  disciplined : Disciplined sn t
  tracked : Tracked sn s t

/-- The assertions that calm calls keep. -/
def Stable (sn : ℕ) (I : IoTrace → Prop) : Prop :=
  ∀ t v, I t → Calm sn v.call → I (t ++ [v])

lemma Stable.and {I J : IoTrace → Prop} (hI : Stable sn I) (hJ : Stable sn J) :
    Stable sn fun t => I t ∧ J t := fun t v h hv => ⟨hI t v h.1 hv, hJ t v h.2 hv⟩

lemma stable_disciplined : Stable sn (Disciplined sn) := fun _ _ h hv => h.calm hv

lemma stable_up : Stable sn (Up sn) := fun _ _ h hv => h.snoc (not_opens_of_calm hv)

lemma stable_settled : Stable sn fun t => ¬ Outstanding sn t := fun _ _ h hv hout =>
  h ((outstanding_snoc hout).resolve_left (not_sends_of_calm hv))

lemma stable_live (s : Sock) : Stable sn (Live sn s) := by
  intro t v h hv
  refine ⟨fun hout => ?_, fun hs => ?_, h.datagram⟩
  · rcases outstanding_snoc hout with hs | hout
    · exact absurd hs (not_sends_of_calm hv)
    · exact (h.kept hout).imp_right fun hk =>
        hk.imp_right fun hk => ⟨hk.1, hk.2.snoc (not_opens_of_calm hv)⟩
  · exact ⟨(h.stream hs).1, stable_up t v (h.stream hs).2 hv⟩

lemma stable_good (s : Sock) : Stable sn (Good sn s) := by
  intro t v h hv
  refine ⟨h.disciplined.calm hv, h.tracked.imp_right fun ht => ht.imp_right fun hl => ?_⟩
  exact stable_live s t v hl hv

lemma Tracked.live (h : Tracked sn s t) (hhealth : s.health ≠ .faulted) (hmode : s.mode ≠ 0) :
    Live sn s t := (h.resolve_left hhealth).resolve_left hmode

lemma mode_ne_zero_of_stream (h : s.mode &&& 0x03 = 0x01) : s.mode ≠ 0 := by
  intro hzero
  rw [hzero] at h
  exact absurd h (by decide)

lemma mode_ne_zero_of_datagram (h : Datagram s.mode) : s.mode ≠ 0 := by
  intro hzero
  rw [hzero] at h
  exact absurd h (by simp only [Datagram]; decide)

lemma not_stream_of_datagram (h : Datagram s.mode) : s.mode &&& 0x03 ≠ 0x01 := by
  have hmask : s.mode &&& 0x0F &&& 0x03 = s.mode &&& 0x03 := by
    rw [BitVec.and_assoc]
    rfl
  intro hstream
  rw [← hmask] at hstream
  rcases h with h | h | h | h
  · rw [h] at hstream
    exact absurd hstream (by decide)
  · rw [h] at hstream
    exact absurd hstream (by decide)
  · rw [h] at hstream
    exact absurd hstream (by decide)
  · rw [h] at hstream
    exact absurd hstream (by decide)

/-- What neither sends nor opens keeps the invariant. -/
lemma Tracked.tame {resets : Prop} (h : Tracked sn s t) (htame : Tame resets s s') :
    Tracked sn s' t := by
  rcases htame with ⟨-, rfl | rfl⟩ | keeps
  · exact .inr (.inl rfl)
  · exact .inl rfl
  rcases h with hfault | hmode | hlive
  · exact .inl (keeps.health hfault)
  · exact .inr (.inl (keeps.mode.trans hmode))
  · refine .inr (.inr ⟨?_, ?_, ?_⟩)
    · rw [keeps.isSending, keeps.txState, keeps.mode]
      exact hlive.kept
    · rw [keeps.isSending, keeps.mode]
      exact hlive.stream
    · rw [keeps.txState, keeps.mode]
      exact hlive.datagram

end invariant

section operations
variable {b : Build} {sn : ℕ} {g : Globals} {t : IoTrace}

abbrev noReentryChip (sn : ℕ) : Env Globals IoTrace Io Io.Res := traceEnv (NoReentry sn)

lemma Stable.call {I : IoTrace → Prop} (hI : Stable sn I) {e : Io} {x : e.Res} {t' : IoTrace}
    (h : I t) (hx : noReentryChip sn g t e x t') (he : Calm sn e) : I t' := by
  obtain ⟨-, rfl⟩ := hx
  exact hI t ⟨g, e, x⟩ h he

lemma Stable.ticks {I : IoTrace → Prop} (hI : Stable sn I) : Ticks (noReentryChip sn) g I := by
  rintro t _ x t' (rfl | rfl) ht hx
  · exact hI.call ht hx trivial
  · exact hI.call ht hx trivial

/-- A status read of a connection that has not left, or has not come back. -/
lemma not_left_of_sendable {x : Byte × Bool} {t' : IoTrace}
    (hx : noReentryChip sn g t (.read8 (Reg.snSR sn)) x t') (hsr : Sendable x.1) :
    ¬ Left sn t ∧ Up sn t' := by
  obtain ⟨hallowed, rfl⟩ := hx
  exact ⟨fun hleft => hallowed rfl hleft hsr, since_now ⟨rfl, hsr⟩⟩

lemma left_of_not_sendable {x : Byte × Bool} {t' : IoTrace} (hup : Up sn t)
    (hx : noReentryChip sn g t (.read8 (Reg.snSR sn)) x t') (hsr : ¬ Sendable x.1) : Left sn t' := by
  obtain ⟨-, rfl⟩ := hx
  exact left_now hup ⟨rfl, hsr⟩

/-- An event read and at once written back. -/
lemma settled_of_cleared {bit : Byte} (hbit : bit = snIrSendok ∨ bit = snIrTimeout)
    {x : Byte × Bool} {y : Bool} {t₁ t₂ : IoTrace}
    (hx : noReentryChip sn g t (.read8 (Reg.snIR sn)) x t₁) (hbitx : x.1 &&& bit ≠ 0)
    (hy : noReentryChip sn g t₁ (.write8 (Reg.snIR sn) bit) y t₂) : ¬ Outstanding sn t₂ := by
  obtain ⟨-, rfl⟩ := hx
  obtain ⟨-, rfl⟩ := hy
  refine not_outstanding_of_cleared hbit ⟨rfl, hbitx⟩ ⟨rfl, ?_⟩
  rcases hbit with rfl | rfl
  · decide
  · decide

/-- The result of an operation: the invariant, whatever it returns. -/
abbrev WpGood {α : Type} (sn : ℕ) (p : Drv α) (g : Globals) (t : IoTrace) : Prop :=
  wpg (noReentryChip sn) p (fun _ g' t' => Good sn (g'.sock sn) t') (fun _ t' => Disciplined sn t')
    g t

lemma wpGood_locked {α : Type} {body : Drv α}
    (h : ∀ t₁, Good sn (g.sock sn) t₁ → WpGood sn body g t₁) (hgood : Good sn (g.sock sn) t) :
    WpGood sn (locked sn body) g t := by
  refine (wpg_locked sn body).2 fun x t₁ hx => ?_
  have hgood₁ := (stable_good _).call hgood hx trivial
  refine wpv_mono (h t₁ hgood₁) (fun r g' t' hgood' y t₂ hy => ?_) fun _ _ h => h
  exact (stable_good _).call hgood' hy trivial

lemma good_of_faulted {f : Sock → Sock} (h : Disciplined sn t)
    (hf : (f (g.sock sn)).health = .faulted) : Good sn ((g.setSock sn f).sock sn) t := by
  rw [Globals.setSock_same]
  exact ⟨h, .inl hf⟩

lemma good_closed {r : ℤ} (h : Disciplined sn t) :
    Good sn ((g.setSock sn (Sock.closed r)).sock sn) t := by
  rw [Globals.setSock_same]
  refine ⟨h, .inr (.inl ?_)⟩
  unfold Sock.closed
  split
  · rfl
  · rfl

lemma wpGood_closeInternal (hsn : sn < sockNum) (d : ℕ) (h : Disciplined sn t) :
    WpGood sn (closeInternal b sn d) g t := by
  refine wpg_closeInternal_keep (I := Disciplined sn) h hsn d (fun e he t x t₁ ht hx => ?_)
    (fun r t _ ht => good_closed ht) fun _ h => h
  refine stable_disciplined.call ht hx ?_
  cases he with
  | command => exact calm_command (by decide) (by decide)
  | clear => exact calm_snIR _
  | _ => trivial

section send

/-- send may issue a SEND: what is outstanding belongs to a connection that has left. -/
def Ready (sn : ℕ) (t : IoTrace) : Prop := Disciplined sn t ∧ (Outstanding sn t → Left sn t)

lemma stable_ready : Stable sn (Ready sn) := by
  refine fun t v h hv => ⟨h.1.calm hv, fun hout => ?_⟩
  rcases outstanding_snoc hout with hs | hout
  · exact absurd hs (not_sends_of_calm hv)
  · exact (h.2 hout).snoc (not_opens_of_calm hv)

/-- A stream socket without a SEND of its own. -/
structure Idle (s : Sock) : Prop where
  stream : s.mode &&& 0x03 = 0x01
  isSending : s.isSending = false
  txState : s.txState = .idle

lemma good_of_ready {s : Sock} (hs : Idle s) (h : Ready sn t) : Good sn s t := by
  refine ⟨h.1, .inr (.inr ⟨fun hout => .inr (.inr ⟨hs.stream, h.2 hout⟩), fun hsend => ?_,
    fun htx => absurd hs.txState htx⟩)⟩
  rw [hs.isSending] at hsend
  exact absurd hsend (by decide)

/-- From the copy of the payload to the acceptance of its SEND. -/
lemma wpGood_sendCommand (hs : Idle (g.sock sn)) (data : List Byte) (len timeout : ℕ)
    (h : Disciplined sn t ∧ ¬ Outstanding sn t ∧ Up sn t) :
    WpGood sn (do
      wizSendData b sn data
      sendCommand b sn len timeout) g t := by
  have hfree : Free (g.sock sn) := by
    refine ⟨hs.isSending, ?_, ?_⟩
    · rw [hs.txState]
      decide
    · rw [hs.txState]
      decide
  have stable : Stable sn fun t => Disciplined sn t ∧ ¬ Outstanding sn t ∧ Up sn t :=
    stable_disciplined.and (stable_settled.and stable_up)
  have command {t : IoTrace} (h : Disciplined sn t ∧ ¬ Outstanding sn t ∧ Up sn t) :
      WpGood sn (sendCommand b sn len timeout) g t := by
    have accepting : Stable sn fun t => Disciplined sn t ∧ Up sn t := stable_disciplined.and stable_up
    simp only [WpGood, sendCommand, waitCrAccepted, wpv_bind, wpg_setSnCR]
    rintro x _ ⟨-, rfl⟩
    have h₁ : Disciplined sn (t ++ [⟨g, .write8 (Reg.snCR sn) snCrSend, x⟩]) ∧
        Up sn (t ++ [⟨g, .write8 (Reg.snCR sn) snCrSend, x⟩]) :=
      ⟨h.1.snoc (fun _ => h.2.1) fun _ => hfree, h.2.2.snoc (by simp [Opens, snCrSend, snCrOpen])⟩
    refine (timed_deadlineAbs timeout).wpg accepting.ticks h₁ fun d t₂ h₂ => ?_
    refine wpg_waitRegister accepting.ticks h₂ _ _ d (fun t y t' ht hy => ?_) (fun t ht => ?_)
      fun t ht => ht.1
    · have ht' := accepting.call ht hy trivial
      refine ⟨fun _ => ?_, fun _ => ht'⟩
      simp only [wpv_ite, wpv_bind, wpg_modifySock, wpv_pure, Globals.setSock_same, ne_eq,
        not_true_eq_false, false_imp_iff, not_false_eq_true, true_imp_iff, true_and]
      refine ⟨ht'.1, .inr (.inr ⟨fun _ => .inl rfl, fun _ => ⟨hs.stream, ht'.2⟩, ?_⟩)⟩
      exact fun htx => absurd hs.txState htx
    · simp only [wpv_ite, wpv_bind, markFaulted, wpg_modifySock, wpv_pure, Globals.setSock_setSock]
      refine ⟨fun _ => good_of_faulted ht.1 rfl, fun hok => absurd (by decide) hok⟩
  refine (wpv_bind _ _).2 (wpg_wizSendData data (fun _ => command h) ?_)
  intro _ x t₁ hx ptr _ y t₂ hy z t₃ hz
  have h₁ := stable.call h hx trivial
  have h₂ : Disciplined sn t₂ ∧ ¬ Outstanding sn t₂ ∧ Up sn t₂ := by
    obtain ⟨-, rfl⟩ := hy
    have hns : ¬ Sends sn ⟨g, .writeBuf ⟨ptr, .txBuf sn⟩ data, y⟩ := by simp [Sends]
    refine ⟨h₁.1.snoc (fun hsend => absurd hsend hns) fun _ => hfree, fun hout => ?_, ?_⟩
    · exact h₁.2.1 ((outstanding_snoc hout).resolve_left hns)
    · exact h₁.2.2.snoc (by simp [Opens])
  exact command (stable.call h₂ hz (by simp [Calm, Reg.snTXWR]))

lemma wpGood_sendReady (hsn : sn < sockNum) (hs : Idle (g.sock sn)) (buf : List Byte) (len : ℕ)
    (h : Ready sn t) : WpGood sn (sendReady b sn buf len) g t := by
  refine (wpv_bind _ _).2 (wpv_get.2 ?_)
  rintro m rfl
  refine (wpv_bind _ _).2 ((timed_deadlineAbs _).wpg stable_ready.ticks h fun d t₁ h₁ => ?_)
  refine (wpv_bind _ _).2 (wpg_sendWaitFree (F := fun _ => Ready sn) stable_ready.ticks h₁ d ?_
    (fun e t _ ht => good_of_ready hs ht) fun t ht => ht.1)
  refine ⟨fun t x t₁ ht hx => ?_, fun v t y t₁ ht hy hsr => ?_, fun v t y t₁ ht hy _ => ?_,
    fun v t y t₁ ht hy _ => ?_⟩
  · have ht₁ := stable_ready.call ht hx trivial
    exact ⟨fun _ => ⟨ht₁, ht₁⟩, fun _ => good_of_ready hs ht₁⟩
  · have ht₁ := stable_ready.call ht hy trivial
    obtain ⟨hleft, hup⟩ := not_left_of_sendable hy hsr
    have hsettled : ¬ Outstanding sn t₁ :=
      stable_settled.call (fun hout => hleft (ht.2 hout)) hy trivial
    exact ⟨ht₁, fun _ => wpGood_sendCommand hs _ _ _ ⟨ht₁.1, hsettled, hup⟩,
      fun _ => good_of_ready hs ht₁⟩
  · exact good_of_ready hs (stable_ready.call ht hy trivial)
  · have ht₁ := stable_ready.call ht hy trivial
    exact wpGood_closeInternal hsn 0 ht₁.1

lemma wpGood_sendLocked (hsn : sn < sockNum) (buf : List Byte) (len : ℕ)
    (h : Good sn (g.sock sn) t) : WpGood sn (sendLocked b sn buf len) g t := by
  refine (wpv_bind _ _).2 (wpv_get.2 ?_)
  rintro m rfl
  simp only [wpv_ite, wpv_bind, wpv_pure, wpg_getSnSR, ne_eq, not_not, not_sendable]
  refine ⟨fun _ => h, fun hhealth => ⟨fun _ => h, fun _ => ⟨fun _ => h, fun hmode => ?_⟩⟩⟩
  intro x t₁ hx
  have h₁ := (stable_good _).call h hx trivial
  refine ⟨fun _ => h₁, fun _ => ?_⟩
  have hlive : Live sn (m.sock sn) t₁ := h₁.tracked.live hhealth (mode_ne_zero_of_stream hmode)
  have hidle : (m.sock sn).txState = .idle := by
    by_contra htx
    exact hlive.datagram htx hmode
  refine ⟨fun hsending => ?_, fun hsending => ?_⟩
  · have stable : Stable sn (Good sn (m.sock sn)) := stable_good _
    refine (timed_deadlineAbs _).wpg stable.ticks h₁ fun d t₂ h₂ => ?_
    have hs : Idle (Sock.notSending (m.sock sn)) := ⟨hmode, rfl, hidle⟩
    refine wpg_sendWaitSent stable.ticks h₂ d ?_ (fun t ht => good_of_faulted ht.disciplined rfl)
      fun t ht => ht.disciplined
    refine ⟨fun t x t₁ y t₂ ht hx hbit hy => ?_, fun t x t₁ y t₂ ht hx _ _ hy => ?_,
      fun t x t₁ y t₂ ht hx _ _ hy => ?_⟩
    · have ht₂ := stable.call (stable.call ht hx trivial) hy (calm_snIR _)
      refine wpGood_sendReady hsn (by rwa [Globals.setSock_same]) buf len ⟨ht₂.disciplined, ?_⟩
      exact fun hout => absurd hout (settled_of_cleared (.inl rfl) hx hbit hy)
    · have ht₂ := stable.call (stable.call ht hx trivial) hy (calm_snIR _)
      exact good_of_faulted ht₂.disciplined rfl
    · have ht₁ := stable.call ht hx trivial
      have ht₂ := stable.call ht₁ hy trivial
      refine ⟨fun hsr e _ => ?_, fun _ => ⟨ht₂, fun _ => ht₂⟩⟩
      have hlive₁ : Live sn (m.sock sn) t₁ :=
        ht₁.tracked.live hhealth (mode_ne_zero_of_stream hmode)
      have hleft := left_of_not_sendable (hlive₁.stream hsending).2 hy hsr
      simp only [wpv_pure, Globals.setSock_same]
      exact good_of_ready hs ⟨ht₂.disciplined, fun _ => hleft⟩
  · refine wpGood_sendReady hsn ⟨hmode, by simpa using hsending, hidle⟩ buf len
      ⟨h₁.disciplined, fun hout => ?_⟩
    rcases hlive.kept hout with hs | htx | ⟨-, hleft⟩
    · exact absurd hs hsending
    · exact absurd hidle htx
    · exact hleft

end send

section sendto

lemma wpGood_sendtoPending (h : Good sn (g.sock sn) t) : WpGood sn (sendtoPending b sn) g t := by
  have stable : Stable sn (Good sn (g.sock sn)) := stable_good _
  have reported {t : IoTrace} (h : Good sn (g.sock sn) t) (hsettled : ¬ Outstanding sn t) :
      Good sn ((g.setSock sn Sock.reported).sock sn) t := by
    rw [Globals.setSock_same]
    refine ⟨h.disciplined, h.tracked.imp_right fun ht => ht.imp_right fun hlive => ?_⟩
    exact ⟨fun hout => absurd hout hsettled, hlive.stream, fun htx => absurd rfl htx⟩
  refine wpg_sendtoPending.2 fun x t₁ hx => ?_
  have h₁ := stable.call h hx trivial
  refine ⟨fun hbit y t₂ hy => ?_, fun _ hbit y t₂ hy => ?_, fun _ _ => h₁⟩
  · exact reported (stable.call h₁ hy (calm_snIR _)) (settled_of_cleared (.inl rfl) hx hbit hy)
  · exact reported (stable.call h₁ hy (calm_snIR _)) (settled_of_cleared (.inr rfl) hx hbit hy)

/-- sendto commits only with nothing outstanding. -/
lemma commit_sendto {data : List Byte} (hmode : Datagram (g.sock sn).mode)
    (hsending : (g.sock sn).isSending = false) (hidle : (g.sock sn).txState = .idle) :
    Commit (noReentryChip sn) g b sn data (g.sock sn).ioMode
      (fun t => Disciplined sn t ∧ ¬ Outstanding sn t)
      (fun t => Disciplined sn t ∧ ¬ Outstanding sn t) (Disciplined sn) (Disciplined sn)
      (fun _ g' t' => Good sn (g'.sock sn) t') (fun _ t' => Disciplined sn t') := by
  have hfree : Free (g.sock sn) := by
    refine ⟨hsending, ?_, ?_⟩
    · rw [hidle]
      decide
    · rw [hidle]
      decide
  have stable : Stable sn fun t => Disciplined sn t ∧ ¬ Outstanding sn t :=
    stable_disciplined.and stable_settled
  have notSending {s : Sock} (hs : s.isSending = (g.sock sn).isSending) : ¬ s.isSending := by
    rw [hs, hsending]
    decide
  have sent {t : IoTrace} (h : Disciplined sn t) (hsettled : ¬ Outstanding sn t) :
      Good sn ((g.setSock sn (Sock.accepted data.length)).sock sn) t := by
    rw [Globals.setSock_same]
    refine ⟨h, .inr (.inr ⟨fun hout => absurd hout hsettled, fun hs => ?_, fun htx => ?_⟩)⟩
    · exact absurd hs (notSending rfl)
    · exact absurd hidle htx
  refine ⟨fun t x t₁ ht hx => stable.call ht hx (calm_snIR _), fun t ht => ?_,
    fun t x t₁ ht hx => ?_, stable_disciplined.ticks, fun t x t₁ ht hx => ?_,
    fun t ht => good_of_faulted ht rfl, fun _ ht => ht, fun _ t ht => ?_, fun _ => ?_⟩
  · refine wpg_wizSendData data (fun _ => ⟨rfl, ht⟩) ?_
    intro _ x t₁ hx ptr _ y t₂ hy z t₃ hz
    have ht₁ := stable.call ht hx trivial
    have hns : ¬ Sends sn ⟨g, .writeBuf ⟨ptr, .txBuf sn⟩ data, y⟩ := by simp [Sends]
    have ht₂ : Disciplined sn t₂ ∧ ¬ Outstanding sn t₂ := by
      obtain ⟨-, rfl⟩ := hy
      refine ⟨ht₁.1.snoc (fun hsend => absurd hsend hns) fun _ => hfree, fun hout => ?_⟩
      exact ht₁.2 ((outstanding_snoc hout).resolve_left hns)
    exact ⟨rfl, stable.call ht₂ hz (by simp [Calm, Reg.snTXWR])⟩
  · obtain ⟨-, rfl⟩ := hx
    exact ht.1.snoc (fun _ => ht.2) fun _ => hfree
  · have ht₁ := stable_disciplined.call ht hx trivial
    exact ⟨fun _ => ht₁, fun _ => ht₁⟩
  · rw [Globals.setSock_same]
    refine ⟨ht, .inr (.inr ⟨fun _ => .inr (.inl nofun), fun hs => ?_, fun _ => ?_⟩)⟩
    · exact absurd hs (notSending rfl)
    · exact not_stream_of_datagram hmode
  · refine ⟨stable_disciplined.ticks, fun t x t₁ y t₂ ht hx hbit hy => ?_,
      fun t x t₁ y t₂ ht hx _ hbit hy => ?_, fun t x t₁ ht hx _ _ => ?_, fun t ht => ?_,
      fun _ ht => ht⟩
    · have ht₁ := stable_disciplined.call ht hx trivial
      exact sent (stable_disciplined.call ht₁ hy (calm_snIR _))
        (settled_of_cleared (.inl rfl) hx hbit hy)
    · have ht₁ := stable_disciplined.call ht hx trivial
      exact sent (stable_disciplined.call ht₁ hy (calm_snIR _))
        (settled_of_cleared (.inr rfl) hx hbit hy)
    · exact stable_disciplined.call ht hx trivial
    · rw [Globals.setSock_setSock]
      exact good_of_faulted ht rfl

lemma wpGood_sendtoLocked (buf : List Byte) (len : ℕ) (addr : Vector Byte 4) (port addrlen : ℕ)
    (h : Good sn (g.sock sn) t) :
    WpGood sn (sendtoLocked b sn buf len addr port addrlen) g t := by
  refine (wpv_bind _ _).2 (wpv_get.2 ?_)
  rintro m rfl
  simp only [wpv_ite, wpv_pure]
  refine ⟨fun _ => h, fun hlocal => ⟨fun _ => h, fun hhealth => ⟨fun _ => h, fun hvalid => ?_⟩⟩⟩
  refine ⟨fun _ => wpGood_sendtoPending h, fun hpending => ?_⟩
  have hidle : (m.sock sn).txState = .idle := by
    cases htx : (m.sock sn).txState with
    | idle => rfl
    | dgramPending => exact absurd htx hpending
    | localFault => exact absurd htx hlocal
  have stable : Stable sn (Good sn (m.sock sn)) := stable_good _
  refine wpg_sendtoIdle (I := Good sn (m.sock sn)) (fun e he t x t₁ ht hx => ?_) h buf len addr port
    addrlen (fun _ _ ht => ht) (fun hmode t ht => ?_) fun _ ht => ht.disciplined
  · refine stable.call ht hx ?_
    cases he with
    | dipr addr => simp [Calm, Reg.snDIPR]
    | dport port => simp [Calm, Reg.snDPORT]
    | _ => trivial
  · have hlive : Live sn (m.sock sn) t := ht.tracked.live hhealth (mode_ne_zero_of_datagram hmode)
    have hstream := not_stream_of_datagram hmode
    have hsending : (m.sock sn).isSending = false := by
      by_contra hs
      exact hstream (hlive.stream (by simpa using hs)).1
    refine wpg_sendtoCommit (commit_sendto hmode hsending hidle) (not_not.1 hvalid)
      ⟨ht.disciplined, fun hout => ?_⟩
    rcases hlive.kept hout with hs | htx | ⟨hmode', -⟩
    · rw [hsending] at hs
      exact absurd hs (by decide)
    · exact htx hidle
    · exact hstream hmode'

end sendto

section disconnect

/-- The state in which disconnect waits: it forgets a SEND of a connection that has left, or that
will be seen to have left when the wait succeeds. -/
def Leaving (sn : ℕ) (valid : Prop) (t : IoTrace) : Prop :=
  Disciplined sn t ∧ ((Outstanding sn t → Left sn t) ∨ valid ∧ Up sn t)

lemma stable_leaving (valid : Prop) : Stable sn (Leaving sn valid) := by
  refine fun t v h hv => ⟨h.1.calm hv, h.2.imp (fun hleft => ?_) fun hup => ?_⟩
  · exact (stable_ready t v ⟨h.1, hleft⟩ hv).2
  · exact ⟨hup.1, stable_up t v hup.2 hv⟩

lemma wpGood_disconnectFinish (hs : Idle (g.sock sn).notSending)
    (h : Leaving sn g.deadlineConfigValid t) : WpGood sn (disconnectFinish b sn) g t := by
  have hs' : Idle ((g.setSock sn Sock.notSending).sock sn) := by
    rw [Globals.setSock_same]
    exact hs
  have stable : Stable sn (Leaving sn g.deadlineConfigValid) := stable_leaving _
  simp only [WpGood, disconnectFinish, wpv_bind, wpg_modifySock, wpv_get, wpv_ite, wpv_pure]
  intro m hm
  refine ⟨fun hinvalid => ?_, fun _ => ?_⟩
  · have hvalid : ¬ g.deadlineConfigValid := by
      rw [hm] at hinvalid
      exact hinvalid
    exact good_of_ready hs' ⟨h.1, h.2.resolve_right fun hup => hvalid hup.1⟩
  refine (timed_deadlineAbs _).wpg stable.ticks h fun d t₁ h₁ => ?_
  refine wpg_clockLoop stable.ticks h₁ (fun t ht => ?_) (fun t ht => ?_) fun _ ht => ht.1
  · simp only [disconnectLook, markFaulted, wpv_bind, wpg_getSnSR, wpv_ite, wpg_takeTimeout,
      wpg_modifySock, wpv_pure, looked_some, looked_none]
    intro x t₁ hx
    have ht₁ := stable.call ht hx trivial
    refine ⟨fun hclosed => good_of_ready hs' ⟨ht₁.1, fun hout => ?_⟩, fun _ y t₂ hy => ?_⟩
    · rcases ht.2 with hleft | ⟨-, hup⟩
      · have hready : Ready sn t₁ := stable_ready.call ⟨ht.1, hleft⟩ hx trivial
        exact hready.2 hout
      · refine left_of_not_sendable hup hx ?_
        rw [hclosed]
        simp only [Sendable]
        decide
    · have ht₂ := stable.call ht₁ hy trivial
      refine ⟨fun _ z t₃ hz => ⟨fun _ => ?_, fun hne => absurd trivial hne⟩,
        fun _ => ⟨by rintro ⟨⟩, fun _ => ?_⟩⟩
      · exact good_of_faulted (stable.call ht₂ hz (calm_snIR _)).1 rfl
      · exact ⟨trivial, ht₂⟩
  · simp only [faultedIo, markFaulted, wpv_bind, wpg_modifySock, wpv_pure]
    exact good_of_faulted ht.1 rfl

lemma wpGood_disconnectLocked (h : Good sn (g.sock sn) t) :
    WpGood sn (disconnectLocked b sn) g t := by
  refine (wpv_bind _ _).2 (wpv_get.2 ?_)
  rintro m rfl
  simp only [wpv_ite, wpv_bind, wpv_pure, wpg_getSnSR, ne_eq, not_not]
  refine ⟨fun _ => h, fun _ => ⟨fun _ => h, fun hhealth => ⟨fun _ => h, fun hmode => ?_⟩⟩⟩
  intro x t₁ hx
  have h₁ := (stable_good _).call h hx trivial
  have hlive : Live sn (m.sock sn) t := h.tracked.live hhealth (mode_ne_zero_of_stream hmode)
  have hidle : (m.sock sn).txState = .idle := by
    by_contra htx
    exact hlive.datagram htx hmode
  have hs : Idle (m.sock sn).notSending := ⟨hmode, rfl, hidle⟩
  refine ⟨fun _ => h₁, fun _ => ⟨fun hsr => ?_, fun hsr => ?_⟩⟩
  · obtain ⟨-, hup⟩ := not_left_of_sendable hx hsr
    have stable : Stable sn fun t => Disciplined sn t ∧ Up sn t := stable_disciplined.and stable_up
    simp only [disconnectCommand, waitCrAccepted, wpv_bind, wpg_setSnCR, wpv_get, wpv_ite, wpv_pure]
    intro y t₂ hy m' hm'
    have h₂ := stable.call ⟨h₁.disciplined, hup⟩ hy (calm_command (by decide) (by decide))
    have h₂' := (stable_good _).call h₁ hy (calm_command (by decide) (by decide))
    refine ⟨fun _ => ⟨fun _ => h₂', fun hok => absurd hok (by decide)⟩, fun hvalid => ?_⟩
    have hvalid' : m.deadlineConfigValid := by
      rw [← hm']
      exact not_not.1 hvalid
    refine (timed_deadlineAbs _).wpg stable.ticks h₂ fun d t₃ h₃ => ?_
    refine wpg_waitRegister stable.ticks h₃ _ _ d (fun t z t' ht hz => ?_) (fun t ht => ?_)
      fun _ ht => ht.1
    · have ht' := stable.call ht hz trivial
      refine ⟨fun _ => ⟨fun hne => absurd rfl hne, fun _ => ?_⟩, fun _ => ht'⟩
      exact wpGood_disconnectFinish hs ⟨ht'.1, .inr ⟨hvalid', ht'.2⟩⟩
    · exact ⟨fun _ => good_of_faulted ht.1 rfl, fun hok => absurd hok (by decide)⟩
  · refine wpGood_disconnectFinish hs ⟨h₁.disciplined, .inl fun hout => ?_⟩
    have hlive₁ : Live sn (m.sock sn) t₁ := h₁.tracked.live hhealth (mode_ne_zero_of_stream hmode)
    rcases hlive₁.kept hout with hsending | htx | ⟨-, hleft⟩
    · exact left_of_not_sendable (hlive.stream hsending).2 hx hsr
    · exact absurd hidle htx
    · exact hleft

end disconnect

section socket

/-- The result of socket: unless it opens the socket, the invariant. -/
abbrev WpOpens (sn : ℕ) (p : Drv ℤ) (g : Globals) (t : IoTrace) : Prop :=
  wpg (noReentryChip sn) p
    (fun r g' t' => Disciplined sn t' ∧ (r ≠ sn → Tracked sn (g'.sock sn) t'))
    (fun _ t' => Disciplined sn t') g t

lemma opening_disciplined (protocol flag : Byte) :
    Opening (noReentryChip sn) g sn protocol flag (Good sn (g.sock sn)) (Disciplined sn)
      (fun r g' t' => Disciplined sn t' ∧ (r ≠ sn → Tracked sn (g'.sock sn) t'))
      (fun _ t' => Disciplined sn t') := by
  refine ⟨fun e he t x t₁ ht hx => (stable_good _).call ht hx ?_, fun t x t₁ ht hx => ?_,
    fun e he t x t₁ ht hx => stable_disciplined.call ht hx ?_,
    fun t ht => ⟨ht.disciplined, fun _ => ht.tracked⟩, fun t ht => ⟨ht, fun _ => ?_⟩,
    fun t ht => ⟨ht, fun hne => absurd rfl hne⟩, fun _ ht => ht⟩
  · cases he with
    | sipr => trivial
    | mode v => simp [Calm, Reg.snMR, Reg.snCR]
    | port p => simp [Calm, Reg.snPORT]
  · obtain ⟨-, rfl⟩ := hx
    have hns : ¬ Sends sn ⟨g, .write8 (Reg.snCR sn) snCrOpen, x⟩ := by
      simp [Sends, snCrOpen, snCrSend]
    refine ht.disciplined.snoc (fun hsend => absurd hsend hns) fun hsc => ?_
    exact absurd hsc (not_or_intro hns (by simp [Copies, Reg.snCR]))
  · cases he with
    | _ => trivial
  · exact (good_of_faulted ht rfl).tracked

lemma wpOpens_socket (protocol flag : Byte) (port : ℕ) (h : Good sn (g.sock sn) t) :
    WpOpens sn (IoLibrary.socket b sn protocol port flag) g t := by
  have stable : Stable sn (Good sn (g.sock sn)) := stable_good _
  have lock (g' : Globals) (t : IoTrace) (x : Unit) (t₁ : IoTrace) (ht : Good sn (g.sock sn) t)
      (hx : noReentryChip sn g' t (.sockLock sn) x t₁) : Good sn (g.sock sn) t₁ :=
    stable.call ht hx trivial
  refine wpg_socket (I := Good sn (g.sock sn)) (L := Good sn (g.sock sn))
    (fun g' e he t x t₁ ht hx => stable.call ht hx ?_) h protocol flag port
    (fun r g' _ hg' => ⟨h.disciplined, fun _ => ?_⟩) lock
    (fun status port g' t₁ hcheck hg' h₁ => ?_) fun g' t ht => ht.disciplined
  · cases he with
    | _ => trivial
  · rw [hg']
    exact h.tracked
  rw [← hg'] at h₁
  have unlocked {r : ℤ} {g' : Globals} {t : IoTrace} (ht : Disciplined sn t)
      (htracked : r ≠ sn → Tracked sn (g'.sock sn) t) : ∀ y t₂,
      noReentryChip sn g' t (.sockUnlock sn) y t₂ →
        Disciplined sn t₂ ∧ (r ≠ sn → Tracked sn (g'.sock sn) t₂) := by
    intro y t₂ hy
    refine ⟨stable_disciplined.call ht hy trivial, fun hr => ?_⟩
    exact ((stable_good _).call ⟨ht, htracked hr⟩ hy trivial).tracked
  have opens {g' : Globals} {t : IoTrace} (port d : ℕ) (ht : Good sn (g'.sock sn) t) :
      wpg (noReentryChip sn) (socketOpenClosed b sn protocol flag port d) (fun r g' t' => ∀ y t₂,
        noReentryChip sn g' t' (.sockUnlock sn) y t₂ →
          Disciplined sn t₂ ∧ (r ≠ sn → Tracked sn (g'.sock sn) t₂))
        (fun _ t' => Disciplined sn t') g' t :=
    wpv_mono (wpg_socketOpenClosed (opening_disciplined protocol flag) port d ht)
      (fun _ _ _ h' => unlocked h'.1 h'.2) fun _ _ h => h
  refine wpg_socketLocked (stable_good _).ticks h₁ protocol flag status port
    (fun r t _ ht => unlocked ht.disciplined fun _ => ht.tracked) (fun d t x t₁ ht hx => ?_)
    fun d t ht => ?_
  · have ht₁ := (stable_good _).call ht hx trivial
    exact ⟨fun _ => opens port d ht₁, fun _ => ht₁⟩
  · have hsn := lt_of_socketArgCheck hcheck
    refine wpv_mono (wpGood_closeInternal hsn d ht.disciplined) (fun r g' t' h' => ?_) fun _ _ h => h
    exact ⟨fun _ => unlocked h'.disciplined fun _ => h'.tracked, fun _ => opens port d h'⟩

end socket

/-- Every operation but socket keeps the invariant. -/
lemma wpGood_op (op : Op) {m : Driver} (h : Good sn (m.sock sn) t)
    (hop : ∀ protocol port flag, op ≠ .socket protocol port flag) :
    wp (chipEnv (NoReentry sn)) (op.run b sn) (fun _ m' t' => Good sn (m'.sock sn) t')
      (fun _ t' => Disciplined sn t') m t := by
  by_cases hsilent : op.Silent
  · have hsend : snCrSend ∉ op.commands ∧ snCrOpen ∉ op.commands := by
      cases op with
      | setsockopt sotype arg => cases sotype <;> simp [Op.commands, snCrSend, snCrOpen, snCrSendKeep]
      | _ =>
        first
          | exact hsilent.elim
          | simp [Op.commands, snCrSend, snCrOpen, snCrClose, snCrListen, snCrConnect, snCrRecv]
    have run : wp (chipEnv (NoReentry sn)) (op.run b sn) (fun _ m' t' => Good sn (m'.sock sn) t')
        (fun m' t' => Good sn (m'.sock sn) t') m t := by
      refine wp_of_within (quiet_op b op hsilent) (fun m' t' => Good sn (m'.sock sn) t')
        (fun f hf m' t' h' => ⟨h'.disciplined, h'.tracked.tame (hf m').sock⟩)
        (fun e he m' t' x t₁ h' hx => (stable_good _).call h' hx ?_) h
      cases he with
      | write8 block command =>
        refine ⟨?_, fun ha => ⟨fun hs => hsend.1 ?_, fun ho => hsend.2 ?_⟩⟩
        · rw [block]
          rintro ⟨⟩
        · rw [← hs]
          exact command ha
        · rw [← ho]
          exact command ha
      | writeBuf block =>
        change _ ≠ _
        rw [block]
        rintro ⟨⟩
      | _ => trivial
    exact wp_mono run (fun _ _ _ h => h) fun _ _ h => h.disciplined
  cases op with
  | socket protocol port flag => exact absurd rfl (hop protocol port flag)
  | disconnect =>
    simp only [Op.run, disconnect, wp_ite, wp_pure]
    refine ⟨fun _ => h, fun _ => ?_⟩
    have run := wpGood_locked (fun _ h => wpGood_disconnectLocked (b := b) h) h
    exact wp_of_wpg run
  | send len buf =>
    simp only [Op.run, send, wp_ite, wp_pure]
    refine ⟨fun _ => h, fun _ => ?_⟩
    cases buf with
    | none => exact h
    | some buf =>
      simp only [wp_ite, wp_pure, wp_bind, wp_get]
      refine ⟨fun _ => h, fun hsn => ⟨fun _ => h, fun _ => ?_⟩⟩
      have run := wpGood_locked (fun _ h =>
        wpGood_sendLocked (b := b) (Nat.not_le.1 hsn) buf.toList len h) h
      exact wp_of_wpg run
  | sendto len buf addr port addrlen =>
    simp only [Op.run, sendto, wp_ite, wp_pure]
    refine ⟨fun _ => h, fun _ => ?_⟩
    cases buf with
    | none => exact h
    | some buf =>
      simp only [wp_ite, wp_pure]
      refine ⟨fun _ => h, fun hsn => ?_⟩
      have run := wpGood_locked (fun _ h =>
        wpGood_sendtoLocked (b := b) buf.toList len addr port addrlen h) h
      exact wp_of_wpg run
  | _ => exact absurd trivial hsilent

end operations

section runs
variable {b : Build} {sn : ℕ}

/-- A socket() that succeeds. -/
def Reopens (sn : ℕ) (s : Step Op Driver IoTrace ℤ) : Prop :=
  ∃ protocol port flag, s.call = .socket protocol port flag ∧ s.result = some (sn : ℤ)

/-- A socket that was just opened has no SEND pending. -/
lemma free_of_opened {protocol flag : Byte} {port : ℕ} {m m' : Driver} {t t' : IoTrace}
    (opened : Eval anyChip (IoLibrary.socket b sn protocol port flag) m t (some (sn : ℤ)) m' t') :
    (m'.sock sn).isSending = false ∧ (m'.sock sn).txState = .idle := by
  rw [(opened_of_eval opened).2]
  exact ⟨rfl, rfl⟩

/-- One call keeps the discipline, and all but a successful socket() the invariant. -/
lemma step_good (op : Op) {m : Driver} {t : IoTrace} (h : Good sn (m.sock sn) t) :
    wp (chipEnv (NoReentry sn)) (op.run b sn)
      (fun r m' t' => Disciplined sn t' ∧ (¬ Reopens sn ⟨op, (m, t), some r, (m', t')⟩ →
        Good sn (m'.sock sn) t')) (fun _ t' => Disciplined sn t') m t := by
  by_cases hop : ∃ protocol port flag, op = .socket protocol port flag
  · obtain ⟨protocol, port, flag, rfl⟩ := hop
    have run := wpOpens_socket (b := b) protocol flag port h
    refine wp_mono (wp_of_wpg run) (fun r m' t' h' => ⟨h'.1, fun hr => ⟨h'.1, h'.2 ?_⟩⟩) fun _ _ h => h
    rintro rfl
    exact hr ⟨protocol, port, flag, rfl, rfl⟩
  · have run := wpGood_op (b := b) op h fun protocol port flag hsocket =>
      hop ⟨protocol, port, flag, hsocket⟩
    exact wp_mono run (fun _ _ _ h' => ⟨h'.disciplined, fun _ => h'⟩) fun _ _ h => h

/-- In every run of operations on a socket since it was opened, the SENDs are disciplined. -/
theorem sends_disciplined {protocol flag : Byte} {port : ℕ} {m₀ m m' : Driver} {t₀ t t' : IoTrace}
    {steps : List (Step Op Driver IoTrace ℤ)}
    (opened : Eval anyChip (IoLibrary.socket b sn protocol port flag) m₀ t₀ (some (sn : ℤ)) m t)
    (run : History (fun _ => chipEnv (NoReentry sn)) (Op.run b sn) steps m [] m' t')
    (last : ∀ s ∈ steps, ¬ Reopens sn s) : Disciplined sn t' := by
  obtain ⟨hsending, hidle⟩ := free_of_opened opened
  have start : Good sn (m.sock sn) [] := by
    refine ⟨disciplined_nil, .inr (.inr ⟨?_, fun hs => ?_, fun htx => absurd hidle htx⟩)⟩
    · rintro ⟨before, u, after, hsplit, -⟩
      simp at hsplit
    · rw [hsending] at hs
      exact absurd hs (by decide)
  have rule := history_rule (fun _ _ _ _ => True)
    (fun past m t => (∀ s ∈ past, ¬ Reopens sn s) → Good sn (m.sock sn) t)
    (fun past s => (∀ u ∈ past, ¬ Reopens sn u) → Disciplined sn s.post.2)
    (fun past op m t _ hI => ?_) run [] (fun _ _ _ _ => trivial) fun _ => start
  · rcases run.ends with ⟨-, -, rfl⟩ | ⟨before, s, rfl, hs⟩
    · exact disciplined_nil
    · have hend := rule.1 before s [] rfl fun u hu => last u (by simp [List.nil_append _ ▸ hu])
      rwa [hs] at hend
  · by_cases hpast : ∀ s ∈ past, ¬ Reopens sn s
    · refine wp_mono (step_good op (hI hpast)) (fun r m' t' h => ⟨fun _ => h.1, fun hall => ?_⟩)
        fun _ _ h _ => h
      exact h.2 (hall _ (by simp))
    · have run := wp_eval (chipEnv (NoReentry sn)) (op.run b sn) m t
      refine wp_mono run (fun r m' t' _ => ⟨fun h => absurd h hpast, fun hall => ?_⟩)
        fun _ _ _ h => absurd h hpast
      exact absurd (fun s hs => hall s (List.mem_append_left _ hs)) hpast

end runs

section twoSent

/-- A read that shows socket 0 without a connection. -/
def down (v : IoEvent) : Bool :=
  match v.call, v.answer with
  | .read8 a, x => a = Reg.snSR 0 ∧ x.1 ≠ sockEstablished ∧ x.1 ≠ sockCloseWait
  | _, _ => false

/-- A chip that opens socket 0, and then shows it connected and every SEND ended. -/
def answer (opening : Bool) (t : IoTrace) : (e : Io) → e.Res
  | .read8 a =>
    if a = Reg.snSR 0 then
      (if opening then
        if t.any fun v => v.call = .write8 (Reg.snCR 0) snCrOpen then sockInit else sockClosed
      else if t.any down then sockClosed else sockEstablished, false)
    else if a = Reg.snIR 0 then (snIrSendok, false)
    else (0, false)
  | .readBuf _ len => (frameBytes len [8, 0, 0, 1], false)
  | .write8 _ _ | .writeBuf _ _ => false
  | .now => 0
  | .wait | .phyLink _ | .sockLock _ | .sockUnlock _ | .globalLock | .globalUnlock => ()

def willingChip (opening : Bool) : Handler Driver IoTrace Io Io.Res := fun m t e =>
  (answer opening t e, t ++ [⟨m.toGlobals, e, answer opening t e⟩])

def ready : Driver :=
  { Driver.boot 1000 1000 with chipState := .ready, txmaxCache := fun _ => 2048 }

@[irreducible] def openedZero : Option ℤ × Driver × IoTrace :=
  exec (willingChip true) (IoLibrary.socket .oneTurn 0 snMrTcp 5000 0) ready []

lemma eval_openedZero : Eval anyChip (IoLibrary.socket .oneTurn 0 snMrTcp 5000 0) ready []
    (some ((0 : ℕ) : ℤ)) openedZero.2.1 openedZero.2.2 := by
  have run : Eval anyChip (IoLibrary.socket .oneTurn 0 snMrTcp 5000 0) ready [] openedZero.1
      openedZero.2.1 openedZero.2.2 := by
    unfold openedZero
    exact eval_exec (fun _ _ _ => ⟨trivial, rfl⟩) _ _ _
  have hresult : openedZero.1 = some ((0 : ℕ) : ℤ) := by
    unfold openedZero
    decide +kernel
  rwa [hresult] at run

/-- Two sends of one byte each. -/
@[irreducible] def twoSent : List (Step Op Driver IoTrace ℤ) × Driver × IoTrace :=
  replay (fun _ => willingChip false) (Op.run .oneTurn 0)
    [.send 1 (some #[7].toVector), .send 1 (some #v[8])] openedZero.2.1 []

lemma willingChip_allowed (m : Driver) (t : IoTrace) (e : Io) :
    chipEnv (NoReentry 0) m t e (willingChip false m t e).1 (willingChip false m t e).2 := by
  refine ⟨?_, rfl⟩
  cases e with
  | read8 a =>
    rintro rfl ⟨before, v, after, rfl, -, hdown, -⟩
    have hany : (before ++ v :: after).any down = true := by
      refine List.any_eq_true.2 ⟨v, by simp, ?_⟩
      obtain ⟨g, e, x⟩ := v
      cases e with
      | read8 a => exact decide_eq_true ⟨hdown.1, not_sendable.2 hdown.2⟩
      | _ => exact hdown.elim
    have hanswer : (willingChip false m (before ++ v :: after) (.read8 (Reg.snSR 0))).1 =
        (sockClosed, false) := by simp [willingChip, answer, hany]
    rw [hanswer]
    exact (by simp only [Sendable]; decide : ¬ Sendable sockClosed)
  | _ => trivial

lemma history_twoSent : History (fun _ => chipEnv (NoReentry 0)) (Op.run .oneTurn 0) twoSent.1
    openedZero.2.1 [] twoSent.2.1 twoSent.2.2 := by
  unfold twoSent
  exact history_replay (fun _ => willingChip_allowed) _ _ _ _

theorem sends_disciplined_two : Disciplined 0 twoSent.2.2 ∧
    twoSent.2.2.countP (fun v => v.call = .write8 (Reg.snCR 0) snCrSend) = 2 := by
  refine ⟨sends_disciplined eval_openedZero history_twoSent fun s hs => ?_, ?_⟩
  · have hcalls : twoSent.1.map Step.call <+: [.send 1 (some #[7].toVector), .send 1 (some #v[8])] := by
      unfold twoSent
      exact calls_replay _ _ _ _ _
    have hcall := hcalls.subset (List.mem_map_of_mem hs)
    rintro ⟨protocol, port, flag, hsocket, -⟩
    rw [hsocket] at hcall
    simp at hcall
  · unfold twoSent openedZero
    decide +kernel

end twoSent

end IoLibrary.SendDiscipline
