import IoLibrary.Rules
import IoLibrary.Socket.Open

/-! Rules for the register accesses of socket.c, its waits and its close. -/
namespace IoLibrary
open Effects

variable {W : Type} {env : Env Globals W Io Io.Res} {g : Globals} {w : W} {I : W → Prop}
  {H : Globals → W → Prop} {b : Build} {sn : ℕ}

section registers
variable {Q : Byte → Globals → W → Prop} {Q' : Unit → Globals → W → Prop}

@[simp] lemma wpg_getSnMR : wpg env (getSnMR b sn) Q H g w ↔
    ∀ x w₁, env g w (.read8 (Reg.snMR sn)) x w₁ → Q x.1 g w₁ := wpg_wizchipRead b _

@[simp] lemma wpg_setSnMR (v : Byte) : wpg env (setSnMR b sn v) Q' H g w ↔
    ∀ x w₁, env g w (.write8 (Reg.snMR sn) v) x w₁ → Q' () g w₁ := wpg_wizchipWrite b _ v

@[simp] lemma wpg_getSnCR : wpg env (getSnCR b sn) Q H g w ↔
    ∀ x w₁, env g w (.read8 (Reg.snCR sn)) x w₁ → Q x.1 g w₁ := wpg_wizchipRead b _

@[simp] lemma wpg_setSnCR (v : Byte) : wpg env (setSnCR b sn v) Q' H g w ↔
    ∀ x w₁, env g w (.write8 (Reg.snCR sn) v) x w₁ → Q' () g w₁ := wpg_wizchipWrite b _ v

@[simp] lemma wpg_getSnSR : wpg env (getSnSR b sn) Q H g w ↔
    ∀ x w₁, env g w (.read8 (Reg.snSR sn)) x w₁ → Q x.1 g w₁ := wpg_wizchipRead b _

@[simp] lemma wpg_getSnIR : wpg env (getSnIR b sn) Q H g w ↔
    ∀ x w₁, env g w (.read8 (Reg.snIR sn)) x w₁ → Q (x.1 &&& 0x1F) g w₁ := by
  simp [getSnIR]

@[simp] lemma wpg_setSnIR (v : Byte) : wpg env (setSnIR b sn v) Q' H g w ↔
    ∀ x w₁, env g w (.write8 (Reg.snIR sn) (v &&& 0x1F)) x w₁ → Q' () g w₁ :=
  wpg_wizchipWrite b _ _

/-- The mask of getSn_IR and setSn_IR keeps the event bits. -/
@[simp] lemma mask_sendok (v : Byte) : v &&& 0x1F &&& snIrSendok = v &&& snIrSendok := by
  rw [BitVec.and_assoc]
  rfl

@[simp] lemma mask_timeout (v : Byte) : v &&& 0x1F &&& snIrTimeout = v &&& snIrTimeout := by
  rw [BitVec.and_assoc]
  rfl

@[simp] lemma sendok_mask : snIrSendok &&& 0x1F = snIrSendok := rfl

@[simp] lemma timeout_mask : snIrTimeout &&& 0x1F = snIrTimeout := rfl

@[simp] lemma wpg_takeTimeout {Q : Bool → Globals → W → Prop} :
    wpg env (takeTimeout b sn) Q H g w ↔ ∀ x w₁, env g w (.read8 (Reg.snIR sn)) x w₁ →
      (x.1 &&& snIrTimeout ≠ 0 →
        ∀ y w₂, env g w₁ (.write8 (Reg.snIR sn) snIrTimeout) y w₂ → Q true g w₂) ∧
      (x.1 &&& snIrTimeout = 0 → Q false g w₁) := by
  simp only [takeTimeout, wpv_bind, wpg_getSnIR, wpv_ite, wpg_setSnIR, wpv_pure, mask_timeout,
    timeout_mask, ne_eq, not_not]

end registers

section waits
variable {Q : ℤ → Globals → W → Prop}

@[simp] lemma wpg_faultedTimeout : wpg env (faultedTimeout sn) Q H g w ↔
    Q sockerrTimeout (g.setSock sn Sock.faulted) w := by
  simp [faultedTimeout, markFaulted]

lemma wpg_waitRegister (ticks : Ticks env g I) (h : I w) (a : Addr) (wanted : Byte) (d : ℕ)
    (poll : ∀ w x w₁, I w → env g w (.read8 a) x w₁ →
      (x.1 = wanted → Q sockOk g w₁) ∧ (x.1 ≠ wanted → I w₁))
    (late : ∀ w, I w → Q sockerrTimeout (g.setSock sn Sock.faulted) w)
    (stop : ∀ w, I w → H g w) : wpg env (waitRegister b sn a wanted d) Q H g w := by
  simp only [waitRegister, waitRegister.look, wpv_bind]
  refine timed_waitPollInit.wpg ticks h fun p w hw => ?_
  refine wpg_pollLoop ticks hw (fun w hw => ?_) (fun w hw => wpg_faultedTimeout.2 (late w hw)) stop
  simp only [wpv_bind, wpg_wizchipRead, wpv_ite, wpv_pure]
  intro x w₁ hx
  exact ⟨(poll w x w₁ hw hx).1, fun hne => ⟨rfl, (poll w x w₁ hw hx).2 hne⟩⟩

/-- One look at a command register whose TIMEOUT event also ends the wait. -/
@[simp] lemma wpg_crOrTimeoutLook {Q : Option ℤ → Globals → W → Prop} :
    wpg env (crOrTimeoutLook b sn) Q H g w ↔ ∀ x w₁, env g w (.read8 (Reg.snCR sn)) x w₁ →
      (x.1 = 0 → Q (some sockOk) g w₁) ∧ (x.1 ≠ 0 →
        ∀ y w₂, env g w₁ (.read8 (Reg.snIR sn)) y w₂ →
          (y.1 &&& snIrTimeout ≠ 0 → ∀ z w₃,
            env g w₂ (.write8 (Reg.snIR sn) snIrTimeout) z w₃ → Q (some sockerrTimeout) g w₃) ∧
          (y.1 &&& snIrTimeout = 0 → Q none g w₂)) := by
  simp [crOrTimeoutLook]

/-- How a close leaves the socket: reset, and faulted after a timeout. -/
def Sock.closed (r : ℤ) (s : Sock) : Sock :=
  if r = sockerrTimeout then s.cleared.faulted else s.cleared

lemma wpg_closeClearState (r : ℤ) (f : Sock → Sock)
    (h : Q r (g.setSock sn (Sock.closed r)) w) :
    wpg env (closeClearState sn r) Q H (g.setSock sn f) w := by
  simp only [closeClearState, sockStateReset, markFaulted, wpv_bind, wpg_modifySock, wpv_ite,
    wpv_pure, Globals.setSock_setSock]
  unfold Sock.closed at h
  split at h
  · next hr => exact ⟨fun _ => h, fun hne => absurd hr hne⟩
  · next hr => exact ⟨fun hr' => absurd hr' hr, fun _ => h⟩

/-- close_internal leaves the socket reset whatever its command phase met. -/
lemma wpg_closeInternal {P : ℤ → W → Prop} (ticks : Ticks env g I) (h : I w) (hsn : sn < sockNum)
    (d : ℕ)
    (command : ∀ d w, I w → wpg env (closeCommand b sn d)
      (fun r g' w' => (∃ f, g' = g.setSock sn f) ∧ P r w') H g w)
    (invalid : ¬ g.deadlineConfigValid → ∀ w, I w → P sockerrTimeout w)
    (done : ∀ r w, P r w → Q r (g.setSock sn (Sock.closed r)) w) :
    wpg env (closeInternal b sn d) Q H g w := by
  have finish : ∀ d w, I w → wpg env (closeCommand b sn d)
      (fun r g' w' => wpg env (closeClearState sn r) Q H g' w') H g w := by
    intro d w hw
    refine wpv_mono (command d w hw) ?_ fun _ _ => id
    rintro r _ w' ⟨⟨f, rfl⟩, hP⟩
    exact wpg_closeClearState r f (done r w' hP)
  simp only [closeInternal, wpv_ite, wpv_bind, wpv_pure, wpv_get]
  refine ⟨fun hle => absurd hsn (Nat.not_lt.2 hle), fun _ => ⟨fun _ m hm => ?_, fun _ => ?_⟩⟩
  · subst hm
    have hid : m.toGlobals = m.toGlobals.setSock sn id := by simp [Globals.setSock]
    refine wpg_sockDeadlineBegin ticks h _ (fun _ d w hw => ?_) (fun hv => ?_)
    · simpa only [wpv_bind] using finish d w hw
    · rw [hid]
      exact wpg_closeClearState _ _ (done _ _ (invalid hv w h))
  · exact finish d w h

/-- The calls of close_internal. -/
inductive CloseIo (sn : ℕ) : Io → Prop
  | status : CloseIo sn (.read8 (Reg.snSR sn))
  | command : CloseIo sn (.write8 (Reg.snCR sn) snCrClose)
  | accepted : CloseIo sn (.read8 (Reg.snCR sn))
  | clear : CloseIo sn (.write8 (Reg.snIR sn) 0x1F)
  | now : CloseIo sn .now
  | wait : CloseIo sn .wait

lemma ticks_of_close (calls : ∀ e, CloseIo sn e → ∀ w x w₁, I w → env g w e x w₁ → I w₁) :
    Ticks env g I := by
  rintro w _ x w₁ (rfl | rfl) hw hx
  · exact calls _ .now w x w₁ hw hx
  · exact calls _ .wait w x w₁ hw hx

/-- close_internal for an assertion that its calls keep. -/
lemma wpg_closeInternal_keep (h : I w) (hsn : sn < sockNum) (d : ℕ)
    (calls : ∀ e, CloseIo sn e → ∀ w x w₁, I w → env g w e x w₁ → I w₁)
    (done : ∀ r w, r = sockOk ∨ r = sockerrTimeout → I w → Q r (g.setSock sn (Sock.closed r)) w)
    (stop : ∀ w, I w → H g w) : wpg env (closeInternal b sn d) Q H g w := by
  have ticks := ticks_of_close calls
  refine wpg_closeInternal (P := fun r w => (r = sockOk ∨ r = sockerrTimeout) ∧ I w) ticks h hsn d
    (fun d w hw => ?_) (fun _ w hw => ⟨.inr rfl, hw⟩) (fun r w hP => done r w hP.1 hP.2)
  have same : ∃ f, g = g.setSock sn f := ⟨id, by simp [Globals.setSock]⟩
  simp only [closeCommand, waitCrAccepted, waitSrReached, wpv_bind, wpv_get, wpv_ite, wpv_pure,
    wpg_getSnSR, wpg_setSnCR, wpg_setSnIR]
  rintro m rfl
  refine ⟨fun _ => ⟨same, .inl trivial, hw⟩, fun _ x w₁ hx => ?_⟩
  have h₁ := calls _ .status w x w₁ hw hx
  refine ⟨fun _ => ⟨same, .inl trivial, h₁⟩, fun _ y w₂ hy => ?_⟩
  have h₂ := calls _ .command w₁ y w₂ h₁ hy
  refine wpg_waitRegister ticks h₂ _ _ d (fun w x w₁ hw hx => ?_) (fun w hw => ?_) stop
  · have h₃ := calls _ .accepted w x w₁ hw hx
    refine ⟨fun _ => ⟨fun hne => absurd rfl hne, fun _ z w₂ hz => ?_⟩, fun _ => h₃⟩
    have h₄ := calls _ .clear w₁ z w₂ h₃ hz
    refine wpg_waitRegister ticks h₄ _ _ d (fun w x w₁ hw hx => ?_) (fun w hw => ?_) stop
    · have h₅ := calls _ .status w x w₁ hw hx
      exact ⟨fun _ => ⟨same, .inl rfl, h₅⟩, fun _ => h₅⟩
    · exact ⟨⟨_, rfl⟩, .inr rfl, hw⟩
  · exact ⟨fun _ => ⟨⟨_, rfl⟩, .inr rfl, hw⟩, fun hne => absurd (by decide) hne⟩

end waits

end IoLibrary
