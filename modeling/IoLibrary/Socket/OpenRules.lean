import IoLibrary.Socket.Footprints
import IoLibrary.Socket.Rules

/-! Rules for the phases of socket: its checks, the close of a socket still open, and the OPEN of
a closed one. -/
namespace IoLibrary
open Effects

variable {W : Type} {env : Env Globals W Io Io.Res} {g : Globals} {w : W} {I C J L : W → Prop}
  {H : Globals → W → Prop} {b : Build} {sn : ℕ} {Q : ℤ → Globals → W → Prop}

/-- The calls of socket from the address check to OPEN. -/
inductive PrepareOpenIo (sn : ℕ) : Io → Prop
  | sipr : PrepareOpenIo sn (.readBuf Reg.sipr 4)
  | mode (v : Byte) : PrepareOpenIo sn (.write8 (Reg.snMR sn) v)
  | port (p : ℕ) : PrepareOpenIo sn (.writeBuf (Reg.snPORT sn) (bytes16 p))

/-- The calls of socket after OPEN. -/
inductive OpenedIo (sn : ℕ) : Io → Prop
  | accepted : OpenedIo sn (.read8 (Reg.snCR sn))
  | status : OpenedIo sn (.read8 (Reg.snSR sn))
  | now : OpenedIo sn .now
  | wait : OpenedIo sn .wait

/-- What the chip does to an opening socket: `C` until OPEN is written, `J` after that. -/
structure Opening (env : Env Globals W Io Io.Res) (g : Globals) (sn : ℕ) (protocol flag : Byte)
    (C J : W → Prop) (Q : ℤ → Globals → W → Prop) (H : Globals → W → Prop) : Prop where
  prepare : ∀ e, PrepareOpenIo sn e → ∀ w x w₁, C w → env g w e x w₁ → C w₁
  command : ∀ w x w₁, C w → env g w (.write8 (Reg.snCR sn) snCrOpen) x w₁ → J w₁
  poll : ∀ e, OpenedIo sn e → ∀ w x w₁, J w → env g w e x w₁ → J w₁
  refused : ∀ w, C w → Q sockerrSockinit g w
  late : ∀ w, J w → Q sockerrTimeout (g.setSock sn Sock.faulted) w
  opened : ∀ w, J w → Q sn (g.setSock sn (Sock.opened protocol flag)) w
  stop : ∀ w, J w → H g w

lemma wpg_socketOpenClosed {protocol flag : Byte} (opening : Opening env g sn protocol flag C J Q H)
    (port d : ℕ) (h : C w) : wpg env (socketOpenClosed b sn protocol flag port d) Q H g w := by
  have ticks : Ticks env g J := by
    rintro w _ x w₁ (rfl | rfl) hw hx
    · exact opening.poll _ .now w x w₁ hw hx
    · exact opening.poll _ .wait w x w₁ hw hx
  have command {w : W} (hw : C w) :
      wpg env (socketOpenClosed.openCommand b sn protocol flag port d) Q H g w := by
    simp only [socketOpenClosed.openCommand, setSnPORT, wizchipWrite16, waitCrAccepted,
      waitSrReached, wpv_bind, wpg_setSnMR, wpv_pure, wpg_setSnCR, wpg_wizchipWriteBufChecked]
    intro x w₁ hx
    have h₁ := opening.prepare _ (.mode _) w x w₁ hw hx
    refine ⟨fun hempty => absurd hempty (by simp [bytes16]), fun _ y w₂ hy z w₃ hz => ?_⟩
    have h₂ := opening.prepare _ (.port _) w₁ y w₂ h₁ hy
    have h₃ := opening.command w₂ z w₃ h₂ hz
    refine wpg_waitRegister ticks h₃ _ _ d (fun w x w₁ hw hx => ?_) (fun w hw => ?_) opening.stop
    · have hw₁ := opening.poll _ .accepted w x w₁ hw hx
      simp only [wpv_ite, wpv_bind, wpv_pure]
      refine ⟨fun _ => ⟨fun hne => absurd rfl hne, fun _ => ?_⟩, fun _ => hw₁⟩
      refine wpg_waitRegister ticks hw₁ _ _ d (fun w x w₁ hw hx => ?_) (fun w hw => ?_) opening.stop
      · have hw₁ := opening.poll _ .status w x w₁ hw hx
        simp only [wpg_modifySock]
        exact ⟨fun _ => ⟨fun hne => absurd rfl hne, fun _ => opening.opened w₁ hw₁⟩, fun _ => hw₁⟩
      · exact ⟨fun _ => opening.late w hw, fun hok => absurd (by decide) hok⟩
    · simp only [wpv_ite, wpv_pure]
      exact ⟨fun _ => opening.late w hw, fun hok => absurd (by decide) hok⟩
  simp only [socketOpenClosed, wpv_ite, wpv_bind, wpv_pure, wpg_wizchipReadBuf]
  refine ⟨fun _ => ⟨by rintro ⟨⟩, fun _ x w₁ hx => ?_⟩, fun _ => command h⟩
  have h₁ := opening.prepare _ .sipr w x w₁ h hx
  exact ⟨fun _ => opening.refused w₁ h₁, fun _ => command h₁⟩

/-- Under its lock socket refuses, opens a closed socket, or closes it first. -/
lemma wpg_socketLocked (ticks : Ticks env g I) (h : I w) (protocol flag status : Byte) (port : ℕ)
    (refused : ∀ r w, r < 0 → I w → Q r g w)
    (sample : ∀ d w x w₁, I w → env g w (.read8 (Reg.snSR sn)) x w₁ →
      (x.1 = sockClosed → wpg env (socketOpenClosed b sn protocol flag port d) Q H g w₁) ∧
        (x.1 ≠ sockClosed → I w₁))
    (close : ∀ d w, I w → wpg env (closeInternal b sn d) (fun r g' w' =>
      (r ≠ sockOk → Q r g' w') ∧
        (r = sockOk → wpg env (socketOpenClosed b sn protocol flag port d) Q H g' w')) H g w) :
    wpg env (socketLocked b sn protocol flag port status) Q H g w := by
  refine (wpv_bind _ _).2 (wpv_get.2 ?_)
  rintro m rfl
  simp only [wpv_ite, wpv_pure, wpv_bind]
  refine ⟨fun _ => refused _ w (by decide) h, fun _ => ?_⟩
  refine wpg_sockDeadlineBegin ticks h _ (fun _ d w₁ h₁ => ?_) fun _ => refused _ w (by decide) h
  simp only [wpv_bind, wpg_getSnSR, wpv_ite, wpv_pure]
  intro x w₂ hx
  obtain ⟨hclosed, hopen⟩ := sample d w₁ x w₂ h₁ hx
  refine ⟨hclosed, fun hne => ⟨fun _ => refused _ w₂ (by decide) (hopen hne), fun _ => ?_⟩⟩
  refine wpv_mono (close d w₂ (hopen hne)) (fun r g' w' h' => ?_) fun _ _ => id
  exact ⟨h'.1, fun hne => h'.2 (not_not.1 hne)⟩

lemma socketArgCheck_neg {protocol flag : Byte} {e : ℤ}
    (h : socketArgCheck sn protocol flag = some e) : e < 0 := by
  simp only [socketArgCheck] at h
  split_ifs at h <;> cases h <;> decide

lemma lt_of_socketArgCheck {protocol flag : Byte} (h : socketArgCheck sn protocol flag = none) :
    sn < sockNum := by
  by_contra hle
  simp [socketArgCheck, Nat.not_lt.1 hle] at h

/-- The calls of socket before its lock is taken. -/
inductive EnterIo (sn : ℕ) : Io → Prop
  | status : EnterIo sn (.read8 (Reg.snSR sn))
  | globalLock : EnterIo sn .globalLock
  | globalUnlock : EnterIo sn .globalUnlock

/-- socket refuses its arguments or runs under its lock, with the automatic port counted on. -/
lemma wpg_socket (calls : ∀ g e, EnterIo sn e → ∀ w x w₁, I w → env g w e x w₁ → I w₁) (h : I w)
    (protocol flag : Byte) (port : ℕ)
    (refused : ∀ r g', r < 0 → g'.sock = g.sock → Q r g' w)
    (lock : ∀ g w x w₁, I w → env g w (.sockLock sn) x w₁ → L w₁)
    (locked : ∀ status port g' w, socketArgCheck sn protocol flag = none → g'.sock = g.sock → L w →
      wpg env (socketLocked b sn protocol flag port status)
        (fun r g' w' => ∀ y w₂, env g' w' (.sockUnlock sn) y w₂ → Q r g' w₂) H g' w)
    (stop : ∀ g' w, I w → H g' w) : wpg env (socket b sn protocol port flag) Q H g w := by
  unfold socket
  cases hcheck : socketArgCheck sn protocol flag with
  | some e => exact refused e g (socketArgCheck_neg hcheck) rfl
  | none =>
    simp only [wpv_bind, wpv_get, wpv_ite, wpv_modify, wpv_pure, wpg_getSnSR]
    rintro m rfl
    refine ⟨fun _ m' hm' => refused _ _ (by decide) (congrArg Globals.sock hm'), fun _ x w₁ hx => ?_⟩
    have h₁ := calls _ _ .status w x w₁ h hx
    have source : wpg env (sourcePort port) (fun _ g' w' => g'.sock = m.sock ∧ I w')
        (fun g' w' => g'.sock = m.sock ∧ I w') m.toGlobals w₁ := by
      refine wpv_of_within (within_sourcePort port) (fun (g' : Globals) w' => g'.sock = m.sock ∧ I w')
        (fun f hf m' w' h' => ?_) (fun e he g' w' x w₂ h' hx => ?_) ⟨rfl, h₁⟩
      · obtain ⟨p, hp⟩ := hf m'
        rw [hp]
        exact h'
      · rcases he with rfl | rfl
        · exact ⟨h'.1, calls _ _ .globalLock w' x w₂ h'.2 hx⟩
        · exact ⟨h'.1, calls _ _ .globalUnlock w' x w₂ h'.2 hx⟩
    refine wpv_mono source (fun p g' w₂ h₂ => ?_) fun _ _ h => stop _ _ h.2
    refine (wpg_locked sn _).2 fun y w₃ hy => ?_
    exact locked x.1 p g' w₃ hcheck h₂.1 (lock _ w₂ y w₃ h₂.2 hy)

/-- socket returns its number only when it has opened the socket, and faults it when a wait after
OPEN runs out. -/
lemma socket_opens (protocol flag : Byte) (port : ℕ) :
    wpg env (socket b sn protocol port flag)
      (fun r g' _ => r = sn → socketArgCheck sn protocol flag = none ∧
        g'.sock sn = Sock.opened protocol flag (g.sock sn)) (fun _ _ => True) g w := by
  have negative {r : ℤ} (hr : r < 0) : r ≠ sn := by
    rintro rfl
    exact absurd hr (Int.not_lt.2 (Int.natCast_nonneg sn))
  refine wpg_socket (I := fun _ => True) (L := fun _ => True) (fun _ _ _ _ _ _ _ _ => trivial)
    trivial protocol flag port (fun r _ hr _ hsn => absurd hsn (negative hr))
    (fun _ _ _ _ _ _ => trivial) (fun status port g' w' hcheck _ _ => ?_) fun _ _ _ => trivial
  have opens (port d : ℕ) (g' : Globals) (w' : W) :
      wpg env (socketOpenClosed b sn protocol flag port d) (fun r g'' w'' => ∀ y w₂,
        env g'' w'' (.sockUnlock sn) y w₂ → r = sn → socketArgCheck sn protocol flag = none ∧
          g''.sock sn = Sock.opened protocol flag (g.sock sn)) (fun _ _ => True) g' w' := by
    refine wpg_socketOpenClosed (C := fun _ => True) (J := fun _ => True) ?_ port d trivial
    refine ⟨fun _ _ _ _ _ _ _ => trivial, fun _ _ _ _ _ => trivial, fun _ _ _ _ _ _ _ => trivial,
      fun _ _ _ _ _ hsn => absurd hsn (negative (by decide)),
      fun _ _ _ _ _ hsn => absurd hsn (negative (by decide)), fun _ _ _ _ _ _ => ?_,
      fun _ _ => trivial⟩
    exact ⟨hcheck, Globals.setSock_same _ _ _⟩
  refine wpg_socketLocked (I := fun _ => True) (fun _ _ _ _ _ _ _ => trivial) trivial protocol flag
    status port (fun r _ hr _ _ _ _ hsn => absurd hsn (negative hr))
    (fun d _ _ w₁ _ _ => ⟨fun _ => opens port d g' w₁, fun _ => trivial⟩) fun d w _ => ?_
  refine wpg_closeInternal_keep (I := fun _ => True) trivial (lt_of_socketArgCheck hcheck) d
    (fun _ _ _ _ _ _ _ => trivial) (fun r w hr _ => ⟨fun hne _ _ _ hsn => ?_, fun _ => ?_⟩)
    fun _ _ => trivial
  · rw [hr.resolve_left hne] at hsn
    exact absurd hsn (negative (by decide))
  · exact opens port d _ w

end IoLibrary
