import IoLibrary.Effects.Wp
import IoLibrary.Ipv6.Datagram

/-! What the operations of the IPv6 chips leave behind, whatever the chip answers. -/
namespace IoLibrary.Ipv6
open Effects

variable {W : Type} {env : Env Cpu W Io Io.Res} {c : Cpu} {w : W}

/-- Every wait ends with SOCK_OK and an unchanged memory, or with an expiry. -/
lemma wp_pollLoop {turns : ℕ} {look : Drv (Option ℤ)} {H : Cpu → W → Prop}
    (hlook : ∀ w, wp env look (fun r c' _ => c' = c ∧ (r = none ∨ r = some sockOk)) H c w)
    (hcut : ∀ w, H c w) :
    wp env (pollLoop turns look faultedTimeout) (fun r c' _ => r = sockOk ∧ c' = c ∨
      r = sockerrTimeout ∧ c' = { c with sock := { c.sock with health := .faulted } }) H c w := by
  apply wp_loop (fun _ c' _ => c' = c)
  · rintro - c' w rfl
    rw [wp_bind]
    apply wp_mono (hlook w) _ fun _ _ => id
    rintro r c₁ w₁ ⟨rfl, rfl | rfl⟩
    · simp only [wp_bind, wp_perform]
      intro late w₂ _
      rw [wp_ite]
      constructor
      · intro _
        exact .inr ⟨rfl, rfl⟩
      · exact fun _ => rfl
    · exact .inl ⟨rfl, rfl⟩
  · rintro - c' w rfl
    exact hcut w
  · rfl

lemma wp_waitCrAccepted {turns : ℕ} {H : Cpu → W → Prop} (hcut : ∀ w, H c w) :
    wp env (waitCrAccepted turns) (fun r c' _ => r = sockOk ∧ c' = c ∨
      r = sockerrTimeout ∧ c' = { c with sock := { c.sock with health := .faulted } }) H c w := by
  apply wp_pollLoop _ hcut
  intro w
  simp only [wp_bind, wp_perform, wp_pure]
  intro cr w₁ _
  split_ifs
  · exact ⟨trivial, .inr rfl⟩
  · exact ⟨trivial, .inl rfl⟩

lemma wp_waitSrReached {turns : ℕ} {wanted : Byte} {H : Cpu → W → Prop} (hcut : ∀ w, H c w) :
    wp env (waitSrReached turns wanted) (fun r c' _ => r = sockOk ∧ c' = c ∨
      r = sockerrTimeout ∧ c' = { c with sock := { c.sock with health := .faulted } }) H c w := by
  apply wp_pollLoop _ hcut
  intro w
  simp only [wp_bind, wp_perform, wp_pure]
  intro sr w₁ _
  split_ifs
  · exact ⟨trivial, .inr rfl⟩
  · exact ⟨trivial, .inl rfl⟩

/-- What socket leaves apart from the socket's own record and the next automatic port. -/
def SameSetup (c c' : Cpu) : Prop :=
  c'.configValid = c.configValid ∧ c'.txmaxCache = c.txmaxCache

/-- A call that returns the socket's number has opened it. -/
def Opened (sn : ℕ) (protocol flag : Byte) (c : Cpu) (r : ℤ) (c' : Cpu) : Prop :=
  SameSetup c c' ∧ (r = sn → c'.sock = Sock.opened protocol flag c.sock)

lemma wp_addressCheck {protocol : Byte} {Q : Option ℤ → Cpu → W → Prop} {H : Cpu → W → Prop}
    (herror : ∀ w, Q (some sockerrSockinit) c w) (hok : ∀ w, Q none c w) :
    wp env (addressCheck protocol) Q H c w := by
  have hllar (p : Byte) (w : W) : wp env (addressCheck.llarCheck p) Q H c w := by
    rw [addressCheck.llarCheck, wp_ite]
    constructor
    · intro _
      simp only [wp_bind, wp_perform, wp_pure]
      intro llar w₁ _
      split_ifs
      · exact herror w₁
      · exact hok w₁
    · exact fun _ => hok w
  rw [addressCheck, wp_ite]
  constructor
  · intro _
    simp only [wp_bind, wp_perform, wp_ite, wp_pure]
    intro sipr w₁ _
    exact ⟨fun _ => herror w₁, fun _ => hllar _ w₁⟩
  · exact fun _ => hllar _ w

lemma Opened.of_error {sn : ℕ} {protocol flag : Byte} {c' : Cpu} {e : ℤ} (he : e < 0)
    (h : SameSetup c c') : Opened sn protocol flag c e c' := by
  refine ⟨h, fun hsn => ?_⟩
  omega

lemma wp_socketOpenClosed (turns sn port : ℕ) (protocol flag : Byte) :
    wp env (socketOpenClosed turns sn protocol port flag) (fun r c' _ => Opened sn protocol flag c r c')
      (fun _ _ => True) c w := by
  have hsame : SameSetup c c := ⟨rfl, rfl⟩
  rw [socketOpenClosed, wp_bind]
  apply wp_addressCheck
  · exact fun _ => Opened.of_error (by decide) hsame
  · intro w
    simp only [wp_bind, wp_perform]
    intro _ w₁ _ _ w₂ _ _ w₃ _ _ w₄ _
    apply wp_mono (wp_waitCrAccepted fun _ => trivial) _ fun _ _ => id
    rintro r c₁ w₅ (⟨rfl, rfl⟩ | ⟨rfl, rfl⟩)
    · rw [if_neg (by decide), wp_bind]
      apply wp_mono (wp_waitSrReached fun _ => trivial) _ fun _ _ => id
      rintro r c₂ w₆ (⟨rfl, rfl⟩ | ⟨rfl, rfl⟩)
      · rw [if_neg (by decide)]
        exact ⟨⟨rfl, rfl⟩, fun _ => rfl⟩
      · rw [if_pos (by decide)]
        exact Opened.of_error (by decide) ⟨rfl, rfl⟩
    · rw [if_pos (by decide)]
      exact Opened.of_error (by decide) ⟨rfl, rfl⟩

lemma wp_closeCommand (turns : ℕ) :
    wp env (closeCommand turns) (fun r c' _ => SameSetup c c' ∧ (r = sockOk ∨ r = sockerrTimeout))
      (fun _ _ => True) c w := by
  simp only [closeCommand, wp_bind, wp_get, wp_ite, wp_perform, wp_pure]
  refine ⟨fun _ => ⟨⟨rfl, rfl⟩, .inl trivial⟩, fun _ sr w₁ _ =>
    ⟨fun _ => ⟨⟨rfl, rfl⟩, .inl trivial⟩, ?_⟩⟩
  intro _ _ w₂ _
  apply wp_mono (wp_waitCrAccepted fun _ => trivial) _ fun _ _ => id
  rintro r c₁ w₃ (⟨rfl, rfl⟩ | ⟨rfl, rfl⟩)
  · refine ⟨fun hne => absurd rfl hne, fun _ _ w₄ _ => ?_⟩
    apply wp_mono (wp_waitSrReached fun _ => trivial) _ fun _ _ => id
    rintro r c₂ w₅ (⟨rfl, rfl⟩ | ⟨rfl, rfl⟩)
    · exact ⟨⟨rfl, rfl⟩, .inl rfl⟩
    · exact ⟨⟨rfl, rfl⟩, .inr rfl⟩
  · exact ⟨fun _ => ⟨⟨rfl, rfl⟩, .inr rfl⟩, fun heq => absurd heq (by decide)⟩

lemma wp_closeInternal (turns : ℕ) :
    wp env (closeInternal turns) (fun r c' _ => SameSetup c c' ∧ (r = sockOk ∨ r = sockerrTimeout))
      (fun _ _ => True) c w := by
  rw [closeInternal, wp_bind]
  apply wp_mono (wp_closeCommand turns) _ fun _ _ => id
  rintro r c₁ w₁ ⟨hsetup, hr⟩
  simp only [wp_bind, modifySock, wp_modify, wp_ite, wp_pure]
  exact ⟨fun _ => ⟨hsetup, hr⟩, fun _ => ⟨hsetup, hr⟩⟩

/-- Sock.opened keeps nothing of the socket's old record. -/
lemma Opened.of_setup {sn : ℕ} {protocol flag : Byte} {c₁ c' : Cpu} {r : ℤ} (h : SameSetup c c₁)
    (hopened : Opened sn protocol flag c₁ r c') : Opened sn protocol flag c r c' :=
  ⟨⟨hopened.1.1.trans h.1, hopened.1.2.trans h.2⟩, hopened.2⟩

lemma wp_socketLocked (turns sn port : ℕ) (protocol flag before : Byte) :
    wp env (socketLocked turns sn protocol port flag before)
      (fun r c' _ => Opened sn protocol flag c r c') (fun _ _ => True) c w := by
  have hsame : SameSetup c c := ⟨rfl, rfl⟩
  simp only [socketLocked, wp_bind, wp_get, wp_ite, wp_perform, wp_pure]
  refine ⟨fun _ => Opened.of_error (by decide) hsame, fun _ => ⟨fun _ =>
    Opened.of_error (by decide) hsame, fun _ sr w₁ _ => ⟨fun _ => wp_socketOpenClosed _ _ _ _ _,
    fun _ => ⟨fun _ => Opened.of_error (by decide) hsame, fun _ => ?_⟩⟩⟩⟩
  apply wp_mono (wp_closeInternal turns) _ fun _ _ => id
  rintro r c₁ w₂ ⟨hsetup, rfl | rfl⟩
  · refine ⟨fun hne => absurd rfl hne, fun _ => ?_⟩
    apply wp_mono (wp_socketOpenClosed turns sn port protocol flag) _ fun _ _ => id
    exact fun r c₂ _ hopened => hopened.of_setup hsetup
  · exact ⟨fun _ => Opened.of_error (by decide) hsetup, fun heq => absurd heq (by decide)⟩

lemma wp_sourcePort (port : ℕ) {Q : ℕ → Cpu → W → Prop} {H : Cpu → W → Prop}
    (h : ∀ p c', c'.sock = c.sock → c'.configValid = c.configValid → c'.txmaxCache = c.txmaxCache →
      Q p c' w) : wp env (sourcePort port) Q H c w := by
  rw [sourcePort, wp_ite]
  exact ⟨fun _ => h _ _ rfl rfl rfl, fun _ => h _ _ rfl rfl rfl⟩

lemma wp_socket (turns sn port : ℕ) (protocol flag : Byte)
    (hcheck : socketArgCheck sn protocol flag = none) :
    wp env (socket turns sn protocol port flag) (fun r c' _ => Opened sn protocol flag c r c')
      (fun _ _ => True) c w := by
  rw [socket, hcheck]
  simp only [wp_bind, wp_get, wp_ite, wp_perform, wp_modify, wp_pure]
  refine ⟨fun _ => Opened.of_error (by decide) ⟨rfl, rfl⟩, fun _ sr w₁ _ => ?_⟩
  apply wp_sourcePort
  intro p c₁ hsock hconfig htxmax
  apply wp_mono (wp_socketLocked turns sn p protocol flag sr) _ fun _ _ => id
  exact fun r c₂ _ hopened => hopened.of_setup ⟨hconfig, htxmax⟩

end IoLibrary.Ipv6
