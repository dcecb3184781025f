import IoLibrary.Ipv6.Sending

/-! The modes that recvfrom does not refuse. -/
namespace IoLibrary.Ipv6
open Effects

/-- recvfrom never returns SOCKERR_SOCKMODE, whatever the chip does. -/
def Receives (sn : ℕ) (d : Datagram) (c : Cpu) : Prop :=
  ∀ undefined turns (env : Env Cpu Unit Io Io.Res) r c' w',
    Eval env (recvfrom undefined turns sn d.len d.dest) c () (some r) c' w' → r.ret ≠ sockerrSockmode

section receiving
variable {W : Type} {env : Env Cpu W Io Io.Res} {c : Cpu} {w : W}

/-- No result of a wait is about the mode. -/
lemma wp_quiet_pollLoop {α : Type} {turns : ℕ} {look : Drv (Option α)} {expired : Drv α}
    {P : α → Prop} (hlook : ∀ c w, wp env look (fun r _ _ => ∀ a, r = some a → P a)
      (fun _ _ => True) c w)
    (hexpired : ∀ c w, wp env expired (fun a _ _ => P a) (fun _ _ => True) c w) :
    wp env (pollLoop turns look expired) (fun a _ _ => P a) (fun _ _ => True) c w := by
  apply wp_loop (fun _ _ _ => True)
  · intro _ c w _
    rw [wp_bind]
    apply wp_mono (hlook c w) _ fun _ _ => id
    intro r c₁ w₁ hr
    cases r with
    | some a => exact hr a rfl
    | none =>
      simp only [wp_bind, wp_perform, wp_ite, wp_pure]
      exact fun late w₂ _ => ⟨fun _ => hexpired c₁ w₂, fun _ => trivial⟩
  · exact fun _ _ _ h => h
  · trivial

lemma wp_crOrTimeoutLook : wp env crOrTimeoutLook
    (fun r _ _ => ∀ a, r = some a → a ≠ sockerrSockmode) (fun _ _ => True) c w := by
  simp only [crOrTimeoutLook, wp_bind, wp_perform, wp_ite, wp_pure]
  intro cr w₁ _
  refine ⟨fun _ a ha => ?_, fun _ ir w₂ _ => ⟨fun _ _ w₃ _ a ha => ?_, fun _ a ha => ?_⟩⟩
  · rw [← Option.some.inj ha]
    decide
  · rw [← Option.some.inj ha]
    decide
  · exact absurd ha.symm (Option.some_ne_none a)

lemma wp_waitDatagramCrAccepted {turns : ℕ} {nonblocking : Bool} :
    wp env (waitDatagramCrAccepted turns nonblocking) (fun r _ _ => r ≠ sockerrSockmode)
      (fun _ _ => True) c w := by
  rw [waitDatagramCrAccepted, wp_bind]
  apply wp_mono wp_crOrTimeoutLook _ fun _ _ => id
  intro r c₁ w₁ hr
  cases r with
  | some r => exact hr r rfl
  | none =>
    simp only [wp_ite, wp_pure]
    refine ⟨fun _ => by decide, fun _ => ?_⟩
    apply wp_quiet_pollLoop (fun _ _ => wp_crOrTimeoutLook)
    exact fun _ _ => (by decide : sockerrTimeout ≠ sockerrSockmode)

lemma wp_recvPart {turns n : ℕ} {part : Part} {nonblocking : Bool} :
    wp env (recvPart turns n part nonblocking) (fun r _ _ => r.1 ≠ sockerrSockmode)
      (fun _ _ => True) c w := by
  simp only [recvPart, wp_bind, wp_perform, wp_pure]
  intro data w₁ _ _ w₂ _
  exact wp_waitDatagramCrAccepted

lemma wp_recvPart_bind {turns n : ℕ} {part : Part} {nonblocking : Bool}
    {f : ℤ × List Byte → Drv Received} (h : ∀ x c w, x.1 ≠ sockerrSockmode →
      wp env (f x) (fun r _ _ => r.ret ≠ sockerrSockmode) (fun _ _ => True) c w) :
    wp env (recvPart turns n part nonblocking >>= f) (fun r _ _ => r.ret ≠ sockerrSockmode)
      (fun _ _ => True) c w := by
  rw [wp_bind]
  exact wp_mono wp_recvPart h fun _ _ => id

lemma wp_recvfromPayload {turns len : ℕ} {nonblocking : Bool} :
    wp env (recvfromPayload turns len nonblocking) (fun r _ _ => r.ret ≠ sockerrSockmode)
      (fun _ _ => True) c w := by
  rw [recvfromPayload, wp_bind, wp_get]
  apply wp_recvPart_bind
  rintro ⟨ret, data⟩ c₁ w₁ hret
  have hneg : sockerrSockmode < 0 := by decide
  simp only [modifySock, wp_ite, wp_bind, wp_modify, wp_pure]
  refine ⟨fun _ => hret, fun _ => ?_⟩
  omega

lemma wp_recvfromRest {turns len packLen : ℕ} {mode : Byte} {port nonblocking : Bool} :
    wp env (recvfromRest turns len packLen mode port nonblocking)
      (fun r _ _ => r.ret ≠ sockerrSockmode) (fun _ _ => True) c w := by
  rw [recvfromRest, wp_bind, modifySock, wp_modify, wp_ite]
  refine ⟨fun _ => ?_, fun _ => wp_recvfromPayload⟩
  rw [wp_ite]
  constructor
  · intro _
    rw [wp_pure]
    decide
  · intro _
    apply wp_recvPart_bind
    rintro ⟨ret, data⟩ c₁ w₁ hret
    rw [wp_ite]
    exact ⟨fun _ => hret, fun _ => wp_recvfromPayload⟩

lemma wp_recvfromAddress {turns : ℕ} {head : Byte} {nonblocking : Bool} :
    wp env (recvfromAddress turns head nonblocking) (fun r _ _ => r ≠ sockerrSockmode)
      (fun _ _ => True) c w := by
  simp only [recvfromAddress, modifySock, wp_bind, wp_modify, wp_pure]
  exact wp_recvPart

lemma wp_recvfromMacraw {turns len info : ℕ} : wp env (recvfromMacraw turns len info)
    (fun r _ _ => ∀ e, r = .error e → e ≠ sockerrSockmode) (fun _ _ => True) c w := by
  have hcopy (c : Cpu) (w : W) : wp env (recvfromMacraw.copy len)
      (fun r _ _ => ∀ e, r = .error e → e ≠ sockerrSockmode) (fun _ _ => True) c w := by
    simp only [recvfromMacraw.copy, wp_bind, wp_get, wp_perform, wp_pure]
    intro data w₁ _ e he
    cases he
  have hclose (c : Cpu) (w : W) : wp env (do
      let _ ← closeInternal turns
      return .error sockfatalPacklen : Drv (Except ℤ ℕ))
      (fun r _ _ => ∀ e, r = .error e → e ≠ sockerrSockmode) (fun _ _ => True) c w := by
    rw [wp_bind]
    apply wp_mono (wp_closeInternal turns) _ fun _ _ => id
    intro r c₁ w₁ _ e he
    rw [← Except.error.inj he]
    decide
  rw [recvfromMacraw, wp_bind, wp_get, wp_ite]
  refine ⟨fun _ => ?_, fun _ => hcopy c w⟩
  rw [wp_ite]
  refine ⟨fun _ => hclose c w, fun _ => ?_⟩
  simp only [modifySock, wp_bind, wp_modify]
  rw [wp_ite]
  refine ⟨fun _ => ?_, fun _ => hcopy _ w⟩
  exact hclose _ w

lemma wp_recvfromPacket {undefined : ℤ} {turns len : ℕ} {head : List Byte} {mode : Byte}
    {dest : Dest} {nonblocking : Bool} (hdest : dest.addr ≠ none) :
    wp env (recvfromPacket undefined turns len head mode dest nonblocking)
      (fun r _ _ => r.ret ≠ sockerrSockmode) (fun _ _ => True) c w := by
  have haddress (packLen : ℕ) (c : Cpu) (w : W) : wp env (do
      let ret ← recvfromAddress turns (byteAt head 0) nonblocking
      if ret ≠ sockOk then return ⟨ret, []⟩
      recvfromRest turns len packLen mode dest.port nonblocking)
      (fun r _ _ => r.ret ≠ sockerrSockmode) (fun _ _ => True) c w := by
    rw [wp_bind]
    apply wp_mono wp_recvfromAddress _ fun _ _ => id
    intro ret c₁ w₁ hret
    rw [wp_ite]
    exact ⟨fun _ => hret, fun _ => wp_recvfromRest⟩
  rw [recvfromPacket, wp_ite]
  constructor
  · intro _
    rw [if_neg hdest]
    exact haddress _ c w
  · intro _
    rw [wp_ite]
    constructor
    · intro _
      rw [wp_bind]
      apply wp_mono wp_recvfromMacraw _ fun _ _ => id
      intro r c₁ w₁ hr
      cases r with
      | error e => exact hr e rfl
      | ok packLen => exact wp_recvfromRest
    · intro _
      rw [wp_bind, wp_get, wp_ite]
      refine ⟨fun _ => ?_, fun _ => wp_recvfromRest⟩
      split
      · next hnone => exact absurd hnone hdest
      · exact (by decide : sockerrArg ≠ sockerrSockmode)
      · exact haddress _ c w

lemma wp_recvfromLook {nonblocking : Bool} : wp env (recvfromLook nonblocking)
    (fun r _ _ => ∀ a, r = some a → ∀ e, a = .error e → e ≠ sockerrSockmode) (fun _ _ => True) c w := by
  simp only [recvfromLook, modifySock, wp_bind, wp_perform, wp_modify, wp_ite, wp_pure]
  rintro n w₁ - sr w₂ -
  refine ⟨?_, fun _ => ⟨?_, fun _ => ⟨?_, ?_⟩⟩⟩
  · rintro - a ⟨⟩ e ⟨⟩
    decide
  · rintro - a ⟨⟩ e ⟨⟩
  · rintro - a ⟨⟩ e ⟨⟩
    decide
  · rintro - a ⟨⟩

/-- recvfrom has the modes of sendto in its switch, so that no served mode is refused. -/
lemma receives_of_served {sn : ℕ} {protocol : Byte} {d : Datagram} (hfresh : Fresh protocol c)
    (hserved : Served protocol) (hdest : d.dest.addr ≠ none) : Receives sn d c := by
  intro undefined turns env r c' w' run
  obtain ⟨flag, hmode⟩ := hfresh.mode
  have hlow : c.sock.mode &&& 0x0F = protocol := by
    rw [hmode]
    exact openedMode_low hserved.listed
  have hknown : ¬ (c.sock.mode &&& 0x0F ≠ snMrUdp4 ∧ c.sock.mode &&& 0x0F ≠ snMrIpraw4 ∧
      c.sock.mode &&& 0x0F ≠ snMrIpraw6 ∧ c.sock.mode &&& 0x0F ≠ snMrMacraw) := by
    rw [hlow]
    rcases hserved with rfl | rfl | rfl <;> simp
  have hinfo (c : Cpu) (w : Unit) : wp env (recvfromInfo undefined turns d.len d.dest)
      (fun r _ _ => r.ret ≠ sockerrSockmode) (fun _ _ => True) c w := by
    rw [recvfromInfo, wp_bind, wp_get]
    apply wp_recvPart_bind
    rintro ⟨ret, head⟩ c₁ w₁ hret
    rw [wp_ite]
    exact ⟨fun _ => hret, fun _ => wp_recvfromPacket hdest⟩
  refine wp_returns (Q := fun r _ _ => r.ret ≠ sockerrSockmode) (H := fun _ _ => True) ?_ run
  rw [recvfrom, wp_ite]
  refine ⟨fun _ => (by decide : (0 : ℤ) ≠ sockerrSockmode), fun _ => ?_⟩
  rw [wp_ite]
  refine ⟨fun _ => (by decide : sockerrSocknum ≠ sockerrSockmode), fun _ => ?_⟩
  rw [wp_bind, wp_get, wp_ite]
  refine ⟨fun _ => (by decide : sockerrIo ≠ sockerrSockmode), fun _ => ?_⟩
  rw [wp_ite]
  refine ⟨fun _ => (by decide : sockerrTimeout ≠ sockerrSockmode), fun _ => ?_⟩
  rw [if_neg hknown, wp_ite]
  refine ⟨fun _ => ?_, fun _ => hinfo _ _⟩
  rw [wp_bind]
  have hwait : wp env (pollLoop turns (recvfromLook c.sock.ioMode) (return .error sockerrTimeout))
      (fun a _ _ => ∀ e, a = .error e → e ≠ sockerrSockmode) (fun _ _ => True) c () := by
    apply wp_quiet_pollLoop (fun _ _ => wp_recvfromLook)
    intro c₁ w₁ e he
    rw [← Except.error.inj he]
    decide
  apply wp_mono hwait _ fun _ _ => id
  intro r c₁ w₁ hr
  cases r with
  | error e => exact hr e rfl
  | ok _ => exact hinfo c₁ w₁

end receiving

end IoLibrary.Ipv6
