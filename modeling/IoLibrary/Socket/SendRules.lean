import IoLibrary.Socket.Rules
import IoLibrary.Socket.Stream

/-! Rules for the phases of send: the wait for the previous SEND, the wait for free
space, the copy and the command. -/
namespace IoLibrary
open Effects

variable {W : Type} {env : Env Globals W Io Io.Res} {g : Globals} {w : W} {I : W → Prop}
  {H : Globals → W → Prop} {b : Build} {sn : ℕ}

section waits
variable {Q : Except ℤ Unit → Globals → W → Prop}

/-- A status in which send goes on. -/
def Sendable (sr : Byte) : Prop := sr = sockEstablished ∨ sr = sockCloseWait

lemma not_sendable {sr : Byte} : sr ≠ sockEstablished ∧ sr ≠ sockCloseWait ↔ ¬ Sendable sr := by
  simp [Sendable]

/-- What one look at Sn_IR, and at Sn_SR when it shows nothing, does to an outstanding SEND. -/
structure SentLook (env : Env Globals W Io Io.Res) (g : Globals) (sn : ℕ) (nonblocking : Bool)
    (I : W → Prop) (Q : Except ℤ Unit → Globals → W → Prop) : Prop where
  sendok : ∀ w x w₁ y w₂, I w → env g w (.read8 (Reg.snIR sn)) x w₁ → x.1 &&& snIrSendok ≠ 0 →
    env g w₁ (.write8 (Reg.snIR sn) snIrSendok) y w₂ → Q (.ok ()) (g.setSock sn Sock.notSending) w₂
  timeout : ∀ w x w₁ y w₂, I w → env g w (.read8 (Reg.snIR sn)) x w₁ → x.1 &&& snIrSendok = 0 →
    x.1 &&& snIrTimeout ≠ 0 → env g w₁ (.write8 (Reg.snIR sn) snIrTimeout) y w₂ →
    Q (.error sockerrTimeout) (g.setSock sn Sock.faulted) w₂
  status : ∀ w x w₁ y w₂, I w → env g w (.read8 (Reg.snIR sn)) x w₁ → x.1 &&& snIrSendok = 0 →
    x.1 &&& snIrTimeout = 0 → env g w₁ (.read8 (Reg.snSR sn)) y w₂ →
    (¬ Sendable y.1 → ∀ e, e = sockerrSockclosed ∨ e = sockerrSockstatus →
      Q (.error e) (g.setSock sn Sock.notSending) w₂) ∧
    (Sendable y.1 → I w₂ ∧ (nonblocking → Q (.error sockBusy) g w₂))

lemma wpg_sendWaitSent (ticks : Ticks env g I) (h : I w) {nonblocking : Bool} (d : ℕ)
    (look : SentLook env g sn nonblocking I Q)
    (late : ∀ w, I w → Q (.error sockerrTimeout) (g.setSock sn Sock.faulted) w)
    (stop : ∀ w, I w → H g w) : wpg env (sendWaitSent b sn nonblocking d) Q H g w := by
  simp only [sendWaitSent, wpv_bind]
  refine timed_waitPollInit.wpg ticks h fun p w hw => ?_
  refine wpg_pollLoop ticks hw (fun w hw => ?_) (fun w hw => ?_) stop
  · simp only [sentLook, wpv_bind, wpg_getSnIR, wpv_ite, wpg_setSnIR, wpg_modifySock, wpv_pure,
      markFaulted, wpg_getSnSR, mask_sendok, mask_timeout, sendok_mask, timeout_mask, looked_some,
      looked_none, ne_eq, not_not, not_sendable]
    intro x w₁ hx
    refine ⟨fun hs y w₂ => look.sendok w x w₁ y w₂ hw hx hs, fun hs => ⟨fun ht y w₂ => ?_, ?_⟩⟩
    · exact look.timeout w x w₁ y w₂ hw hx hs ht
    · intro ht y w₂ hy
      obtain ⟨out, on⟩ := look.status w x w₁ y w₂ hw hx hs ht hy
      refine ⟨fun hsr => out hsr _ ?_, fun hsr => ?_⟩
      · split
        · exact .inl rfl
        · exact .inr rfl
      · exact ⟨(on hsr).2, fun _ => ⟨trivial, (on hsr).1⟩⟩
  · simpa using late w hw

/-- What one look at Sn_TX_FSR and Sn_SR does to a send; `F v` holds from the last sample of
the size, which answered `v`, to the status read after it. -/
structure FreeLook (env : Env Globals W Io Io.Res) (g : Globals) (b : Build) (sn len : ℕ)
    (nonblocking : Bool) (I : W → Prop) (F : ℕ → W → Prop) (Q : Except ℤ Unit → Globals → W → Prop)
    (H : Globals → W → Prop) : Prop where
  sample : ∀ w x w₁, I w → env g w (.readBuf (Reg.snTXFSR sn) 2) x w₁ →
    (¬ (b.safeSpi ∧ x.2) → I w₁ ∧ F (word16 (getElem x.1 0 Nat.zero_lt_two) (getElem x.1 1 Nat.one_lt_two)) w₁) ∧
      (x.2 → Q (.error sockerrIo) g w₁)
  stay : ∀ v w y w₁, F v w → env g w (.read8 (Reg.snSR sn)) y w₁ → Sendable y.1 →
    I w₁ ∧ (len ≤ v → Q (.ok ()) g w₁) ∧ (nonblocking → Q (.error sockBusy) g w₁)
  left : ∀ v w y w₁, F v w → env g w (.read8 (Reg.snSR sn)) y w₁ → ¬ Sendable y.1 →
    Q (.error sockerrSockstatus) g w₁
  closed : ∀ v w y w₁, F v w → env g w (.read8 (Reg.snSR sn)) y w₁ → y.1 = sockClosed →
    wpg env (closeInternal b sn 0) (fun _ => Q (.error sockerrSockstatus)) H g w₁

lemma wpg_sendWaitFree {F : ℕ → W → Prop} (ticks : Ticks env g I) (h : I w) {len : ℕ}
    {nonblocking : Bool} (d : ℕ) (look : FreeLook env g b sn len nonblocking I F Q H)
    (late : ∀ e w, e = sockerrTimeout ∨ e = sockerrDeadline → I w → Q (.error e) g w)
    (stop : ∀ w, I w → H g w) : wpg env (sendWaitFree b sn len nonblocking d) Q H g w := by
  simp only [sendWaitFree, wpv_bind]
  refine timed_waitPollInit.wpg ticks h fun p w hw => ?_
  refine wpg_pollLoop ticks hw (fun w hw => ?_) (fun w hw => late _ w (.inl rfl) hw) stop
  simp only [freeLook, readSnTxFsr, getSnTXFSRStable, wpv_bind]
  refine wpg_stableSize ticks hw b _ (fun w x w₁ hw hx => ?_) (fun w hw => ?_) stop
  · obtain ⟨ok, failed⟩ := look.sample w x w₁ hw hx
    refine ⟨fun hok => ⟨(ok hok).1, ?_⟩, failed⟩
    simp only [wpv_bind, wpg_getSnSR, wpv_ite, wpv_pure, looked_some, looked_none, not_sendable]
    intro y w₂ hy
    refine ⟨fun hsr => ⟨fun hc => look.closed _ _ y w₂ (ok hok).2 hy hc, fun _ => ?_⟩, fun hsr => ?_⟩
    · exact look.left _ _ y w₂ (ok hok).2 hy hsr
    · obtain ⟨hw₂, fits, busy⟩ := look.stay _ _ y w₂ (ok hok).2 hy (not_not.1 hsr)
      exact ⟨fun hb => busy hb.1, fun _ => ⟨fits, fun _ => ⟨trivial, hw₂⟩⟩⟩
  · exact late _ w (.inr rfl) hw

end waits

section copy
variable {Q : Unit → Globals → W → Prop}

/-- A copy reads the write pointer, writes the payload there and moves the pointer past it. -/
lemma wpg_wizSendData (data : List Byte) (nothing : sockNum ≤ sn ∨ data = [] → Q () g w)
    (pointer : ¬ (sockNum ≤ sn ∨ data = []) → ∀ x w₁,
      env g w (.readBuf (Reg.snTXWR sn) 2) x w₁ → ∀ ptr,
      (ptr = word16 (getElem x.1 0 Nat.zero_lt_two) (getElem x.1 1 Nat.one_lt_two) ∧ ¬ (b.safeSpi ∧ x.2) ∨ ptr = 0 ∧ x.2) →
      ∀ y w₂, env g w₁ (.writeBuf ⟨ptr, .txBuf sn⟩ data) y w₂ →
      ∀ z w₃, env g w₂ (.writeBuf (Reg.snTXWR sn) (bytes16 ((ptr + data.length) % 65536))) z w₃ →
      Q () g w₃) :
    wpg env (wizSendData b sn data) Q H g w := by
  simp only [wizSendData, wpv_ite, wpv_bind, wpv_pure, getSnTXWR, setSnTXWR]
  refine ⟨nothing, fun hd => ?_⟩
  have hne : data ≠ [] := fun h => hd (.inr h)
  refine wpg_wizchipRead16Value b _ fun x w₁ hx => ⟨fun hok => ?_, fun hf => ?_⟩
  · simp only [wpg_wizchipWriteBuf]
    refine ⟨fun h => absurd h hne, fun _ y w₂ hy => ⟨fun h => absurd h (by simp [bytes16]), ?_⟩⟩
    exact fun _ => pointer hd x w₁ hx _ (.inl ⟨rfl, hok⟩) y w₂ hy
  · simp only [wpg_wizchipWriteBuf]
    refine ⟨fun h => absurd h hne, fun _ y w₂ hy => ⟨fun h => absurd h (by simp [bytes16]), ?_⟩⟩
    exact fun _ => pointer hd x w₁ hx _ (.inr ⟨rfl, hf⟩) y w₂ hy

end copy

end IoLibrary
