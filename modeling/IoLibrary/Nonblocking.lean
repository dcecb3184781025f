import IoLibrary.Calls
import IoLibrary.Effects.Results
import IoLibrary.Socket.DatagramRules

/-! The non-blocking mode: how often a call looks at the status of the socket before it returns,
and that it returns SOCK_BUSY while the peer is silent. -/
namespace IoLibrary.Nonblocking
open Effects

/-- The polls of Sn_SR and Sn_IR before a CLOSE is issued, and since the last one. -/
structure Polls where
  peer : ℕ
  closing : Option ℕ

def Polls.polled (w : Polls) : Polls :=
  match w.closing with
  | none => { w with peer := w.peer + 1 }
  | some n => { w with closing := some (n + 1) }

def Polls.after (sn : ℕ) (w : Polls) : Io → Polls
  | .read8 a => if a = Reg.snSR sn ∨ a = Reg.snIR sn then w.polled else w
  | .write8 a v => if a = Reg.snCR sn ∧ v = snCrClose then { w with closing := some 0 } else w
  | _ => w

/-- Any chip whose command register is clear at the first poll. -/
def Accepts (sn : ℕ) : (e : Io) → e.Res → Prop
  | .read8 a, x => a = Reg.snCR sn → x.1 = 0
  | _, _ => True

def accepting (sn : ℕ) : Env Globals Polls Io Io.Res := fun _ w e x w₁ =>
  Accepts sn e x ∧ w₁ = w.after sn e

/-- What a chip shows while its peer is silent: a status, and the sizes of its buffers. -/
structure Still where
  status : Byte
  free : BitVec 16
  received : BitVec 16

/-- Nothing changes and no event comes; commands are taken at once and no read fails. -/
def Still.Shows (c : Still) (sn : ℕ) : (e : Io) → e.Res → Prop
  | .read8 a, x => (a = Reg.snSR sn → x.1 = c.status) ∧ (a = Reg.snIR sn ∨ a = Reg.snCR sn → x.1 = 0)
  | .readBuf a len, x => x.2 = false ∧
      (a = Reg.snTXFSR sn → x.1 = frameBytes len (bytes16 c.free.toNat)) ∧
      (a = Reg.snRXRSR sn → x.1 = frameBytes len (bytes16 c.received.toNat))
  | _, _ => True

def still (sn : ℕ) (c : Still) : Env Globals Unit Io Io.Res := fun _ _ e x _ => c.Shows sn e x

/-- The destination of a sendto passes its checks. -/
def AddressOk (mode : Byte) (addr : Vector Byte 4) (port addrlen : ℕ) : Prop :=
  Datagram mode ∧ (mode ≠ snMrMacraw → addrlen = 4 ∧ mode ≠ snMrUdp6 ∧ mode ≠ snMrIpraw6) ∧
    (mode &&& 0x03 = 0x02 → port ≠ 0) ∧
    (mode &&& 0x0F ≠ snMrMacraw → mode &&& snMrMacraw ≠ snMrMacraw →
      addr.all (· = 0) = false ∧ port ≠ 0)

/-- The socket is one of a healthy connection. -/
structure Stream (sn : ℕ) (m : Driver) : Prop where
  number : sn < sockNum
  ready : m.chipState = .ready
  healthy : (m.sock sn).health ≠ .faulted
  budgets : m.deadlineConfigValid
  tcp : (m.sock sn).mode &&& 0x03 = 0x01

/-- The call passes its checks of the arguments, of the socket and of the deadline budgets. -/
def Begins (sn : ℕ) (m : Driver) : Op → Prop
  | .connect addr port addrlen => Stream sn m ∧ port ≠ 0 ∧ addrlen = 4 ∧
      ∃ a, addr = some a ∧ ¬ (a.all (· = 0xFF) ∨ a.all (· = 0))
  | .disconnect => Stream sn m
  | .send len buf => Stream sn m ∧ len ≠ 0 ∧ buf ≠ none
  | .recv buf len => Stream sn m ∧ len ≠ 0 ∧ buf = true
  | .sendto len buf addr port addrlen => sn < sockNum ∧ len ≠ 0 ∧ buf ≠ none ∧
      (m.sock sn).txState ≠ .localFault ∧ (m.sock sn).health ≠ .faulted ∧ m.deadlineConfigValid ∧
      ((m.sock sn).txState ≠ .dgramPending → AddressOk (m.sock sn).mode addr port addrlen)
  | .recvfrom buf len _ => sn < sockNum ∧ len ≠ 0 ∧ buf = true ∧ (m.sock sn).health ≠ .faulted ∧
      m.deadlineConfigValid ∧ Datagram (m.sock sn).mode
  | _ => False

/-- The statuses of an open datagram socket. -/
def Open (sr : Byte) : Prop := sr = sockMacraw ∨ sr = sockUdp ∨ sr = sockIpraw

/-- What the call is for has not happened, and cannot while the chip shows `c`. -/
def Pending (sn : ℕ) (g : Globals) (c : Still) : Op → Prop
  | .connect _ _ _ => c.status = sockInit
  | .disconnect => c.status ≠ sockClosed
  | .send len _ => Sendable c.status ∧
      ((g.sock sn).isSending ∨ c.free.toNat < min len (g.txmaxCache sn))
  | .recv _ _ => c.received = 0 ∧ (c.status = sockEstablished ∨
      c.status = sockCloseWait ∧ c.free.toNat ≠ g.txmaxCache sn)
  | .sendto _ _ _ _ _ => (g.sock sn).txState = .dgramPending ∨
      if (g.sock sn).mode &&& 0x0F = snMrMacraw then c.status ≠ sockClosed else Open c.status
  | .recvfrom _ _ _ => (g.sock sn).remainedSize = 0 ∧ c.received = 0 ∧ c.status ≠ sockClosed
  | _ => False

/-- The polls of a call whose waits do not look twice, but for the wait of its CLOSE. -/
structure Polls.Few (w : Polls) : Prop where
  peer : w.peer ≤ 4
  closing : ∀ n, w.closing = some n → n ≤ pollMax

/-- The call looks at the status a fixed number of times whatever the peer does, and returns
SOCK_BUSY while what it is for has not happened. -/
structure Prompt (b : Build) (sn : ℕ) (op : Op) (m : Driver) : Prop where
  polls : ∀ r m' w', Eval ((accepting sn).along Driver.toGlobals) (op.run b sn) m ⟨0, none⟩ r m' w' →
    w'.Few
  busy : ∀ c, Begins sn m op → Pending sn m.toGlobals c op → ∀ r m' w',
    Eval ((still sn c).along Driver.toGlobals) (op.run b sn) m () r m' w' → r = some sockBusy

/-- The operations of the non-blocking mode. -/
def Transfers : Op → Prop
  | .connect _ _ _ | .disconnect | .send _ _ | .recv _ _ | .sendto _ _ _ _ _ | .recvfrom _ _ _ => True
  | _ => False

/-- The operations with a wait that does not look at the mode. -/
def Waits : Op → Prop
  | .connect _ _ _ | .disconnect | .recv _ _ => True
  | _ => False

section once
variable {W : Type} {env : Env Globals W Io Io.Res} {g : Globals} {w : W} {I : W → Prop}
  {H : Globals → W → Prop} {b : Build} {sn : ℕ}

/-- The calls that neither poll a register nor write one, within a lock. -/
def Plain : Io → Prop
  | .readBuf _ _ | .writeBuf _ _ | .now | .wait => True
  | _ => False

def Keeps (env : Env Globals W Io Io.Res) (g : Globals) (I : W → Prop) : Prop :=
  ∀ w e x w₁, Plain e → I w → env g w e x w₁ → I w₁

lemma Keeps.ticks (keeps : Keeps env g I) : Ticks env g I := by
  intro w e x w₁ he
  have plain : Plain e := by
    rcases he with rfl | rfl
    · trivial
    · trivial
  exact keeps w e x w₁ plain

lemma Keeps.read (keeps : Keeps env g I) {a : Addr} {len : ℕ} {w₁ : W} {x} (h : I w)
    (hx : env g w (.readBuf a len) x w₁) : I w₁ := keeps w (.readBuf a len) x w₁ trivial h hx

lemma Keeps.write (keeps : Keeps env g I) {a : Addr} {data : List Byte} {w₁ : W} {x} (h : I w)
    (hx : env g w (.writeBuf a data) x w₁) : I w₁ := keeps w (.writeBuf a data) x w₁ trivial h hx

lemma wpg_writeBuf_keep {Q : Unit → Globals → W → Prop} (keeps : Keeps env g I) (h : I w) (a : Addr)
    (data : List Byte) (next : ∀ w, I w → Q () g w) : wpg env (wizchipWriteBuf b a data) Q H g w :=
  (wpg_wizchipWriteBuf b a data).2 ⟨fun _ => next w h, fun _ _ w₁ hx => next w₁ (keeps.write h hx)⟩

lemma wpg_setSnDPORT_keep {Q : Unit → Globals → W → Prop} (keeps : Keeps env g I) (h : I w) (port : ℕ)
    (next : ∀ w, I w → Q () g w) : wpg env (setSnDPORT b sn port) Q H g w := by
  simp only [setSnDPORT, wizchipWrite16, wpv_bind, wpv_pure, wpg_wizchipWriteBufChecked]
  exact ⟨fun _ => next w h, fun _ _ w₁ hx => next w₁ (keeps.write h hx)⟩

lemma wpg_wizSendData_keep {Q : Unit → Globals → W → Prop} (keeps : Keeps env g I) (h : I w)
    (data : List Byte) (next : ∀ w, I w → Q () g w) : wpg env (wizSendData b sn data) Q H g w := by
  refine wpg_wizSendData data (fun _ => next w h) ?_
  intro _ x w₁ hx ptr _ y w₂ hy z w₃ hz
  exact next w₃ (keeps.write (keeps.write (keeps.read h hx) hy) hz)

lemma wpg_wizRecvData_keep {Q : List Byte → Globals → W → Prop} (keeps : Keeps env g I) (h : I w)
    (len : ℕ) (next : ∀ data w, I w → Q data g w) : wpg env (wizRecvData b sn len) Q H g w := by
  have rest (ptr : ℕ) {w : W} (hw : I w) : wpg env (do
      let data ← wizchipReadBuf b ⟨ptr, .rxBuf sn⟩ len
      setSnRXRD b sn ((ptr + len) % 65536)
      return data) Q H g w := by
    simp only [wpv_bind, wpg_wizchipReadBuf, setSnRXRD, wpv_pure]
    refine ⟨fun _ => ?_, fun _ x w₁ hx => ?_⟩
    · exact wpg_writeBuf_keep keeps hw _ _ fun w hw => next _ w hw
    · exact wpg_writeBuf_keep keeps (keeps.read hw hx) _ _ fun w hw => next _ w hw
  simp only [wizRecvData, wpv_ite, wpv_pure, getSnRXRD]
  refine ⟨fun _ => next _ w h, fun _ => (wpv_bind _ _).2 ?_⟩
  refine wpg_wizchipRead16Value b _ fun x w₁ hx => ⟨fun _ => ?_, fun _ => ?_⟩
  · exact rest _ (keeps.read h hx)
  · exact rest _ (keeps.read h hx)

lemma wpg_stableSize_keep {Q : Except ℤ ℕ → Globals → W → Prop} (keeps : Keeps env g I) (h : I w)
    (a : Addr) (next : ∀ r w, I w → Q r g w) (stop : ∀ w, I w → H g w) :
    wpg env (stableSize b a) Q H g w := by
  refine wpg_stableSize keeps.ticks h b a (fun w x w₁ hw hx => ?_) (fun w hw => next _ w hw) stop
  have hw₁ := keeps.read hw hx
  exact ⟨fun _ => ⟨hw₁, next _ w₁ hw₁⟩, fun _ => next _ w₁ hw₁⟩

/-- A wait that a first look ends. -/
lemma wpg_wait_first {α : Type} {Q : α → Globals → W → Prop} (keeps : Keeps env g I) (h : I w) (d : ℕ)
    {look : Drv (Option α)} {expired : Drv α}
    (first : ∀ w, I w → wpg env look (fun r g w => ∃ a, r = some a ∧ Q a g w) H g w) :
    wpg env (do
      let poll ← waitPollInit
      pollLoop b d poll look expired) Q H g w :=
  (wpv_bind _ _).2 (timed_waitPollInit.wpg keeps.ticks h fun _ w hw => wpg_pollLoop_first (first w hw))

lemma wpg_waitCrAccepted_first {Q : ℤ → Globals → W → Prop} (keeps : Keeps env g I) (h : I w) (d : ℕ)
    (taken : ∀ w x w₁, I w → env g w (.read8 (Reg.snCR sn)) x w₁ → x.1 = 0 ∧ Q sockOk g w₁) :
    wpg env (waitCrAccepted b sn d) Q H g w := by
  refine wpg_wait_first keeps h d fun w hw => ?_
  simp only [waitRegister.look, wpv_bind, wpg_wizchipRead, wpv_ite, wpv_pure]
  intro x w₁ hx
  obtain ⟨hzero, hQ⟩ := taken w x w₁ hw hx
  exact ⟨fun _ => ⟨_, rfl, hQ⟩, fun hne => absurd hzero hne⟩

lemma wpg_waitDatagramCrAccepted_first {Q : ℤ → Globals → W → Prop} (t : ℕ) (nonblocking : Bool)
    (taken : ∀ x w₁, env g w (.read8 (Reg.snCR sn)) x w₁ → x.1 = 0 ∧ Q sockOk g w₁) :
    wpg env (waitDatagramCrAccepted b sn t nonblocking) Q H g w := by
  simp only [waitDatagramCrAccepted, wpv_bind, wpg_crOrTimeoutLook]
  intro x w₁ hx
  obtain ⟨hzero, hQ⟩ := taken x w₁ hx
  exact ⟨fun _ => hQ, fun hne => absurd hzero hne⟩

/-- The address phase of sendto looks at the status at most once. -/
lemma wpg_sendtoAddress_exact {Q : Except ℤ Unit → Globals → W → Prop} {J : W → Prop}
    (keeps : Keeps env g I) (keepsJ : Keeps env g J) (h : I w) (mode : Byte) (addr : Vector Byte 4)
    (port addrlen : ℕ)
    (refused : ¬ AddressOk mode addr port addrlen → ∀ e w, I w → Q (.error e) g w)
    (macraw : mode &&& 0x0F = snMrMacraw → ∀ w, I w → Q (.ok ()) g w)
    (status : mode &&& 0x0F ≠ snMrMacraw → ∀ w x w₁, I w → env g w (.read8 (Reg.snSR sn)) x w₁ →
      J w₁ ∧ (¬ Open x.1 → Q (.error sockerrSockstatus) g w₁))
    (ok : ∀ w, J w → Q (.ok ()) g w) :
    wpg env (sendtoAddress b sn mode addr port addrlen) Q H g w := by
  have statusCheck {w : W} (hw : I w) :
      wpg env (sendtoAddress.statusCheck b sn mode addr port (mode &&& 0x0F)) Q H g w := by
    simp only [sendtoAddress.statusCheck, wpv_ite, wpv_bind, wpv_pure, wpg_getSnSR]
    refine ⟨fun hm => macraw hm w hw, fun hm => ⟨fun hz => ?_, fun _ => ⟨fun hp => ?_, fun _ => ?_⟩⟩⟩
    · refine refused (fun hok => ?_) _ w hw
      rw [(hok.2.2.2 hm hz.2).1] at hz
      exact Bool.false_ne_true hz.1
    · exact refused (fun hok => (hok.2.2.2 hm hp.2).2 hp.1) _ w hw
    · intro x w₁ hx
      obtain ⟨hw₁, hstatus⟩ := status hm w x w₁ hw hx
      refine ⟨fun hnot => hstatus (by simp only [Open]; tauto), fun _ => ?_⟩
      refine wpg_writeBuf_keep keepsJ hw₁ _ _ fun w hw => ?_
      exact wpg_setSnDPORT_keep keepsJ hw port ok
  have portCheck {w : W} (hw : I w) :
      wpg env (sendtoAddress.portCheck b sn mode addr port (mode &&& 0x0F)) Q H g w := by
    simp only [sendtoAddress.portCheck, wpv_ite, wpv_bind, wpv_pure]
    refine ⟨fun hudp => ⟨fun _ => ?_, fun hz => ?_⟩, fun _ => statusCheck hw⟩
    · exact wpg_setSnDPORT_keep keeps hw port fun w hw => statusCheck hw
    · exact refused (fun hok => hz (hok.2.2.1 hudp)) _ w hw
  simp only [sendtoAddress, wpv_ite, wpv_bind, wpv_pure]
  refine ⟨fun hnot => ?_, fun _ => ⟨fun hne => ⟨fun h16 => ?_, fun _ => ⟨fun _ => ?_, fun h4 => ?_⟩⟩,
    fun _ => portCheck h⟩⟩
  · refine refused (fun hok => ?_) _ w h
    obtain ⟨hd, -⟩ := hok
    simp only [Datagram] at hd
    tauto
  · refine refused (fun hok => ?_) _ w h
    rw [(hok.2.1 hne).1] at h16
    exact absurd h16 (by decide)
  · refine ⟨fun h6 => refused (fun hok => ?_) _ w h, fun _ => ?_⟩
    · exact h6.elim (hok.2.1 hne).2.1 (hok.2.1 hne).2.2
    · exact wpg_writeBuf_keep keeps h _ _ fun w hw => portCheck hw
  · exact refused (fun hok => h4 (hok.2.1 hne).1) _ w h

end once

section polls
variable {b : Build} {sn : ℕ} {g : Globals} {w w₁ : Polls} {n : ℕ}

/-- No CLOSE has been issued, and the status was polled at most `n` times. -/
def Before (n : ℕ) (w : Polls) : Prop := w.closing = none ∧ w.peer ≤ n

lemma Before.mono {n' : ℕ} (h : Before n w) (hle : n ≤ n') : Before n' w := ⟨h.1, h.2.trans hle⟩

lemma Before.few (h : Before n w) (hn : n ≤ 4) : w.Few :=
  ⟨h.2.trans hn, fun k hk => absurd (h.1.symm.trans hk) (Option.some_ne_none k).symm⟩

lemma Before.polled (h : Before n w) : Before (n + 1) w.polled := by
  obtain ⟨hnone, hle⟩ := h
  simp only [Polls.polled, hnone]
  exact ⟨rfl, Nat.succ_le_succ hle⟩

lemma after_snSR : w.after sn (.read8 (Reg.snSR sn)) = w.polled := by simp [Polls.after]

lemma after_snIR : w.after sn (.read8 (Reg.snIR sn)) = w.polled := by simp [Polls.after]

lemma after_snCR : w.after sn (.read8 (Reg.snCR sn)) = w := by
  simp [Polls.after, Reg.snCR, Reg.snSR, Reg.snIR]

lemma after_command {v : Byte} (hv : v ≠ snCrClose) : w.after sn (.write8 (Reg.snCR sn) v) = w := by
  simp [Polls.after, hv]

lemma after_close : w.after sn (.write8 (Reg.snCR sn) snCrClose) = { w with closing := some 0 } := by
  simp [Polls.after]

lemma after_event (v : Byte) : w.after sn (.write8 (Reg.snIR sn) v) = w := by
  simp [Polls.after, Reg.snCR, Reg.snIR]

lemma keeps_any (I : Polls → Prop) : Keeps (accepting sn) g I := by
  intro w e x w₁ he hw hx
  have same : w₁ = w := by
    cases e with
    | readBuf | writeBuf | now | wait => exact hx.2
    | _ => exact he.elim
  exact same ▸ hw

lemma before_status {x : Byte × Bool} (h : Before n w)
    (hx : accepting sn g w (.read8 (Reg.snSR sn)) x w₁) : Before (n + 1) w₁ := by
  rw [hx.2, after_snSR]
  exact h.polled

lemma before_ir {x : Byte × Bool} (h : Before n w)
    (hx : accepting sn g w (.read8 (Reg.snIR sn)) x w₁) : Before (n + 1) w₁ := by
  rw [hx.2, after_snIR]
  exact h.polled

lemma before_event {v : Byte} {x : Bool} (h : Before n w)
    (hx : accepting sn g w (.write8 (Reg.snIR sn) v) x w₁) : Before n w₁ := by
  rw [hx.2, after_event]
  exact h

lemma before_command {v : Byte} {x : Bool} (hv : v ≠ snCrClose) (h : Before n w)
    (hx : accepting sn g w (.write8 (Reg.snCR sn) v) x w₁) : Before n w₁ := by
  rw [hx.2, after_command hv]
  exact h

lemma taken_any {I : Polls → Prop} {x : Byte × Bool} (h : I w)
    (hx : accepting sn g w (.read8 (Reg.snCR sn)) x w₁) : x.1 = 0 ∧ I w₁ := by
  rw [hx.2, after_snCR]
  exact ⟨hx.1 rfl, h⟩

/-- `k` polls since the CLOSE. -/
def Closing (k : ℕ) (w : Polls) : Prop := w.peer ≤ 4 ∧ w.closing = some k

lemma Closing.few {k : ℕ} (h : Closing k w) (hk : k ≤ pollMax) : w.Few := by
  refine ⟨h.1, fun n hn => ?_⟩
  rw [h.2] at hn
  exact Option.some.inj hn ▸ hk

lemma Closing.polled {k : ℕ} (h : Closing k w) : Closing (k + 1) w.polled := by
  simp only [Polls.polled, h.2]
  exact ⟨h.1, rfl⟩

/-- The wait for SOCK_CLOSED counts its polls, the first of them `0`. -/
lemma few_waitSrReached (h : Closing 0 w) (d : ℕ) :
    wpg (accepting sn) (waitSrReached b sn sockClosed d)
      (fun _ g' w' => (∃ f, g' = g.setSock sn f) ∧ w'.Few) (fun _ w' => w'.Few) g w := by
  have same : ∃ f, g = g.setSock sn f := ⟨id, by simp [Globals.setSock]⟩
  simp only [waitSrReached, waitRegister, waitPollInit, wpv_bind, wpv_pure]
  refine timed_timeNow.wpg (keeps_any _).ticks h fun now w hw => ?_
  refine wpg_pollLoop_counted (C := Closing) (fun _ => (keeps_any _).ticks) hw (show 0 < pollMax by decide)
    (fun k w hk hw => ?_) (fun k w hk hw => ?_) fun k w hk hw => hw.few hk.le
  · simp only [waitRegister.look, wpv_bind, wpg_wizchipRead, wpv_ite, wpv_pure, looked_some,
      looked_none]
    rintro x w₁ ⟨-, rfl⟩
    have hw₁ : Closing (k + 1) (w.after sn (.read8 (Reg.snSR sn))) := by
      rw [after_snSR]
      exact hw.polled
    exact ⟨fun _ => ⟨same, hw₁.few hk⟩, fun _ => ⟨trivial, hw₁⟩⟩
  · exact wpg_faultedTimeout.2 ⟨⟨_, rfl⟩, hw.few hk⟩

lemma few_closeInternal {Q : ℤ → Globals → Polls → Prop} (hsn : sn < sockNum) (h : Before 3 w)
    (d : ℕ) (next : ∀ r g w, w.Few → Q r g w) :
    wpg (accepting sn) (closeInternal b sn d) Q (fun _ w' => w'.Few) g w := by
  have same : ∃ f, g = g.setSock sn f := ⟨id, by simp [Globals.setSock]⟩
  refine wpg_closeInternal (P := fun _ w => w.Few) (keeps_any _).ticks h hsn d (fun d w hw => ?_)
    (fun _ w hw => hw.few (by decide)) fun r w hw => next _ _ w hw
  simp only [closeCommand, wpv_bind, wpv_get, wpv_ite, wpv_pure, wpg_getSnSR, wpg_setSnCR, wpg_setSnIR]
  rintro m rfl
  refine ⟨fun _ => ⟨same, hw.few (by decide)⟩, fun _ x w₁ hx => ?_⟩
  have hw₁ := before_status hw hx
  refine ⟨fun _ => ⟨same, hw₁.few le_rfl⟩, ?_⟩
  rintro - y _ ⟨-, rfl⟩
  rw [after_close]
  have hclosing : Closing 0 { w₁ with closing := some 0 } := ⟨hw₁.2, rfl⟩
  refine wpg_waitCrAccepted_first (keeps_any _) hclosing d fun w x w₁ hw hx => ?_
  obtain ⟨hzero, hw₁⟩ := taken_any hw hx
  refine ⟨hzero, fun hne => absurd rfl hne, ?_⟩
  intro _ z w₂ hz
  rw [hz.2, after_event]
  exact few_waitSrReached hw₁ d

/-- The wait for the end of the previous SEND, as send passes it. -/
lemma few_sendWaitSent (hio : (g.sock sn).ioMode = true) (h : Before 1 w) (d : ℕ) :
    wpg (accepting sn) (sendWaitSent b sn true d)
      (fun r g' w' => w'.Few ∧ (r = .ok () → Before 2 w' ∧ (g'.sock sn).ioMode = true))
      (fun _ w' => w'.Few) g w := by
  refine wpg_wait_first (keeps_any _) h d fun w hw => ?_
  simp only [sentLook, markFaulted, wpv_bind, wpg_getSnIR, wpv_ite, wpg_setSnIR, wpg_modifySock,
    wpv_pure, wpg_getSnSR]
  intro x w₁ hx
  have hw₁ := before_ir hw hx
  refine ⟨fun _ y w₂ hy => ?_, fun _ => ⟨fun _ y w₂ hy => ?_, fun _ y w₂ hy => ?_⟩⟩
  · have hw₂ := before_event hw₁ hy
    refine ⟨_, rfl, hw₂.few (by decide), fun _ => ⟨hw₂, ?_⟩⟩
    rw [Globals.setSock_same]
    exact hio
  · exact ⟨_, rfl, (before_event hw₁ hy).few (by decide), by rintro ⟨⟩⟩
  · have hw₂ := (before_status hw₁ hy).few (by decide)
    exact ⟨fun _ => ⟨_, rfl, hw₂, by rintro ⟨⟩⟩, fun _ => ⟨fun _ => ⟨_, rfl, hw₂, by rintro ⟨⟩⟩, fun h => absurd trivial h⟩⟩

/-- The wait for free space: a size that does not fit ends it too. -/
lemma few_sendWaitFree (hsn : sn < sockNum) (h : Before 2 w) (len d : ℕ) :
    wpg (accepting sn) (sendWaitFree b sn len true d)
      (fun r _ w' => w'.Few ∧ (r = .ok () → Before 3 w')) (fun _ w' => w'.Few) g w := by
  refine wpg_wait_first (keeps_any _) h d fun w hw => ?_
  refine (wpv_bind _ _).2 (wpg_stableSize_keep (keeps_any (Before 2)) hw _ (fun r w hw => ?_)
    fun w hw => hw.few (by decide))
  cases r with
  | error e => exact ⟨_, rfl, hw.few (by decide), by rintro ⟨⟩⟩
  | ok freesize =>
    simp only [wpv_bind, wpg_getSnSR, wpv_ite, wpv_pure]
    intro x w₁ hx
    have hw₁ := before_status hw hx
    have few := hw₁.few (by decide)
    refine ⟨fun _ => ⟨fun _ => ?_, fun _ => ⟨_, rfl, few, by rintro ⟨⟩⟩⟩, fun _ => ⟨fun _ => ?_, fun hfits => ?_⟩⟩
    · exact few_closeInternal hsn hw₁ 0 fun _ _ w hw => ⟨_, rfl, hw, by rintro ⟨⟩⟩
    · exact ⟨_, rfl, few, by rintro ⟨⟩⟩
    · refine ⟨fun _ => ⟨_, rfl, few, fun _ => hw₁⟩, fun hnot => ?_⟩
      exact absurd (Nat.le_of_not_lt fun hlt => hfits ⟨trivial, hlt⟩) hnot

lemma few_sendCommand (h : Before 3 w) (len commandTimeoutUs : ℕ) :
    wpg (accepting sn) (sendCommand b sn len commandTimeoutUs) (fun _ _ w' => w'.Few)
      (fun _ w' => w'.Few) g w := by
  simp only [sendCommand, markFaulted, wpv_bind, wpg_setSnCR, wpv_ite, wpg_modifySock, wpv_pure]
  intro x w₁ hx
  have hw₁ := before_command (show snCrSend ≠ snCrClose by decide) h hx
  refine (timed_deadlineAbs _).wpg (keeps_any _).ticks hw₁ fun d w hw => ?_
  refine wpg_waitCrAccepted_first (keeps_any _) hw d fun w x w₁ hw hx => ?_
  obtain ⟨hzero, hw₁⟩ := taken_any hw hx
  exact ⟨hzero, fun hne => absurd rfl hne, fun _ => hw₁.few (by decide)⟩

lemma few_sendReady (hsn : sn < sockNum) (hio : (g.sock sn).ioMode = true) (h : Before 2 w)
    (buf : List Byte) (len : ℕ) :
    wpg (accepting sn) (sendReady b sn buf len) (fun _ _ w' => w'.Few) (fun _ w' => w'.Few) g w := by
  refine (wpv_bind _ _).2 (wpv_get.2 ?_)
  rintro m rfl
  rw [hio]
  refine (wpv_bind _ _).2 ((timed_deadlineAbs _).wpg (keeps_any _).ticks h fun d w hw => ?_)
  refine (wpv_bind _ _).2 (wpv_mono (few_sendWaitFree hsn hw _ d) ?_ fun _ _ => id)
  rintro r g' w' ⟨few, fits⟩
  cases r with
  | error e => exact few
  | ok u =>
    refine (wpv_bind _ _).2 (wpg_wizSendData_keep (keeps_any _) (fits rfl) _ fun w hw => ?_)
    exact few_sendCommand hw _ _

lemma few_sendLocked (hsn : sn < sockNum) (hio : (g.sock sn).ioMode = true) (h : Before 0 w)
    (buf : List Byte) (len : ℕ) :
    wpg (accepting sn) (sendLocked b sn buf len) (fun _ _ w' => w'.Few) (fun _ w' => w'.Few) g w := by
  simp only [sendLocked, wpv_bind, wpv_get, wpv_ite, wpv_pure, wpg_getSnSR]
  rintro m rfl
  have few := h.few (by decide)
  refine ⟨fun _ => few, fun _ => ⟨fun _ => few, fun _ => ⟨fun _ => few, fun _ x w₁ hx => ?_⟩⟩⟩
  have hw₁ := before_status h hx
  refine ⟨fun _ => hw₁.few (by decide), fun _ => ⟨fun _ => ?_, fun _ => ?_⟩⟩
  · refine (timed_deadlineAbs _).wpg (keeps_any _).ticks hw₁ fun d w hw => ?_
    rw [hio]
    refine wpv_mono (few_sendWaitSent hio hw d) ?_ fun _ _ => id
    rintro r g' w' ⟨few, sent⟩
    cases r with
    | error e => exact few
    | ok u =>
      obtain ⟨hw', hio'⟩ := sent rfl
      exact few_sendReady hsn hio' hw' _ _
  · exact few_sendReady hsn hio (hw₁.mono (by decide)) _ _

/-- sendto looks at the status at most once before its wait for free space. -/
lemma few_sendtoAddress (h : Before 0 w) (mode : Byte) (addr : Vector Byte 4) (port addrlen : ℕ) :
    wpg (accepting sn) (sendtoAddress b sn mode addr port addrlen) (fun _ g' w' => g' = g ∧ Before 1 w')
      (fun _ w' => w'.Few) g w := by
  refine wpg_sendtoAddress_exact (J := Before 1) (keeps_any _) (keeps_any _) h mode addr port addrlen
    (fun _ _ w hw => ⟨rfl, hw.mono (by decide)⟩) (fun _ w hw => ⟨rfl, hw.mono (by decide)⟩) ?_
    fun w hw => ⟨rfl, hw⟩
  exact fun _ w x w₁ hw hx => ⟨before_status hw hx, fun _ => ⟨rfl, before_status hw hx⟩⟩

lemma few_sendtoWaitFree (h : Before 1 w) (len : ℕ) (isMacraw : Bool) (t : ℕ) :
    wpg (accepting sn) (sendtoWaitFree b sn len isMacraw true t) (fun _ g' w' => g' = g ∧ Before 2 w')
      (fun _ w' => w'.Few) g w := by
  simp only [sendtoWaitFree, wpv_ite, wpv_bind, wpv_pure, wpg_getSnSR]
  refine ⟨fun _ x w₁ hx => ⟨trivial, before_status h hx⟩, fun _ => ?_⟩
  refine (timed_deadlineAbs t).wpg (keeps_any _).ticks h fun d w hw => ?_
  refine (wpv_bind _ _).1 (wpg_wait_first (keeps_any _) hw d fun w hw => ?_)
  refine (wpv_bind _ _).2 (wpg_stableSize_keep (keeps_any (Before 1)) hw _ (fun r w hw => ?_)
    fun w hw => hw.few (by decide))
  cases r with
  | error e => exact ⟨_, rfl, rfl, hw.mono (by decide)⟩
  | ok freesize =>
    simp only [wpv_bind, wpg_getSnSR, wpv_ite, wpv_pure]
    intro x w₁ hx
    have ends {r : Except ℤ Unit} : ∃ a, some r = some a ∧ True ∧ Before 2 w₁ :=
      ⟨_, rfl, trivial, before_status hw hx⟩
    exact ⟨fun _ => ends, fun _ => ⟨fun _ => ends, fun _ => ⟨fun _ => ends, fun h => absurd trivial h⟩⟩⟩

lemma few_sendtoCommit (h : Before 2 w) (data : List Byte) :
    wpg (accepting sn) (sendtoCommit b sn data true) (fun _ _ w' => w'.Few) (fun _ w' => w'.Few) g w := by
  simp only [sendtoCommit, setTxState, wpv_bind, wpg_setSnIR, wpg_setSnCR, wpv_get]
  intro x w₁ hx
  refine wpg_wizSendData_keep (keeps_any _) (before_event h hx) data fun w hw => ?_
  intro y w₁ hy
  have hw₁ := before_command (show snCrSend ≠ snCrClose by decide) hw hy
  rintro m rfl
  refine wpg_sockDeadlineBegin (keeps_any _).ticks hw₁ _ (fun _ d w hw => ?_) fun _ => ?_
  · simp only [wpv_bind, wpv_ite, wpg_modifySock, wpv_pure]
    refine wpg_waitCrAccepted_first (keeps_any _) hw d fun w x w₁ hw hx => ?_
    obtain ⟨hzero, hw₁⟩ := taken_any hw hx
    have few := hw₁.few (by decide)
    exact ⟨hzero, fun _ => few, fun _ => ⟨fun _ => few, fun h => absurd trivial h⟩⟩
  · simp only [wpv_bind, wpg_modifySock, wpv_pure]
    exact hw₁.few (by decide)

lemma few_sendtoLocked (hio : (g.sock sn).ioMode = true) (h : Before 0 w) (buf : List Byte) (len : ℕ)
    (addr : Vector Byte 4) (port addrlen : ℕ) :
    wpg (accepting sn) (sendtoLocked b sn buf len addr port addrlen) (fun _ _ w' => w'.Few)
      (fun _ w' => w'.Few) g w := by
  simp only [sendtoLocked, wpv_bind, wpv_get, wpv_ite, wpv_pure]
  rintro m rfl
  have few := h.few (by decide)
  refine ⟨fun _ => few, fun _ => ⟨fun _ => few, fun _ => ⟨fun _ => few, fun _ => ⟨fun _ => ?_, fun _ => ?_⟩⟩⟩⟩
  · refine wpg_sendtoPending.2 fun x w₁ hx => ?_
    have hw₁ := before_ir h hx
    refine ⟨fun _ y w₂ hy => ?_, fun _ _ y w₂ hy => ?_, fun _ _ => hw₁.few (by decide)⟩
    · exact (before_event hw₁ hy).few (by decide)
    · exact (before_event hw₁ hy).few (by decide)
  · refine (wpv_bind _ _).2 (wpv_get.2 fun m' hm' => ?_)
    refine (wpv_bind _ _).2 (wpv_mono (few_sendtoAddress h _ addr port addrlen) ?_ fun _ _ => id)
    rintro r _ w' ⟨rfl, hw'⟩
    cases r with
    | error e => exact hw'.few (by decide)
    | ok u =>
      rw [hm', hio]
      refine (wpv_bind _ _).2 (wpv_mono (few_sendtoWaitFree hw' _ _ _) ?_ fun _ _ => id)
      rintro r _ w' ⟨rfl, hw'⟩
      cases r with
      | error e => exact hw'.few (by decide)
      | ok u => exact few_sendtoCommit hw' _

lemma few_recvfromWait (h : Before 0 w) (d : ℕ) :
    wpg (accepting sn) (recvfromWait b sn true d) (fun _ g' w' => g' = g ∧ Before 1 w')
      (fun _ w' => w'.Few) g w := by
  refine wpg_wait_first (keeps_any _) h d fun w hw => ?_
  refine (wpv_bind _ _).2 (wpg_stableSize_keep (keeps_any (Before 0)) hw _ (fun r w hw => ?_)
    fun w hw => hw.few (by decide))
  cases r with
  | error e => exact ⟨_, rfl, rfl, hw.mono (by decide)⟩
  | ok packLen =>
    simp only [wpv_bind, wpg_getSnSR, wpv_ite, wpv_pure]
    intro x w₁ hx
    have ends {r : Except ℤ ℕ} : ∃ a, some r = some a ∧ True ∧ Before 1 w₁ :=
      ⟨_, rfl, trivial, before_status hw hx⟩
    exact ⟨fun _ => ends, fun _ => ⟨fun _ => ends, fun _ => ⟨fun _ => ends, fun h => absurd trivial h⟩⟩⟩

lemma few_recvfromFinish (h : Before 1 w) (packLen : ℕ) (nonblocking : Bool) (out : Received) :
    wpg (accepting sn) (recvfromFinish b sn packLen nonblocking out) (fun _ _ w' => w'.Few)
      (fun _ w' => w'.Few) g w := by
  simp only [recvfromFinish, wpv_bind, wpg_setSnCR, wpv_get, wpv_ite, wpg_modifySock, wpv_pure]
  intro x w₁ hx m _
  have hw₁ := before_command (show snCrRecv ≠ snCrClose by decide) h hx
  refine wpg_waitDatagramCrAccepted_first _ nonblocking fun y w₂ hy => ?_
  obtain ⟨hzero, hw₂⟩ := taken_any hw₁ hy
  exact ⟨hzero, fun _ => hw₂.few (by decide), fun _ => hw₂.few (by decide)⟩

lemma few_recvfromChunk (h : Before 1 w) (len : ℕ) (nonblocking : Bool) (out : Received) :
    wpg (accepting sn) (recvfromChunk b sn len nonblocking out) (fun _ _ w' => w'.Few)
      (fun _ w' => w'.Few) g w := by
  refine (wpv_bind _ _).2 (wpv_get.2 fun m hm => (wpv_bind _ _).2 ?_)
  exact wpg_wizRecvData_keep (keeps_any _) h _ fun data w hw => few_recvfromFinish hw _ _ _

lemma few_recvHeader {Q : ℤ × List Byte → Globals → Polls → Prop} (h : Before 1 w) (n : ℕ)
    (nonblocking : Bool) (next : ∀ r w, Before 1 w → Q r g w) :
    wpg (accepting sn) (recvHeader b sn n nonblocking) Q (fun _ w' => w'.Few) g w := by
  simp only [recvHeader, wpv_bind, wpv_get]
  intro m _
  refine wpg_wizRecvData_keep (keeps_any _) h n fun head w hw => ?_
  simp only [wpg_setSnCR]
  intro x w₁ hx
  have hw₁ := before_command (show snCrRecv ≠ snCrClose by decide) hw hx
  refine wpg_waitDatagramCrAccepted_first _ nonblocking fun y w₂ hy => ?_
  obtain ⟨hzero, hw₂⟩ := taken_any hw₁ hy
  exact ⟨hzero, next _ w₂ hw₂⟩

/-- A packet is read without a look at the status, but a bad length closes the socket. -/
lemma few_recvfromPacket (hsn : sn < sockNum) (h : Before 1 w) (len packLen : ℕ) (mode : Byte)
    (nonblocking addrPort : Bool) :
    wpg (accepting sn) (recvfromPacket b sn len packLen mode nonblocking addrPort)
      (fun _ _ w' => w'.Few) (fun _ w' => w'.Few) g w := by
  have close {g : Globals} {w : Polls} (hw : Before 1 w) :
      wpg (accepting sn) (do
        let _ ← closeInternal b sn 0
        return ({ ret := sockfatalPacklen } : Received)) (fun _ _ w' => w'.Few)
        (fun _ w' => w'.Few) g w :=
    (wpv_bind _ _).2 (few_closeInternal hsn (hw.mono (by decide)) 0 fun _ _ _ hw => hw)
  have chunk {g : Globals} {w : Polls} (hw : Before 1 w) (out : Received) :
      wpg (accepting sn) (recvfromChunk b sn len nonblocking out) (fun _ _ w' => w'.Few)
        (fun _ w' => w'.Few) g w := few_recvfromChunk hw len nonblocking out
  unfold recvfromPacket
  refine (wpv_ite _ _ _).2 ⟨fun _ => h.few (by decide), fun _ => (wpv_ite _ _ _).2 ⟨fun _ => ?_, fun _ => ?_⟩⟩
  · refine (wpv_bind _ _).2 (wpv_get.2 fun m hm => (wpv_ite _ _ _).2 ⟨fun _ => ?_, fun _ => chunk h _⟩)
    refine (wpv_bind _ _).2 (few_recvHeader h 8 nonblocking fun r w hw => ?_)
    obtain ⟨ret, head⟩ := r
    refine (wpv_ite _ _ _).2 ⟨fun _ => hw.few (by decide), fun _ => (wpv_bind _ _).2 ?_⟩
    exact (wpg_modifySock _ _).2 (chunk hw _)
  refine (wpv_ite _ _ _).2 ⟨fun _ => ?_, fun _ => ?_⟩
  · refine (wpv_bind _ _).2 (wpv_get.2 fun m hm => (wpv_ite _ _ _).2 ⟨fun _ => ?_, fun _ => chunk h _⟩)
    refine (wpv_bind _ _).2 (few_recvHeader h 2 nonblocking fun r w hw => ?_)
    obtain ⟨ret, head⟩ := r
    refine (wpv_ite _ _ _).2 ⟨fun _ => hw.few (by decide), fun _ => (wpv_bind _ _).2 ?_⟩
    refine (wpg_modifySock _ _).2 ((wpv_ite _ _ _).2 ⟨fun _ => close hw, fun _ => (wpv_bind _ _).2 ?_⟩)
    refine (wpg_modifySock _ _).2 ((wpv_ite _ _ _).2 ⟨fun _ => close hw, fun _ => (wpv_bind _ _).2 ?_⟩)
    exact (wpg_modifySock _ _).2 (chunk hw _)
  · have payload {g : Globals} {w : Polls} (hw : Before 1 w) (out : Received) :
        wpg (accepting sn) (recvfromIpraw.payload b sn len packLen nonblocking out)
          (fun _ _ w' => w'.Few) (fun _ w' => w'.Few) g w := by
      refine (wpv_bind _ _).2 (wpv_get.2 fun m hm => (wpv_ite _ _ _).2 ⟨fun _ => chunk hw _, ?_⟩)
      exact fun _ => few_recvfromFinish hw _ _ _
    refine (wpv_bind _ _).2 (wpv_get.2 fun m hm => (wpv_ite _ _ _).2 ⟨fun _ => ?_, fun _ => payload h _⟩)
    refine (wpv_bind _ _).2 (few_recvHeader h 6 nonblocking fun r w hw => ?_)
    obtain ⟨ret, head⟩ := r
    refine (wpv_ite _ _ _).2 ⟨fun _ => hw.few (by decide), fun _ => (wpv_bind _ _).2 ?_⟩
    exact (wpg_modifySock _ _).2 (payload hw _)

lemma few_recvfromLocked (hsn : sn < sockNum) (hio : (g.sock sn).ioMode = true) (h : Before 0 w)
    (len : ℕ) (addrPort : Bool) :
    wpg (accepting sn) (recvfromLocked b sn len addrPort) (fun _ _ w' => w'.Few)
      (fun _ w' => w'.Few) g w := by
  simp only [recvfromLocked, wpv_bind, wpv_get, wpv_ite, wpv_pure]
  rintro m rfl
  have few := h.few (by decide)
  refine ⟨fun _ => few, fun _ => ⟨fun _ => few, fun _ => ⟨fun _ => few, fun _ => ⟨fun _ => ?_, fun _ => ?_⟩⟩⟩⟩
  · refine (timed_deadlineAbs _).wpg (keeps_any _).ticks h fun d w hw => ?_
    rw [hio]
    refine wpv_mono (few_recvfromWait hw d) ?_ fun _ _ => id
    rintro r _ w' ⟨rfl, hw'⟩
    cases r with
    | error e => exact hw'.few (by decide)
    | ok packLen => exact few_recvfromPacket hsn hw' _ _ _ _ _
  · exact few_recvfromPacket hsn (h.mono (by decide)) _ _ _ _ _

/-- Every run from `m` polls the status a few times only. -/
abbrev Polled {α : Type} (sn : ℕ) (p : Drv α) (m : Driver) (w : Polls) : Prop :=
  wp ((accepting sn).along Driver.toGlobals) p (fun _ _ w' => w'.Few) (fun _ w' => w'.Few) m w

variable {m : Driver}

lemma polled_locked {α : Type} {body : Drv α} (h : ∀ w, Before 0 w → Polled sn body m w)
    (hw : Before 0 w) : Polled sn (locked sn body) m w := by
  simp only [Polled, locked, sockLock, sockUnlock, ask, wp_bind, wp_perform, wp_pure]
  intro x w₁ hx
  have hw₁ : Before 0 w₁ := hx.2 ▸ hw
  refine wp_mono (h w₁ hw₁) (fun r m' w' few y w₂ hy => ?_) fun _ _ => id
  exact hy.2 ▸ few

lemma polled_of_view {α : Type} {p : Drv α}
    (h : wpg (accepting sn) p (fun _ _ w' => w'.Few) (fun _ w' => w'.Few) m.toGlobals w) :
    Polled sn p m w := wp_of_wpv h

lemma polled_connect {addr : Vector Byte 4} {port addrlen : ℕ}
    (hstop : ¬ (Stream sn m ∧ addrlen = 4)) (hsn : sn < sockNum) (hlen : addrlen = 4 ∨ addrlen = 16)
    (h : Before 0 w) : Polled sn (connectLocked b sn addr port addrlen) m w := by
  have few := h.few (by decide)
  refine (wp_ite _ _ _).2 ⟨fun _ => few, fun hready => (wp_ite _ _ _).2 ⟨fun _ => few, fun hhealthy => ?_⟩⟩
  refine (wp_ite _ _ _).2 ⟨fun _ => few, fun htcp => polled_of_view ?_⟩
  simp only [wpv_bind, wpg_getSnSR, wpv_ite, wpv_pure]
  intro x w₁ hx
  have hw₁ := before_status h hx
  have few := hw₁.few (by decide)
  refine ⟨fun _ => few, fun _ => ⟨fun _ => few, fun h16 => ?_⟩⟩
  have h4 := hlen.resolve_right h16
  have hvalid : ¬ m.deadlineConfigValid = true := fun hvalid =>
    hstop ⟨⟨hsn, not_not.1 hready, hhealthy, hvalid, not_not.1 htcp⟩, h4⟩
  refine wpg_setSnDPORT_keep (keeps_any (Before 1)) hw₁ port fun w hw => ?_
  refine wpg_writeBuf_keep (keeps_any (Before 1)) hw _ _ fun w hw => ?_
  simp only [wpg_setSnCR, wpv_get]
  intro y w₁ hy m' hm'
  have hw₁ := before_command (show snCrConnect ≠ snCrClose by decide) hw hy
  rw [hm']
  exact ⟨fun _ => hw₁.few (by decide), fun hv => absurd hv (not_not.2 hvalid)⟩

lemma polled_disconnect (hstop : ¬ Stream sn m) (hsn : sn < sockNum) (h : Before 0 w) :
    Polled sn (disconnectLocked b sn) m w := by
  have few := h.few (by decide)
  refine (wp_ite _ _ _).2 ⟨fun _ => few, fun hready => (wp_ite _ _ _).2 ⟨fun _ => few, fun hhealthy => ?_⟩⟩
  refine (wp_ite _ _ _).2 ⟨fun _ => few, fun htcp => polled_of_view ?_⟩
  have hvalid : ¬ m.deadlineConfigValid = true := fun hvalid =>
    hstop ⟨hsn, not_not.1 hready, hhealthy, hvalid, not_not.1 htcp⟩
  simp only [wpv_bind, wpg_getSnSR, wpv_ite, wpv_pure]
  intro x w₁ hx
  have hw₁ := before_status h hx
  have few := hw₁.few (by decide)
  refine ⟨fun _ => few, fun _ => ⟨fun _ => ?_, fun _ => ?_⟩⟩
  · simp only [disconnectCommand, wpv_bind, wpg_setSnCR, wpv_get]
    intro y w₂ hy m' hm'
    have hw₂ := before_command (show snCrDiscon ≠ snCrClose by decide) hw₁ hy
    rw [hm']
    refine (wpv_ite _ _ _).2 ⟨fun _ => ?_, fun hv => absurd hv (not_not.2 hvalid)⟩
    exact ⟨fun _ => hw₂.few (by decide), fun hne => absurd (by decide) hne⟩
  · simp only [disconnectFinish, wpv_bind, wpg_modifySock, wpv_get, wpv_ite, wpv_pure]
    intro m' hm'
    rw [hm']
    exact ⟨fun _ => few, fun hv => absurd hv (not_not.2 hvalid)⟩

lemma few_recvLocked (hstop : (g.sock sn).health = .faulted ∨ ¬ g.deadlineConfigValid ∨
      (g.sock sn).mode &&& 0x03 ≠ 0x01) (h : Before 0 w) (len : ℕ) :
    wpg (accepting sn) (recvLocked b sn len) (fun _ _ w' => w'.Few) (fun _ w' => w'.Few) g w := by
  have few := h.few (by decide)
  refine (wpv_bind _ _).2 (wpv_get.2 ?_)
  rintro m rfl
  refine (wpv_ite _ _ _).2 ⟨fun _ => few, fun hhealthy => (wpv_ite _ _ _).2 ⟨fun _ => few, fun hvalid => ?_⟩⟩
  refine (wpv_ite _ _ _).2 ⟨fun _ => few, fun htcp => ?_⟩
  exact absurd ((hstop.resolve_left hhealthy).resolve_left hvalid) htcp

/-- A call in non-blocking mode polls the status a few times, unless it enters a wait that does
not look at the mode. -/
lemma polled_op {op : Op} (hop : Transfers op) (hio : (m.sock sn).ioMode = true)
    (hwaits : ¬ (Waits op ∧ Begins sn m op)) (h : Before 0 w) : Polled sn (op.run b sn) m w := by
  have few := h.few (by decide)
  cases op with
  | connect addr port addrlen =>
    refine (wp_ite _ _ _).2 ⟨fun _ => few, fun hsn => ?_⟩
    cases addr with
    | none => exact few
    | some addr =>
      refine (wp_ite _ _ _).2 ⟨fun _ => few, fun hport => (wp_ite _ _ _).2 ⟨fun _ => few, fun hlen => ?_⟩⟩
      refine (wp_ite _ _ _).2 ⟨fun _ => few, fun haddr => polled_locked (fun w hw => ?_) h⟩
      refine polled_connect (fun hstream => ?_) (Nat.lt_of_not_le hsn) (by tauto) hw
      refine hwaits ⟨trivial, hstream.1, hport, hstream.2, addr, rfl, fun hbad => haddr ⟨hstream.2, ?_⟩⟩
      simpa only [decide_eq_true_eq] using hbad
  | disconnect =>
    refine (wp_ite _ _ _).2 ⟨fun _ => few, fun hsn => polled_locked (fun w hw => ?_) h⟩
    exact polled_disconnect (fun hstream => hwaits ⟨trivial, hstream⟩) (Nat.lt_of_not_le hsn) hw
  | send len buf =>
    refine (wp_ite _ _ _).2 ⟨fun _ => few, fun hlen => ?_⟩
    cases buf with
    | none => exact few
    | some buf =>
      refine (wp_ite _ _ _).2 ⟨fun _ => few, fun hsn => (wp_ite _ _ _).2 ⟨fun _ => few, fun _ => ?_⟩⟩
      refine polled_locked (fun w hw => polled_of_view ?_) h
      exact few_sendLocked (Nat.lt_of_not_le hsn) hio hw _ _
  | recv buf len =>
    refine (wp_bind _ _).2 ?_
    refine (wp_ite _ _ _).2 ⟨fun _ => few, fun hlen => (wp_ite _ _ _).2 ⟨fun _ => few, fun hbuf => ?_⟩⟩
    refine (wp_ite _ _ _).2 ⟨fun _ => few, fun hsn => (wp_ite _ _ _).2 ⟨fun _ => few, fun hready => ?_⟩⟩
    refine polled_locked (fun w hw => polled_of_view (few_recvLocked ?_ hw len)) h
    by_contra hgoes
    simp only [not_or, not_not] at hgoes
    obtain ⟨hhealthy, hvalid, htcp⟩ := hgoes
    have hstream : Stream sn m := ⟨Nat.lt_of_not_le hsn, not_not.1 hready, hhealthy, hvalid, htcp⟩
    exact hwaits ⟨trivial, hstream, hlen, by simpa using hbuf⟩
  | sendto len buf addr port addrlen =>
    refine (wp_ite _ _ _).2 ⟨fun _ => few, fun hlen => ?_⟩
    cases buf with
    | none => exact few
    | some buf =>
      refine (wp_ite _ _ _).2 ⟨fun _ => few, fun hsn => polled_locked (fun w hw => polled_of_view ?_) h⟩
      exact few_sendtoLocked hio hw _ _ _ _ _
  | recvfrom buf len addrPort =>
    refine (wp_bind _ _).2 ?_
    refine (wp_ite _ _ _).2 ⟨fun _ => few, fun hlen => (wp_ite _ _ _).2 ⟨fun _ => few, fun hbuf => ?_⟩⟩
    refine (wp_ite _ _ _).2 ⟨fun _ => few, fun hsn => polled_locked (fun w hw => polled_of_view ?_) h⟩
    exact few_recvfromLocked (Nat.lt_of_not_le hsn) hio hw _ _
  | _ => exact hop.elim

end polls

section silent
variable {b : Build} {sn : ℕ} {c : Still} {g : Globals} {m : Driver} {w : Unit}

lemma keeps_still : Keeps (still sn c) g (fun _ => True) := fun _ _ _ _ _ _ _ => trivial

lemma steady_free {Q : Except ℤ ℕ → Globals → Unit → Prop} {H : Globals → Unit → Prop}
    (next : ∀ w, Q (.ok c.free.toNat) g w) : wpg (still sn c) (readSnTxFsr b sn) Q H g w := by
  refine wpg_stableSize_steady keeps_still.ticks trivial b _ c.free.toNat (fun w x w₁ _ hx => ?_)
    fun w _ => next w
  obtain ⟨hfree, hsize, -⟩ := hx
  have hlist : x.1.toList = bytes16 c.free.toNat := by
    rw [hsize rfl]
    exact toList_frameBytes_two _
  exact ⟨hfree, word16_of_toList hlist c.free.isLt, trivial⟩

lemma steady_received {Q : Except ℤ ℕ → Globals → Unit → Prop} {H : Globals → Unit → Prop}
    (next : ∀ w, Q (.ok c.received.toNat) g w) : wpg (still sn c) (readSnRxRsr b sn) Q H g w := by
  refine wpg_stableSize_steady keeps_still.ticks trivial b _ c.received.toNat (fun w x w₁ _ hx => ?_)
    fun w _ => next w
  obtain ⟨hfree, -, hsize⟩ := hx
  have hlist : x.1.toList = bytes16 c.received.toNat := by
    rw [hsize rfl]
    exact toList_frameBytes_two _
  exact ⟨hfree, word16_of_toList hlist c.received.isLt, trivial⟩

/-- Every run from `g` returns SOCK_BUSY. -/
abbrev Busy (sn : ℕ) (c : Still) (p : Drv ℤ) (g : Globals) (w : Unit) : Prop :=
  wpg (still sn c) p (fun r _ _ => r = sockBusy) (fun _ _ => False) g w

lemma busy_sendReady (hio : (g.sock sn).ioMode = true) (hsr : Sendable c.status) (buf : List Byte)
    {len : ℕ} (hfree : c.free.toNat < min len (g.txmaxCache sn)) :
    Busy sn c (sendReady b sn buf len) g w := by
  refine (wpv_bind _ _).2 (wpv_get.2 ?_)
  rintro m rfl
  rw [hio]
  refine (wpv_bind _ _).2 ((timed_deadlineAbs _).wpg keeps_still.ticks trivial fun d w _ => ?_)
  refine (wpv_bind _ _).2 (wpg_wait_first keeps_still trivial d fun w _ => ?_)
  refine (wpv_bind _ _).2 (steady_free fun w => ?_)
  simp only [wpv_bind, wpg_getSnSR, wpv_ite, wpv_pure, not_sendable]
  intro x w₁ hx
  rw [hx.1 rfl]
  exact ⟨fun hnot => absurd hsr hnot, fun _ => ⟨fun _ => ⟨_, rfl, rfl⟩, fun h => absurd ⟨trivial, hfree⟩ h⟩⟩

lemma busy_sendLocked (hio : (m.sock sn).ioMode = true) (h : Stream sn m) (hsr : Sendable c.status)
    (buf : List Byte) {len : ℕ}
    (hpending : (m.sock sn).isSending ∨ c.free.toNat < min len (m.txmaxCache sn)) :
    Busy sn c (sendLocked b sn buf len) m.toGlobals w := by
  have hhealthy := h.healthy
  have hbudgets := h.budgets
  have htcp := h.tcp
  generalize m.toGlobals = g at *
  simp only [Busy, sendLocked, wpv_bind, wpv_get, wpv_ite, wpv_pure, wpg_getSnSR, not_sendable]
  rintro m rfl
  refine ⟨fun hf => absurd hf hhealthy, fun _ => ⟨fun hv => absurd hbudgets hv, fun _ => ?_⟩⟩
  refine ⟨fun hne => absurd htcp hne, fun _ x w₁ hx => ?_⟩
  rw [hx.1 rfl]
  refine ⟨fun hnot => absurd hsr hnot, fun _ => ⟨fun _ => ?_, fun hidle => ?_⟩⟩
  · refine (timed_deadlineAbs _).wpg keeps_still.ticks trivial fun d w _ => ?_
    rw [hio]
    refine wpg_wait_first keeps_still trivial d fun w _ => ?_
    simp only [sentLook, wpv_bind, wpg_getSnIR, wpv_ite, wpv_pure, wpg_getSnSR, not_sendable]
    intro y w₂ hy
    have hnone : y.1 = 0 := hy.2 (.inl rfl)
    rw [hnone]
    refine ⟨fun hs => absurd (by decide) hs, fun _ => ⟨fun ht => absurd (by decide) ht, fun _ z w₃ hz => ?_⟩⟩
    rw [hz.1 rfl]
    exact ⟨fun hnot => absurd hsr hnot, fun _ => ⟨fun _ => ⟨_, rfl, rfl⟩, fun h => absurd trivial h⟩⟩
  · exact busy_sendReady hio hsr buf (hpending.resolve_left hidle)

lemma silent_sendtoAddress {mode : Byte} {addr : Vector Byte 4} {port addrlen : ℕ}
    (haddr : AddressOk mode addr port addrlen) (hopen : mode &&& 0x0F ≠ snMrMacraw → Open c.status) :
    wpg (still sn c) (sendtoAddress b sn mode addr port addrlen) (fun r g' _ => r = .ok () ∧ g' = g)
      (fun _ _ => False) g w := by
  refine wpg_sendtoAddress_exact (I := fun _ => True) (J := fun _ => True) keeps_still keeps_still
    trivial mode addr port addrlen (fun hbad => absurd haddr hbad) (fun _ _ _ => ⟨rfl, rfl⟩) ?_
    fun _ _ => ⟨rfl, rfl⟩
  intro hm w x w₁ _ hx
  refine ⟨trivial, fun hclosed => ?_⟩
  rw [hx.1 rfl] at hclosed
  exact absurd (hopen hm) hclosed

/-- An open socket has space for the datagram, or the wait for it is busy. -/
lemma silent_sendtoWaitFree (hsr : c.status ≠ sockClosed) (len : ℕ) (isMacraw : Bool) (t : ℕ) :
    wpg (still sn c) (sendtoWaitFree b sn len isMacraw true t)
      (fun r g' _ => (r = .ok () ∨ r = .error sockBusy) ∧ g' = g) (fun _ _ => False) g w := by
  simp only [sendtoWaitFree, wpv_ite, wpv_bind, wpv_pure, wpg_getSnSR]
  refine ⟨fun _ x w₁ hx => ⟨.inl (if_neg (hx.1 rfl ▸ hsr)), trivial⟩, fun _ => ?_⟩
  refine (timed_deadlineAbs t).wpg keeps_still.ticks trivial fun d w _ => ?_
  refine (wpv_bind _ _).1 (wpg_wait_first keeps_still trivial d fun w _ => ?_)
  refine (wpv_bind _ _).2 (steady_free fun w => ?_)
  simp only [wpv_bind, wpg_getSnSR, wpv_ite, wpv_pure]
  intro x w₁ hx
  rw [hx.1 rfl]
  refine ⟨fun h => absurd h hsr, fun _ => ⟨fun _ => ⟨_, rfl, .inl rfl, trivial⟩, fun _ => ⟨fun _ => ?_, ?_⟩⟩⟩
  · exact ⟨_, rfl, .inr rfl, trivial⟩
  · exact fun h => absurd trivial h

/-- A committed datagram is pending until its event comes. -/
lemma busy_sendtoCommit (hbudgets : g.deadlineConfigValid) (data : List Byte) :
    Busy sn c (sendtoCommit b sn data true) g w := by
  simp only [Busy, sendtoCommit, setTxState, wpv_bind, wpg_setSnIR, wpg_setSnCR, wpv_get]
  intro x w₁ _
  refine wpg_wizSendData_keep keeps_still trivial data fun w _ => ?_
  rintro y w₁ _ m rfl
  refine wpg_sockDeadlineBegin keeps_still.ticks trivial _ (fun _ d w _ => ?_) fun h => absurd hbudgets h
  simp only [wpv_bind, wpv_ite, wpg_modifySock, wpv_pure]
  refine wpg_waitCrAccepted_first keeps_still trivial d fun w x w₁ _ hx => ?_
  exact ⟨hx.2 (.inr rfl), fun hne => absurd rfl hne, fun _ => ⟨fun _ => trivial, fun h => absurd trivial h⟩⟩

lemma busy_sendtoPending : Busy sn c (sendtoPending b sn) g w := by
  refine wpg_sendtoPending.2 fun x w₁ hx => ?_
  have hnone : x.1 = 0 := hx.2 (.inl rfl)
  rw [hnone]
  exact ⟨fun hs => absurd (by decide) hs, fun _ ht => absurd (by decide) ht, fun _ _ => rfl⟩

lemma busy_sendtoIdle (hio : (g.sock sn).ioMode = true) (hbudgets : g.deadlineConfigValid)
    {addr : Vector Byte 4} {port addrlen : ℕ} (haddr : AddressOk (g.sock sn).mode addr port addrlen)
    (hsr : if (g.sock sn).mode &&& 0x0F = snMrMacraw then c.status ≠ sockClosed else Open c.status)
    (buf : List Byte) (len : ℕ) : Busy sn c (sendtoIdle b sn buf len addr port addrlen) g w := by
  have hopen : (g.sock sn).mode &&& 0x0F ≠ snMrMacraw → Open c.status := fun hm => by rwa [if_neg hm] at hsr
  have hstatus : c.status ≠ sockClosed := by
    split at hsr
    · exact hsr
    · rcases hsr with h | h | h
      · exact h ▸ by decide
      · exact h ▸ by decide
      · exact h ▸ by decide
  refine (wpv_bind _ _).2 (wpv_get.2 ?_)
  rintro m rfl
  refine (wpv_bind _ _).2 (wpv_mono (silent_sendtoAddress haddr hopen) ?_ fun _ _ => id)
  rintro _ _ w ⟨rfl, rfl⟩
  rw [hio]
  refine (wpv_bind _ _).2 (wpv_mono (silent_sendtoWaitFree hstatus _ _ _) ?_ fun _ _ => id)
  rintro _ _ w ⟨rfl | rfl, rfl⟩
  · exact busy_sendtoCommit hbudgets _
  · rfl

lemma busy_recvfromLocked {len : ℕ} {addrPort : Bool} (hio : (g.sock sn).ioMode = true)
    (hhealthy : (g.sock sn).health ≠ .faulted) (hbudgets : g.deadlineConfigValid)
    (hmode : Datagram (g.sock sn).mode) (hempty : (g.sock sn).remainedSize = 0)
    (hreceived : c.received = 0) (hsr : c.status ≠ sockClosed) :
    wpg (still sn c) (recvfromLocked b sn len addrPort) (fun r _ _ => r.ret = sockBusy)
      (fun _ _ => False) g w := by
  simp only [recvfromLocked, wpv_bind, wpv_get, wpv_ite, wpv_pure]
  rintro m rfl
  refine ⟨fun hf => absurd hf hhealthy, fun _ => ⟨fun hv => absurd hbudgets hv, fun _ => ⟨?_, fun _ => ?_⟩⟩⟩
  · intro hnot
    simp only [Datagram] at hmode
    tauto
  refine ⟨fun _ => ?_, fun hrest => absurd hempty hrest⟩
  refine (timed_deadlineAbs _).wpg keeps_still.ticks trivial fun d w _ => ?_
  rw [hio]
  refine wpg_wait_first keeps_still trivial d fun w _ => ?_
  refine (wpv_bind _ _).2 (steady_received fun w => ?_)
  simp only [wpv_bind, wpg_getSnSR, wpv_ite, wpv_pure]
  intro x w₁ hx
  rw [hx.1 rfl, hreceived]
  refine ⟨fun h => absurd h hsr, fun _ => ⟨fun h => absurd (by decide) h, fun _ => ⟨fun _ => ⟨_, rfl, rfl⟩, ?_⟩⟩⟩
  exact fun h => absurd trivial h

/-- Every run of the call from `m` returns SOCK_BUSY. -/
abbrev ReturnsBusy (sn : ℕ) (c : Still) (p : Drv ℤ) (m : Driver) (w : Unit) : Prop :=
  wp ((still sn c).along Driver.toGlobals) p (fun r _ _ => r = sockBusy) (fun _ _ => False) m w

lemma returnsBusy_locked {p : Drv ℤ} (h : ∀ w, Busy sn c p m.toGlobals w) :
    ReturnsBusy sn c (locked sn p) m w := by
  have spec : Busy sn c (locked sn p) m.toGlobals w :=
    (wpg_locked sn p).2 fun _ w₁ _ => wpv_mono (h w₁) (fun r _ _ hr _ _ _ => hr) fun _ _ => id
  exact wp_of_wpv spec

lemma busy_op {op : Op} (hop : Transfers op) (hwaits : ¬ Waits op) (hio : (m.sock sn).ioMode = true)
    (hbegins : Begins sn m op) (hpending : Pending sn m.toGlobals c op) :
    ReturnsBusy sn c (op.run b sn) m w := by
  cases op with
  | send len buf =>
    obtain ⟨hstream, hlen, hbuf⟩ := hbegins
    obtain ⟨buf, rfl⟩ := Option.ne_none_iff_exists'.1 hbuf
    refine (wp_ite _ _ _).2 ⟨fun h => absurd h hlen, fun _ => (wp_ite _ _ _).2 ⟨fun h => ?_, fun _ => ?_⟩⟩
    · exact absurd hstream.number (Nat.not_lt.2 h)
    refine (wp_ite _ _ _).2 ⟨fun h => absurd hstream.ready h, fun _ => returnsBusy_locked fun w => ?_⟩
    exact busy_sendLocked hio hstream hpending.1 _ hpending.2
  | sendto len buf addr port addrlen =>
    obtain ⟨hsn, hlen, hbuf, hfault, hhealthy, hbudgets, haddr⟩ := hbegins
    obtain ⟨buf, rfl⟩ := Option.ne_none_iff_exists'.1 hbuf
    refine (wp_ite _ _ _).2 ⟨fun h => absurd h hlen, fun _ => (wp_ite _ _ _).2 ⟨fun h => ?_, fun _ => ?_⟩⟩
    · exact absurd hsn (Nat.not_lt.2 h)
    refine returnsBusy_locked fun w => (wpv_bind _ _).2 (wpv_get.2 fun m' hm' => ?_)
    rw [hm']
    refine (wpv_ite _ _ _).2 ⟨fun h => absurd h hfault, fun _ => ?_⟩
    refine (wpv_ite _ _ _).2 ⟨fun h => absurd h hhealthy, fun _ => ?_⟩
    refine (wpv_ite _ _ _).2 ⟨fun h => absurd hbudgets h, fun _ => ?_⟩
    refine (wpv_ite _ _ _).2 ⟨fun _ => busy_sendtoPending, fun hidle => ?_⟩
    exact busy_sendtoIdle hio hbudgets (haddr hidle) (hpending.resolve_left hidle) _ _
  | recvfrom buf len addrPort =>
    obtain ⟨hsn, hlen, rfl, hhealthy, hbudgets, hmode⟩ := hbegins
    obtain ⟨hempty, hreceived, hsr⟩ := hpending
    refine (wp_bind _ _).2 ((wp_ite _ _ _).2 ⟨fun h => absurd h hlen, fun _ => ?_⟩)
    refine (wp_ite _ _ _).2 ⟨fun h => absurd rfl h, fun _ => (wp_ite _ _ _).2 ⟨fun h => ?_, fun _ => ?_⟩⟩
    · exact absurd hsn (Nat.not_lt.2 h)
    have spec : wpg (still sn c) (locked sn (recvfromLocked b sn len addrPort))
        (fun r _ _ => r.ret = sockBusy) (fun _ _ => False) m.toGlobals w := by
      refine (wpg_locked sn _).2 fun _ w₁ _ => ?_
      refine wpv_mono (busy_recvfromLocked hio hhealthy hbudgets hmode hempty hreceived hsr) ?_ fun _ _ => id
      exact fun r _ _ hr _ _ _ => hr
    exact wp_of_wpv spec
  | connect _ _ _ => exact absurd trivial hwaits
  | disconnect => exact absurd trivial hwaits
  | recv _ _ => exact absurd trivial hwaits
  | _ => exact hop.elim

end silent

section waits
variable {b : Build} {sn : ℕ} {c : Still} {g : Globals} {m : Driver} {w : Unit}

abbrev NotBusy (r : ℤ) : Prop := r ≠ sockBusy

lemma gives_waitCrAccepted (d : ℕ) : Gives NotBusy (waitCrAccepted b sn d) := by
  refine gives_then fun poll => gives_pollLoop (gives_then fun v => ?_) (gives_then fun _ => ?_)
  · exact gives_ite (fun _ => looked_result (by decide)) fun _ => nofun
  · exact show NotBusy sockerrTimeout by decide

lemma gives_faultedIo : Gives NotBusy (faultedIo sn) :=
  gives_then fun _ => show NotBusy sockerrIo by decide

/-- connect has no result for a connection that is still being made. -/
lemma gives_connectLocked (addr : Vector Byte 4) (port addrlen : ℕ) :
    Gives NotBusy (connectLocked b sn addr port addrlen) := by
  have look : Gives (fun r => ∀ a, r = some a → NotBusy a) (connectLook b sn) := by
    refine gives_then fun status => gives_ite (fun _ => looked_result (by decide)) fun _ => ?_
    refine gives_then fun late => gives_ite (fun _ => looked_result (by decide)) fun _ => ?_
    exact gives_ite (fun _ => looked_result (by decide)) fun _ => nofun
  refine gives_then fun m => gives_ite (fun _ => show NotBusy sockerrNotready by decide) fun _ => ?_
  refine gives_ite (fun _ => show NotBusy sockerrIo by decide) fun _ => ?_
  refine gives_ite (fun _ => show NotBusy sockerrSockmode by decide) fun _ => gives_then fun sr => ?_
  refine gives_ite (fun _ => show NotBusy sockerrSockinit by decide) fun _ => ?_
  refine gives_ite (fun _ => show NotBusy sockerrSockmode by decide) fun _ => ?_
  refine gives_then fun _ => gives_then fun _ => gives_then fun _ => gives_then fun m => ?_
  refine gives_ite (fun _ => show NotBusy sockerrTimeout by decide) fun _ => gives_then fun d => ?_
  refine gives_bind (gives_waitCrAccepted d) fun ret hret => gives_ite (fun _ => hret) fun _ => ?_
  exact gives_then fun d => gives_clockLoop look gives_faultedIo

lemma gives_disconnectLocked : Gives NotBusy (disconnectLocked b sn) := by
  have look : Gives (fun r => ∀ a, r = some a → NotBusy a) (disconnectLook b sn) := by
    refine gives_then fun status => gives_ite (fun _ => looked_result (by decide)) fun _ => ?_
    refine gives_then fun late => gives_ite (fun _ => ?_) fun _ => nofun
    exact gives_then fun _ => looked_result (by decide)
  have finish : Gives NotBusy (disconnectFinish b sn) := by
    refine gives_then fun _ => gives_then fun m => ?_
    refine gives_ite (fun _ => show NotBusy sockerrTimeout by decide) fun _ => ?_
    exact gives_then fun d => gives_clockLoop look gives_faultedIo
  refine gives_then fun m => gives_ite (fun _ => show NotBusy sockerrNotready by decide) fun _ => ?_
  refine gives_ite (fun _ => show NotBusy sockerrIo by decide) fun _ => ?_
  refine gives_ite (fun _ => show NotBusy sockerrSockmode by decide) fun _ => gives_then fun tmp => ?_
  refine gives_ite (fun _ => show NotBusy sockOk by decide) fun _ => gives_ite (fun _ => ?_) fun _ => finish
  refine gives_bind ?_ fun ret hret => gives_ite (fun _ => hret) fun _ => finish
  refine gives_then fun _ => gives_then fun m => ?_
  refine gives_ite (fun _ => show NotBusy sockerrTimeout by decide) fun _ => ?_
  exact gives_then fun d => gives_waitCrAccepted d

/-- A socket whose peer has closed, with data still to be sent: recv waits for that data. -/
lemma notBusy_recvLocked (hsr : c.status = sockCloseWait) (hreceived : c.received = 0)
    (hfree : c.free.toNat ≠ g.txmaxCache sn) (len : ℕ) :
    wpg (still sn c) (recvLocked b sn len) (fun r _ _ => NotBusy r.1) (fun _ _ => True) g w := by
  simp only [recvLocked, wpv_bind, wpv_get, wpv_ite, wpv_pure]
  rintro m rfl
  refine ⟨fun _ => by decide, fun _ => ⟨fun _ => by decide, fun _ => ⟨fun _ => by decide, fun _ => ?_⟩⟩⟩
  refine (timed_deadlineAbs _).wpg keeps_still.ticks trivial fun d w _ => (wpv_bind _ _).2 ?_
  refine timed_waitPollInit.wpg keeps_still.ticks trivial fun poll w _ => ?_
  refine wpg_pollLoop keeps_still.ticks trivial (fun w _ => ?_) (fun w _ => ?_) fun _ _ => trivial
  · refine (wpv_bind _ _).2 (steady_received fun w => ?_)
    simp only [wpv_bind, wpg_getSnSR, wpv_ite, recvPeerClosed]
    intro x w₁ hx
    rw [hx.1 rfl, hsr, hreceived]
    refine ⟨fun _ => ⟨fun h => absurd (by decide) h, fun _ => steady_free fun w => ?_⟩, fun h => ?_⟩
    · refine (wpv_bind _ _).2 (wpv_get.2 fun m' hm' => ?_)
      refine (wpv_ite _ _ _).2 ⟨fun h => absurd (hm' ▸ h) hfree, fun _ => ⟨rfl, trivial⟩⟩
    · exact absurd rfl h
  · exact show NotBusy sockerrTimeout by decide

lemma gives_locked {α : Type} {P : α → Prop} {p : Drv α} (h : Gives P p) : Gives P (locked sn p) :=
  gives_then fun _ => gives_bind h fun _ ha => gives_then fun _ => ha

/-- While a wait that does not look at the mode has not ended, its call does not return SOCK_BUSY. -/
lemma exists_pending {op : Op} (hwaits : Waits op) (hbegins : Begins sn m op) :
    ∃ c, Pending sn m.toGlobals c op ∧ wpg (still sn c) (op.run b sn) (fun r _ _ => NotBusy r)
      (fun _ _ => True) m.toGlobals w := by
  have fails {e : ℤ} (he : e ≠ sockBusy) : Gives NotBusy (pure e : Drv ℤ) := he
  cases op with
  | connect addr port addrlen =>
    refine ⟨⟨sockInit, 0, 0⟩, rfl, wpv_of_gives (gives_ite (fun _ => fails (by decide)) fun _ => ?_)⟩
    cases addr with
    | none => exact fails (by decide)
    | some addr =>
      refine gives_ite (fun _ => fails (by decide)) fun _ => gives_ite (fun _ => fails (by decide)) fun _ => ?_
      exact gives_ite (fun _ => fails (by decide)) fun _ => gives_locked (gives_connectLocked _ _ _)
  | disconnect =>
    refine ⟨⟨sockEstablished, 0, 0⟩, show sockEstablished ≠ sockClosed by decide, wpv_of_gives ?_⟩
    exact gives_ite (fun _ => fails (by decide)) fun _ => gives_locked gives_disconnectLocked
  | recv buf len =>
    obtain ⟨hstream, hlen, rfl⟩ := hbegins
    obtain ⟨free, hfree⟩ : ∃ free : BitVec 16, free.toNat ≠ m.txmaxCache sn := by
      by_cases h : m.txmaxCache sn = 0
      · exact ⟨1, h ▸ by decide⟩
      · exact ⟨0, Ne.symm h⟩
    refine ⟨⟨sockCloseWait, free, 0⟩, ⟨rfl, .inr ⟨rfl, hfree⟩⟩, ?_⟩
    refine (wpv_bind _ _).2 ((wpv_ite _ _ _).2 ⟨fun h => absurd h hlen, fun _ => ?_⟩)
    refine (wpv_ite _ _ _).2 ⟨fun h => absurd rfl h, fun _ => (wpv_ite _ _ _).2 ⟨fun _ => ?_, fun _ => ?_⟩⟩
    · exact show NotBusy sockerrSocknum by decide
    refine (wpv_bind _ _).2 (wpv_get.2 fun m' _ => (wpv_ite _ _ _).2 ⟨fun _ => ?_, fun _ => ?_⟩)
    · exact show NotBusy sockerrNotready by decide
    refine (wpg_locked sn _).2 fun _ w₁ _ => ?_
    exact wpv_mono (notBusy_recvLocked rfl rfl hfree len) (fun r _ _ hr _ _ _ => hr) fun _ _ => id
  | _ => exact hwaits.elim

lemma still_total (m : Driver) (w : Unit) (e : Io) :
    ∃ x w₁, (still sn c).along Driver.toGlobals m w e x w₁ := by
  have answers : ∃ x : e.Res, c.Shows sn e x := by
    cases e with
    | read8 a =>
      refine ⟨(if a = Reg.snSR sn then c.status else 0, false), fun h => if_pos h, fun h => if_neg ?_⟩
      rcases h with rfl | rfl
      · simp [Reg.snIR, Reg.snSR]
      · simp [Reg.snCR, Reg.snSR]
    | readBuf a len =>
      by_cases h : a = Reg.snTXFSR sn
      · have hne : a ≠ Reg.snRXRSR sn := by simp [h, Reg.snTXFSR, Reg.snRXRSR]
        exact ⟨(frameBytes len (bytes16 c.free.toNat), false), rfl, fun _ => rfl, fun h => absurd h hne⟩
      · exact ⟨(frameBytes len (bytes16 c.received.toNat), false), rfl, fun h' => absurd h' h, fun _ => rfl⟩
    | write8 a v => exact ⟨false, trivial⟩
    | writeBuf a data => exact ⟨false, trivial⟩
    | now => exact ⟨0, trivial⟩
    | _ => exact ⟨(), trivial⟩
  obtain ⟨x, hx⟩ := answers
  exact ⟨x, (), hx⟩

lemma not_prompt {op : Op} (hwaits : Waits op) (hbegins : Begins sn m op) : ¬ Prompt b sn op m := by
  intro hprompt
  obtain ⟨c, hpending, hnot⟩ := exists_pending (b := b) (w := ()) hwaits hbegins
  obtain ⟨r, m', w', hrun⟩ := exists_eval still_total (op.run b sn) m ()
  have hr := hprompt.busy c hbegins hpending r m' w' hrun
  subst hr
  exact wp_returns (wp_of_wpv hnot) hrun rfl

end waits

/-- In non-blocking mode the calls that look at the mode in their waits are prompt; the others
are, as long as their checks stop them. -/
theorem prompt_iff {b : Build} {sn : ℕ} {op : Op} {m : Driver} (hop : Transfers op)
    (hio : (m.sock sn).ioMode = true) : Prompt b sn op m ↔ ¬ (Waits op ∧ Begins sn m op) := by
  constructor
  · rintro hprompt ⟨hwaits, hbegins⟩
    exact not_prompt hwaits hbegins hprompt
  · intro hstop
    have hempty : Before 0 ⟨0, none⟩ := ⟨rfl, Nat.le_refl 0⟩
    refine ⟨fun r m' w' hrun => ?_, fun c hbegins hpending r m' w' hrun => ?_⟩
    · have few := (wp_iff_eval _).1 (polled_op (b := b) hop hio hstop hempty) r m' w' hrun
      cases r with
      | none => exact few
      | some r => exact few
    · have hwaits : ¬ Waits op := fun h => hstop ⟨h, hbegins⟩
      have busy := (wp_iff_eval _).1 (busy_op (b := b) (w := ()) hop hwaits hio hbegins hpending) r m' w' hrun
      cases r with
      | none => exact busy.elim
      | some r => exact congrArg some busy

/-- A connected socket 0 in non-blocking mode. -/
def connected : Driver :=
  { (Driver.boot 1000 1000).setSock 0 fun s => { s with ioMode := true, mode := snMrTcp } with
    chipState := .ready }

theorem prompt_iff_send : Prompt .oneTurn 0 (.send 1 (some #v[7])) connected ↔
    ¬ (Waits (.send 1 (some #v[7])) ∧ Begins 0 connected (.send 1 (some #v[7]))) :=
  prompt_iff trivial rfl

/-- recv in non-blocking mode, after the peer has closed and with data still to be sent. -/
theorem recv_waits : ¬ ∀ (b : Build) (sn : ℕ) (op : Op) (m : Driver), Transfers op →
    (m.sock sn).ioMode = true → Prompt b sn op m := by
  intro claim
  have hprompt := claim .oneTurn 0 (.recv true 1) connected trivial rfl
  have hstream : Stream 0 connected := ⟨by decide, rfl, by decide, by decide, by decide⟩
  have hbegins : Begins 0 connected (.recv true 1) := ⟨hstream, by decide, rfl⟩
  exact not_prompt (show Waits (.recv true 1) from trivial) hbegins hprompt

end IoLibrary.Nonblocking
