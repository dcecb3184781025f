import IoLibrary.Socket.Datagram
import IoLibrary.Socket.SendRules

/-! Rules for the phases of sendto: the pending poll, the address, the wait for free space, and
the commit of a payload to the chip. -/
namespace IoLibrary
open Effects

variable {W : Type} {env : Env Globals W Io Io.Res} {g : Globals} {w : W} {I : W → Prop}
  {H : Globals → W → Prop} {b : Build} {sn : ℕ} {Q : ℤ → Globals → W → Prop}

/-- The modes of a datagram socket. -/
def Datagram (mode : Byte) : Prop :=
  mode &&& 0x0F = snMrUdp ∨ mode &&& 0x0F = snMrIpraw ∨ mode &&& 0x0F = snMrIpraw6 ∨
    mode &&& 0x0F = snMrMacraw

/-- The state after sendto reports the end of its pending SEND. -/
def Sock.reported (s : Sock) : Sock := { s with txPendingLen := 0, txState := .idle }

lemma wpg_sendtoPending : wpg env (sendtoPending b sn) Q H g w ↔
    ∀ x w₁, env g w (.read8 (Reg.snIR sn)) x w₁ →
      (x.1 &&& snIrSendok ≠ 0 → ∀ y w₂, env g w₁ (.write8 (Reg.snIR sn) snIrSendok) y w₂ →
        Q (g.sock sn).txPendingLen (g.setSock sn Sock.reported) w₂) ∧
      (x.1 &&& snIrSendok = 0 → x.1 &&& snIrTimeout ≠ 0 →
        ∀ y w₂, env g w₁ (.write8 (Reg.snIR sn) snIrTimeout) y w₂ →
          Q sockerrTimeout (g.setSock sn Sock.reported) w₂) ∧
      (x.1 &&& snIrSendok = 0 → x.1 &&& snIrTimeout = 0 → Q sockBusy g w₁) := by
  have pending (w₂ : W) : (∀ m : Driver, m.toGlobals = g →
      Q (m.sock sn).txPendingLen (g.setSock sn Sock.reported) w₂) ↔
        Q (g.sock sn).txPendingLen (g.setSock sn Sock.reported) w₂ :=
    forall_driver (p := fun g' => Q (g'.sock sn).txPendingLen (g.setSock sn Sock.reported) w₂)
  simp only [sendtoPending, wpv_bind, wpg_getSnIR, wpv_ite, wpg_setSnIR, wpg_modifySock, wpv_pure,
    mask_sendok, mask_timeout, sendok_mask, timeout_mask, wpv_get, ne_eq, not_not]
  refine forall₃_congr fun x w₁ _ => ?_
  constructor
  · rintro ⟨hsendok, hrest⟩
    refine ⟨fun hs y w₂ hy => (pending w₂).1 (hsendok hs y w₂ hy), fun hs ht => ?_, fun hs ht => ?_⟩
    · exact (hrest hs).1 ht
    · exact (hrest hs).2 ht
  · rintro ⟨hsendok, htimeout, hnone⟩
    refine ⟨fun hs y w₂ hy => (pending w₂).2 (hsendok hs y w₂ hy), fun hs => ⟨htimeout hs, ?_⟩⟩
    exact hnone hs

/-- The calls of sendto before it commits. -/
inductive PrepareIo (sn : ℕ) : Io → Prop
  | dipr (addr : Vector Byte 4) : PrepareIo sn (.writeBuf (Reg.snDIPR sn) addr.toList)
  | dport (port : ℕ) : PrepareIo sn (.writeBuf (Reg.snDPORT sn) (bytes16 port))
  | status : PrepareIo sn (.read8 (Reg.snSR sn))
  | size : PrepareIo sn (.readBuf (Reg.snTXFSR sn) 2)
  | now : PrepareIo sn .now
  | wait : PrepareIo sn .wait

/-- The calls before the commit keep `I`. -/
def Prepares (env : Env Globals W Io Io.Res) (g : Globals) (sn : ℕ) (I : W → Prop) : Prop :=
  ∀ e, PrepareIo sn e → ∀ w x w₁, I w → env g w e x w₁ → I w₁

lemma Prepares.ticks (calls : Prepares env g sn I) : Ticks env g I := by
  rintro w _ x w₁ (rfl | rfl) hw hx
  · exact calls _ .now w x w₁ hw hx
  · exact calls _ .wait w x w₁ hw hx

section prepare
variable {Q : Except ℤ Unit → Globals → W → Prop}

/-- The address phase of sendto lets only the modes of a datagram pass. -/
lemma wpg_sendtoAddress (calls : Prepares env g sn I) (h : I w) (mode : Byte)
    (addr : Vector Byte 4) (port addrlen : ℕ) (error : ∀ e w, I w → Q (.error e) g w)
    (ok : Datagram mode → ∀ w, I w → Q (.ok ()) g w) :
    wpg env (sendtoAddress b sn mode addr port addrlen) Q H g w := by
  have dipr {w : W} (hw : I w) {Q : Unit → Globals → W → Prop} (hQ : ∀ w, I w → Q () g w) :
      wpg env (setSnDIPR b sn addr) Q H g w := by
    simp only [setSnDIPR, wpg_wizchipWriteBuf]
    exact ⟨fun _ => hQ w hw, fun _ x w₁ hx => hQ w₁ (calls _ (.dipr addr) w x w₁ hw hx)⟩
  have dport {w : W} (hw : I w) {Q : Unit → Globals → W → Prop} (hQ : ∀ w, I w → Q () g w) :
      wpg env (setSnDPORT b sn port) Q H g w := by
    simp only [setSnDPORT, wizchipWrite16, wpv_bind, wpv_pure, wpg_wizchipWriteBufChecked]
    exact ⟨fun _ => hQ w hw, fun _ x w₁ hx => hQ w₁ (calls _ (.dport port) w x w₁ hw hx)⟩
  have status (hmode : Datagram mode) (p : Byte) {w : W} (hw : I w) :
      wpg env (sendtoAddress.statusCheck b sn mode addr port p) Q H g w := by
    simp only [sendtoAddress.statusCheck, wpv_ite, wpv_bind, wpv_pure, wpg_getSnSR]
    refine ⟨fun _ => ok hmode w hw, fun _ => ⟨fun _ => error _ w hw, fun _ => ⟨fun _ => ?_, ?_⟩⟩⟩
    · exact error _ w hw
    · intro _ x w₁ hx
      have hw₁ := calls _ .status w x w₁ hw hx
      exact ⟨fun _ => error _ w₁ hw₁, fun _ => dipr hw₁ fun w hw => dport hw (ok hmode)⟩
  have ports (hmode : Datagram mode) (p : Byte) {w : W} (hw : I w) :
      wpg env (sendtoAddress.portCheck b sn mode addr port p) Q H g w := by
    simp only [sendtoAddress.portCheck, wpv_ite, wpv_bind, wpv_pure]
    refine ⟨fun _ => ⟨fun _ => dport hw fun w hw => status hmode p hw, fun _ => error _ w hw⟩, ?_⟩
    exact fun _ => status hmode p hw
  simp only [sendtoAddress, wpv_ite, wpv_bind, wpv_pure]
  refine ⟨fun _ => error _ w h, fun hmode => ?_⟩
  have hdatagram : Datagram mode := by
    simp only [Datagram]
    tauto
  refine ⟨fun _ => ⟨fun _ => error _ w h, fun _ => ⟨fun _ => ⟨fun _ => error _ w h, fun _ => ?_⟩, ?_⟩⟩,
    fun _ => ports hdatagram _ h⟩
  · exact dipr h fun w hw => ports hdatagram _ hw
  · exact fun _ => error _ w h

lemma wpg_sendtoWaitFree (calls : Prepares env g sn I) (h : I w) (len : ℕ)
    (isMacraw nonblocking : Bool) (t : ℕ) (error : ∀ e w, I w → Q (.error e) g w)
    (ok : ∀ w, I w → Q (.ok ()) g w) (stop : ∀ w, I w → H g w) :
    wpg env (sendtoWaitFree b sn len isMacraw nonblocking t) Q H g w := by
  simp only [sendtoWaitFree, wpv_ite, wpv_bind, wpg_getSnSR, wpv_pure]
  refine ⟨fun _ x w₁ hx => ?_, fun _ => ?_⟩
  · have hw₁ := calls _ .status w x w₁ h hx
    split
    · exact error _ w₁ hw₁
    · exact ok w₁ hw₁
  · refine (timed_deadlineAbs t).wpg calls.ticks h fun d w hw => ?_
    refine timed_waitPollInit.wpg calls.ticks hw fun poll w hw => ?_
    refine wpg_pollLoop calls.ticks hw (fun w hw => ?_) (fun w hw => error _ w hw) stop
    simp only [sendtoFreeLook, readSnTxFsr, getSnTXFSRStable, wpv_bind]
    refine wpg_stableSize calls.ticks hw b _ (fun w x w₁ hw hx => ?_) (fun w hw => error _ w hw) stop
    have hw₁ := calls _ .size w x w₁ hw hx
    refine ⟨fun _ => ⟨hw₁, ?_⟩, fun _ => error _ w₁ hw₁⟩
    simp only [wpv_bind, wpg_getSnSR, wpv_ite, wpv_pure, looked_some, looked_none]
    intro y w₂ hy
    have hw₂ := calls _ .status w₁ y w₂ hw₁ hy
    refine ⟨fun _ => error _ w₂ hw₂, fun _ => ⟨fun _ => ok w₂ hw₂, fun _ => ?_⟩⟩
    exact ⟨fun _ => error _ w₂ hw₂, fun _ => ⟨trivial, hw₂⟩⟩

end prepare

/-- sendto with no SEND pending refuses, or commits a payload that fits the capacity. -/
lemma wpg_sendtoIdle (calls : Prepares env g sn I) (h : I w) (buf : List Byte) (len : ℕ)
    (addr : Vector Byte 4) (port addrlen : ℕ) (error : ∀ e w, I w → Q e g w)
    (commit : Datagram (g.sock sn).mode → ∀ w, I w →
      wpg env (sendtoCommit b sn (buf.take (min len (g.txmaxCache sn))) (g.sock sn).ioMode) Q H g w)
    (stop : ∀ w, I w → H g w) :
    wpg env (sendtoIdle b sn buf len addr port addrlen) Q H g w := by
  refine (wpv_bind _ _).2 (wpv_get.2 ?_)
  rintro m rfl
  refine (wpv_bind _ _).2 ?_
  refine wpg_sendtoAddress calls h _ addr port addrlen (fun e w hw => error e w hw) ?_
  intro hmode w hw
  refine (wpv_bind _ _).2 ?_
  exact wpg_sendtoWaitFree calls hw _ _ _ _ (fun e w hw => error e w hw) (commit hmode) stop

/-- The state once the command of a payload of `n` bytes is accepted. -/
def Sock.accepted (n : ℕ) (s : Sock) : Sock := { s with txPendingLen := n }

def Sock.pending (n : ℕ) (s : Sock) : Sock :=
  { s with txPendingLen := n, txState := .dgramPending }

/-- The state after a SEND whose acceptance was not seen. -/
def Sock.stuck (s : Sock) : Sock := { s.faulted with txState := .localFault }

/-- What a blocking sendto of `n` bytes sees after the acceptance of its SEND. -/
structure SentWait (env : Env Globals W Io Io.Res) (g : Globals) (sn n : ℕ) (A : W → Prop)
    (Q : ℤ → Globals → W → Prop) (H : Globals → W → Prop) : Prop where
  ticks : Ticks env g A
  sendok : ∀ w x w₁ y w₂, A w → env g w (.read8 (Reg.snIR sn)) x w₁ → x.1 &&& snIrSendok ≠ 0 →
    env g w₁ (.write8 (Reg.snIR sn) snIrSendok) y w₂ → Q n g w₂
  timeout : ∀ w x w₁ y w₂, A w → env g w (.read8 (Reg.snIR sn)) x w₁ → x.1 &&& snIrSendok = 0 →
    x.1 &&& snIrTimeout ≠ 0 → env g w₁ (.write8 (Reg.snIR sn) snIrTimeout) y w₂ →
    Q sockerrTimeout g w₂
  none : ∀ w x w₁, A w → env g w (.read8 (Reg.snIR sn)) x w₁ → x.1 &&& snIrSendok = 0 →
    x.1 &&& snIrTimeout = 0 → A w₁
  late : ∀ w, A w → Q sockerrTimeout (g.setSock sn Sock.faulted) w
  stop : ∀ w, A w → H g w

lemma wpg_sendtoWaitSent {n : ℕ} {A : W → Prop} (wait : SentWait env g sn n A Q H) (h : A w)
    (d : ℕ) : wpg env (sendtoWaitSent b sn n d) Q H g w := by
  simp only [sendtoWaitSent, wpv_bind]
  refine timed_waitPollInit.wpg wait.ticks h fun poll w hw => ?_
  refine wpg_pollLoop wait.ticks hw (fun w hw => ?_)
    (fun w hw => wpg_faultedTimeout.2 (wait.late w hw)) wait.stop
  simp only [sendtoSentLook, wpv_bind, wpg_getSnIR, wpv_ite, wpg_setSnIR, wpv_pure, mask_sendok,
    mask_timeout, sendok_mask, timeout_mask, looked_some, looked_none, ne_eq, not_not]
  intro x w₁ hx
  refine ⟨fun hs y w₂ hy => wait.sendok w x w₁ y w₂ hw hx hs hy, fun hs => ⟨fun ht y w₂ hy => ?_, ?_⟩⟩
  · exact wait.timeout w x w₁ y w₂ hw hx hs ht hy
  · exact fun ht => ⟨trivial, wait.none w x w₁ hw hx hs ht⟩

/-- What the chip does to a commit: `C` until SEND is written, `J` until it is accepted, `A`
after that. -/
structure Commit (env : Env Globals W Io Io.Res) (g : Globals) (b : Build) (sn : ℕ)
    (data : List Byte) (nonblocking : Bool) (I C J A : W → Prop) (Q : ℤ → Globals → W → Prop)
    (H : Globals → W → Prop) : Prop where
  clear : ∀ w x w₁, I w → env g w (.write8 (Reg.snIR sn) (snIrSendok ||| snIrTimeout)) x w₁ → C w₁
  copy : ∀ w, C w → wpg env (wizSendData b sn data) (fun _ g' w' => g' = g ∧ C w') H g w
  command : ∀ w x w₁, C w → env g w (.write8 (Reg.snCR sn) snCrSend) x w₁ → J w₁
  ticks : Ticks env g J
  poll : ∀ w x w₁, J w → env g w (.read8 (Reg.snCR sn)) x w₁ →
    (x.1 = 0 → A w₁) ∧ (x.1 ≠ 0 → J w₁)
  stuck : ∀ w, J w → Q sockerrTimeout (g.setSock sn Sock.stuck) w
  stop : ∀ w, J w → H g w
  pending : nonblocking → ∀ w, A w → Q sockBusy (g.setSock sn (Sock.pending data.length)) w
  sent : ¬ nonblocking →
    SentWait env (g.setSock sn (Sock.accepted data.length)) sn data.length A Q H

lemma wpg_sendtoCommit {data : List Byte} {nonblocking : Bool} {C J A : W → Prop}
    (commit : Commit env g b sn data nonblocking I C J A Q H) (valid : g.deadlineConfigValid)
    (h : I w) : wpg env (sendtoCommit b sn data nonblocking) Q H g w := by
  simp only [sendtoCommit, wpv_bind, wpg_setSnIR]
  intro x w₁ hx
  refine wpv_mono (commit.copy w₁ (commit.clear w x w₁ h hx)) ?_ fun _ _ => id
  rintro _ g' w₂ ⟨rfl, hw₂⟩
  simp only [wpg_setSnCR, wpv_get]
  intro y w₃ hy m hm
  have hw₃ := commit.command w₂ y w₃ hw₂ hy
  refine wpg_sockDeadlineBegin commit.ticks hw₃ _ (fun _ d w₄ hw₄ => ?_)
    (fun hinvalid => absurd valid hinvalid)
  simp only [waitCrAccepted, wpv_bind]
  refine wpg_waitRegister commit.ticks hw₄ _ _ d (fun w z w' hw hz => ⟨fun hz0 => ?_, fun hz0 => ?_⟩)
    (fun w hw => ?_) commit.stop
  · have hA := (commit.poll w z w' hw hz).1 hz0
    simp only [wpv_ite, wpv_bind, wpg_modifySock, setTxState, wpv_pure, Globals.setSock_setSock]
    refine ⟨fun hne => absurd rfl hne, fun _ => ⟨fun hn => commit.pending hn w' hA, fun hn => ?_⟩⟩
    have hsent := commit.sent hn
    exact (timed_deadlineAbs _).wpg hsent.ticks hA fun d w hw => wpg_sendtoWaitSent hsent hw d
  · exact (commit.poll w z w' hw hz).2 hz0
  · simp only [wpv_ite, wpv_bind, wpg_modifySock, setTxState, wpv_pure, Globals.setSock_setSock]
    exact ⟨fun _ => commit.stuck w hw, fun hok => absurd (by decide) hok⟩

end IoLibrary
