import IoLibrary.Ipv6.Rules

/-! The modes in which sendto hands a datagram over. -/
namespace IoLibrary.Ipv6
open Effects

/-- What sendto has written: the destination registers, the TX memory and the commands. -/
structure Sent where
  dipr : List (List Byte)
  dip6r : List (List Byte)
  dportr : List ℕ
  data : List (List Byte)
  commands : List Byte

def Sent.none : Sent := ⟨[], [], [], [], []⟩

/-- A chip whose socket is open and has at least `free` bytes of TX memory free. -/
def transmitting (free : ℕ) : Env Cpu Sent Io Io.Res := fun _ w e x w' =>
  match e, x with
  | .txFsr, n => free ≤ n ∧ w' = w
  | .sr, v => v ≠ sockClosed ∧ w' = w
  | .setDipr a, _ => w' = { w with dipr := w.dipr ++ [a] }
  | .setDip6r a, _ => w' = { w with dip6r := w.dip6r ++ [a] }
  | .setDportr p, _ => w' = { w with dportr := w.dportr ++ [p] }
  | .sendData d, _ => w' = { w with data := w.data ++ [d] }
  | .setCr v, _ => w' = { w with commands := w.commands ++ [v] }
  | _, _ => w' = w

/-- The lengths of the addresses that a datagram mode supports. A MACRAW frame has its addresses
in itself, and a call passes any IPv4 address. -/
def families (protocol : Byte) : List ℕ :=
  if protocol = snMrUdp4 ∨ protocol = snMrIpraw4 ∨ protocol = snMrMacraw then [4]
  else if protocol = snMrUdp6 ∨ protocol = snMrIpraw6 then [16]
  else if protocol = snMrUdpd then [4, 16]
  else []

def hasPort (protocol : Byte) : Prop :=
  protocol = snMrUdp4 ∨ protocol = snMrUdp6 ∨ protocol = snMrUdpd

/-- A datagram and the room for it in the TX memory, and the arguments of a recvfrom. -/
structure Datagram where
  buf : List Byte
  addr : List Byte
  port : ℕ
  free : ℕ
  len : ℕ
  dest : Dest

/-- The datagram has been handed over: the address, for UDP the port, the payload, one command. -/
structure Transmitted (protocol : Byte) (d : Datagram) (w : Sent) : Prop where
  address : protocol ≠ snMrMacraw → (if d.addr.length = 16 then w.dip6r else w.dipr) = [d.addr]
  port : hasPort protocol → w.dportr = [d.port]
  payload : w.data = [d.buf]
  command : w.commands = [if d.addr.length = 16 then snCrSend6 else snCrSend]

/-- Every run of sendto, also one whose waits go on for ever, hands the datagram over. -/
def Sends (sn : ℕ) (protocol : Byte) (d : Datagram) (c : Cpu) : Prop :=
  ∀ undefined turns r c' w', 0 < turns →
    Eval (transmitting d.free) (sendto undefined turns sn d.buf d.addr d.port d.addr.length) c
      Sent.none r c' w' → Transmitted protocol d w'

section mode
variable {protocol flag : Byte}

/-- The flags are in the upper half of the mode. -/
lemma openedMode_low (h : protocol ∈ protocols) : openedMode protocol flag &&& 0x0F = protocol := by
  have hall : ∀ p ∈ protocols, ∀ flag : Byte, openedMode p flag &&& 0x0F = p := by decide +kernel
  exact hall protocol h flag

lemma protocol_low (h : protocol ∈ protocols) : protocol &&& 0x0F = protocol := by
  have hall : ∀ p ∈ protocols, p &&& 0x0F = p := by decide
  exact hall protocol h

lemma openedMode_port (h : protocol ∈ protocols) :
    openedMode protocol flag &&& 0x03 = protocol &&& 0x03 := by
  calc openedMode protocol flag &&& 0x03
      = openedMode protocol flag &&& 0x0F &&& 0x03 := by rw [BitVec.and_assoc]; rfl
    _ = protocol &&& 0x03 := by rw [openedMode_low h]

lemma openedMode_ne {other : Byte} (h : protocol ∈ protocols) (hother : other &&& 0x0F ≠ protocol) :
    openedMode protocol flag ≠ other := by
  intro heq
  rw [← heq, openedMode_low h] at hother
  exact hother rfl

end mode

section sending
variable {free : ℕ} {w : Sent} {c : Cpu}

/-- A wait writes nothing that a datagram consists of. -/
lemma quiet_pollLoop {α : Type} {turns : ℕ} {look : Drv (Option α)} {expired : Drv α}
    (hlook : ∀ c, wp (transmitting free) look (fun _ _ w' => w' = w) (fun _ w' => w' = w) c w)
    (hexpired : ∀ c, wp (transmitting free) expired (fun _ _ w' => w' = w) (fun _ w' => w' = w) c w) :
    wp (transmitting free) (pollLoop turns look expired) (fun _ _ w' => w' = w)
      (fun _ w' => w' = w) c w := by
  apply wp_loop (fun _ _ w' => w' = w)
  · rintro - c' w' rfl
    rw [wp_bind]
    apply wp_mono (hlook c') _ fun _ _ => id
    rintro r c₁ w₁ rfl
    cases r with
    | some a => rfl
    | none =>
      simp only [wp_bind, wp_perform, wp_ite, wp_pure]
      rintro late _ rfl
      exact ⟨fun _ => wp_mono (hexpired c₁) (fun _ _ _ => id) fun _ _ => id, fun _ => rfl⟩
  · exact fun _ _ _ h => h
  · rfl

lemma quiet_waitCrAccepted {turns : ℕ} :
    wp (transmitting free) (waitCrAccepted turns) (fun _ _ w' => w' = w) (fun _ w' => w' = w) c w := by
  apply quiet_pollLoop
  · intro c
    simp only [wp_bind, wp_perform, wp_pure]
    rintro cr _ rfl
    rfl
  · exact fun _ => rfl

lemma quiet_sendtoSentLook {len : ℕ} (c : Cpu) :
    wp (transmitting free) (sendtoSentLook len) (fun _ _ w' => w' = w) (fun _ w' => w' = w) c w := by
  simp only [sendtoSentLook, wp_bind, wp_perform, wp_ite, wp_pure]
  rintro ir _ rfl
  refine ⟨fun _ => ?_, fun _ => ⟨fun _ => ?_, fun _ => rfl⟩⟩
  · rintro - _ rfl
    rfl
  · rintro - _ rfl
    rfl

def Sent.committed (data : List Byte) (tcmd : Byte) (w : Sent) : Sent :=
  { w with data := w.data ++ [data], commands := w.commands ++ [tcmd] }

lemma wp_sendtoCommit (turns : ℕ) (data : List Byte) (tcmd : Byte) (nonblocking : Bool) :
    wp (transmitting free) (sendtoCommit turns data tcmd nonblocking)
      (fun _ _ w' => w' = w.committed data tcmd) (fun _ w' => w' = w.committed data tcmd) c w := by
  simp only [sendtoCommit, wp_bind, wp_perform]
  rintro - _ rfl - _ rfl - _ rfl
  simp only [wp_get, wp_ite, setTxState, modifySock, wp_bind, wp_modify, wp_pure]
  refine ⟨fun _ => rfl, fun _ => wp_mono quiet_waitCrAccepted ?_ fun _ _ => id⟩
  rintro ret c₁ w₁ rfl
  refine ⟨fun _ => rfl, fun _ => ⟨fun _ => rfl, fun _ => ?_⟩⟩
  exact quiet_pollLoop quiet_sendtoSentLook fun _ => rfl

/-- The first look for free bytes finds them. -/
lemma wp_sendtoWaitFree {turns len : ℕ} {isMacraw nonblocking : Bool} (hlen : len ≤ free)
    (hturns : 0 < turns) {Q : Except ℤ Unit → Cpu → Sent → Prop} {H : Cpu → Sent → Prop}
    (hok : Q (.ok ()) c w) :
    wp (transmitting free) (sendtoWaitFree turns len isMacraw nonblocking) Q H c w := by
  rw [sendtoWaitFree, wp_ite]
  constructor
  · intro _
    simp only [wp_bind, wp_perform, wp_pure]
    rintro sr _ ⟨hsr, rfl⟩
    rw [if_neg hsr]
    exact hok
  · intro _
    cases turns with
    | zero => exact absurd hturns (Nat.lt_irrefl 0)
    | succ turns =>
      rw [pollLoop, Prog.loop]
      change wp _ (_ >>= _) _ _ _ _
      simp only [sendtoFreeLook, wp_bind, wp_perform, wp_ite, wp_pure]
      rintro n _ ⟨hn, rfl⟩ sr _ ⟨hsr, rfl⟩
      refine ⟨fun h => absurd h hsr, fun _ => ⟨fun _ => hok, fun h => absurd (Nat.le_trans hlen hn) h⟩⟩

/-- A datagram socket that has just been opened. -/
structure Fresh (protocol : Byte) (c : Cpu) : Prop where
  listed : protocol ∈ protocols
  mode : ∃ flag, c.sock.mode = openedMode protocol flag
  healthy : c.sock.health = .healthy
  idle : c.sock.txState = .idle
  remained : c.sock.remainedSize = 0
  configValid : c.configValid = true

/-- sendto of a fresh socket, up to the address. -/
lemma wp_sendto {undefined : ℤ} {turns sn port addrlen : ℕ} {buf addr : List Byte} {protocol : Byte}
    (hfresh : Fresh protocol c) (hsn : sn < sockNum) (hbuf : buf ≠ [])
    {Q : ℤ → Cpu → Sent → Prop} {H : Cpu → Sent → Prop}
    (h : wp (transmitting free) (sendtoIdle undefined turns buf addr port addrlen) Q H c w) :
    wp (transmitting free) (sendto undefined turns sn buf addr port addrlen) Q H c w := by
  have hlen : buf.length ≠ 0 := fun h => hbuf (List.length_eq_zero_iff.1 h)
  have hnum : ¬ sockNum ≤ sn := Nat.not_le.2 hsn
  simp only [sendto, wp_ite, wp_bind, wp_get, wp_pure]
  refine ⟨fun h => absurd h hlen, fun _ => ⟨fun h => absurd h hnum, fun _ => ?_⟩⟩
  simp only [hfresh.idle, hfresh.healthy, hfresh.configValid]
  simpa using h

/-- The modes whose address and command sendto gets right. -/
def Served (protocol : Byte) : Prop :=
  protocol = snMrUdp4 ∨ protocol = snMrIpraw4 ∨ protocol = snMrMacraw

lemma Served.listed {protocol : Byte} (h : Served protocol) : protocol ∈ protocols := by
  rcases h with rfl | rfl | rfl <;> decide

lemma wp_sendtoAddress {undefined : ℤ} {port : ℕ} {addr : List Byte} {protocol flag : Byte}
    (hserved : Served protocol) (hport : port ≠ 0) {Q : Except ℤ Byte → Cpu → Sent → Prop}
    {H : Cpu → Sent → Prop}
    (h : ∀ w', (protocol ≠ snMrMacraw → w'.dipr = w.dipr ++ [addr]) →
      (hasPort protocol → w'.dportr = w.dportr ++ [port]) → w'.data = w.data →
      w'.commands = w.commands → Q (.ok snCrSend) c w') :
    wp (transmitting free) (sendtoAddress undefined (openedMode protocol flag) addr port 4) Q H c w := by
  have hlisted : protocol ∈ protocols := hserved.listed
  have hlow : openedMode protocol flag &&& 0x0F = protocol := openedMode_low hlisted
  have hudp6 : openedMode protocol flag ≠ snMrUdp6 := by
    apply openedMode_ne hlisted
    rcases hserved with rfl | rfl | rfl <;> decide
  have hipraw6 : openedMode protocol flag ≠ snMrIpraw6 := by
    apply openedMode_ne hlisted
    rcases hserved with rfl | rfl | rfl <;> decide
  have hports : openedMode protocol flag &&& 0x03 = 0x02 ↔ hasPort protocol := by
    rw [openedMode_port hlisted]
    rcases hserved with rfl | rfl | rfl <;> simp [hasPort] <;> decide
  have portCheck (w₁ : Sent) (hdipr : protocol ≠ snMrMacraw → w₁.dipr = w.dipr ++ [addr])
      (hdport : w₁.dportr = w.dportr) (hdata : w₁.data = w.data)
      (hcommands : w₁.commands = w.commands) :
      wp (transmitting free) (sendtoAddress.portCheck (openedMode protocol flag) port) Q H c w₁ := by
    rw [sendtoAddress.portCheck, wp_ite]
    constructor
    · intro _
      simp only [wp_ite, wp_bind, wp_perform, wp_pure]
      refine ⟨fun _ => ?_, fun h => absurd hport h⟩
      rintro - _ rfl
      exact h _ hdipr (fun _ => by rw [hdport]) hdata hcommands
    · intro hno
      exact h _ hdipr (fun hp => absurd (hports.2 hp) hno) hdata hcommands
  have hmode : ¬ (protocol ≠ snMrUdp4 ∧ protocol ≠ snMrMacraw ∧ protocol ≠ snMrIpraw4 ∧
      protocol ≠ snMrIpraw6) := by
    rcases hserved with rfl | rfl | rfl <;> simp
  simp only [sendtoAddress, hlow]
  rw [if_neg hmode, wp_ite]
  constructor
  · intro _
    rw [if_neg (by decide), if_pos trivial, if_neg (fun h => h.elim hudp6 hipraw6)]
    simp only [wp_bind, wp_perform]
    rintro - _ rfl
    exact portCheck _ (fun _ => rfl) rfl rfl rfl
  · intro hmac
    have hmac : openedMode protocol flag = snMrMacraw := not_not.1 hmac
    apply portCheck w _ rfl rfl rfl
    intro hne
    rw [hmac] at hlow
    exact absurd hlow.symm hne

/-- sendto hands a datagram over in a served mode, whatever the waits behind the command do. -/
lemma sends_of_served {sn : ℕ} {protocol : Byte} {d : Datagram} (hfresh : Fresh protocol c)
    (hserved : Served protocol) (hsn : sn < sockNum) (hbuf : d.buf ≠ []) (haddr : d.addr.length = 4)
    (hport : d.port ≠ 0) (hfits : d.buf.length ≤ d.free) (hfree : d.free ≤ c.txmaxCache) :
    Sends sn protocol d c := by
  intro undefined turns r c' w' hturns run
  obtain ⟨flag, hmode⟩ := hfresh.mode
  have hlen : min d.buf.length c.txmaxCache = d.buf.length := by omega
  have h : wp (transmitting d.free) (sendto undefined turns sn d.buf d.addr d.port d.addr.length)
      (fun _ _ w' => Transmitted protocol d w') (fun _ w' => Transmitted protocol d w') c Sent.none := by
    apply wp_sendto hfresh hsn hbuf
    simp only [sendtoIdle, wp_bind, wp_get, hmode, haddr]
    apply wp_sendtoAddress hserved hport
    intro w₁ hdipr hdport hdata hcommands
    simp only [wp_bind, hlen]
    apply wp_sendtoWaitFree hfits hturns
    have sent (w₂ : Sent) (hw : w₂ = w₁.committed d.buf snCrSend) : Transmitted protocol d w₂ := by
      have h16 : d.addr.length ≠ 16 := by omega
      subst hw
      constructor
      · intro hne
        rw [if_neg h16]
        exact hdipr hne
      · exact hdport
      · rw [Sent.committed, hdata]
        rfl
      · rw [Sent.committed, hcommands, if_neg h16]
        rfl
    rw [List.take_length]
    exact wp_mono (wp_sendtoCommit _ _ _ _) (fun _ _ w₂ => sent w₂) fun _ w₂ => sent w₂
  have hrun := (wp_iff_eval _).1 h r c' w' run
  cases r with
  | none => exact hrun
  | some r => exact hrun

/-- The modes whose datagrams sendto refuses. -/
def Refused (protocol : Byte) : Prop :=
  protocol = snMrUdp6 ∨ protocol = snMrUdpd ∨ protocol = snMrIpraw6

/-- No address of a refused mode gets past the checks. -/
lemma wp_sendtoAddress_refused {undefined : ℤ} {port : ℕ} {addr : List Byte} {protocol flag : Byte}
    (hrefused : Refused protocol) (hfamily : addr.length ∈ families protocol)
    {Q : Except ℤ Byte → Cpu → Sent → Prop} {H : Cpu → Sent → Prop}
    (h : ∀ e w', w'.commands = w.commands → Q (.error e) c w') :
    wp (transmitting free) (sendtoAddress undefined (openedMode protocol flag) addr port addr.length)
      Q H c w := by
  have hlisted : protocol ∈ protocols := by
    rcases hrefused with rfl | rfl | rfl <;> decide
  have hlow : openedMode protocol flag &&& 0x0F = protocol := openedMode_low hlisted
  rw [sendtoAddress, hlow, wp_ite]
  constructor
  · exact fun _ => h _ w rfl
  · intro hknown
    -- IPRAW6 is the one of them in the switch, and supports 16-byte addresses only
    have hipraw6 : protocol = snMrIpraw6 := by
      rcases hrefused with rfl | rfl | rfl
      · exact absurd (by decide) hknown
      · exact absurd (by decide) hknown
      · rfl
    subst hipraw6
    have hlen : addr.length = 16 := by
      have hfamilies : families snMrIpraw6 = [16] := rfl
      rw [hfamilies] at hfamily
      exact List.mem_singleton.1 hfamily
    have hmac : openedMode snMrIpraw6 flag ≠ snMrMacraw := openedMode_ne hlisted (by decide)
    rw [if_pos hmac, if_pos hlen, wp_ite]
    constructor
    · intro _
      simp only [wp_bind, wp_perform, wp_pure]
      rintro - _ rfl
      exact h _ _ rfl
    · exact fun _ => h _ w rfl

lemma transmitting_total (c : Cpu) (w : Sent) (e : Io) : ∃ x w', transmitting free c w e x w' := by
  cases e with
  | txFsr => exact ⟨free, w, Nat.le_refl _, rfl⟩
  | sr => exact ⟨sockInit, w, by decide, rfl⟩
  | cr => exact ⟨(0 : Byte), w, rfl⟩
  | ir => exact ⟨(0 : Byte), w, rfl⟩
  | rxRsr => exact ⟨(0 : ℕ), w, rfl⟩
  | sipr => exact ⟨Vector.replicate 4 0, w, rfl⟩
  | llar => exact ⟨Vector.replicate 16 0, w, rfl⟩
  | recvData len _ => exact ⟨Vector.replicate len 0, w, rfl⟩
  | expired => exact ⟨true, w, rfl⟩
  | setMr v => exact ⟨(), w, rfl⟩
  | setMr2 v => exact ⟨(), w, rfl⟩
  | setPortr port => exact ⟨(), w, rfl⟩
  | clearIr v => exact ⟨(), w, rfl⟩
  | setCr v => exact ⟨(), _, rfl⟩
  | setDipr addr => exact ⟨(), _, rfl⟩
  | setDip6r addr => exact ⟨(), _, rfl⟩
  | setDportr port => exact ⟨(), _, rfl⟩
  | sendData data => exact ⟨(), _, rfl⟩

/-- A run without a command hands nothing over. -/
lemma not_sends {sn : ℕ} {protocol : Byte} {d : Datagram}
    (h : wp (transmitting d.free) (sendto 0 1 sn d.buf d.addr d.port d.addr.length)
      (fun _ _ w' => w'.commands = []) (fun _ w' => w'.commands = []) c Sent.none) :
    ¬ Sends sn protocol d c := by
  intro hsends
  obtain ⟨r, c', w', run⟩ := exists_eval transmitting_total
    (sendto 0 1 sn d.buf d.addr d.port d.addr.length) c Sent.none
  have hcommand := (hsends 0 1 r c' w' Nat.one_pos run).command
  have hnone := (wp_iff_eval _).1 h r c' w' run
  have hempty : w'.commands = [] := by
    cases r with
    | none => exact hnone
    | some r => exact hnone
  rw [hempty] at hcommand
  exact List.cons_ne_nil _ _ hcommand.symm

lemma not_sends_empty {sn : ℕ} {protocol : Byte} {d : Datagram} (hbuf : d.buf = []) :
    ¬ Sends sn protocol d c := by
  apply not_sends
  rw [sendto, hbuf, if_pos List.length_nil]
  rfl

lemma not_sends_refused {sn : ℕ} {protocol : Byte} {d : Datagram} (hfresh : Fresh protocol c)
    (hsn : sn < sockNum) (hrefused : Refused protocol)
    (hfamily : d.addr.length ∈ families protocol) : ¬ Sends sn protocol d c := by
  by_cases hbuf : d.buf = []
  · exact not_sends_empty hbuf
  · obtain ⟨flag, hmode⟩ := hfresh.mode
    apply not_sends
    apply wp_sendto hfresh hsn hbuf
    simp only [sendtoIdle, wp_bind, wp_get, hmode]
    apply wp_sendtoAddress_refused hrefused hfamily
    exact fun _ _ hcommands => hcommands

end sending

end IoLibrary.Ipv6
