import IoLibrary.Ipv6.Sending

/-! The modes that socket opens, on a chip that accepts its commands in time. -/
namespace IoLibrary.Ipv6
open Effects

/-- The state that OPEN leads to, as w6100.h documents it for the mode register. -/
def documentedStatus (mr : Byte) : Byte :=
  let p := mr &&& 0x0F
  if p = snMrTcp4 ∨ p = snMrTcp6 ∨ p = snMrTcpd then sockInit
  else if p = snMrUdp4 ∨ p = snMrUdp6 ∨ p = snMrUdpd then sockUdp
  else if p = snMrIpraw4 then sockIpraw
  else if p = snMrIpraw6 then sockIpraw6
  else if p = snMrMacraw then sockMacraw
  else sockClosed

/-- A chip that accepts OPEN, and CLOSE before it if the socket is not closed: its state before
the call, and after how many reads of Sn_CR and then of Sn_SR a command is done. -/
structure Opening where
  status : Byte
  closeCr : ℕ
  closeSr : ℕ
  openCr : ℕ
  openSr : ℕ
  sipr : Vector Byte 4
  llar : Vector Byte 16

/-- Sn_MR, the reads of Sn_CR that still see a command, Sn_SR before and after the last command,
the reads that still see the former, and the polls until the budget is over. -/
structure Chip where
  mr : Byte
  cr : ℕ
  sr : Byte
  next : Byte
  lag : ℕ
  budget : ℕ

def Opening.start (o : Opening) (budget : ℕ) : Chip := ⟨0, 0, o.status, o.status, 0, budget⟩

/-- The polls of the deadline that the commands take. -/
def Opening.polls (o : Opening) : ℕ := o.closeCr + o.closeSr + o.openCr + o.openSr

def opening (o : Opening) : Env Cpu Chip Io Io.Res := fun _ w e x w' =>
  match e, x with
  | .cr, v => if w.cr = 0 then v = 0 ∧ w' = w else v ≠ (0 : Byte) ∧ w' = { w with cr := w.cr - 1 }
  | .sr, v =>
    if w.lag = 0 then v = w.next ∧ w' = w else v = w.sr ∧ w' = { w with lag := w.lag - 1 }
  | .expired, late => late = decide (w.budget = 0) ∧ w' = { w with budget := w.budget - 1 }
  | .setMr v, _ => w' = { w with mr := v }
  | .setCr v, _ => w' =
    if v = snCrOpen then
      { w with cr := o.openCr, sr := w.next, next := documentedStatus w.mr, lag := o.openSr }
    else if v = snCrClose then
      { w with cr := o.closeCr, sr := w.next, next := sockClosed, lag := o.closeSr }
    else w
  | .sipr, v => v = o.sipr ∧ w' = w
  | .llar, v => v = o.llar ∧ w' = w
  | _, _ => w' = w

/-- The call of socket and what it finds. -/
structure SocketCall where
  sn : ℕ
  protocol : Byte
  port : ℕ
  flag : Byte
  chip : Opening
  budget : ℕ
  cpu : Cpu

/-- The runs of the call. -/
def SocketCall.Run (call : SocketCall) (turns : ℕ) (r : Option ℤ) (c : Cpu) (w : Chip) : Prop :=
  Eval (opening call.chip) (socket turns call.sn call.protocol call.port call.flag) call.cpu
    (call.chip.start call.budget) r c w

/-- What the callers and the network settings provide, and a chip that is in time. -/
structure Legal (call : SocketCall) (d : Datagram) : Prop where
  listed : call.protocol ∈ protocols
  flags : socketArgCheck call.sn call.protocol call.flag = none
  ready : call.cpu.ready = true
  configValid : call.cpu.configValid = true
  healthy : call.cpu.sock.health = .healthy
  sipr : call.protocol = snMrTcp4 ∨ call.protocol = snMrTcpd → call.chip.sipr.all (· = 0) = false
  llar : call.protocol = snMrTcp6 ∨ call.protocol = snMrTcpd → call.chip.llar.all (· = 0) = false
  budget : call.chip.polls ≤ call.budget
  family : families call.protocol ≠ [] → d.addr.length ∈ families call.protocol
  address : ∃ b ∈ d.addr, b ≠ 0
  port : d.port ≠ 0
  fits : d.buf.length ≤ d.free
  free : d.free ≤ call.cpu.txmaxCache
  pointer : d.dest.addr ≠ none

section opening
variable {o : Opening} {c : Cpu} {w : Chip}

/-- A command that is done within the turns and the budget is accepted. -/
lemma wp_crReached {turns : ℕ} (hturns : w.cr < turns) (hbudget : w.cr ≤ w.budget)
    {Q : ℤ → Cpu → Chip → Prop} {H : Cpu → Chip → Prop}
    (h : ∀ w', w'.mr = w.mr → w'.sr = w.sr → w'.next = w.next → w'.lag = w.lag →
      w.budget = w'.budget + w.cr → Q sockOk c w') :
    wp (opening o) (waitCrAccepted turns) Q H c w := by
  induction turns generalizing w with
  | zero => exact absurd hturns (Nat.not_lt_zero _)
  | succ turns ih =>
    rw [waitCrAccepted, pollLoop, Prog.loop]
    change wp _ (_ >>= _) _ _ _ _
    simp only [wp_bind, wp_perform, wp_pure]
    intro cr w₁ hcr
    simp only [opening] at hcr
    split_ifs at hcr with hzero
    · obtain ⟨rfl, rfl⟩ := hcr
      exact h w₁ rfl rfl rfl rfl (by omega)
    · obtain ⟨hne, rfl⟩ := hcr
      rw [if_neg hne]
      simp only [wp_bind, wp_perform, wp_ite, wp_pure]
      rintro late w₂ ⟨rfl, rfl⟩
      refine ⟨fun hlate => ?_, fun _ => ?_⟩
      · have hend : w.budget = 0 := of_decide_eq_true hlate
        omega
      · apply ih
        · change w.cr - 1 < turns
          omega
        · change w.cr - 1 ≤ w.budget - 1
          omega
        · intro w' hmr hsr hnext hlag hleft
          have hleft : w.budget - 1 = w'.budget + (w.cr - 1) := hleft
          exact h w' hmr hsr hnext hlag (by omega)

/-- A state that the command leads to within the turns and the budget is reached. -/
lemma wp_srReached {turns : ℕ} {wanted : Byte} (hturns : w.lag < turns) (hbudget : w.lag ≤ w.budget)
    (hnext : w.next = wanted) {Q : ℤ → Cpu → Chip → Prop} {H : Cpu → Chip → Prop}
    (h : ∀ w', w'.next = w.next → w.budget ≤ w'.budget + w.lag → Q sockOk c w') :
    wp (opening o) (waitSrReached turns wanted) Q H c w := by
  induction turns generalizing w with
  | zero => exact absurd hturns (Nat.not_lt_zero _)
  | succ turns ih =>
    rw [waitSrReached, pollLoop, Prog.loop]
    change wp _ (_ >>= _) _ _ _ _
    simp only [wp_bind, wp_perform, wp_pure]
    intro sr w₁ hsr
    simp only [opening] at hsr
    split_ifs at hsr with hzero
    · obtain ⟨rfl, rfl⟩ := hsr
      rw [if_pos hnext]
      exact h w₁ rfl (by omega)
    · obtain ⟨rfl, rfl⟩ := hsr
      by_cases hearly : w.sr = wanted
      · rw [if_pos hearly]
        refine h _ rfl ?_
        change w.budget ≤ w.budget + w.lag
        omega
      · rw [if_neg hearly]
        simp only [wp_bind, wp_perform, wp_ite, wp_pure]
        rintro late w₂ ⟨rfl, rfl⟩
        refine ⟨fun hlate => ?_, fun _ => ?_⟩
        · have hend : w.budget = 0 := of_decide_eq_true hlate
          omega
        · apply ih
          · change w.lag - 1 < turns
            omega
          · change w.lag - 1 ≤ w.budget - 1
            omega
          · exact hnext
          · intro w' hnext' hleft
            have hleft : w.budget - 1 ≤ w'.budget + (w.lag - 1) := hleft
            exact h w' hnext' (by omega)

/-- A first look that still finds the state before the command. -/
lemma wp_srEarly {turns : ℕ} {wanted : Byte} (hturns : 0 < turns) (hlag : 0 < w.lag)
    (hsr : w.sr = wanted) {Q : ℤ → Cpu → Chip → Prop} {H : Cpu → Chip → Prop}
    (h : ∀ w', Q sockOk c w') : wp (opening o) (waitSrReached turns wanted) Q H c w := by
  cases turns with
  | zero => exact absurd hturns (Nat.lt_irrefl 0)
  | succ turns =>
    rw [waitSrReached, pollLoop, Prog.loop]
    change wp _ (_ >>= _) _ _ _ _
    simp only [wp_bind, wp_perform, wp_pure]
    intro sr w₁ hv
    simp only [opening, if_neg (Nat.ne_of_gt hlag)] at hv
    obtain ⟨rfl, rfl⟩ := hv
    rw [if_pos hsr]
    exact h _

/-- A state that the command does not lead to is never reached. -/
lemma wp_srMissed {turns : ℕ} {wanted : Byte} (hlag : w.lag = 0) (hnext : w.next ≠ wanted) :
    wp (opening o) (waitSrReached turns wanted) (fun r _ _ => r = sockerrTimeout) (fun _ _ => True)
      c w := by
  apply wp_loop (fun _ _ w => w.lag = 0 ∧ w.next ≠ wanted) _ (fun _ _ _ _ => trivial) _ ⟨hlag, hnext⟩
  rintro - c w ⟨hlag, hnext⟩
  simp only [wp_bind, wp_perform, wp_pure]
  intro sr w₁ hsr
  simp only [opening, if_pos hlag] at hsr
  obtain ⟨rfl, rfl⟩ := hsr
  rw [if_neg hnext]
  simp only [wp_bind, wp_perform, wp_ite, wp_pure]
  rintro late w₂ ⟨-, rfl⟩
  exact ⟨fun _ => rfl, fun _ => ⟨hlag, hnext⟩⟩

/-- The TCP modes find the source addresses they check. -/
lemma wp_addressed {protocol : Byte} (hlisted : protocol ∈ protocols)
    (hsipr : protocol = snMrTcp4 ∨ protocol = snMrTcpd → o.sipr.all (· = 0) = false)
    (hllar : protocol = snMrTcp6 ∨ protocol = snMrTcpd → o.llar.all (· = 0) = false)
    {Q : Option ℤ → Cpu → Chip → Prop} {H : Cpu → Chip → Prop} (h : Q none c w) :
    wp (opening o) (addressCheck protocol) Q H c w := by
  have hllarCheck : wp (opening o) (addressCheck.llarCheck protocol) Q H c w := by
    rw [addressCheck.llarCheck, wp_ite]
    refine ⟨fun hp => ?_, fun _ => h⟩
    simp only [wp_bind, wp_perform, wp_pure]
    rintro llar _ ⟨rfl, rfl⟩
    rw [hllar hp, if_neg Bool.false_ne_true]
    exact h
  simp only [addressCheck, protocol_low hlisted]
  rw [wp_ite]
  refine ⟨fun hp => ?_, fun _ => hllarCheck⟩
  simp only [wp_bind, wp_perform]
  rintro sipr _ ⟨rfl, rfl⟩
  rw [hsipr hp, if_neg Bool.false_ne_true]
  exact hllarCheck

lemma documentedStatus_openedMode {protocol : Byte} (flag : Byte) (h : protocol ∈ protocols) :
    documentedStatus (openedMode protocol flag) = documentedStatus protocol := by
  simp only [documentedStatus, openedMode_low h, protocol_low h]

/-- What socket does once OPEN is accepted. -/
def openWait (turns sn : ℕ) (protocol flag : Byte) : Drv ℤ := do
  let ret ← waitSrReached turns (socketOpenStatus protocol)
  if ret ≠ sockOk then return ret
  modifySock (Sock.opened protocol flag)
  return sn

/-- OPEN has been accepted on a closed socket, and its wait has budget left. -/
structure Accepted (o : Opening) (protocol : Byte) (w : Chip) : Prop where
  sr : w.sr = sockClosed
  next : w.next = documentedStatus protocol
  lag : w.lag = o.openSr
  budget : o.openSr ≤ w.budget

variable {call : SocketCall} {d : Datagram}

lemma wp_socketOpenClosed_accepted {turns port : ℕ} (hlegal : Legal call d)
    (hturns : call.chip.polls < turns) (hnext : w.next = sockClosed)
    (hbudget : call.chip.openCr + call.chip.openSr ≤ w.budget) {Q : ℤ → Cpu → Chip → Prop}
    {H : Cpu → Chip → Prop} (h : ∀ w', Accepted call.chip call.protocol w' →
      wp (opening call.chip) (openWait turns call.sn call.protocol call.flag) Q H c w') :
    wp (opening call.chip) (socketOpenClosed turns call.sn call.protocol port call.flag) Q H c w := by
  rw [Opening.polls] at hturns
  rw [socketOpenClosed, wp_bind]
  apply wp_addressed hlegal.listed hlegal.sipr hlegal.llar
  simp only [wp_bind, wp_perform]
  rintro - _ rfl - _ rfl - _ rfl _ w₁ hopen
  change w₁ = ite (snCrOpen = snCrOpen) _ _ at hopen
  rw [if_pos rfl] at hopen
  subst hopen
  apply wp_crReached
  · change call.chip.openCr < turns
    omega
  · change call.chip.openCr ≤ w.budget
    omega
  · intro w' hmr hsr hnext' hlag hleft
    have hleft : w.budget = w'.budget + call.chip.openCr := hleft
    rw [if_neg (by decide)]
    refine h w' ⟨hsr.trans hnext, ?_, hlag, by omega⟩
    exact hnext'.trans (documentedStatus_openedMode call.flag hlegal.listed)

lemma wp_closeInternal_reached {turns : ℕ} (hturns : o.polls < turns)
    (hhealth : c.sock.health = .healthy) (hlag : w.lag = 0) (hnext : w.next ≠ sockClosed)
    (hbudget : o.polls ≤ w.budget) {Q : ℤ → Cpu → Chip → Prop} {H : Cpu → Chip → Prop}
    (h : ∀ c' w', w'.next = sockClosed → o.openCr + o.openSr ≤ w'.budget → Q sockOk c' w') :
    wp (opening o) (closeInternal turns) Q H c w := by
  rw [Opening.polls] at hturns hbudget
  simp only [closeInternal, closeCommand, wp_bind, wp_get, hhealth]
  rw [if_neg (by decide)]
  simp only [wp_bind, wp_perform]
  intro sr w₁ hsr
  simp only [opening, if_pos hlag] at hsr
  obtain ⟨rfl, rfl⟩ := hsr
  rw [if_neg hnext]
  simp only [wp_bind, wp_perform]
  intro _ w₂ hclose
  have hne : snCrClose ≠ snCrOpen := by decide
  change w₂ = ite (snCrClose = snCrOpen) _ (ite (snCrClose = snCrClose) _ _) at hclose
  rw [if_neg hne, if_pos rfl] at hclose
  subst hclose
  apply wp_crReached
  · change o.closeCr < turns
    omega
  · change o.closeCr ≤ w₁.budget
    omega
  · intro w₃ _ _ hnext₃ hlag₃ hleft
    have hleft : w₁.budget = w₃.budget + o.closeCr := hleft
    have hlag₃ : w₃.lag = o.closeSr := hlag₃
    rw [if_neg (by decide)]
    simp only [wp_bind, wp_perform]
    rintro - _ rfl
    apply wp_srReached (by omega) (by omega) hnext₃
    intro w₄ hnext₄ hleft₄
    simp only [modifySock, wp_modify]
    rw [if_neg (by decide)]
    exact h _ _ (hnext₄.trans hnext₃) (by omega)

lemma wp_socketLocked_accepted {turns port : ℕ} {before : Byte} (hlegal : Legal call d)
    (hturns : call.chip.polls < turns) (hhealth : c.sock.health = .healthy)
    (hconfig : c.configValid = true) (hlag : w.lag = 0) (hbefore : before = w.next)
    (hbudget : call.chip.polls ≤ w.budget) {Q : ℤ → Cpu → Chip → Prop} {H : Cpu → Chip → Prop}
    (h : ∀ c' w', Accepted call.chip call.protocol w' →
      wp (opening call.chip) (openWait turns call.sn call.protocol call.flag) Q H c' w') :
    wp (opening call.chip) (socketLocked turns call.sn call.protocol port call.flag before) Q H c w := by
  rw [socketLocked, wp_bind, wp_get, hhealth, if_neg (by decide), hconfig, if_neg (by decide)]
  simp only [wp_bind, wp_perform]
  intro sr w₁ hsr
  simp only [opening, if_pos hlag] at hsr
  obtain ⟨rfl, rfl⟩ := hsr
  by_cases hclosed : w₁.next = sockClosed
  · rw [if_pos hclosed]
    apply wp_socketOpenClosed_accepted hlegal hturns hclosed
    · rw [Opening.polls] at hbudget
      omega
    · exact h c
  · rw [if_neg hclosed, if_neg (hbefore ▸ hclosed), wp_bind]
    apply wp_closeInternal_reached hturns hhealth hlag hclosed hbudget
    intro c₁ w₂ hnext hleft
    rw [if_neg (by decide)]
    exact wp_socketOpenClosed_accepted hlegal hturns hnext hleft (h c₁)

/-- A legal call of socket gets to its wait for the open state. -/
lemma wp_socket_accepted {turns : ℕ} (hlegal : Legal call d) (hturns : call.chip.polls < turns)
    {Q : ℤ → Cpu → Chip → Prop} {H : Cpu → Chip → Prop}
    (h : ∀ c' w', Accepted call.chip call.protocol w' →
      wp (opening call.chip) (openWait turns call.sn call.protocol call.flag) Q H c' w') :
    wp (opening call.chip) (socket turns call.sn call.protocol call.port call.flag) Q H call.cpu
      (call.chip.start call.budget) := by
  rw [socket, hlegal.flags]
  simp only [wp_bind, wp_get, hlegal.ready]
  rw [if_neg (by decide)]
  simp only [wp_bind, wp_perform]
  intro sr w₁ hsr
  obtain ⟨hsr, rfl⟩ : sr = call.chip.status ∧ w₁ = call.chip.start call.budget := hsr
  apply wp_sourcePort
  intro p c₁ hsock hconfig _
  apply wp_socketLocked_accepted hlegal hturns
  · rw [hsock]
    exact hlegal.healthy
  · rw [hconfig]
    exact hlegal.configValid
  · rfl
  · exact hsr
  · exact hlegal.budget
  · exact h

/-- The modes for which socket waits for a state that the chip never enters. -/
def Missed (protocol : Byte) : Prop := documentedStatus protocol ≠ socketOpenStatus protocol

lemma socketOpenStatus_missed {protocol : Byte} (hlisted : protocol ∈ protocols)
    (hmissed : Missed protocol) : socketOpenStatus protocol = sockClosed := by
  have hall : ∀ p ∈ protocols, documentedStatus p ≠ socketOpenStatus p →
      socketOpenStatus p = sockClosed := by decide
  exact hall protocol hlisted hmissed

lemma opens_of_waited (hlegal : Legal call d)
    (h : ¬ Missed call.protocol ∨ 0 < call.chip.openSr) :
    ∃ n, ∀ turns ≥ n, ∀ r c w, call.Run turns r c w →
      r = some (call.sn : ℤ) ∧ c.sock.health = .healthy := by
  refine ⟨call.chip.polls + 1, fun turns hturns r c w run => ?_⟩
  have hsocket : wp (opening call.chip) (socket turns call.sn call.protocol call.port call.flag)
      (fun r c _ => r = call.sn ∧ c.sock.health = .healthy) (fun _ _ => False) call.cpu
      (call.chip.start call.budget) := by
    apply wp_socket_accepted hlegal hturns
    intro c' w' haccepted
    have hlag : w'.lag < turns := by
      rw [haccepted.lag]
      rw [Opening.polls] at hturns
      omega
    have hdone (w'' : Chip) : wp (opening call.chip) (do
        let ret ← (pure sockOk : Drv ℤ)
        if ret ≠ sockOk then return ret
        modifySock (Sock.opened call.protocol call.flag)
        return (call.sn : ℤ))
        (fun r c _ => r = call.sn ∧ c.sock.health = .healthy) (fun _ _ => False) c' w'' := ⟨rfl, rfl⟩
    rw [openWait, wp_bind]
    by_cases hmissed : Missed call.protocol
    · have hlate : 0 < w'.lag := by
        rw [haccepted.lag]
        exact h.resolve_left (not_not.2 hmissed)
      have hwanted := socketOpenStatus_missed hlegal.listed hmissed
      exact wp_srEarly (by omega) hlate (haccepted.sr.trans hwanted.symm) hdone
    · have hwanted : documentedStatus call.protocol = socketOpenStatus call.protocol := not_not.1 hmissed
      apply wp_srReached hlag (haccepted.lag ▸ haccepted.budget) (haccepted.next.trans hwanted)
      exact fun w'' _ _ => hdone w''
  cases r with
  | none => exact absurd run (wp_cuts hsocket)
  | some r =>
    obtain ⟨hr, hhealth⟩ := wp_returns hsocket run
    exact ⟨congrArg some hr, hhealth⟩

lemma opening_total (c : Cpu) (w : Chip) (e : Io) : ∃ x w', opening o c w e x w' := by
  cases e with
  | cr =>
    by_cases h : w.cr = 0
    · exact ⟨(0 : Byte), w, by simp [opening, h]⟩
    · exact ⟨(1 : Byte), { w with cr := w.cr - 1 }, by simp [opening, h]⟩
  | sr =>
    by_cases h : w.lag = 0
    · exact ⟨w.next, w, by simp [opening, h]⟩
    · exact ⟨w.sr, { w with lag := w.lag - 1 }, by simp [opening, h]⟩
  | expired => exact ⟨_, _, rfl, rfl⟩
  | sipr => exact ⟨_, _, rfl, rfl⟩
  | llar => exact ⟨_, _, rfl, rfl⟩
  | ir => exact ⟨(0 : Byte), w, rfl⟩
  | txFsr => exact ⟨(0 : ℕ), w, rfl⟩
  | rxRsr => exact ⟨(0 : ℕ), w, rfl⟩
  | recvData len _ => exact ⟨Vector.replicate len 0, w, rfl⟩
  | setMr v => exact ⟨(), _, rfl⟩
  | setMr2 v => exact ⟨(), _, rfl⟩
  | setPortr port => exact ⟨(), _, rfl⟩
  | setCr v => exact ⟨(), _, rfl⟩
  | clearIr v => exact ⟨(), _, rfl⟩
  | setDipr addr => exact ⟨(), _, rfl⟩
  | setDip6r addr => exact ⟨(), _, rfl⟩
  | setDportr port => exact ⟨(), _, rfl⟩
  | sendData data => exact ⟨(), _, rfl⟩

/-- A mode whose open state socket does not wait for is opened on a slow chip only. -/
lemma not_opens_of_missed (hlegal : Legal call d) (hmissed : Missed call.protocol)
    (hlag : call.chip.openSr = 0) :
    ¬ ∃ n, ∀ turns ≥ n, ∀ r c w, call.Run turns r c w →
      r = some (call.sn : ℤ) ∧ c.sock.health = .healthy := by
  rintro ⟨n, hopens⟩
  have hturns : call.chip.polls < n + call.chip.polls + 1 := by omega
  have hsocket : wp (opening call.chip)
      (socket (n + call.chip.polls + 1) call.sn call.protocol call.port call.flag)
      (fun r _ _ => r ≠ call.sn) (fun _ _ => True) call.cpu (call.chip.start call.budget) := by
    apply wp_socket_accepted hlegal hturns
    intro c' w' haccepted
    rw [openWait, wp_bind]
    have hnext : w'.next ≠ socketOpenStatus call.protocol := by
      rw [haccepted.next]
      exact hmissed
    apply wp_mono (wp_srMissed (haccepted.lag.trans hlag) hnext) _ fun _ _ => id
    rintro r c₁ w₁ rfl
    rw [if_pos (by decide), wp_pure]
    have hneg : sockerrTimeout < 0 := by decide
    omega
  obtain ⟨r, c', w', run⟩ := exists_eval opening_total
    (socket (n + call.chip.polls + 1) call.sn call.protocol call.port call.flag) call.cpu
    (call.chip.start call.budget)
  obtain ⟨rfl, -⟩ := hopens _ (by omega) r c' w' run
  exact wp_returns hsocket run rfl

end opening

end IoLibrary.Ipv6
