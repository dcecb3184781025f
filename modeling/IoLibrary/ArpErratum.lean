import IoLibrary.Driver

/-! sendto in the builds without IPv6. Those before the W5500 clear the subnet mask while a datagram is in flight and
the chip has no address. -/
namespace IoLibrary.ArpErratum

abbrev Quad := Vector Byte 4

def zero : Quad := .replicate 4 0

/-- What a SEND command sends. -/
structure Datagram where
  addr : Quad
  port : ℕ
  data : List Byte
  deriving DecidableEq

/-- A socket and its capacity, the registers SIPR and SUBR, and the SEND commands so far. `erratum` says that the
build is one before the W5500. -/
structure State where
  erratum : Bool
  sock : Sock
  txmax : ℕ
  sipr : Quad
  subr : Quad
  sends : List Datagram

/-- A look for room: Sn_TX_FSR or the error of its reading, Sn_SR and whether the time is over. -/
structure RoomLook where
  error : Option ℤ
  free : ℕ
  sr : Byte
  expired : Bool

/-- A look for the end of a SEND: Sn_IR and whether the time is over. -/
structure SentLook where
  ir : Byte
  expired : Bool

/-- A call of sendto on a socket of the chip, with what it finds there: whether the deadlines are set up and can begin,
Sn_IR while a datagram is pending, Sn_SR, and the looks of its loops. -/
structure Call where
  buf : Option (List Byte)
  len : ℕ
  addr : Quad
  port : ℕ
  addrlen : ℕ
  configValid : Bool
  ir : Byte
  sr : Byte
  room : List RoomLook
  begins : Bool
  accepted : Bool
  sent : List SentLook

def State.setSock (s : State) (f : Sock → Sock) : State := { s with sock := f s.sock }

/-- The checks of the mode, the destination and the status: the error, if one fails. -/
def Call.addressError (c : Call) (mode : Byte) : Option ℤ :=
  let m := mode &&& 0x0F
  if m ≠ snMrUdp ∧ m ≠ snMrMacraw ∧ m ≠ snMrIpraw ∧ m ≠ snMrIpraw6 then some sockerrSockmode
  else if mode ≠ snMrMacraw ∧ c.addrlen = 16 then some sockerrSockmode
  else if mode ≠ snMrMacraw ∧ c.addrlen ≠ 4 then some sockerrIpinvalid
  else if mode ≠ snMrMacraw ∧ (mode = snMrUdp6 ∨ mode = snMrIpraw6) then some sockerrSockmode
  else if mode &&& 0x03 = 0x02 ∧ c.port = 0 then some sockerrPortzero
  else if m = snMrMacraw then none
  else if c.addr = zero ∧ mode &&& snMrMacraw ≠ snMrMacraw then some sockerrIpinvalid
  else if c.port = 0 ∧ mode &&& snMrMacraw ≠ snMrMacraw then some sockerrPortzero
  else if c.sr ≠ sockMacraw ∧ c.sr ≠ sockUdp ∧ c.sr ≠ sockIpraw then some sockerrSockstatus
  else none

/-- The wait for `len` free bytes: an error, if it ends with one; nothing if it has not ended. -/
def waitRoom (nonblocking : Bool) (len : ℕ) : List RoomLook → Option (Option ℤ)
  | [] => none
  | look :: rest =>
    if let some e := look.error then some (some e)
    else if look.sr = sockClosed then some (some sockerrSockclosed)
    else if len ≤ look.free then some none
    else if nonblocking then some (some sockBusy)
    else if look.expired then some (some sockerrTimeout)
    else waitRoom nonblocking len rest

/-- MACRAW does not wait. -/
def Call.roomError (c : Call) (s : State) : Option (Option ℤ) :=
  if s.sock.mode &&& 0x0F = snMrMacraw then some (if c.sr = sockClosed then some sockerrSockclosed else none)
  else waitRoom s.sock.ioMode (min c.len s.txmax) c.room

inductive Sent
  | sendok
  | timeout
  | expired
  deriving DecidableEq

/-- The wait for the end of a SEND; nothing if it has not ended. -/
def waitSent : List SentLook → Option Sent
  | [] => none
  | look :: rest =>
    if look.ir &&& snIrSendok ≠ 0 then some .sendok
    else if look.ir &&& snIrTimeout ≠ 0 then some .timeout
    else if look.expired then some .expired
    else waitSent rest

/-- The mask that is saved, in taddr, which is zero where there is nothing to restore. -/
def State.saved (s : State) : Quad := if s.erratum ∧ s.sipr = zero then s.subr else zero

def State.cleared (s : State) : State := if s.erratum ∧ s.sipr = zero then { s with subr := zero } else s

def State.send (s : State) (d : Datagram) : State := { s with sends := s.sends ++ [d] }

def State.restore (s : State) (taddr : Quad) : State := if taddr ≠ zero then { s with subr := taddr } else s

/-- From the copy of the payload on. -/
def Call.commit (c : Call) (buf : List Byte) (s : State) : Option (ℤ × State) :=
  let taddr := s.saved
  let s := s.cleared.send ⟨c.addr, c.port, buf.take (min c.len s.txmax)⟩
  if ¬ c.begins then some (sockerrTimeout, s.setSock fun k => { k with txState := .localFault })
  else if ¬ c.accepted then some (sockerrTimeout, s.setSock fun k => { k with txState := .localFault, health := .faulted })
  else
    let len := min c.len s.txmax
    let s := s.setSock fun k => { k with txPendingLen := len }
    if s.sock.ioMode then some (sockBusy, s.setSock fun k => { k with txState := .dgramPending })
    else
      match waitSent c.sent with
      | none => none
      | some .sendok => some (len, s.restore taddr)
      | some .timeout => some (sockerrTimeout, s.restore taddr)
      | some .expired => some (sockerrTimeout, s.setSock fun k => { k with health := .faulted })

/-- While a datagram is pending one look at Sn_IR is all. -/
def Call.pending (c : Call) (s : State) : ℤ × State :=
  if c.ir &&& snIrSendok ≠ 0 then
    (s.sock.txPendingLen, s.setSock fun k => { k with txPendingLen := 0, txState := .idle })
  else if c.ir &&& snIrTimeout ≠ 0 then
    (sockerrTimeout, s.setSock fun k => { k with txPendingLen := 0, txState := .idle })
  else (sockBusy, s)

/-- sendto with no datagram pending. -/
def Call.start (c : Call) (buf : List Byte) (s : State) : Option (ℤ × State) :=
  match c.addressError s.sock.mode with
  | some e => some (e, s)
  | none =>
    match c.roomError s with
    | none => none
    | some (some e) => some (e, s)
    | some none => c.commit buf s

/-- sendto; nothing if it has not returned. -/
def Call.sendto (c : Call) (s : State) : Option (ℤ × State) :=
  if c.len = 0 then some (0, s)
  else
    match c.buf with
    | none => some (sockerrArg, s)
    | some buf =>
      if s.sock.txState = .localFault then some (sockerrTimeout, s)
      else if s.sock.health = .faulted then some (sockerrIo, s)
      else if ¬ c.configValid then some (sockerrTimeout, s)
      else if s.sock.txState = .dgramPending then some (c.pending s)
      else c.start buf s

/-- The calls up to the one after which no datagram is pending. -/
inductive Finishes : State → List Call → State → Prop
  | done {s : State} (reported : s.sock.txState ≠ .dgramPending) : Finishes s [] s
  | call {s s₁ s' : State} {c : Call} {ret : ℤ} {cs : List Call} (pending : s.sock.txState = .dgramPending)
      (run : c.sendto s = some (ret, s₁)) (rest : Finishes s₁ cs s') : Finishes s (c :: cs) s'

/-- No check fails: the call comes to the SEND command. -/
structure Call.Commits (c : Call) (s : State) : Prop where
  len : c.len ≠ 0
  buf : c.buf ≠ none
  noFault : s.sock.txState ≠ .localFault
  healthy : s.sock.health ≠ .faulted
  configValid : c.configValid = true
  address : c.addressError s.sock.mode = none
  room : c.roomError s = some none

/-- The build is not concerned, the chip has an address or no mask, the SEND command is not reached, or a blocking
call sees it accepted and ended by the chip in time. -/
def Call.Keeps (c : Call) (s : State) : Prop :=
  ¬ s.erratum ∨ s.sipr ≠ zero ∨ s.subr = zero ∨ ¬ c.Commits s ∨
    s.sock.ioMode = false ∧ c.begins ∧ c.accepted ∧ waitSent c.sent ≠ some .expired

section masks
variable {c : Call} {buf : List Byte} {s s₁ s' : State} {ret : ℤ} {cs : List Call}

/-- While a datagram is pending the mask is not touched. -/
lemma pending_subr (hpending : s.sock.txState = .dgramPending) (hrun : c.sendto s = some (ret, s₁)) : s₁.subr = s.subr := by
  have hlook : (c.pending s).2.subr = s.subr := by
    rw [Call.pending]
    split_ifs <;> rfl
  have hback {e : ℤ} (h : some (e, s) = some (ret, s₁)) : s₁.subr = s.subr := by
    rw [← (Prod.mk.inj (Option.some.inj h)).2]
  rw [Call.sendto] at hrun
  cases hbuf : c.buf with
  | none =>
    rw [hbuf] at hrun
    dsimp only at hrun
    split_ifs at hrun
    · exact hback hrun
    · exact hback hrun
  | some buf =>
    rw [hbuf] at hrun
    dsimp only at hrun
    rw [if_pos hpending] at hrun
    split_ifs at hrun
    · exact hback hrun
    · exact hback hrun
    · exact hback hrun
    · rwa [Option.some.inj hrun] at hlook
    · exact hback hrun

lemma Finishes.subr (h : Finishes s cs s') : s'.subr = s.subr := by
  induction h with
  | done => rfl
  | call pending run rest ih => exact ih.trans (pending_subr pending run)

lemma started (hrun : c.start buf s = some (ret, s₁)) :
    c.addressError s.sock.mode = none ∧ c.roomError s = some none ∧ c.commit buf s = some (ret, s₁) ∨
      (c.addressError s.sock.mode = none → c.roomError s ≠ some none) ∧ s₁ = s := by
  have hback {e : ℤ} (h : some (e, s) = some (ret, s₁)) : s₁ = s := (Prod.mk.inj (Option.some.inj h)).2.symm
  rw [Call.start] at hrun
  cases haddress : c.addressError s.sock.mode with
  | some e =>
    rw [haddress] at hrun
    exact .inr ⟨nofun, hback hrun⟩
  | none =>
    rw [haddress] at hrun
    dsimp only at hrun
    rcases hroom : c.roomError s with - | - | e
    · rw [hroom] at hrun
      cases hrun
    · rw [hroom] at hrun
      exact .inl ⟨rfl, rfl, hrun⟩
    · rw [hroom] at hrun
      exact .inr ⟨fun _ => nofun, hback hrun⟩

/-- A call with no datagram pending either commits or changes nothing. -/
lemma commits_of_sendto (hidle : s.sock.txState ≠ .dgramPending) (hrun : c.sendto s = some (ret, s₁)) :
    (∃ buf, c.Commits s ∧ c.commit buf s = some (ret, s₁)) ∨ ¬ c.Commits s ∧ s₁ = s := by
  have hback {e : ℤ} (h : some (e, s) = some (ret, s₁)) : s₁ = s := by
    exact (Prod.mk.inj (Option.some.inj h)).2.symm
  rw [Call.sendto] at hrun
  by_cases hlen : c.len = 0
  · rw [if_pos hlen] at hrun
    exact .inr ⟨fun h => h.len hlen, hback hrun⟩
  rw [if_neg hlen] at hrun
  cases hbuf : c.buf with
  | none =>
    rw [hbuf] at hrun
    exact .inr ⟨fun h => h.buf hbuf, hback hrun⟩
  | some buf =>
    rw [hbuf] at hrun
    dsimp only at hrun
    by_cases hfault : s.sock.txState = .localFault
    · rw [if_pos hfault] at hrun
      exact .inr ⟨fun h => h.noFault hfault, hback hrun⟩
    by_cases hhealth : s.sock.health = .faulted
    · rw [if_neg hfault, if_pos hhealth] at hrun
      exact .inr ⟨fun h => h.healthy hhealth, hback hrun⟩
    by_cases hconfig : c.configValid = true
    · rw [if_neg hfault, if_neg hhealth, if_neg (not_not.2 hconfig), if_neg hidle] at hrun
      obtain ⟨haddress, hroom, hcommit⟩ | ⟨hnot, hsame⟩ := started hrun
      · exact .inl ⟨buf, ⟨hlen, by simp [hbuf], hfault, hhealth, hconfig, haddress, hroom⟩, hcommit⟩
      · exact .inr ⟨fun h => hnot h.address h.room, hsame⟩
    · rw [if_neg hfault, if_neg hhealth, if_pos hconfig] at hrun
      exact .inr ⟨fun h => hconfig h.configValid, hback hrun⟩

lemma cleared_subr (s : State) : s.cleared.subr = if s.erratum ∧ s.sipr = zero then zero else s.subr := by
  rw [State.cleared]
  split_ifs <;> rfl

lemma cleared_sock (s : State) : s.cleared.sock = s.sock := by
  rw [State.cleared]
  split_ifs <;> rfl

/-- What is saved is restored, whatever else has changed. -/
lemma restore_subr (h : s₁.subr = s.cleared.subr) : (s₁.restore s.saved).subr = s.subr := by
  rw [State.restore, State.saved]
  rw [cleared_subr] at h
  by_cases hclears : s.erratum ∧ s.sipr = zero
  · rw [if_pos hclears] at h ⊢
    by_cases hsubr : s.subr = zero
    · rw [if_neg (not_not.2 hsubr), h, hsubr]
    · rw [if_pos hsubr]
  · rw [if_neg hclears] at h ⊢
    rw [if_neg (not_not.2 rfl), h]

/-- A call that commits restores the mask where it waits for the end of the SEND and sees it. -/
lemma commit_subr (hrun : c.commit buf s = some (ret, s₁)) :
    s₁.subr = if s.sock.ioMode = false ∧ c.begins ∧ c.accepted ∧ waitSent c.sent ≠ some .expired then s.subr
      else s.cleared.subr := by
  rw [Call.commit] at hrun
  dsimp only at hrun
  by_cases hbegins : c.begins
  · rw [if_neg (not_not.2 hbegins)] at hrun
    by_cases haccepted : c.accepted
    · rw [if_neg (not_not.2 haccepted)] at hrun
      have hmode {d : Datagram} {n : ℕ} : ((s.cleared.send d).setSock fun k => { k with txPendingLen := n }).sock.ioMode =
          s.sock.ioMode := by
        rw [State.setSock, State.send, cleared_sock]
      rw [hmode] at hrun
      by_cases hio : s.sock.ioMode
      · rw [if_pos hio] at hrun
        cases hrun
        rw [if_neg (by simp [hio])]
        rfl
      · rw [if_neg hio] at hrun
        rcases hsent : waitSent c.sent with - | sent
        · rw [hsent] at hrun
          cases hrun
        · rw [hsent] at hrun
          cases sent with
          | sendok =>
            cases hrun
            rw [if_pos (by simp [hio, hbegins, haccepted])]
            exact restore_subr rfl
          | timeout =>
            cases hrun
            rw [if_pos (by simp [hio, hbegins, haccepted])]
            exact restore_subr rfl
          | expired =>
            cases hrun
            rw [if_neg (by simp)]
            rfl
    · rw [if_pos haccepted] at hrun
      cases hrun
      rw [if_neg (by simp [haccepted])]
      rfl
  · rw [if_pos hbegins] at hrun
    cases hrun
    rw [if_neg (by simp [hbegins])]
    rfl

/-- The mask is back when no datagram is pending any more exactly where the first call keeps it. -/
theorem mask_survives_iff (hidle : s.sock.txState ≠ .dgramPending) (hrun : c.sendto s = some (ret, s₁))
    (hrest : Finishes s₁ cs s') : s'.subr = s.subr ↔ c.Keeps s := by
  rw [hrest.subr, Call.Keeps]
  obtain ⟨buf, hcommits, hcommit⟩ | ⟨hfails, rfl⟩ := commits_of_sendto hidle hrun
  · rw [commit_subr hcommit, cleared_subr]
    by_cases hends : s.sock.ioMode = false ∧ c.begins ∧ c.accepted ∧ waitSent c.sent ≠ some .expired
    · rw [if_pos hends]
      exact iff_of_true rfl (.inr (.inr (.inr (.inr hends))))
    rw [if_neg hends]
    by_cases hclears : s.erratum ∧ s.sipr = zero
    · rw [if_pos hclears]
      constructor
      · exact fun hsubr => .inr (.inr (.inl hsubr.symm))
      · rintro (hbuild | haddress | hsubr | hnot | hends')
        · exact absurd hclears.1 hbuild
        · exact absurd hclears.2 haddress
        · exact hsubr.symm
        · exact absurd hcommits hnot
        · exact absurd hends' hends
    · rw [if_neg hclears]
      rcases not_and_or.1 hclears with hbuild | haddress
      · exact iff_of_true rfl (.inl hbuild)
      · exact iff_of_true rfl (.inr (.inl haddress))
  · exact iff_of_true rfl (.inr (.inr (.inr (.inl hfails))))

end masks

/-- A UDP socket on a chip without an address. -/
def unconfigured (nonblocking : Bool) : State where
  erratum := true
  sock := { Sock.boot with ioMode := nonblocking, mode := snMrUdp }
  txmax := 2048
  sipr := zero
  subr := #v[255, 255, 255, 0]
  sends := []

/-- One byte to the broadcast address, with room for it; the chip sends it at once. -/
def broadcast : Call where
  buf := some [0]
  len := 1
  addr := .replicate 4 255
  port := 67
  addrlen := 4
  configValid := true
  ir := snIrSendok
  sr := sockUdp
  room := [⟨none, 2048, sockUdp, false⟩]
  begins := true
  accepted := true
  sent := [⟨snIrSendok, false⟩]

/-- A blocking call puts the mask back. -/
theorem mask_survives_blocking : ∃ s', broadcast.sendto (unconfigured false) = some (1, s') ∧
    (s'.subr = #v[255, 255, 255, 0] ↔ broadcast.Keeps (unconfigured false)) :=
  ⟨_, rfl, mask_survives_iff (s := unconfigured false) nofun rfl (.done nofun)⟩

/-- In nonblocking mode the call that reports the datagram does not know the mask. -/
theorem nonblocking_mask_lost : ¬ ∀ (s s₁ s' : State) (c : Call) (ret : ℤ) (cs : List Call),
    s.erratum → s.sock.txState ≠ .dgramPending → c.sendto s = some (ret, s₁) → Finishes s₁ cs s' → s'.subr = s.subr := by
  intro hall
  have hlost := hall (unconfigured true) _ _ broadcast 0 [broadcast] rfl (by decide) rfl
    (.call rfl rfl (.done (by decide)))
  exact absurd hlost (by decide)

end IoLibrary.ArpErratum
