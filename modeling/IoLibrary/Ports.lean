import IoLibrary.Registers

/-! The source ports that socket assigns, in all builds. -/
namespace IoLibrary.Ports

/-- What close_internal finds: a deadline, the socket closed already, data that the W5300 sends off first, and its
waits in time. -/
structure CloseIo where
  deadline : Bool
  closed : Bool
  unsent : Bool
  accepted : Bool
  reached : Bool

/-- What socket finds. The argument checks differ between the builds; `checks` is their error. -/
structure SocketIo where
  checks : Option ℤ
  ready : Bool
  closedBefore : Bool
  deadline : Bool
  closed : Bool
  close : CloseIo
  address : Bool
  accepted : Bool
  reached : Bool

/-- The globals of socket.c that ports depend on, and the registers Sn_PORTR. Not in the source: the number of
automatic assignments so far, and which of them the content of a register comes from. -/
structure State where
  sockAnyPort : ℕ
  faulted : ℕ → Bool
  mode : ℕ → Byte
  portr : ℕ → ℕ
  assigned : ℕ
  origin : ℕ → Option ℕ

def State.boot : State := ⟨0xC000, fun _ => false, fun _ => 0, fun _ => 0, 0, fun _ => none⟩

def State.setPortr (s : State) (sn port : ℕ) (origin : Option ℕ) : State :=
  { s with portr := Function.update s.portr sn port, origin := Function.update s.origin sn origin }

/-- The health and the mode of a socket. -/
def State.setSock (s : State) (sn : ℕ) (faulted : Bool) (mode : Byte) : State :=
  { s with faulted := Function.update s.faulted sn faulted, mode := Function.update s.mode sn mode }

/-- The caller's port, or the next automatic one for port 0. -/
def State.sourcePort (s : State) (port : ℕ) : ℕ × Option ℕ × State :=
  if port ≠ 0 then (port, none, s)
  else
    let next := (s.sockAnyPort + 1) % 65536
    (s.sockAnyPort, some s.assigned,
      { s with sockAnyPort := if next = 0xFFF0 then 0xC000 else next, assigned := s.assigned + 1 })

/-- close_internal up to close_clear_state. -/
def closeCommand (io : CloseIo) (sn : ℕ) (s : State) : ℤ × State :=
  if s.faulted sn then (sockOk, s)
  else if io.closed then (sockOk, s)
  else
    -- the erratum of the W5300 sends a datagram from port 0x3000
    let s := if io.unsent then s.setPortr sn 0x3000 none else s
    if io.accepted ∧ io.reached then (sockOk, s) else (sockerrTimeout, s)

def closeClearState (sn : ℕ) (r : ℤ × State) : ℤ × State :=
  (r.1, r.2.setSock sn (r.1 = sockerrTimeout) 0)

/-- The caller of close_internal may have a deadline of its own. -/
def closeInternal (io : CloseIo) (inherited : Bool) (sn : ℕ) (s : State) : ℤ × State :=
  closeClearState sn (if inherited ∨ io.deadline then closeCommand io sn s else (sockerrTimeout, s))

def openedMode (protocol flag : Byte) : Byte := protocol ||| (flag &&& ~~~sfIoNonblock &&& 0xF0)

/-- From the address checks on. -/
def socketOpenClosed (io : SocketIo) (sn : ℕ) (protocol flag : Byte) (port : ℕ) (origin : Option ℕ) (s : State) : ℤ × State :=
  if ¬ io.address then (sockerrSockinit, s)
  else
    let s := s.setPortr sn port origin
    if io.accepted ∧ io.reached then (sn, s.setSock sn false (openedMode protocol flag))
    else (sockerrTimeout, s.setSock sn true (s.mode sn))

def socketLocked (io : SocketIo) (sn : ℕ) (protocol flag : Byte) (port : ℕ) (origin : Option ℕ) (s : State) : ℤ × State :=
  if s.faulted sn then (sockerrNotready, s)
  else if ¬ io.deadline then (sockerrTimeout, s)
  else if io.closed then socketOpenClosed io sn protocol flag port origin s
  else if io.closedBefore then (sockerrSockstatus, s)
  else
    let (ret, s) := closeInternal io.close true sn s
    if ret ≠ sockOk then (ret, s) else socketOpenClosed io sn protocol flag port origin s

def socket (io : SocketIo) (sn : ℕ) (protocol flag : Byte) (port : ℕ) (s : State) : ℤ × State :=
  match io.checks with
  | some e => (e, s)
  | none =>
    if ¬ io.ready then (sockerrNotready, s)
    else
      let (port, origin, s) := s.sourcePort port
      socketLocked io sn protocol flag port origin s

def close (io : CloseIo) (sn : ℕ) (s : State) : ℤ × State := closeInternal io false sn s

inductive Call
  | socket (io : SocketIo) (sn : ℕ) (protocol flag : Byte) (port : ℕ)
  | close (io : CloseIo) (sn : ℕ)

def Call.run (s : State) : Call → State
  | .socket io sn protocol flag port => (Ports.socket io sn protocol flag port s).2
  | .close io sn => (Ports.close io sn s).2

/-- A run of calls from the start on. -/
def after (calls : List Call) : State := calls.foldl Call.run .boot

/-- The automatic ports: 0xC000 to 0xFFEF. -/
def portCount : ℕ := 0xFFF0 - 0xC000

/-- The counter goes round; a register that holds an automatic port holds that of its assignment, and no two
registers hold the same assignment. -/
structure Numbered (s : State) : Prop where
  counter : s.sockAnyPort = 0xC000 + s.assigned % portCount
  port : ∀ k i, s.origin k = some i → i < s.assigned ∧ s.portr k = 0xC000 + i % portCount
  own : ∀ j k i, s.origin j = some i → s.origin k = some i → j = k

/-- A port that has been assigned and is in no register yet. -/
structure Fresh (s : State) (port : ℕ) (origin : Option ℕ) : Prop where
  port : ∀ i, origin = some i → i < s.assigned ∧ port = 0xC000 + i % portCount
  unused : ∀ k i, origin = some i → s.origin k ≠ some i

section steps
variable {s : State} {sn port : ℕ} {origin : Option ℕ}

lemma numbered_boot : Numbered .boot := ⟨rfl, nofun, nofun⟩

lemma fresh_none (s : State) (port : ℕ) : Fresh s port none := ⟨nofun, nofun⟩

/-- The numbers depend on neither the health nor the mode. -/
lemma Numbered.setSock (h : Numbered s) (faulted : Bool) (mode : Byte) : Numbered (s.setSock sn faulted mode) :=
  ⟨h.counter, h.port, h.own⟩

lemma Fresh.setSock (h : Fresh s port origin) (faulted : Bool) (mode : Byte) :
    Fresh (s.setSock sn faulted mode) port origin := ⟨h.port, h.unused⟩

/-- A fresh port goes to the register. -/
lemma Numbered.setPortr (h : Numbered s) (hfresh : Fresh s port origin) : Numbered (s.setPortr sn port origin) := by
  have hsame : (s.setPortr sn port origin).origin sn = origin := Function.update_self _ _ _
  have hother {k : ℕ} (hk : k ≠ sn) : (s.setPortr sn port origin).origin k = s.origin k := Function.update_of_ne hk _ _
  refine ⟨h.counter, fun k i hi => ?_, fun j k i hj hk => ?_⟩
  · by_cases hk : k = sn
    · subst hk
      rw [hsame] at hi
      exact ⟨(hfresh.port i hi).1, (Function.update_self _ _ _).trans (hfresh.port i hi).2⟩
    · rw [hother hk] at hi
      exact ⟨(h.port k i hi).1, (Function.update_of_ne hk _ _).trans (h.port k i hi).2⟩
  · by_cases hjsn : j = sn
    · by_cases hksn : k = sn
      · exact hjsn.trans hksn.symm
      · rw [hother hksn] at hk
        rw [hjsn, hsame] at hj
        exact absurd hk (hfresh.unused k i hj)
    · rw [hother hjsn] at hj
      by_cases hksn : k = sn
      · rw [hksn, hsame] at hk
        exact absurd hj (hfresh.unused j i hk)
      · rw [hother hksn] at hk
        exact h.own j k i hj hk

/-- A register that is overwritten with a port of the program's own does not use it up. -/
lemma Fresh.setPortr_none (h : Fresh s port origin) (k port' : ℕ) : Fresh (s.setPortr k port' none) port origin := by
  refine ⟨h.port, fun j i hi => ?_⟩
  change Function.update s.origin k none j ≠ some i
  by_cases hj : j = k
  · rw [hj, Function.update_self]
    exact nofun
  · rw [Function.update_of_ne hj]
    exact h.unused j i hi

/-- The assignment takes the next number. -/
lemma Numbered.sourcePort (h : Numbered s) (port : ℕ) : Numbered (s.sourcePort port).2.2 ∧
    Fresh (s.sourcePort port).2.2 (s.sourcePort port).1 (s.sourcePort port).2.1 := by
  rw [State.sourcePort]
  by_cases hport : port ≠ 0
  · rw [if_pos hport]
    exact ⟨h, fresh_none s port⟩
  rw [if_neg hport]
  refine ⟨⟨?_, fun k i hi => ?_, h.own⟩, ⟨fun i hi => ?_, fun k i hi hk => ?_⟩⟩
  · have hcounter := h.counter
    simp only [portCount] at hcounter ⊢
    split_ifs <;> omega
  · exact ⟨Nat.lt_succ_of_lt (h.port k i hi).1, (h.port k i hi).2⟩
  · cases hi
    exact ⟨Nat.lt_succ_self _, h.counter⟩
  · cases hi
    exact absurd (h.port k _ hk).1 (Nat.lt_irrefl _)

/-- What close_internal leaves: the numbers, and a port that is in no register. -/
lemma Numbered.closeInternal (h : Numbered s) (hfresh : Fresh s port origin) (io : CloseIo) (inherited : Bool) :
    Numbered (Ports.closeInternal io inherited sn s).2 ∧ Fresh (Ports.closeInternal io inherited sn s).2 port origin := by
  have hcommand : Numbered (closeCommand io sn s).2 ∧ Fresh (closeCommand io sn s).2 port origin := by
    have herratum : Numbered (if io.unsent then s.setPortr sn 0x3000 none else s) ∧
        Fresh (if io.unsent then s.setPortr sn 0x3000 none else s) port origin := by
      by_cases hunsent : io.unsent
      · rw [if_pos hunsent]
        exact ⟨h.setPortr (fresh_none s 0x3000), hfresh.setPortr_none sn 0x3000⟩
      · rw [if_neg hunsent]
        exact ⟨h, hfresh⟩
    rw [closeCommand]
    dsimp only
    generalize (if io.unsent then s.setPortr sn 0x3000 none else s) = s' at herratum ⊢
    split_ifs
    · exact ⟨h, hfresh⟩
    · exact ⟨h, hfresh⟩
    · exact herratum
    · exact herratum
  rw [Ports.closeInternal, closeClearState]
  by_cases hdeadline : inherited ∨ io.deadline
  · rw [if_pos hdeadline]
    exact ⟨hcommand.1.setSock _ _, hcommand.2.setSock _ _⟩
  · rw [if_neg hdeadline]
    exact ⟨h.setSock _ _, hfresh.setSock _ _⟩

lemma Numbered.socketOpenClosed (h : Numbered s) (hfresh : Fresh s port origin) (io : SocketIo) (protocol flag : Byte) :
    Numbered (Ports.socketOpenClosed io sn protocol flag port origin s).2 := by
  rw [Ports.socketOpenClosed]
  dsimp only
  split_ifs
  · exact (h.setPortr hfresh).setSock _ _
  · exact (h.setPortr hfresh).setSock _ _
  · exact h

lemma Numbered.socketLocked (h : Numbered s) (hfresh : Fresh s port origin) (io : SocketIo) (protocol flag : Byte) :
    Numbered (Ports.socketLocked io sn protocol flag port origin s).2 := by
  obtain ⟨hclose, hfreshClose⟩ : Numbered (Ports.closeInternal io.close true sn s).2 ∧
      Fresh (Ports.closeInternal io.close true sn s).2 port origin := h.closeInternal hfresh io.close true
  rw [Ports.socketLocked]
  dsimp only
  split_ifs
  · exact h
  · exact h.socketOpenClosed hfresh io protocol flag
  · exact h
  · exact hclose
  · exact hclose.socketOpenClosed hfreshClose io protocol flag
  · exact h

/-- Each call keeps the numbers. -/
lemma Numbered.call (h : Numbered s) (c : Call) : Numbered (c.run s) := by
  cases c with
  | socket io sn protocol flag port =>
    rw [Call.run, Ports.socket]
    cases io.checks with
    | some e => exact h
    | none =>
      obtain ⟨hnext, hfresh⟩ := h.sourcePort port
      dsimp only
      split_ifs
      · exact hnext.socketLocked hfresh io protocol flag
      · exact h
  | close io sn => exact (h.closeInternal (fresh_none s 0) io false).1

lemma numbered_run (calls : List Call) (h : Numbered s) : Numbered (calls.foldl Call.run s) := by
  induction calls generalizing s with
  | nil => exact h
  | cons c calls ih => exact ih (h.call c)

end steps

/-- The automatic ports are in their range, and those of two sockets are the same only where the counter has gone round
between them. -/
theorem automatic_ports (calls : List Call) :
    (∀ k i, (after calls).origin k = some i → 0xC000 ≤ (after calls).portr k ∧ (after calls).portr k ≤ 0xFFEF) ∧
    ∀ j k a b, j ≠ k → (after calls).origin j = some a → (after calls).origin k = some b →
      a ≠ b ∧ ((after calls).portr j = (after calls).portr k ↔ a % portCount = b % portCount) := by
  have hnumbered : Numbered (after calls) := numbered_run calls numbered_boot
  refine ⟨fun k i hi => ?_, fun j k a b hjk ha hb => ⟨?_, ?_⟩⟩
  · rw [(hnumbered.port k i hi).2, portCount]
    omega
  · rintro rfl
    exact hjk (hnumbered.own j k a ha hb)
  · rw [(hnumbered.port j a ha).2, (hnumbered.port k b hb).2]
    omega

/-- An open socket. -/
def State.Open (s : State) (k : ℕ) : Prop := s.mode k ≠ 0

instance (s : State) (k : ℕ) : Decidable (s.Open k) := inferInstanceAs (Decidable (s.mode k ≠ 0))

/-- Every automatic port is in its range and no other open socket of the protocol has it. -/
def Distinct (s : State) : Prop :=
  ∀ k i, s.Open k → s.origin k = some i → 0xC000 ≤ s.portr k ∧ s.portr k ≤ 0xFFEF ∧
    ∀ j, j ≠ k → s.Open j → s.mode j &&& 0x0F = s.mode k &&& 0x0F → s.portr j ≠ s.portr k

/-- Nothing goes wrong. -/
def smooth : SocketIo where
  checks := none
  ready := true
  closedBefore := true
  deadline := true
  closed := true
  close := ⟨true, true, false, true, true⟩
  address := true
  accepted := true
  reached := true

/-- The application takes the first automatic port for its own. -/
theorem explicit_port_collides : ¬ ∀ calls, Distinct (after calls) := by
  intro hall
  have hdistinct := hall [.socket smooth 0 snMrUdp 0 0xC000, .socket smooth 1 snMrUdp 0 0]
  exact (hdistinct 1 0 (by decide) rfl).2.2 0 (by decide) (by decide) rfl rfl

end IoLibrary.Ports
