import IoLibrary.Registers
import IoLibrary.Effects.Machine
import Mathlib.Tactic.Common

/-! recv on a W5500 whose peer sends and closes while recv looks at the registers one after the other. -/
namespace IoLibrary.PeerClose
open Effects

/-- What the chip may do between two accesses. -/
inductive Event
  | arrive (data : List Byte)
  | fin

/-- Sn_SR, the bytes in the RX buffer (Sn_RX_RSR is their number) and all that have ever arrived. -/
structure Chip where
  sr : Byte
  rx : List Byte
  arrived : List Byte

/-- Nothing arrives after the peer's FIN. -/
def Chip.event (c : Chip) : Event → Chip
  | .arrive data => if c.sr = sockEstablished then { c with rx := c.rx ++ data, arrived := c.arrived ++ data } else c
  | .fin => if c.sr = sockEstablished then { c with sr := sockCloseWait } else c

def Chip.pass (c : Chip) (events : List Event) : Chip := events.foldl Chip.event c

/-- One turn of the loop of recv: what happens before each of its readings, and those that are not the chip's Sn_SR and
received bytes. -/
structure Look where
  beforeRsr : List Event
  rsrError : Option ℤ
  beforeSr : List Event
  beforeFsr : List Event
  fsr : Except ℤ ℕ

inductive Wait
  | ready (size : ℕ)
  | failed (e : ℤ)
  | peerClosed
  | lost

/-- The chip when a look reads Sn_RX_RSR and when it reads Sn_SR. -/
def Look.atRsr (look : Look) (c : Chip) : Chip := c.pass look.beforeRsr
def Look.atSr (look : Look) (c : Chip) : Chip := (look.atRsr c).pass look.beforeSr

/-- What a look comes to, if it ends the loop, and the chip after it. -/
def Look.result (look : Look) (nonblocking : Bool) (txmax : ℕ) (c : Chip) : Option Wait × Chip :=
  match look.rsrError with
  | some e => (some (.failed e), look.atRsr c)
  | none =>
    let size := (look.atRsr c).rx.length
    if (look.atSr c).sr ≠ sockEstablished then
      if (look.atSr c).sr = sockCloseWait then
        if size ≠ 0 then (some (.ready size), look.atSr c)
        else
          let c := (look.atSr c).pass look.beforeFsr
          match look.fsr with
          | .error e => (some (.failed e), c)
          | .ok freesize => if freesize = txmax then (some .peerClosed, c) else (none, c)
      else (some .lost, look.atSr c)
    else if size ≠ 0 then (some (.ready size), look.atSr c)
    else if nonblocking then (some (.failed sockBusy), look.atSr c)
    else (none, look.atSr c)

/-- The loop, which ends with a timeout after its last look. -/
def waitData (nonblocking : Bool) (txmax : ℕ) (look : Look) : List Look → Chip → Wait × Chip
  | [], c =>
    match look.result nonblocking txmax c with
    | (some wait, c) => (wait, c)
    | (none, c) => (.failed sockerrTimeout, c)
  | next :: rest, c =>
    match look.result nonblocking txmax c with
    | (some wait, c) => (wait, c)
    | (none, c) => waitData nonblocking txmax next rest c

/-- The looks that are made, each with the chip before it. -/
def looks (nonblocking : Bool) (txmax : ℕ) (look : Look) : List Look → Chip → List (Look × Chip)
  | [], c => [(look, c)]
  | next :: rest, c =>
    match look.result nonblocking txmax c with
    | (some _, _) => [(look, c)]
    | (none, c') => (look, c) :: looks nonblocking txmax next rest c'

/-- The driver's data about the socket, the chip, and the bytes that recv has returned so far. -/
structure State where
  chip : Chip
  ready : Bool
  faulted : Bool
  ioMode : Bool
  mode : Byte
  rxmax : ℕ
  txmax : ℕ
  returned : List Byte

/-- A call of recv with what it meets. -/
structure Call where
  buf : Bool
  len : ℕ
  configValid : Bool
  first : Look
  more : List Look
  beforeRecv : List Event
  accepted : Bool
  closes : Bool

/-- Why a call has ended. -/
inductive Answer
  | returns (ret : ℤ) (data : List Byte)
  | peerClosed
  | lost

def Answer.ret : Answer → ℤ
  | .returns ret _ => ret
  | .peerClosed | .lost => sockerrSockstatus

/-- close_internal leaves the mode zero, whether or not the chip closes in time. -/
def Call.close (call : Call) (s : State) (c : Chip) : State :=
  if call.closes then { s with chip := { c with sr := sockClosed }, mode := 0 }
  else { s with chip := c, mode := 0, faulted := true }

/-- The bytes are copied, and taken from the RX buffer by the RECV command. -/
def Call.commit (call : Call) (s : State) (len : ℕ) (c : Chip) : State × Answer :=
  let data := c.rx.take len
  let c := c.pass call.beforeRecv
  if call.accepted then
    ({ s with chip := { c with rx := c.rx.drop len }, returned := s.returned ++ data }, .returns data.length data)
  else ({ s with chip := c, faulted := true }, .returns sockerrTimeout [])

/-- What recv does after its loop. -/
def Call.ends (call : Call) (s : State) : Wait × Chip → State × Answer
  | (.failed e, c) => ({ s with chip := c }, .returns e [])
  | (.peerClosed, c) => (call.close s c, .peerClosed)
  | (.lost, c) => (call.close s c, .lost)
  | (.ready size, c) => call.commit s (min (min call.len s.rxmax) size) c

def Call.recv (call : Call) (s : State) : State × Answer :=
  if call.len = 0 then (s, .returns 0 [])
  else if ¬ call.buf then (s, .returns sockerrArg [])
  else if ¬ s.ready then (s, .returns sockerrNotready [])
  else if s.faulted then (s, .returns sockerrIo [])
  else if ¬ call.configValid then (s, .returns sockerrTimeout [])
  else if s.mode &&& 0x03 ≠ 0x01 then (s, .returns sockerrSockmode [])
  else call.ends s (waitData s.ioMode s.txmax call.first call.more s.chip)

/-- An application that calls recv. -/
def receiver : Machine State Call Answer := fun s call => call.recv s

/-- Where the call closes the socket on the peer's FIN, all bytes have been returned. -/
def DropsNothing (s : State) (call : Call) : Prop :=
  (call.recv s).2 = .peerClosed → (call.recv s).1.returned = (call.recv s).1.chip.arrived

/-- In a look that finds no byte, then CLOSE_WAIT and then the TX buffer empty, none arrives between the first two
readings. -/
def Look.Quiet (txmax : ℕ) (look : Look) (c : Chip) : Prop :=
  look.rsrError = none → (look.atRsr c).rx = [] → (look.atSr c).sr = sockCloseWait → look.fsr = .ok txmax →
    (look.atSr c).rx = []

def Quiet (s : State) (call : Call) : Prop :=
  ∀ l ∈ looks s.ioMode s.txmax call.first call.more s.chip, l.1.Quiet s.txmax l.2

/-- The call comes to its loop. -/
structure Call.Starts (call : Call) (s : State) : Prop where
  len : call.len ≠ 0
  buf : call.buf = true
  ready : s.ready = true
  healthy : s.faulted = false
  configValid : call.configValid = true
  stream : s.mode &&& 0x03 = 0x01

/-- All that has arrived has been returned or is in the RX buffer. -/
def State.Sound (s : State) : Prop := s.chip.arrived = s.returned ++ s.chip.rx

section chips
variable {c : Chip} {r : List Byte} {look : Look} {nonblocking : Bool} {txmax : ℕ}

/-- New bytes come behind the others. -/
lemma event_arrives (c : Chip) (e : Event) :
    ∃ new, (c.event e).rx = c.rx ++ new ∧ (c.event e).arrived = c.arrived ++ new := by
  cases e with
  | arrive data =>
    rw [Chip.event]
    split_ifs
    · exact ⟨data, rfl, rfl⟩
    · exact ⟨[], (List.append_nil _).symm, (List.append_nil _).symm⟩
  | fin =>
    rw [Chip.event]
    split_ifs
    · exact ⟨[], (List.append_nil _).symm, (List.append_nil _).symm⟩
    · exact ⟨[], (List.append_nil _).symm, (List.append_nil _).symm⟩

lemma pass_arrives (c : Chip) (events : List Event) :
    ∃ new, (c.pass events).rx = c.rx ++ new ∧ (c.pass events).arrived = c.arrived ++ new := by
  induction events generalizing c with
  | nil => exact ⟨[], (List.append_nil _).symm, (List.append_nil _).symm⟩
  | cons e events ih =>
    obtain ⟨new, hrx, harrived⟩ := event_arrives c e
    obtain ⟨new', hrx', harrived'⟩ := ih (c.event e)
    refine ⟨new ++ new', ?_, ?_⟩
    · rw [← List.append_assoc, ← hrx]
      exact hrx'
    · rw [← List.append_assoc, ← harrived]
      exact harrived'

lemma pass_sound (h : c.arrived = r ++ c.rx) (events : List Event) : (c.pass events).arrived = r ++ (c.pass events).rx := by
  obtain ⟨new, hrx, harrived⟩ := pass_arrives c events
  rw [hrx, harrived, h, List.append_assoc]

/-- After the FIN the chip stays as it is. -/
lemma pass_closeWait (h : c.sr = sockCloseWait) (events : List Event) : c.pass events = c := by
  have hsr : c.sr ≠ sockEstablished := by
    rw [h]
    decide
  induction events with
  | nil => rfl
  | cons e events ih =>
    have hevent : c.event e = c := by
      cases e with
      | arrive data => exact if_neg hsr
      | fin => exact if_neg hsr
    change (c.event e).pass events = c
    rw [hevent, ih]

/-- What a look leaves of the chip, and how many bytes it reports at most. -/
lemma result_sound (look : Look) (nonblocking : Bool) (txmax : ℕ) (h : c.arrived = r ++ c.rx) :
    (look.result nonblocking txmax c).2.arrived = r ++ (look.result nonblocking txmax c).2.rx ∧
      ∀ size, (look.result nonblocking txmax c).1 = some (.ready size) →
        size ≤ (look.result nonblocking txmax c).2.rx.length := by
  have hrsr : (look.atRsr c).arrived = r ++ (look.atRsr c).rx := pass_sound h _
  have hsr : (look.atSr c).arrived = r ++ (look.atSr c).rx := pass_sound hrsr _
  have hsize : (look.atRsr c).rx.length ≤ (look.atSr c).rx.length := by
    obtain ⟨new, hrx, -⟩ := pass_arrives (look.atRsr c) look.beforeSr
    rw [Look.atSr, hrx, List.length_append]
    exact Nat.le_add_right _ _
  have hready (size : ℕ) (heq : some (Wait.ready (look.atRsr c).rx.length) = some (.ready size)) :
      size ≤ (look.atSr c).rx.length := by
    cases heq
    exact hsize
  rw [Look.result]
  cases look.rsrError with
  | some e => exact ⟨hrsr, nofun⟩
  | none =>
    dsimp only
    by_cases hestablished : (look.atSr c).sr = sockEstablished
    · rw [if_neg (not_not.2 hestablished)]
      split_ifs
      · exact ⟨hsr, hready⟩
      · exact ⟨hsr, nofun⟩
      · exact ⟨hsr, nofun⟩
    · rw [if_pos hestablished]
      by_cases hwait : (look.atSr c).sr = sockCloseWait
      · rw [if_pos hwait, pass_closeWait hwait]
        by_cases hnone : (look.atRsr c).rx.length = 0
        · rw [if_neg (not_not.2 hnone)]
          cases look.fsr with
          | error e => exact ⟨hsr, nofun⟩
          | ok freesize =>
            dsimp only
            split_ifs
            · exact ⟨hsr, nofun⟩
            · exact ⟨hsr, nofun⟩
        · rw [if_pos hnone]
          exact ⟨hsr, hready⟩
      · rw [if_neg hwait]
        exact ⟨hsr, nofun⟩

/-- A look that closes drops what has arrived between its readings. -/
lemma result_quiet (look : Look) (nonblocking : Bool) (txmax : ℕ) (c : Chip) :
    look.Quiet txmax c ↔
      ((look.result nonblocking txmax c).1 = some .peerClosed → (look.result nonblocking txmax c).2.rx = []) := by
  rw [Look.Quiet, Look.result]
  cases look.rsrError with
  | some e => simp
  | none =>
    dsimp only
    by_cases hwait : (look.atSr c).sr = sockCloseWait
    · have hestablished : (look.atSr c).sr ≠ sockEstablished := by
        rw [hwait]
        decide
      rw [if_pos hestablished, if_pos hwait, pass_closeWait hwait]
      by_cases hnone : (look.atRsr c).rx = []
      · rw [if_neg (by simp [hnone])]
        cases look.fsr with
        | error e => simp
        | ok freesize =>
          by_cases hfree : freesize = txmax
          · simp [hnone, hfree, hwait]
          · simp [hfree]
      · rw [if_pos (by simpa using hnone)]
        simp [hnone]
    · rw [if_neg hwait]
      split_ifs <;> simp [hwait]

/-- The loop keeps count as well. -/
lemma waitData_sound (nonblocking : Bool) (txmax : ℕ) (look : Look) (rest : List Look) (h : c.arrived = r ++ c.rx) :
    (waitData nonblocking txmax look rest c).2.arrived = r ++ (waitData nonblocking txmax look rest c).2.rx ∧
      ∀ size, (waitData nonblocking txmax look rest c).1 = .ready size →
        size ≤ (waitData nonblocking txmax look rest c).2.rx.length := by
  induction rest generalizing look c with
  | nil =>
    obtain ⟨hsound, hready⟩ := result_sound look nonblocking txmax h
    rw [waitData]
    generalize look.result nonblocking txmax c = result at hsound hready ⊢
    rcases result with ⟨- | wait, c'⟩
    · exact ⟨hsound, nofun⟩
    · exact ⟨hsound, fun size hsize => hready size (congrArg some hsize)⟩
  | cons next rest ih =>
    obtain ⟨hsound, hready⟩ := result_sound look nonblocking txmax h
    rw [waitData]
    generalize look.result nonblocking txmax c = result at hsound hready ⊢
    rcases result with ⟨- | wait, c'⟩
    · exact ih next hsound
    · exact ⟨hsound, fun size hsize => hready size (congrArg some hsize)⟩

/-- Only the look that closes counts: it is the last one. -/
lemma waitData_quiet (nonblocking : Bool) (txmax : ℕ) (look : Look) (rest : List Look) (c : Chip) :
    (∀ l ∈ looks nonblocking txmax look rest c, l.1.Quiet txmax l.2) ↔
    ((waitData nonblocking txmax look rest c).1 = .peerClosed → (waitData nonblocking txmax look rest c).2.rx = []) := by
  induction rest generalizing look c with
  | nil =>
    have hquiet := result_quiet look nonblocking txmax c
    rw [looks, List.forall_mem_singleton, hquiet, waitData]
    rcases look.result nonblocking txmax c with ⟨- | wait, c'⟩
    · simp
    · simp
  | cons next rest ih =>
    have hquiet := result_quiet look nonblocking txmax c
    rw [looks, waitData]
    generalize look.result nonblocking txmax c = result at hquiet ⊢
    rcases result with ⟨- | wait, c'⟩
    · have hfirst : look.Quiet txmax c := hquiet.2 (fun h => by cases h)
      dsimp only
      rw [List.forall_mem_cons, and_iff_right hfirst]
      exact ih next c'
    · dsimp only
      rw [List.forall_mem_singleton, hquiet]
      simp

end chips

section calls
variable {s : State} {call : Call} {c : Chip}

lemma commit_sound {len : ℕ} (h : c.arrived = s.returned ++ c.rx) (hlen : len ≤ c.rx.length) :
    (call.commit s len c).1.Sound := by
  obtain ⟨new, hrx, harrived⟩ := pass_arrives c call.beforeRecv
  simp only [Call.commit]
  split_ifs
  · change (c.pass call.beforeRecv).arrived = (s.returned ++ c.rx.take len) ++ (c.pass call.beforeRecv).rx.drop len
    rw [hrx, harrived, List.drop_append_of_le_length hlen, h, List.append_assoc, List.append_assoc,
      ← List.append_assoc (c.rx.take len), List.take_append_drop]
  · exact pass_sound h _

lemma close_sound (h : c.arrived = s.returned ++ c.rx) : (call.close s c).Sound := by
  rw [Call.close]
  split_ifs
  · exact h
  · exact h

lemma close_arrived : (call.close s c).chip.arrived = c.arrived := by
  rw [Call.close]
  split_ifs
  · rfl
  · rfl

lemma close_returned : (call.close s c).returned = s.returned := by
  rw [Call.close]
  split_ifs
  · rfl
  · rfl

lemma commit_answer {len : ℕ} : (call.commit s len c).2 ≠ .peerClosed := by
  simp only [Call.commit]
  split_ifs
  · nofun
  · nofun

/-- A call returns before its loop, with nothing changed, or does what its loop comes to. -/
lemma recv_cases (call : Call) (s : State) :
    (¬ call.Starts s ∧ ∃ e, call.recv s = (s, .returns e [])) ∨
      call.Starts s ∧ call.recv s = call.ends s (waitData s.ioMode s.txmax call.first call.more s.chip) := by
  rw [Call.recv]
  by_cases hlen : call.len = 0
  · exact .inl ⟨fun h => h.len hlen, _, if_pos hlen⟩
  rw [if_neg hlen]
  by_cases hbuf : call.buf = true
  · rw [if_neg (not_not.2 hbuf)]
    by_cases hready : s.ready = true
    · rw [if_neg (not_not.2 hready)]
      by_cases hhealthy : s.faulted = true
      · exact .inl ⟨fun h => Bool.false_ne_true (h.healthy.symm.trans hhealthy), _, if_pos hhealthy⟩
      rw [if_neg hhealthy]
      by_cases hconfig : call.configValid = true
      · rw [if_neg (not_not.2 hconfig)]
        by_cases hmode : s.mode &&& 0x03 = 0x01
        · exact .inr ⟨⟨hlen, hbuf, hready, by simpa using hhealthy, hconfig, hmode⟩, if_neg (not_not.2 hmode)⟩
        · exact .inl ⟨fun h => hmode h.stream, _, if_pos hmode⟩
      · exact .inl ⟨fun h => hconfig h.configValid, _, if_pos hconfig⟩
    · exact .inl ⟨fun h => hready h.ready, _, if_pos hready⟩
  · exact .inl ⟨fun h => hbuf h.buf, _, if_pos hbuf⟩

/-- Each call keeps count of the bytes. -/
lemma recv_sound (h : s.Sound) (call : Call) : (call.recv s).1.Sound := by
  obtain ⟨-, e, hrecv⟩ | ⟨-, hrecv⟩ := recv_cases call s
  · rwa [hrecv]
  obtain ⟨hsound, hready⟩ := waitData_sound s.ioMode s.txmax call.first call.more h
  rw [hrecv]
  generalize waitData s.ioMode s.txmax call.first call.more s.chip = wait at hsound hready ⊢
  rcases wait with ⟨size | e | - | -, c⟩
  · have hsize : size ≤ c.rx.length := hready size rfl
    exact commit_sound hsound (Nat.le_trans (Nat.min_le_right _ _) hsize)
  · exact hsound
  · exact close_sound hsound
  · exact close_sound hsound

/-- One call drops nothing where its looks are quiet. -/
lemma dropsNothing_iff (h : s.Sound) : DropsNothing s call ↔ (call.Starts s → Quiet s call) := by
  rw [DropsNothing]
  obtain ⟨hno, e, hrecv⟩ | ⟨hstarts, hrecv⟩ := recv_cases call s
  · rw [hrecv]
    exact iff_of_true nofun (fun hstarts => absurd hstarts hno)
  obtain ⟨hsound, -⟩ := waitData_sound s.ioMode s.txmax call.first call.more h
  rw [hrecv, forall_prop_of_true hstarts, Quiet, waitData_quiet]
  generalize waitData s.ioMode s.txmax call.first call.more s.chip = wait at hsound ⊢
  rcases wait with ⟨size | e | - | -, c⟩
  · simp [Call.ends, commit_answer]
  · simp [Call.ends]
  · dsimp only at hsound
    simp [Call.ends, close_returned, close_arrived, hsound]
  · simp [Call.ends]

end calls

/-- A TCP socket that has just been connected. -/
def established (nonblocking : Bool) (rxmax txmax : ℕ) : State where
  chip := ⟨sockEstablished, [], []⟩
  ready := true
  faulted := false
  ioMode := nonblocking
  mode := snMrTcp
  rxmax := rxmax
  txmax := txmax
  returned := []

/-- A run of recv closes on the peer's FIN only with all bytes returned exactly where all its looks are quiet. -/
theorem closes_without_loss_iff (nonblocking : Bool) (rxmax txmax : ℕ) (calls : List Call) :
    receiver.Each (established nonblocking rxmax txmax) calls DropsNothing ↔
      receiver.Each (established nonblocking rxmax txmax) calls (fun s call => call.Starts s → Quiet s call) := by
  apply Machine.each_congr State.Sound
  · rfl
  · intro s call _ hsound _
    exact recv_sound hsound call
  · intro s call _ hsound
    exact dropsNothing_iff hsound

/-- A byte and the FIN arrive after recv has read Sn_RX_RSR and before it reads Sn_SR. -/
def overtaken : Call where
  buf := true
  len := 16
  configValid := true
  first := { beforeRsr := [], rsrError := none, beforeSr := [.arrive [7], .fin], beforeFsr := [], fsr := .ok 2048 }
  more := []
  beforeRecv := []
  accepted := true
  closes := true

/-- The byte is never returned. -/
theorem last_byte_dropped : ¬ ∀ (nonblocking : Bool) (rxmax txmax : ℕ) (calls : List Call),
    receiver.Each (established nonblocking rxmax txmax) calls DropsNothing := by
  intro hall
  have hdropped := hall false 2048 2048 [overtaken] [] overtaken [] rfl rfl
  exact absurd hdropped (by decide)

end IoLibrary.PeerClose
