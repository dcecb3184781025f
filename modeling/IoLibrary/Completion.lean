import IoLibrary.Effects.Exec
import IoLibrary.Nonblocking

/-! The end of a SEND on a nonblocking datagram socket: sendto reports it, while recvfrom shares Sn_IR. -/
namespace IoLibrary.Completion
open Effects

/-- How a SEND ends. -/
inductive Ending
  | sendok
  | timeout
  deriving DecidableEq

/-- What sendto returns for a SEND of `n` bytes that has ended. -/
def value (n : ℕ) : Ending → ℤ
  | .sendok => n
  | .timeout => sockerrTimeout

/-- The two bits of Sn_IR; whether a SEND is under way; the bytes copied for the next one; the length of one that is
not accepted yet; the lengths of those accepted; and how they ended. -/
structure Chip where
  sendok : Bool
  timeout : Bool
  running : Bool
  copied : ℕ
  issued : Option ℕ
  accepted : List ℕ
  ended : List Ending
  deriving DecidableEq

def Chip.bit (c : Chip) : Ending → Bool
  | .sendok => c.sendok
  | .timeout => c.timeout

/-- The SEND that is under way may end between two accesses. -/
def Chip.passes (c : Chip) : Option Ending → Chip
  | none => c
  | some e =>
    if c.running then
      { c with
        sendok := c.sendok || e = .sendok
        timeout := c.timeout || e = .timeout
        running := false
        ended := c.ended ++ [e] }
    else c

/-- A write to Sn_IR clears the bits that are set in it. -/
def Chip.clear (c : Chip) (v : Byte) : Chip :=
  { c with
    sendok := c.sendok && v &&& snIrSendok = 0
    timeout := c.timeout && v &&& snIrTimeout = 0 }

/-- SEND starts with the bytes copied; another command gives up a SEND that is not accepted. -/
def Chip.command (c : Chip) (v : Byte) : Chip :=
  if v = snCrSend then { c with running := true, copied := 0, issued := some c.copied }
  else { c with issued := none }

/-- A SEND is accepted where Sn_CR is found clear after it under the same lock. -/
def Chip.access (sn : ℕ) (c : Chip) : (e : Io) → e.Res → Chip
  | .read8 a, x =>
    if a = Reg.snCR sn ∧ x.1 = 0 then { c with issued := none, accepted := c.accepted ++ c.issued.toList } else c
  | .write8 a v, _ => if a = Reg.snIR sn then c.clear v else if a = Reg.snCR sn then c.command v else c
  | .writeBuf a data, _ => if a.block = .txBuf sn then { c with copied := c.copied + data.length } else c
  | .sockUnlock k, _ => if k = sn then { c with copied := 0, issued := none } else c
  | _, _ => c

/-- Sn_IR shows the bits that are set. -/
def Chip.Answers (sn : ℕ) (c : Chip) : (e : Io) → e.Res → Prop
  | .read8 a, x => a = Reg.snIR sn →
    (x.1 &&& snIrSendok ≠ 0 ↔ c.sendok = true) ∧ (x.1 &&& snIrTimeout ≠ 0 ↔ c.timeout = true)
  | _, _ => True

/-- An access, with the operation that makes it and the memory it is made from. -/
structure Access where
  op : Op
  memory : Globals
  io : Io
  answer : io.Res

structure World where
  chip : Chip
  accesses : List Access

/-- The chip under an operation. -/
def completing (sn : ℕ) (op : Op) : Env Globals World Io Io.Res := fun g w e x w' =>
  ∃ ending, (w.chip.passes ending).Answers sn e x ∧
    w' = ⟨(w.chip.passes ending).access sn e x, w.accesses ++ [⟨op, g, e, x⟩]⟩

/-- sock_tx_state[sn] == SOCK_TX_STATE_DGRAM_PENDING -/
def Outstanding (sn : ℕ) (g : Globals) : Prop := (g.sock sn).txState = .dgramPending

instance (sn : ℕ) (g : Globals) : Decidable (Outstanding sn g) := by unfold Outstanding; infer_instance

/-- While a SEND is pending, recvfrom, which looks at Sn_IR where Sn_CR is busy, sees no TIMEOUT, and a MACRAW
header that it reads has a length that does not close the socket. -/
def Access.Clean (sn : ℕ) : Access → Prop
  | ⟨.recvfrom _ _ _, g, .read8 a, x⟩ => a = Reg.snIR sn → Outstanding sn g → x.1 &&& snIrTimeout = 0
  | ⟨.recvfrom _ _ _, g, .readBuf a _, x⟩ => a.block = .rxBuf sn → Outstanding sn g →
    (g.sock sn).mode &&& 0x07 = snMrMacraw → (g.sock sn).remainedSize = 0 →
      2 ≤ word16 (byteAt x.1.toList 0) (byteAt x.1.toList 1) ∧ word16 (byteAt x.1.toList 0) (byteAt x.1.toList 1) ≤ 1516
  | _ => True

/-- The calls that share the socket: sendto, recvfrom, getsockopt and CS_GET_TX_STATE. -/
def Shares : Op → Prop
  | .sendto _ _ _ _ _ | .recvfrom _ _ _ | .getsockopt _ _ | .ctlsocket .getTxState _ => True
  | _ => False

abbrev Call := Step Op Driver World ℤ

/-- What a sendto returns that leaves the pending state. -/
def report (sn : ℕ) (s : Call) : Option ℤ :=
  match s.call with
  | .sendto _ _ _ _ _ =>
    if Outstanding sn s.pre.1.toGlobals ∧ ¬ Outstanding sn s.post.1.toGlobals then s.result else none
  | _ => none

def reports (sn : ℕ) (steps : List Call) : List ℤ := steps.filterMap (report sn)

/-- Each accepted SEND but the pending one has been reported once, in order and as it ended; and what the chip
raised at the end of the pending one is still set. -/
structure Reported (sn : ℕ) (g : Globals) (c : Chip) (reports : List ℤ) : Prop where
  once : c.accepted.length = reports.length + if Outstanding sn g then 1 else 0
  values : reports <+: List.zipWith value c.accepted c.ended
  kept : Outstanding sn g → ∀ e, c.ended[reports.length]? = some e → c.bit e = true

/-- A sendto whose arguments pass finds the end of the pending SEND. -/
def Leaves (sn : ℕ) (past : List Call) (s : Call) : Prop :=
  match s.call with
  | .sendto len buf _ _ _ => len ≠ 0 → buf ≠ none → sn < sockNum → Outstanding sn s.pre.1.toGlobals →
    (reports sn past).length < s.pre.2.chip.ended.length → s.result ≠ none ∧ ¬ Outstanding sn s.post.1.toGlobals
  | _ => True

section chips
variable {sn : ℕ} {c : Chip} {e : Io} {x : e.Res} {old : List ℕ} {told : List ℤ} {g : Globals}

lemma zipWith_append_of_le (f : ℕ → Ending → ℤ) {l : List ℕ} {m : List Ending} (h : l.length ≤ m.length)
    (e : Ending) :
    List.zipWith f l (m ++ [e]) = List.zipWith f l m := by
  induction l generalizing m with
  | nil => rfl
  | cons n l ih =>
    cases m with
    | nil => cases h
    | cons e' m => exact congrArg (f n e' :: ·) (ih (Nat.le_of_succ_le_succ h))

lemma zipWith_append_of_ge (f : ℕ → Ending → ℤ) {l : List ℕ} {m : List Ending} (h : m.length ≤ l.length) (n : ℕ) :
    List.zipWith f (l ++ [n]) m = List.zipWith f l m := by
  induction m generalizing l with
  | nil =>
    rw [List.zipWith_nil_right, List.zipWith_nil_right]
  | cons e m ih =>
    cases l with
    | nil => cases h
    | cons n' l => exact congrArg (f n' e :: ·) (ih (Nat.le_of_succ_le_succ h))

/-- As many SENDs have ended as `old` has, and they have been reported. -/
structure Told (old : List ℕ) (ended : List Ending) (told : List ℤ) : Prop where
  length : old.length = ended.length
  values : List.zipWith value old ended = told

lemma Told.length_told {ended : List Ending} (h : Told old ended told) : told.length = old.length := by
  rw [← h.values, List.length_zipWith, ← h.length, Nat.min_self]

/-- No SEND is under way and no bit is set. -/
structure Chip.Rests (c : Chip) (told : List ℤ) : Prop where
  running : c.running = false
  sendok : c.sendok = false
  timeout : c.timeout = false
  all : Told c.accepted c.ended told

/-- After the SENDs `old` another one is under way, or has ended and its bit is set. -/
inductive Chip.Flies (c : Chip) (old : List ℕ) (told : List ℤ) : Prop
  | running (running : c.running = true) (sendok : c.sendok = false) (timeout : c.timeout = false)
      (before : Told old c.ended told)
  | ended (running : c.running = false) (ends : List Ending) (e : Ending) (last : c.ended = ends ++ [e])
      (sendok : c.sendok = true ↔ e = .sendok) (timeout : c.timeout = true ↔ e = .timeout)
      (before : Told old ends told)

/-- The driver has given up: what was accepted has been reported. -/
structure Chip.Stuck (c : Chip) (told : List ℤ) : Prop where
  length : c.accepted.length ≤ c.ended.length
  values : List.zipWith value c.accepted c.ended = told

lemma passes_of_not_running (h : c.running = false) (ending : Option Ending) : c.passes ending = c := by
  cases ending with
  | none => rfl
  | some e => exact if_neg (by simp [h])

lemma Chip.Rests.passes (h : c.Rests told) (ending : Option Ending) : c.passes ending = c :=
  passes_of_not_running h.running ending

lemma Chip.Flies.passes (h : c.Flies old told) (ending : Option Ending) : (c.passes ending).Flies old told := by
  cases ending with
  | none => exact h
  | some e =>
    cases h with
    | running running sendok timeout before =>
      rw [Chip.passes, if_pos running]
      refine .ended rfl c.ended e rfl ?_ ?_ before
      · simp [sendok]
      · simp [timeout]
    | ended running ends e' last sendok timeout before =>
      rw [Chip.passes, if_neg (by simp [running])]
      exact .ended running ends e' last sendok timeout before

lemma accepted_passes (c : Chip) (ending : Option Ending) : (c.passes ending).accepted = c.accepted := by
  cases ending with
  | none => rfl
  | some e =>
    rw [Chip.passes]
    split_ifs <;> rfl

lemma issued_passes (c : Chip) (ending : Option Ending) : (c.passes ending).issued = c.issued := by
  cases ending with
  | none => rfl
  | some e =>
    rw [Chip.passes]
    split_ifs <;> rfl

lemma length_ended_passes (c : Chip) (ending : Option Ending) : c.ended.length ≤ (c.passes ending).ended.length := by
  cases ending with
  | none => rfl
  | some e =>
    rw [Chip.passes]
    split_ifs
    · change _ ≤ (c.ended ++ [e]).length
      rw [List.length_append]
      exact Nat.le_add_right _ _
    · rfl

lemma copied_passes (c : Chip) (ending : Option Ending) : (c.passes ending).copied = c.copied := by
  cases ending with
  | none => rfl
  | some e =>
    rw [Chip.passes]
    split_ifs <;> rfl

lemma Chip.Stuck.passes (h : c.Stuck told) (ending : Option Ending) : (c.passes ending).Stuck told := by
  cases ending with
  | none => exact h
  | some e =>
    rw [Chip.passes]
    split_ifs
    · constructor
      · change _ ≤ (c.ended ++ [e]).length
        rw [List.length_append]
        exact Nat.le_add_right_of_le h.length
      · exact (zipWith_append_of_le value h.length e).trans h.values
    · exact h

/-- A SEND that has not been accepted leaves the chip stuck. -/
lemma Chip.Flies.stuck (h : c.Flies old told) (haccepted : c.accepted = old) : c.Stuck told := by
  cases h with
  | running running sendok timeout before =>
    rw [← haccepted] at before
    exact ⟨before.length.le, before.values⟩
  | ended running ends e last sendok timeout before =>
    rw [← haccepted] at before
    constructor
    · rw [last, List.length_append]
      exact Nat.le_add_right_of_le before.length.le
    · rw [last, zipWith_append_of_le value before.length.le]
      exact before.values

/-- The state of the driver and of the chip between two calls. -/
inductive State (sn : ℕ) (g : Globals) (c : Chip) (told : List ℤ) : Prop
  | idle (tx : (g.sock sn).txState = .idle) (rests : c.Rests told)
  | pending (tx : (g.sock sn).txState = .dgramPending) (healthy : (g.sock sn).health ≠ .faulted)
      (valid : g.deadlineConfigValid) (old : List ℕ) (last : c.accepted = old ++ [(g.sock sn).txPendingLen])
      (flies : c.Flies old told)
  | stuck (tx : (g.sock sn).txState = .localFault) (faulty : (g.sock sn).health = .faulted) (stuck : c.Stuck told)

lemma Chip.Stuck.reported (h : c.Stuck told) (hidle : ¬ Outstanding sn g) : Reported sn g c told where
  once := by
    rw [if_neg hidle, ← h.values, List.length_zipWith, Nat.min_eq_left h.length, Nat.add_zero]
  values := by rw [h.values]
  kept := fun hpending => absurd hpending hidle

lemma Chip.Rests.stuck (h : c.Rests told) : c.Stuck told := ⟨h.all.length.le, h.all.values⟩

lemma State.reported (h : State sn g c told) : Reported sn g c told := by
  cases h with
  | idle tx rests => exact rests.stuck.reported (by simp [Outstanding, tx])
  | stuck tx faulty stuck => exact stuck.reported (by simp [Outstanding, tx])
  | pending tx healthy valid old last flies =>
    have hpending : Outstanding sn g := tx
    cases flies with
    | running running sendok timeout before =>
      refine ⟨?_, ?_, fun _ e he => ?_⟩
      · rw [if_pos hpending, last, List.length_append, before.length_told]
        rfl
      · rw [last, zipWith_append_of_ge value before.length.ge, before.values]
      · rw [before.length_told, before.length, List.getElem?_length] at he
        cases he
    | ended running ends e last' sendok timeout before =>
      refine ⟨?_, ?_, fun _ e' he => ?_⟩
      · rw [if_pos hpending, last, List.length_append, before.length_told]
        rfl
      · rw [last, last', List.zipWith_append before.length, before.values]
        exact List.prefix_append _ _
      · rw [last', before.length_told, before.length, List.getElem?_concat_length] at he
        obtain rfl := Option.some.inj he
        cases e with
        | sendok => exact sendok.2 rfl
        | timeout => exact timeout.2 rfl

end chips

section sending
variable {b : Build} {sn : ℕ} {op : Op} {g : Globals} {w w' : World} {c : Chip} {told : List ℤ} {old : List ℕ}

/-- An access that changes neither the bits nor what the chip knows of the SENDs. -/
def Neutral (sn : ℕ) : Io → Prop
  | .read8 a => a ≠ Reg.snCR sn
  | .write8 a _ => a ≠ Reg.snIR sn ∧ a ≠ Reg.snCR sn
  | .writeBuf a _ => a.block ≠ .txBuf sn
  | .sockUnlock k => k ≠ sn
  | _ => True

lemma access_neutral {e : Io} {x : e.Res} (he : Neutral sn e) : c.access sn e x = c := by
  cases e with
  | read8 a => exact if_neg fun h => he h.1
  | write8 a v => rw [Chip.access, if_neg he.1, if_neg he.2]
  | writeBuf a data => exact if_neg he
  | sockUnlock k => exact if_neg he
  | _ => rfl

lemma access_snIR {v : Byte} {x : Bool} : c.access sn (.write8 (Reg.snIR sn) v) x = c.clear v := if_pos rfl

lemma Chip.Rests.clear (h : c.Rests told) (v : Byte) : (c.clear v).Rests told :=
  ⟨h.running, by simp [Chip.clear, h.sendok], by simp [Chip.clear, h.timeout], h.all⟩

/-- A neutral access only lets the SEND go on. -/
lemma chip_step {e : Io} {x : e.Res} (hx : completing sn op g w e x w') (he : Neutral sn e) :
    ∃ ending, w'.chip = w.chip.passes ending := by
  obtain ⟨ending, -, rfl⟩ := hx
  exact ⟨ending, access_neutral he⟩

lemma Chip.Rests.step {e : Io} {x : e.Res} (h : w.chip.Rests told) (hx : completing sn op g w e x w')
    (he : Neutral sn e) :
    w'.chip = w.chip := by
  obtain ⟨ending, hchip⟩ := chip_step hx he
  rw [hchip, h.passes]

/-- A chip at rest, with what has been copied for its next SEND. -/
structure Chip.Ready (c : Chip) (told : List ℤ) (copied : ℕ) : Prop where
  rests : c.Rests told
  copied : c.copied = copied

lemma Chip.Ready.step {e : Io} {x : e.Res} {n : ℕ} (h : w.chip.Ready told n) (hx : completing sn op g w e x w')
    (he : Neutral sn e) : w'.chip.Ready told n := by
  rw [h.rests.step hx he]
  exact h

lemma ready_prepares {n : ℕ} : Prepares (completing sn op) g sn fun w => w.chip.Ready told n := by
  intro e he w x w₁ hw hx
  refine hw.step hx ?_
  cases he with
  | dipr addr => exact nofun
  | dport port => exact nofun
  | status =>
    intro h
    simp [Reg.snSR, Reg.snCR] at h
  | size => trivial
  | now => trivial
  | wait => trivial

lemma ready_wizSendData (hsn : sn < sockNum) {data : List Byte} {H : Globals → World → Prop}
    (h : w.chip.Ready told 0) :
    wpg (completing sn op) (wizSendData b sn data)
      (fun _ g' w' => g' = g ∧ w'.chip.Ready told data.length) H g w := by
  refine wpg_wizSendData data (fun hnothing => ⟨rfl, h.rests, ?_⟩) ?_
  · rw [hnothing.resolve_left (Nat.not_le.2 hsn)]
    exact h.copied
  intro _ x w₁ hx ptr _ y w₂ hy z w₃ hz
  have h₁ : w₁.chip.Ready told 0 := h.step hx trivial
  have h₂ : w₂.chip.Ready told data.length := by
    obtain ⟨ending, -, rfl⟩ := hy
    have hcopied : (w₁.chip.passes ending).copied = 0 := (copied_passes _ _).trans h₁.copied
    rw [h₁.rests.passes] at hcopied ⊢
    have hrests := h₁.rests
    change Chip.Ready (if (⟨ptr, .txBuf sn⟩ : Addr).block = .txBuf sn then _ else _) told data.length
    rw [if_pos rfl]
    refine ⟨⟨hrests.running, hrests.sendok, hrests.timeout, hrests.all⟩, ?_⟩
    change w₁.chip.copied + data.length = data.length
    rw [hcopied, Nat.zero_add]
  exact ⟨rfl, h₂.step hz nofun⟩

/-- A SEND of `n` bytes has been issued after the SENDs `old`. -/
structure Chip.Issued (c : Chip) (old : List ℕ) (n : ℕ) (told : List ℤ) : Prop where
  accepted : c.accepted = old
  issued : c.issued = some n
  flies : c.Flies old told

lemma Chip.Issued.passes {n : ℕ} (h : c.Issued old n told) (ending : Option Ending) :
    (c.passes ending).Issued old n told :=
  ⟨(accepted_passes c ending).trans h.accepted, (issued_passes c ending).trans h.issued, h.flies.passes ending⟩

lemma Chip.Issued.step {n : ℕ} {e : Io} {x : e.Res} (h : w.chip.Issued old n told) (hx : completing sn op g w e x w')
    (he : Neutral sn e) : w'.chip.Issued old n told := by
  obtain ⟨ending, hchip⟩ := chip_step hx he
  rw [hchip]
  exact h.passes ending

lemma ticks_issued {n : ℕ} : Ticks (completing sn op) g fun w => w.chip.Issued old n told := by
  rintro w _ x w₁ (rfl | rfl) hw hx
  · exact hw.step hx trivial
  · exact hw.step hx trivial

/-- The command register is read while the SEND is not accepted. -/
lemma Chip.Issued.look {n : ℕ} {x : Byte × Bool} (h : w.chip.Issued old n told)
    (hx : completing sn op g w (.read8 (Reg.snCR sn)) x w') :
    (x.1 = 0 → w'.chip.accepted = old ++ [n] ∧ w'.chip.Flies old told) ∧ (x.1 ≠ 0 → w'.chip.Issued old n told) := by
  obtain ⟨ending, -, rfl⟩ := hx
  have h' := h.passes ending
  generalize w.chip.passes ending = c at h' ⊢
  refine ⟨fun hzero => ?_, fun hne => ?_⟩
  · dsimp only
    rw [Chip.access, if_pos ⟨rfl, hzero⟩]
    refine ⟨?_, ?_⟩
    · rw [h'.accepted, h'.issued]
      rfl
    · cases h'.flies with
      | running running sendok timeout before => exact .running running sendok timeout before
      | ended running ends e last sendok timeout before => exact .ended running ends e last sendok timeout before
  · dsimp only
    rw [Chip.access, if_neg fun h => hne h.2]
    exact h'

/-- What a call leaves that has nothing to report; a socket that recvfrom has closed has no mode. -/
structure Goes (sn : ℕ) (g : Globals) (c : Chip) (told : List ℤ) : Prop where
  mode : (g.sock sn).mode = 0 ∨ (g.sock sn).ioMode = true
  state : State sn g c told

lemma goes_sendtoCommit (hsn : sn < sockNum) (hio : (g.sock sn).ioMode = true) (hidle : (g.sock sn).txState = .idle)
    (hhealthy : (g.sock sn).health ≠ .faulted) (hvalid : g.deadlineConfigValid) (h : w.chip.Ready told 0)
    (data : List Byte) :
    wpg (completing sn op) (sendtoCommit b sn data true) (fun _ g' w' => Goes sn g' w'.chip told)
      (fun g' w' => Reported sn g' w'.chip told) g w := by
  simp only [sendtoCommit, wpv_bind, wpg_setSnIR]
  rintro x w₁ hx
  have h₁ : w₁.chip.Ready told 0 := by
    obtain ⟨ending, -, rfl⟩ := hx
    rw [h.rests.passes]
    dsimp only
    rw [access_snIR]
    exact ⟨h.rests.clear _, h.copied⟩
  refine wpv_mono (ready_wizSendData hsn h₁) ?_ fun _ _ => id
  rintro _ g' w₂ ⟨rfl, h₂⟩
  simp only [wpg_setSnCR, wpv_get]
  intro y w₃ hy m hm
  have h₃ : w₃.chip.Issued w₂.chip.accepted data.length told := by
    obtain ⟨ending, -, rfl⟩ := hy
    rw [h₂.rests.passes]
    have hne : Reg.snCR sn ≠ Reg.snIR sn := by simp [Reg.snCR, Reg.snIR]
    dsimp only
    rw [Chip.access, if_neg hne, if_pos rfl, Chip.command, if_pos rfl, h₂.copied]
    exact ⟨rfl, rfl, .running rfl h₂.rests.sendok h₂.rests.timeout h₂.rests.all⟩
  have hcut {w : World} (hw : w.chip.Issued w₂.chip.accepted data.length told) : Reported sn g' w.chip told :=
    (hw.flies.stuck hw.accepted).reported (by simp [Outstanding, hidle])
  refine wpg_sockDeadlineBegin ticks_issued h₃ _ (fun _ d w₄ h₄ => ?_) (fun hinvalid => absurd hvalid hinvalid)
  simp only [waitCrAccepted, wpv_bind]
  refine wpg_waitRegister ticks_issued h₄ _ _ d (fun w z w' hw hz => ⟨fun hzero => ?_, fun hne => (hw.look hz).2 hne⟩)
    (fun w hw => ?_) fun w hw => hcut hw
  · obtain ⟨haccepted, hflies⟩ := (hw.look hz).1 hzero
    simp only [wpv_ite, wpv_bind, wpg_modifySock, setTxState, wpv_pure, Globals.setSock_setSock]
    refine ⟨fun hne => absurd rfl hne, fun _ => ⟨fun _ => ?_, fun hblocking => absurd trivial hblocking⟩⟩
    refine ⟨.inr ?_, .pending ?_ ?_ hvalid w₂.chip.accepted ?_ hflies⟩
    · rw [Globals.setSock_same]
      exact hio
    · rw [Globals.setSock_same]
    · rw [Globals.setSock_same]
      exact hhealthy
    · rw [Globals.setSock_same]
      exact haccepted
  · simp only [wpv_ite, wpv_bind, wpg_modifySock, setTxState, wpv_pure, Globals.setSock_setSock]
    refine ⟨fun _ => ⟨.inr ?_, .stuck ?_ ?_ (hw.flies.stuck hw.accepted)⟩, fun hok => absurd (by decide) hok⟩
    · rw [Globals.setSock_same]
      exact hio
    · rw [Globals.setSock_same]
    · rw [Globals.setSock_same]
      rfl

/-- What a sendto leaves that returns `r`; `due` says that the pending SEND had ended. -/
structure Sent (sn : ℕ) (g : Globals) (told : List ℤ) (due : Prop) (r : ℤ) (g' : Globals) (c : Chip) : Prop where
  goes : Goes sn g' c (if Outstanding sn g ∧ ¬ Outstanding sn g' then told ++ [r] else told)
  left : due → Outstanding sn g → ¬ Outstanding sn g'

lemma Goes.sent {due : Prop} {r : ℤ} {g' : Globals} (h : Goes sn g' c told) (hidle : ¬ Outstanding sn g) :
    Sent sn g told due r g' c := by
  refine ⟨?_, fun _ hpending => absurd hpending hidle⟩
  rw [if_neg fun h => hidle h.1]
  exact h

/-- The pending SEND that ended as `e` has been reported and its bit cleared. -/
lemma goes_reported {ends : List Ending} {e : Ending} {v : Byte}
    (hmode : (g.sock sn).mode = 0 ∨ (g.sock sn).ioMode = true)
    (last : c.accepted = old ++ [(g.sock sn).txPendingLen]) (hrunning : c.running = false)
    (hends : c.ended = ends ++ [e])
    (before : Told old ends told) (hsendok : (c.clear v).sendok = false) (htimeout : (c.clear v).timeout = false) :
    Goes sn (g.setSock sn Sock.reported) (c.clear v) (told ++ [value (g.sock sn).txPendingLen e]) := by
  refine ⟨?_, .idle ?_ ⟨hrunning, hsendok, htimeout, ?_, ?_⟩⟩
  · rw [Globals.setSock_same]
    exact hmode
  · rw [Globals.setSock_same]
    rfl
  · change c.accepted.length = c.ended.length
    rw [last, hends, List.length_append, List.length_append, before.length]
    rfl
  · change List.zipWith value c.accepted c.ended = _
    rw [last, hends, List.zipWith_append before.length, before.values]
    rfl

lemma sent_sendtoPending (hmode : (g.sock sn).mode = 0 ∨ (g.sock sn).ioMode = true) (hpending : Outstanding sn g)
    (hhealthy : (g.sock sn).health ≠ .faulted) (hvalid : g.deadlineConfigValid)
    (last : w.chip.accepted = old ++ [(g.sock sn).txPendingLen]) (flies : w.chip.Flies old told) {due : Prop}
    (hover : due → told.length < w.chip.ended.length) :
    wpg (completing sn op) (sendtoPending b sn) (fun r g' w' => Sent sn g told due r g' w'.chip)
      (fun _ _ => False) g w := by
  refine wpg_sendtoPending.2 fun x w₁ hx => ?_
  obtain ⟨ending, hanswers, rfl⟩ := hx
  obtain ⟨hsendok, htimeout⟩ := hanswers rfl
  have hread : (w.chip.passes ending).access sn (.read8 (Reg.snIR sn)) x = w.chip.passes ending :=
    access_neutral (by simp [Neutral, Reg.snIR, Reg.snCR])
  have last' : (w.chip.passes ending).accepted = old ++ [(g.sock sn).txPendingLen] := (accepted_passes _ _).trans last
  have hended : w.chip.ended.length ≤ (w.chip.passes ending).ended.length := length_ended_passes w.chip ending
  have left : ¬ Outstanding sn (g.setSock sn Sock.reported) := by
    rw [Outstanding, Globals.setSock_same]
    intro hpending'
    cases hpending'
  have flies' := flies.passes ending
  rw [hread]
  generalize w.chip.passes ending = c at hsendok htimeout last' hended flies' ⊢
  cases flies' with
  | running running sendok timeout before =>
    refine ⟨fun hbit => ?_, fun _ hbit => ?_, fun _ _ => ⟨?_, fun ho => ?_⟩⟩
    · exact absurd (hsendok.1 hbit) (by simp [sendok])
    · exact absurd (htimeout.1 hbit) (by simp [timeout])
    · rw [if_neg fun h => h.2 hpending]
      exact ⟨hmode, .pending hpending hhealthy hvalid old last' (.running running sendok timeout before)⟩
    · have hlength := before.length_told
      have hless := hover ho
      rw [before.length] at hlength
      omega
  | ended running ends e hends sendok timeout before =>
    have cleared {v : Byte} {r : ℤ} {z : Bool} {w₂ : World} (hr : r = value (g.sock sn).txPendingLen e)
        (hsendok : (c.clear v).sendok = false) (htimeout : (c.clear v).timeout = false)
        (hz : completing sn op g ⟨c, w.accesses ++ [⟨op, g, .read8 (Reg.snIR sn), x⟩]⟩
            (.write8 (Reg.snIR sn) v) z w₂) :
        Sent sn g told due r (g.setSock sn Sock.reported) w₂.chip := by
      obtain ⟨ending', -, rfl⟩ := hz
      rw [passes_of_not_running running]
      dsimp only
      rw [access_snIR]
      refine ⟨?_, fun _ _ => left⟩
      rw [if_pos ⟨hpending, left⟩, hr]
      exact goes_reported hmode last' running hends before hsendok htimeout
    refine ⟨fun hbit y w₂ hy => ?_, fun hnone hbit y w₂ hy => ?_, fun hnone hnone' => ?_⟩
    · obtain rfl := sendok.1 (hsendok.1 hbit)
      have hno : c.timeout = false := by simpa using timeout
      exact cleared rfl (by simp [Chip.clear, snIrSendok]) (by simp [Chip.clear, hno]) hy
    · obtain rfl := timeout.1 (htimeout.1 hbit)
      have hno : c.sendok = false := by simpa using sendok
      exact cleared rfl (by simp [Chip.clear, hno]) (by simp [Chip.clear, snIrTimeout]) hy
    · cases e with
      | sendok => exact absurd hnone (hsendok.2 (sendok.2 rfl))
      | timeout => exact absurd hnone' (htimeout.2 (timeout.2 rfl))

lemma mode_of_datagram {mode : Byte} (h : Datagram mode) : mode ≠ 0 := by
  rintro rfl
  simp [Datagram, snMrUdp, snMrIpraw, snMrIpraw6, snMrMacraw] at h

lemma sent_sendtoLocked (hsn : sn < sockNum) (h : Goes sn g w.chip told) (hcopied : w.chip.copied = 0) {due : Prop}
    (hover : due → told.length < w.chip.ended.length) (buf : List Byte) (len : ℕ) (addr : Vector Byte 4)
    (port addrlen : ℕ) :
    wpg (completing sn op) (sendtoLocked b sn buf len addr port addrlen)
      (fun r g' w' => Sent sn g told due r g' w'.chip)
      (fun g' w' => Reported sn g' w'.chip told ∧ ¬ Outstanding sn g) g w := by
  refine (wpv_bind _ _).2 (wpv_get.2 ?_)
  rintro m rfl
  refine (wpv_ite _ _ _).2 ⟨fun hstuck => h.sent (by simp [Outstanding, hstuck]), fun hstuck => ?_⟩
  refine (wpv_ite _ _ _).2 ⟨fun hfault => ?_, fun hfault => (wpv_ite _ _ _).2 ⟨fun hinvalid => ?_, fun hvalid => ?_⟩⟩
  · refine h.sent fun hpending => ?_
    cases h.state with
    | idle tx rests => exact absurd (tx.symm.trans hpending) nofun
    | pending tx healthy valid old last flies => exact healthy hfault
    | stuck tx faulty stuck => exact hstuck tx
  · refine h.sent fun hpending => ?_
    cases h.state with
    | idle tx rests => exact absurd (tx.symm.trans hpending) nofun
    | pending tx healthy valid old last flies => exact hinvalid valid
    | stuck tx faulty stuck => exact hstuck tx
  refine (wpv_ite _ _ _).2 ⟨fun hpending => ?_, fun hpending => ?_⟩
  · cases h.state with
    | idle tx rests => exact absurd (tx.symm.trans hpending) nofun
    | pending tx healthy valid old last flies =>
      exact wpv_mono (sent_sendtoPending h.mode tx healthy valid last flies hover) (fun _ _ _ => id)
        fun _ _ => False.elim
    | stuck tx faulty stuck => exact absurd tx hstuck
  · cases h.state with
    | idle tx rests =>
      have hready : w.chip.Ready told 0 := ⟨rests, hcopied⟩
      have going {w : World} (hw : w.chip.Ready told 0) : Goes sn m.toGlobals w.chip told :=
        ⟨h.mode, .idle tx hw.rests⟩
      refine wpg_sendtoIdle ready_prepares hready buf len addr port addrlen (fun _ _ hw => (going hw).sent hpending)
        (fun hdatagram w hw => ?_) fun _ hw => ⟨(going hw).state.reported, hpending⟩
      have hio := h.mode.resolve_left (mode_of_datagram hdatagram)
      rw [hio]
      exact wpv_mono (goes_sendtoCommit hsn hio tx hfault (not_not.1 hvalid) hw _)
        (fun _ _ _ hgoes => hgoes.sent hpending) fun _ _ hreported => ⟨hreported, hpending⟩
    | pending tx healthy valid old last flies => exact absurd tx hpending
    | stuck tx faulty stuck => exact absurd tx hstuck

/-- The state forgets what has been copied and issued. -/
lemma State.forget (h : State sn g c told) (copied : ℕ) (issued : Option ℕ) :
    State sn g { c with copied := copied, issued := issued } told := by
  cases h with
  | idle tx rests => exact .idle tx ⟨rests.running, rests.sendok, rests.timeout, rests.all⟩
  | stuck tx faulty stuck => exact .stuck tx faulty ⟨stuck.length, stuck.values⟩
  | pending tx healthy valid old last flies =>
    refine .pending tx healthy valid old last ?_
    cases flies with
    | running running sendok timeout before => exact .running running sendok timeout before
    | ended running ends e hends sendok timeout before => exact .ended running ends e hends sendok timeout before

lemma State.passes (h : State sn g c told) (ending : Option Ending) : State sn g (c.passes ending) told := by
  cases h with
  | idle tx rests =>
    rw [rests.passes]
    exact .idle tx rests
  | pending tx healthy valid old last flies =>
    exact .pending tx healthy valid old ((accepted_passes c ending).trans last) (flies.passes ending)
  | stuck tx faulty stuck => exact .stuck tx faulty (stuck.passes ending)

/-- Between two calls nothing is copied or issued. -/
structure Between (sn : ℕ) (g : Globals) (c : Chip) (told : List ℤ) : Prop where
  goes : Goes sn g c told
  copied : c.copied = 0
  issued : c.issued = none

lemma sent_unlock {due : Prop} {r : ℤ} {g' : Globals} {x : Unit} (h : Sent sn g told due r g' w.chip)
    (hx : completing sn op g' w (.sockUnlock sn) x w') :
    Sent sn g told due r g' w'.chip ∧ w'.chip.copied = 0 ∧ w'.chip.issued = none := by
  obtain ⟨ending, -, rfl⟩ := hx
  have hfree : (w.chip.passes ending).access sn (.sockUnlock sn) x =
      { w.chip.passes ending with copied := 0, issued := none } := if_pos rfl
  dsimp only
  rw [hfree]
  exact ⟨⟨⟨h.goes.mode, (h.goes.state.passes ending).forget 0 none⟩, h.left⟩, rfl, rfl⟩

/-- A sendto that changes nothing. -/
lemma Between.refused {due : Prop} (h : Between sn g c told) (hover : ¬ due) (r : ℤ) :
    Sent sn g told due r g c ∧ c.copied = 0 ∧ c.issued = none := by
  refine ⟨⟨?_, fun ho => absurd ho hover⟩, h.copied, h.issued⟩
  rw [if_neg fun hleft => hleft.2 hleft.1]
  exact h.goes

lemma sent_sendto (h : Between sn g w.chip told) {len : ℕ} (buf : Option (Vector Byte len)) (addr : Vector Byte 4)
    (port addrlen : ℕ) : wpg (completing sn op) (sendto b sn len buf addr port addrlen)
      (fun r g' w' =>
        Sent sn g told (len ≠ 0 ∧ buf ≠ none ∧ sn < sockNum ∧ told.length < w.chip.ended.length) r g' w'.chip ∧
        w'.chip.copied = 0 ∧ w'.chip.issued = none)
      (fun g' w' => Reported sn g' w'.chip told ∧ ¬ Outstanding sn g) g w := by
  refine (wpv_ite _ _ _).2 ⟨fun hlen => h.refused (fun ho => ho.1 hlen) _, fun _ => ?_⟩
  cases buf with
  | none => exact h.refused (fun ho => ho.2.1 rfl) _
  | some buf =>
    refine (wpv_ite _ _ _).2 ⟨fun hle => h.refused (fun ho => Nat.not_lt.2 hle ho.2.2.1) _, fun hle => ?_⟩
    refine (wpg_locked sn _).2 fun x w₁ hx => ?_
    obtain ⟨ending, hchip⟩ := chip_step hx trivial
    have hgoes : Goes sn g w₁.chip told := by
      rw [hchip]
      exact ⟨h.goes.mode, h.goes.state.passes ending⟩
    have hcopied : w₁.chip.copied = 0 := by
      rw [hchip, copied_passes]
      exact h.copied
    have hended : w.chip.ended.length ≤ w₁.chip.ended.length := by
      rw [hchip]
      exact length_ended_passes _ _
    refine wpv_mono (sent_sendtoLocked (Nat.not_le.1 hle) hgoes hcopied
      (fun ho => ho.2.2.2.trans_le hended) _ _ _ _ _)
      (fun r g' w' hsent y w₂ hy => sent_unlock hsent hy) fun _ _ => id

end sending

section receiving
variable {b : Build} {sn : ℕ} {op : Op} {g₀ g : Globals} {w w' : World} {c : Chip} {told : List ℤ}

/-- What recvfrom leaves alone of the memory of a socket that it does not close. -/
structure Alike (sn : ℕ) (g g' : Globals) : Prop where
  ioMode : (g'.sock sn).ioMode = true
  txState : (g'.sock sn).txState = (g.sock sn).txState
  txPendingLen : (g'.sock sn).txPendingLen = (g.sock sn).txPendingLen
  health : (g'.sock sn).health = (g.sock sn).health
  valid : g'.deadlineConfigValid ↔ g.deadlineConfigValid

lemma alike_refl (hio : (g.sock sn).ioMode = true) : Alike sn g g := ⟨hio, rfl, rfl, rfl, Iff.rfl⟩

lemma Alike.outstanding (h : Alike sn g₀ g) : Outstanding sn g ↔ Outstanding sn g₀ := by
  rw [Outstanding, Outstanding, h.txState]

lemma State.alike (h : State sn g₀ c told) (halike : Alike sn g₀ g) : State sn g c told := by
  cases h with
  | idle tx rests => exact .idle (halike.txState.trans tx) rests
  | pending tx healthy valid old last flies =>
    refine .pending (halike.txState.trans tx) ?_ (halike.valid.2 valid) old ?_ flies
    · rw [halike.health]
      exact healthy
    · rw [halike.txPendingLen]
      exact last
  | stuck tx faulty stuck => exact .stuck (halike.txState.trans tx) (halike.health.trans faulty) stuck

/-- The counts of the packet that is being read. -/
def Packets (f : Sock → Sock) : Prop := ∀ s : Sock, ∃ n v, f s = { s with remainedSize := n, packInfo := v }

lemma Alike.setSock {f : Sock → Sock} (h : Alike sn g₀ g) (hf : Packets f) : Alike sn g₀ (g.setSock sn f) := by
  obtain ⟨n, v, heq⟩ := hf (g.sock sn)
  have hsock : (g.setSock sn f).sock sn = { g.sock sn with remainedSize := n, packInfo := v } := by
    rw [Globals.setSock_same]
    exact heq
  refine ⟨?_, ?_, ?_, ?_, h.valid⟩
  · rw [hsock]
    exact h.ioMode
  · rw [hsock]
    exact h.txState
  · rw [hsock]
    exact h.txPendingLen
  · rw [hsock]
    exact h.health

/-- What holds of the chip where all that has been seen is clean. -/
def World.Sound (sn : ℕ) (P : Chip → Prop) (w : World) : Prop := (∀ a ∈ w.accesses, a.Clean sn) → P w.chip

lemma World.Sound.mono {P Q : Chip → Prop} (h : w.Sound sn P) (hPQ : ∀ c, P c → Q c) : w.Sound sn Q :=
  fun hclean => hPQ _ (h hclean)

lemma World.Sound.step {P Q : Chip → Prop} {e : Io} {x : e.Res} (h : w.Sound sn P) (hx : completing sn op g w e x w')
    (next : ∀ ending, P w.chip → Access.Clean sn ⟨op, g, e, x⟩ → (w.chip.passes ending).Answers sn e x →
      Q ((w.chip.passes ending).access sn e x)) : w'.Sound sn Q := by
  obtain ⟨ending, hanswers, rfl⟩ := hx
  intro hclean
  refine next ending (h fun a ha => hclean a (List.mem_append_left _ ha)) ?_ hanswers
  exact hclean _ (List.mem_append_right _ (List.mem_singleton_self _))

/-- The state under recvfrom, from the memory that it began with, and what has been seen. -/
structure Sits (sn : ℕ) (g₀ : Globals) (told : List ℤ) (R : Prop) (c : Chip) : Prop where
  state : State sn g₀ c told
  issued : c.issued = none
  seen : R

variable {R : Prop}

lemma Sits.passes (h : Sits sn g₀ told R c) (ending : Option Ending) : Sits sn g₀ told R (c.passes ending) :=
  ⟨h.state.passes ending, (issued_passes c ending).trans h.issued, h.seen⟩

/-- An access that neither sends nor clears an event. -/
def Harmless (sn : ℕ) (e : Io) : Prop :=
  (∀ v, e ≠ .write8 (Reg.snIR sn) v) ∧ e ≠ .write8 (Reg.snCR sn) snCrSend

@[simp] lemma harmless_read8 (a : Addr) : Harmless sn (.read8 a) := by simp [Harmless]

@[simp] lemma harmless_readBuf (a : Addr) (len : ℕ) : Harmless sn (.readBuf a len) := by simp [Harmless]

@[simp] lemma harmless_writeBuf (a : Addr) (data : List Byte) : Harmless sn (.writeBuf a data) := by simp [Harmless]

lemma Sits.access {e : Io} {x : e.Res} (h : Sits sn g₀ told R c) (he : Harmless sn e) :
    Sits sn g₀ told R (c.access sn e x) := by
  cases e with
  | read8 a =>
    rw [Chip.access]
    split_ifs
    · have hsame : c.accepted ++ c.issued.toList = c.accepted := by
        rw [h.issued]
        exact List.append_nil _
      rw [hsame]
      exact ⟨h.state.forget c.copied none, rfl, h.seen⟩
    · exact h
  | write8 a v =>
    rw [Chip.access]
    split_ifs with hir hcr
    · exact absurd (by rw [hir]) (he.1 v)
    · have hv : v ≠ snCrSend := by
        rintro rfl
        exact he.2 (by rw [hcr])
      rw [Chip.command, if_neg hv]
      exact ⟨h.state.forget c.copied none, rfl, h.seen⟩
    · exact h
  | writeBuf a data =>
    rw [Chip.access]
    split_ifs
    · exact ⟨h.state.forget _ c.issued, h.issued, h.seen⟩
    · exact h
  | sockUnlock k =>
    rw [Chip.access]
    split_ifs
    · exact ⟨h.state.forget 0 none, rfl, h.seen⟩
    · exact h
  | _ => exact h

lemma sits_step {e : Io} {x : e.Res} (h : w.Sound sn (Sits sn g₀ told R)) (hx : completing sn op g w e x w')
    (he : Harmless sn e) : w'.Sound sn (Sits sn g₀ told R) :=
  h.step hx fun ending hsits _ _ => (hsits.passes ending).access he

lemma keeps_sits : Nonblocking.Keeps (completing sn op) g fun w => w.Sound sn (Sits sn g₀ told R) := by
  intro w e x w₁ he hw hx
  refine sits_step hw hx ?_
  cases e with
  | readBuf | writeBuf | now | wait => simp [Harmless]
  | _ => exact he.elim

/-- What recvfrom leaves on its way. -/
abbrev Settles (sn : ℕ) (told : List ℤ) (g' : Globals) (w' : World) : Prop := w'.Sound sn fun c => Goes sn g' c told

lemma Settles.of_sits (halike : Alike sn g₀ g) (h : w.Sound sn (Sits sn g₀ told R)) : Settles sn told g w :=
  h.mono fun _ hsits => ⟨.inr halike.ioMode, hsits.state.alike halike⟩

variable {buf addrPort : Bool} {len : ℕ}

/-- The wait for Sn_CR, as the clean runs pass it. -/
lemma sits_waitDatagramCrAccepted {Q : ℤ → Globals → World → Prop} {H : Globals → World → Prop}
    (halike : Alike sn g₀ g)
    (h : w.Sound sn (Sits sn g₀ told R)) (t : ℕ) (next : ∀ r w, w.Sound sn (Sits sn g₀ told R) → Q r g w) :
    wpg (completing sn (.recvfrom buf len addrPort)) (waitDatagramCrAccepted b sn t true) Q H g w := by
  simp only [waitDatagramCrAccepted, wpv_bind, wpg_crOrTimeoutLook]
  intro x w₁ hx
  have h₁ := sits_step h hx (harmless_read8 _)
  refine ⟨fun _ => next _ w₁ h₁, fun _ y w₂ hy => ?_⟩
  -- TIMEOUT is seen only where no SEND is pending
  have h₂ : w₂.Sound sn fun c => Sits sn g₀ told R c ∧ (y.1 &&& snIrTimeout ≠ 0 → ¬ Outstanding sn g₀) := by
    refine h₁.step hy fun ending hsits hclean _ => ⟨(hsits.passes ending).access (harmless_read8 _), ?_⟩
    exact fun hbit hpending => hbit (hclean rfl (halike.outstanding.2 hpending))
  refine ⟨fun hbit z w₃ hz => next _ w₃ (h₂.step hz ?_), fun _ => ?_⟩
  · rintro ending ⟨hsits, hidle⟩ _ _
    have hsits := hsits.passes ending
    have hidle := hidle hbit
    generalize w₂.chip.passes ending = c at hsits ⊢
    rw [access_snIR]
    refine ⟨?_, hsits.issued, hsits.seen⟩
    cases hsits.state with
    | idle tx rests => exact .idle tx (rests.clear _)
    | pending tx healthy valid old last flies => exact absurd tx hidle
    | stuck tx faulty stuck => exact .stuck tx faulty ⟨stuck.length, stuck.values⟩
  · exact (wpv_ite _ _ _).2 ⟨fun _ => next _ w₂ (h₂.mono fun _ h => h.1), fun hblocking => absurd trivial hblocking⟩

lemma sits_recvfromFinish (halike : Alike sn g₀ g) (h : w.Sound sn (Sits sn g₀ told R)) (packLen : ℕ)
    (out : Received) :
    wpg (completing sn (.recvfrom buf len addrPort)) (recvfromFinish b sn packLen true out)
      (fun _ => Settles sn told) (Settles sn told) g w := by
  simp only [recvfromFinish, wpv_bind, wpg_setSnCR, wpv_get, wpv_ite, wpg_modifySock, wpv_pure]
  intro x w₁ hx m _
  have h₁ := sits_step h hx ⟨by simp [Reg.snCR, Reg.snIR], by simp [snCrRecv, snCrSend]⟩
  refine sits_waitDatagramCrAccepted halike h₁ _ fun r w hw =>
    ⟨fun _ => .of_sits halike hw, fun _ => .of_sits (halike.setSock ?_) hw⟩
  exact fun s => ⟨_, _, rfl⟩

lemma sits_recvfromChunk (halike : Alike sn g₀ g) (h : w.Sound sn (Sits sn g₀ told R)) (n : ℕ) (out : Received) :
    wpg (completing sn (.recvfrom buf len addrPort)) (recvfromChunk b sn n true out)
      (fun _ => Settles sn told) (Settles sn told) g w := by
  refine (wpv_bind _ _).2 (wpv_get.2 fun m hm => (wpv_bind _ _).2 ?_)
  exact Nonblocking.wpg_wizRecvData_keep keeps_sits h _ fun data w hw => sits_recvfromFinish halike hw _ _

/-- The bytes of a MACRAW header have a length that passes. -/
def Passes (sn : ℕ) (g : Globals) (head : List Byte) : Prop :=
  Outstanding sn g → (g.sock sn).mode &&& 0x07 = snMrMacraw → (g.sock sn).remainedSize = 0 →
    2 ≤ word16 (byteAt head 0) (byteAt head 1) ∧ word16 (byteAt head 0) (byteAt head 1) ≤ 1516

lemma sits_wizRecvData (hsn : sn < sockNum) (h : w.Sound sn (Sits sn g₀ told R)) {n : ℕ} (hn : n ≠ 0)
    {Q : List Byte → Globals → World → Prop} {H : Globals → World → Prop}
    (next : ∀ data w, w.Sound sn (Sits sn g₀ told (Passes sn g data)) → Q data g w) :
    wpg (completing sn (.recvfrom buf len addrPort)) (wizRecvData b sn n) Q H g w := by
  have rest (ptr : ℕ) {w : World} (hw : w.Sound sn (Sits sn g₀ told R)) :
      wpg (completing sn (.recvfrom buf len addrPort)) (do
        let data ← wizchipReadBuf b ⟨ptr, .rxBuf sn⟩ n
        setSnRXRD b sn ((ptr + n) % 65536)
        return data) Q H g w := by
    simp only [wpv_bind, wpg_wizchipReadBuf, setSnRXRD, wpv_pure, wpg_wizchipWriteBuf]
    refine ⟨fun hzero => absurd hzero hn, fun _ x w₁ hx => ⟨fun hnil => absurd hnil (by simp [bytes16]), ?_⟩⟩
    intro _ y w₂ hy
    have h₁ : w₁.Sound sn (Sits sn g₀ told (Passes sn g x.1.toList)) := by
      refine hw.step hx fun ending hsits hclean _ => ?_
      have hsits := (hsits.passes ending).access (x := x) (harmless_readBuf _ _)
      exact ⟨hsits.state, hsits.issued, hclean rfl⟩
    exact next _ w₂ (sits_step h₁ hy (harmless_writeBuf _ _))
  have hread : ¬ (sockNum ≤ sn ∨ n = 0) := fun h => h.elim (Nat.not_le.2 hsn) hn
  simp only [wizRecvData, wpv_ite, wpv_pure, getSnRXRD]
  refine ⟨fun h => absurd h hread, fun _ => (wpv_bind _ _).2 ?_⟩
  refine wpg_wizchipRead16Value b _ fun x w₁ hx => ?_
  have h₁ := sits_step h hx (harmless_readBuf _ _)
  exact ⟨fun _ => rest _ h₁, fun _ => rest _ h₁⟩

/-- A header is read and dropped. -/
lemma sits_recvHeader (hsn : sn < sockNum) (halike : Alike sn g₀ g) (h : w.Sound sn (Sits sn g₀ told R)) {n : ℕ}
    (hn : n ≠ 0)
    {Q : ℤ × List Byte → Globals → World → Prop} {H : Globals → World → Prop}
    (next : ∀ r w, w.Sound sn (Sits sn g₀ told (Passes sn g r.2)) → Q r g w) :
    wpg (completing sn (.recvfrom buf len addrPort)) (recvHeader b sn n true) Q H g w := by
  simp only [recvHeader, wpv_bind, wpv_get]
  intro m _
  refine sits_wizRecvData hsn h hn fun head w hw => ?_
  simp only [wpg_setSnCR]
  intro x w₁ hx
  have h₁ := sits_step hw hx ⟨by simp [Reg.snCR, Reg.snIR], by simp [snCrRecv, snCrSend]⟩
  exact sits_waitDatagramCrAccepted halike h₁ _ fun ret w hw => next (ret, head) w hw

/-- The chip has no SEND that a CLOSE could lose. -/
structure Still (sn : ℕ) (g₀ : Globals) (told : List ℤ) (c : Chip) : Prop where
  tx : (g₀.sock sn).txState = .idle
  rests : c.Rests told
  issued : c.issued = none

lemma still_close {e : Io} {x : e.Res} (he : CloseIo sn e) (h : w.Sound sn (Still sn g₀ told))
    (hx : completing sn op g w e x w') :
    w'.Sound sn (Still sn g₀ told) := by
  refine h.step hx fun ending hstill _ _ => ?_
  rw [hstill.rests.passes]
  cases he with
  | clear =>
    rw [access_snIR]
    exact ⟨hstill.tx, hstill.rests.clear _, hstill.issued⟩
  | command =>
    have hne : Reg.snCR sn ≠ Reg.snIR sn := by simp [Reg.snCR, Reg.snIR]
    have hsend : snCrClose ≠ snCrSend := by decide
    rw [Chip.access, if_neg hne, if_pos rfl, Chip.command, if_neg hsend]
    exact ⟨hstill.tx, ⟨hstill.rests.running, hstill.rests.sendok, hstill.rests.timeout, hstill.rests.all⟩, rfl⟩
  | accepted =>
    rw [Chip.access]
    split_ifs
    · have hsame : w.chip.accepted ++ w.chip.issued.toList = w.chip.accepted := by
        rw [hstill.issued]
        exact List.append_nil _
      rw [hsame]
      exact ⟨hstill.tx, ⟨hstill.rests.running, hstill.rests.sendok, hstill.rests.timeout, hstill.rests.all⟩, rfl⟩
    · exact hstill
  | status =>
    rw [access_neutral (by simp [Neutral, Reg.snSR, Reg.snCR])]
    exact hstill
  | now => exact hstill
  | wait => exact hstill

/-- recvfrom closes the socket. -/
lemma closes_socket (hsn : sn < sockNum) (halike : Alike sn g₀ g) (h : w.Sound sn (Still sn g₀ told))
    {out : Received} :
    wpg (completing sn op) (do
      let _ ← closeInternal b sn 0
      return out) (fun _ => Settles sn told) (Settles sn told) g w := by
  refine (wpv_bind _ _).2 (wpg_closeInternal_keep h hsn 0 (fun e he w x w₁ hw hx => still_close he hw hx)
    (fun r w _ hw => ?_) fun w hw => ?_)
  · change Settles sn told (g.setSock sn (Sock.closed r)) w
    refine World.Sound.mono hw fun c hstill => ⟨.inl ?_, .idle ?_ hstill.rests⟩
    · rw [Globals.setSock_same, Sock.closed]
      split <;> rfl
    · rw [Globals.setSock_same, Sock.closed]
      split <;> rfl
  · exact World.Sound.mono hw fun c hstill =>
      ⟨.inr halike.ioMode, .idle (halike.txState.trans hstill.tx) hstill.rests⟩

/-- A packet is read, and only a MACRAW header of a bad length closes the socket. -/
lemma sits_recvfromPacket (hsn : sn < sockNum) (hhealthy : (g₀.sock sn).health ≠ .faulted)
    (halike : Alike sn g₀ g) (h : w.Sound sn (Sits sn g₀ told R)) (n packLen : ℕ)
    (given : Bool) : wpg (completing sn (.recvfrom buf len addrPort))
      (recvfromPacket b sn n packLen (g.sock sn).mode true given) (fun _ => Settles sn told)
      (Settles sn told) g w := by
  have packets {n : Sock → ℕ} {v : Sock → Byte} : Packets fun s => { s with remainedSize := n s, packInfo := v s } :=
    fun s => ⟨_, _, rfl⟩
  unfold recvfromPacket
  refine (wpv_ite _ _ _).2 ⟨fun _ => .of_sits halike h, fun _ => (wpv_ite _ _ _).2 ⟨fun _ => ?_, fun _ => ?_⟩⟩
  · refine (wpv_bind _ _).2 (wpv_get.2 fun m hm => (wpv_ite _ _ _).2 ⟨fun _ => ?_,
      fun _ => sits_recvfromChunk halike h _ _⟩)
    refine (wpv_bind _ _).2 (sits_recvHeader hsn halike h (by decide) fun r w hw => ?_)
    obtain ⟨ret, head⟩ := r
    refine (wpv_ite _ _ _).2 ⟨fun _ => .of_sits halike hw, fun _ => (wpv_bind _ _).2 ?_⟩
    exact (wpg_modifySock _ _).2 (sits_recvfromChunk (halike.setSock packets) hw _ _)
  refine (wpv_ite _ _ _).2 ⟨fun hmacraw => ?_, fun _ => ?_⟩
  · refine (wpv_bind _ _).2 (wpv_get.2 fun m hm => (wpv_ite _ _ _).2 ⟨fun hempty => ?_,
      fun _ => sits_recvfromChunk halike h _ _⟩)
    subst hm
    refine (wpv_bind _ _).2 (sits_recvHeader hsn halike h (by decide) fun r w hw => ?_)
    obtain ⟨ret, head⟩ := r
    refine (wpv_ite _ _ _).2 ⟨fun _ => .of_sits halike hw, fun _ => (wpv_bind _ _).2 ?_⟩
    have closes {g : Globals} (halike' : Alike sn g₀ g) (hbad : ¬ (2 ≤ word16 (byteAt head 0) (byteAt head 1) ∧
        word16 (byteAt head 0) (byteAt head 1) ≤ 1516)) :
        wpg (completing sn (.recvfrom buf len addrPort)) (do
          let _ ← closeInternal b sn 0
          return ({ ret := sockfatalPacklen } : Received)) (fun _ => Settles sn told) (Settles sn told) g w := by
      refine closes_socket hsn halike' (hw.mono fun c hsits => ?_)
      cases hsits.state with
      | idle tx rests => exact ⟨tx, rests, hsits.issued⟩
      | pending tx healthy valid old last flies =>
        exact absurd (hsits.seen (halike.outstanding.2 tx) hmacraw hempty) hbad
      | stuck tx faulty stuck => exact absurd faulty hhealthy
    refine (wpg_modifySock _ _).2 ((wpv_ite _ _ _).2 ⟨fun hshort => ?_, fun hshort => (wpv_bind _ _).2 ?_⟩)
    · exact closes (halike.setSock packets) (by omega)
    refine (wpg_modifySock _ _).2 ((wpv_ite _ _ _).2 ⟨fun hlong => ?_, fun _ => (wpv_bind _ _).2 ?_⟩)
    · exact closes ((halike.setSock packets).setSock packets) (by omega)
    refine (wpg_modifySock _ _).2 (sits_recvfromChunk ?_ hw _ _)
    exact ((halike.setSock packets).setSock packets).setSock packets
  · have payload {R : Prop} {g : Globals} {w : World} (halike : Alike sn g₀ g) (hw : w.Sound sn (Sits sn g₀ told R))
        (out : Received) : wpg (completing sn (.recvfrom buf len addrPort))
          (recvfromIpraw.payload b sn n packLen true out)
          (fun _ => Settles sn told) (Settles sn told) g w := by
      refine (wpv_bind _ _).2 (wpv_get.2 fun m hm => (wpv_ite _ _ _).2 ⟨fun _ => ?_, fun _ => ?_⟩)
      · exact sits_recvfromChunk halike hw _ _
      · exact sits_recvfromFinish halike hw _ _
    refine (wpv_bind _ _).2 (wpv_get.2 fun m hm => (wpv_ite _ _ _).2 ⟨fun _ => ?_, fun _ => payload halike h _⟩)
    refine (wpv_bind _ _).2 (sits_recvHeader hsn halike h (by decide) fun r w hw => ?_)
    obtain ⟨ret, head⟩ := r
    refine (wpv_ite _ _ _).2 ⟨fun _ => .of_sits halike hw, fun _ => (wpv_bind _ _).2 ?_⟩
    exact (wpg_modifySock _ _).2 (payload (halike.setSock packets) hw _)

lemma goes_recvfromLocked (hsn : sn < sockNum) (hmode : (g.sock sn).mode = 0 ∨ (g.sock sn).ioMode = true)
    (h : w.Sound sn (Sits sn g told True)) (n : ℕ) (given : Bool) :
    wpg (completing sn (.recvfrom buf len addrPort)) (recvfromLocked b sn n given)
      (fun _ => Settles sn told) (Settles sn told) g w := by
  simp only [recvfromLocked, wpv_bind, wpv_get, wpv_ite, wpv_pure]
  rintro m rfl
  have stays {w : World} (hw : w.Sound sn (Sits sn m.toGlobals told True)) : Settles sn told m.toGlobals w :=
    hw.mono fun _ hsits => ⟨hmode, hsits.state⟩
  refine ⟨fun _ => stays h, fun hhealthy => ⟨fun _ => stays h, fun _ => ⟨fun _ => stays h, fun hdatagram => ?_⟩⟩⟩
  have hio : (m.sock sn).ioMode = true := by
    refine hmode.resolve_left fun hnone => hdatagram ?_
    rw [hnone]
    decide
  have halike : Alike sn m.toGlobals m.toGlobals := alike_refl hio
  refine ⟨fun _ => ?_, fun _ => ?_⟩
  · refine (timed_deadlineAbs _).wpg keeps_sits.ticks h fun d w hw => ?_
    rw [hio]
    refine (wpv_bind _ _).2 (timed_waitPollInit.wpg keeps_sits.ticks hw fun poll w hw => ?_)
    refine wpg_pollLoop keeps_sits.ticks hw (fun w hw => ?_) (fun w hw => stays hw) fun _ hw => stays hw
    refine (wpv_bind _ _).2 (Nonblocking.wpg_stableSize_keep keeps_sits hw _ (fun r w hw => ?_) fun w hw => stays hw)
    cases r with
    | error e => exact stays hw
    | ok packLen =>
      simp only [wpv_bind, wpg_getSnSR, wpv_ite, wpv_pure]
      intro x w₁ hx
      have h₁ := sits_step hw hx (harmless_read8 _)
      refine ⟨fun _ => stays h₁, fun _ => ⟨fun _ => ?_, fun _ => ⟨fun _ => stays h₁, fun h => absurd trivial h⟩⟩⟩
      exact sits_recvfromPacket hsn hhealthy halike h₁ _ _ _
  · rw [hio]
    exact sits_recvfromPacket hsn hhealthy halike h _ _ _

/-- recvfrom reports nothing, whatever it finds. -/
lemma between_recvfrom (h : w.Sound sn fun c => Between sn g c told)
    (hmode : (g.sock sn).mode = 0 ∨ (g.sock sn).ioMode = true) :
    wpg (completing sn (.recvfrom buf len addrPort)) (recvfrom b sn buf len addrPort)
      (fun _ g' w' => w'.Sound sn fun c => Between sn g' c told)
      (fun g' w' => w'.Sound sn fun c => Reported sn g' c told) g w := by
  refine (wpv_ite _ _ _).2 ⟨fun _ => h, fun _ => (wpv_ite _ _ _).2 ⟨fun _ => h, fun _ => ?_⟩⟩
  refine (wpv_ite _ _ _).2 ⟨fun _ => h, fun hle => ?_⟩
  refine (wpg_locked sn _).2 fun x w₁ hx => ?_
  have h₁ : w₁.Sound sn (Sits sn g told True) := h.step hx fun ending hbetween _ _ =>
    ⟨hbetween.goes.state.passes ending, (issued_passes _ ending).trans hbetween.issued, trivial⟩
  refine wpv_mono (goes_recvfromLocked (Nat.not_le.1 hle) hmode h₁ len addrPort) (fun r g' w' hw y w₂ hy => ?_)
    fun g' w' hw => ?_
  · refine World.Sound.step hw hy fun ending hgoes _ _ => ?_
    have hfree : (w'.chip.passes ending).access sn (.sockUnlock sn) y =
        { w'.chip.passes ending with copied := 0, issued := none } := if_pos rfl
    rw [hfree]
    exact ⟨⟨hgoes.mode, (hgoes.state.passes ending).forget 0 none⟩, rfl, rfl⟩
  · exact World.Sound.mono hw fun c hgoes => hgoes.state.reported

end receiving

section queries
variable {b : Build} {sn : ℕ} {op : Op} {g : Globals} {w w' : World} {c : Chip} {told : List ℤ}

/-- The accesses of a query. -/
inductive Asks (sn : ℕ) : Io → Prop
  | read8 (a : Addr) : Asks sn (.read8 a)
  | readBuf (a : Addr) (len : ℕ) : Asks sn (.readBuf a len)
  | now : Asks sn .now
  | wait : Asks sn .wait
  | lock : Asks sn (.sockLock sn)
  | unlock : Asks sn (.sockUnlock sn)

/-- A program that only asks. -/
abbrev Query (sn : ℕ) {α : Type} (p : Drv α) : Prop := Within Noise (Asks sn) p

lemma Between.ask {e : Io} {x : e.Res} (h : Between sn g w.chip told) (hx : completing sn op g w e x w')
    (he : Asks sn e) :
    Between sn g w'.chip told := by
  obtain ⟨ending, -, rfl⟩ := hx
  have hsits : Sits sn g told True (w.chip.passes ending) :=
    ⟨h.goes.state.passes ending, (issued_passes _ ending).trans h.issued, trivial⟩
  have hcopied : (w.chip.passes ending).copied = 0 := (copied_passes _ ending).trans h.copied
  have harmless : Harmless sn e := by
    cases he with
    | _ => simp [Harmless]
  have hafter := hsits.access (x := x) harmless
  refine ⟨⟨h.goes.mode, hafter.state⟩, ?_, hafter.issued⟩
  cases he with
  | read8 a =>
    dsimp only
    rw [Chip.access]
    split_ifs
    · exact hcopied
    · exact hcopied
  | unlock => exact congrArg Chip.copied (if_pos rfl)
  | _ => exact hcopied

lemma between_query {α : Type} {p : Drv α} (hp : Query sn p) (h : Between sn g w.chip told) :
    wpg (completing sn op) p (fun _ g' w' => Between sn g' w'.chip told)
      (fun g' w' => Between sn g' w'.chip told) g w :=
  wpv_of_within hp (fun g' (w' : World) => Between sn g' w'.chip told)
    (fun f hf m w hw => by
      rw [(hf m).1]
      exact hw) (fun _ he _ _ _ _ hw hx => hw.ask hx he) h

lemma query_locked {α : Type} {p : Drv α} (hp : Query sn p) : Query sn (locked sn p) :=
  within_bind ((within_perform _).2 .lock) fun _ =>
    within_bind hp fun _ => within_bind ((within_perform _).2 .unlock) fun _ => within_pure _

lemma query_getsockopt (sotype : SockoptType) (arg : Bool) : Query sn (getsockopt b sn sotype arg) := by
  have noise : ∀ f, Noise f → Noise f := fun _ h => h
  refine within_ite (within_pure _) (within_ite (within_pure _) (query_locked ?_))
  refine within_bind (within_look noise) fun m => within_ite (within_pure _) ?_
  have read (a : Addr) : Query sn (do let v ← wizchipRead b a; answered (.u8 v) : Drv (ℤ × ArgOut)) :=
    within_bind (within_wizchipRead noise b (.read8 a)) fun _ => within_pure _
  have read16 (a : Addr) : Query sn (do let v ← wizchipRead16Value b a; answered (.u16 v) : Drv (ℤ × ArgOut)) :=
    within_bind (within_wizchipRead16Value noise b (.readBuf a 2)) fun _ => within_pure _
  have size (a : Addr) : Query sn (sizeOption (stableSize b a)) := by
    refine within_bind (within_stableSize noise b .now (.readBuf a 2)) fun r => ?_
    cases r with
    | error e => exact within_pure _
    | ok v => exact within_pure _
  have mode : Query sn (sockModeCachedOrRead b sn) :=
    within_bind (within_look noise) fun m => within_ite (within_wizchipRead noise b (.read8 _)) (within_pure _)
  cases sotype with
  | flag => exact within_bind mode fun _ => within_pure _
  | ttl | tos | status => exact read _
  | mss | destport => exact read16 _
  | destip => exact within_bind (within_wizchipReadBuf noise b (.readBuf _ 4)) fun _ => within_pure _
  | keepaliveauto => exact within_ite (within_pure _) (read _)
  | sendbuf | recvbuf => exact size _
  | remainsize => exact within_bind mode fun _ => within_ite (size _) (within_pure _)
  | packinfo => exact within_bind mode fun _ => within_ite (within_pure _) (within_pure _)
  | keepalivesend | extstatus | mode => exact within_pure _

lemma query_getTxState (arg : Option ArgMem) : Query sn (ctlsocket b sn .getTxState arg) := by
  refine within_ite (within_pure _) ?_
  cases arg with
  | none => exact within_pure _
  | some arg =>
    refine query_locked (within_bind (within_look fun _ h => h) fun m => ?_)
    rw [if_pos rfl]
    exact within_pure _

end queries

section histories
variable {b : Build} {sn : ℕ} {w w' : World}

/-- What holds after a step of a run whose accesses have been clean. -/
structure Ends (sn : ℕ) (past : List Call) (s : Call) (c : Chip) : Prop where
  reported : Reported sn s.post.1.toGlobals c (reports sn (past ++ [s]))
  leaves : Leaves sn past s

lemma reports_snoc (past : List Call) (s : Call) :
    reports sn (past ++ [s]) = reports sn past ++ (report sn s).toList := by
  rw [reports, List.filterMap_append]
  cases h : report sn s with
  | none => rw [List.filterMap_cons_none h, List.filterMap_nil, Option.toList]; rfl
  | some r => rw [List.filterMap_cons_some h, List.filterMap_nil]; rfl

lemma ends_op {op : Op} (hop : Shares op) (past : List Call) {m : Driver}
    (h : w.Sound sn fun c => Between sn m.toGlobals c (reports sn past)) :
    wp (Env.along (completing sn op) Driver.toGlobals) (op.run b sn)
      (fun r m' w' => w'.Sound sn (Ends sn past ⟨op, (m, w), some r, (m', w')⟩) ∧
        w'.Sound sn fun c => Between sn m'.toGlobals c (reports sn (past ++ [⟨op, (m, w), some r, (m', w')⟩])))
      (fun m' w' => w'.Sound sn (Ends sn past ⟨op, (m, w), none, (m', w')⟩)) m w := by
  by_cases hclean : ∀ a ∈ w.accesses, a.Clean sn
  · have hbetween := h hclean
    -- a call that reports nothing
    have same {r : Option ℤ} {m' : Driver} {w' : World} (hreport : report sn ⟨op, (m, w), r, (m', w')⟩ = none) :
        reports sn (past ++ [⟨op, (m, w), r, (m', w')⟩]) = reports sn past := by
      rw [reports_snoc, hreport]
      exact List.append_nil _
    have cut {m' : Driver} {w' : World} (hreport : report sn ⟨op, (m, w), none, (m', w')⟩ = none)
        (hleaves : Leaves sn past ⟨op, (m, w), none, (m', w')⟩)
        (hw : w'.Sound sn fun c => Reported sn m'.toGlobals c (reports sn past)) :
        w'.Sound sn (Ends sn past ⟨op, (m, w), none, (m', w')⟩) :=
      hw.mono fun c hc => ⟨(same hreport).symm ▸ hc, hleaves⟩
    have returned {r : ℤ} {m' : Driver} {w' : World} (hreport : report sn ⟨op, (m, w), some r, (m', w')⟩ = none)
        (hleaves : Leaves sn past ⟨op, (m, w), some r, (m', w')⟩)
        (hw : w'.Sound sn fun c => Between sn m'.toGlobals c (reports sn past)) :
        w'.Sound sn (Ends sn past ⟨op, (m, w), some r, (m', w')⟩) ∧
          w'.Sound sn fun c => Between sn m'.toGlobals c (reports sn (past ++ [⟨op, (m, w), some r, (m', w')⟩])) := by
      rw [same hreport]
      exact ⟨hw.mono fun c hc => ⟨(same hreport).symm ▸ hc.goes.state.reported, hleaves⟩, hw⟩
    cases op with
    | sendto len buf addr port addrlen =>
      refine wp_mono (wp_of_wpv (sent_sendto hbetween buf addr port addrlen)) (fun r m' w' hsent => ?_)
        fun m' w' hcut => ?_
      · obtain ⟨hsent, hcopied, hissued⟩ := hsent
        have htold : reports sn (past ++ [⟨.sendto len buf addr port addrlen, (m, w), some r, (m', w')⟩]) =
            if Outstanding sn m.toGlobals ∧ ¬ Outstanding sn m'.toGlobals then reports sn past ++ [r]
            else reports sn past := by
          rw [reports_snoc, report]
          split_ifs
          · rfl
          · exact List.append_nil _
        rw [htold]
        refine ⟨fun _ => ⟨?_, fun hlen hbuf hsn hpending hended => ⟨nofun, ?_⟩⟩,
          fun _ => ⟨hsent.goes, hcopied, hissued⟩⟩
        · rw [htold]
          exact hsent.goes.state.reported
        · exact hsent.left ⟨hlen, hbuf, hsn, hended⟩ hpending
      · refine cut (ite_self _) (fun _ _ _ hpending => absurd hpending hcut.2) fun _ => hcut.1
    | recvfrom buf len addrPort =>
      have hrun : wpg (completing sn (.recvfrom buf len addrPort)) (Op.run b sn (.recvfrom buf len addrPort))
          (fun _ g' w' => w'.Sound sn fun c => Between sn g' c (reports sn past))
          (fun g' w' => w'.Sound sn fun c => Reported sn g' c (reports sn past)) m.toGlobals w :=
        (wpv_bind _ _).2 (between_recvfrom h hbetween.goes.mode)
      exact wp_mono (wp_of_wpv hrun) (fun r m' w' hw => returned rfl trivial hw) fun m' w' hw => cut rfl trivial hw
    | getsockopt sotype arg =>
      have hquery : Query sn (Op.run b sn (.getsockopt sotype arg)) :=
        within_bind (query_getsockopt sotype arg) fun _ => within_pure _
      exact wp_mono (wp_of_wpv (between_query hquery hbetween)) (fun r m' w' hw => returned rfl trivial fun _ => hw)
        fun m' w' hw => cut rfl trivial fun _ => hw.goes.state.reported
    | ctlsocket cstype arg =>
      cases cstype with
      | getTxState =>
        have hquery : Query sn (Op.run b sn (.ctlsocket .getTxState arg)) :=
          within_bind (query_getTxState arg) fun _ => within_pure _
        exact wp_mono (wp_of_wpv (between_query hquery hbetween)) (fun r m' w' hw => returned rfl trivial fun _ => hw)
          fun m' w' hw => cut rfl trivial fun _ => hw.goes.state.reported
      | _ => exact hop.elim
    | _ => exact hop.elim
  · have hunclean : w.Sound sn fun _ => False := fun h => hclean h
    have rule : wp (Env.along (completing sn op) Driver.toGlobals) (op.run b sn)
        (fun _ _ w' => w'.Sound sn fun _ => False) (fun _ w' => w'.Sound sn fun _ => False) m w :=
      wp_of_within (within_all _) (fun _ (w : World) => w.Sound sn fun _ => False) (fun _ _ _ _ h => h)
        (fun _ _ _ _ _ _ h hx => h.step hx fun _ hfalse _ _ => hfalse) hunclean
    exact wp_mono rule (fun _ _ _ h => ⟨fun hclean => (h hclean).elim, fun hclean => (h hclean).elim⟩)
      fun _ _ h hclean => (h hclean).elim

/-- A nonblocking socket with no SEND. -/
structure Starts (sn : ℕ) (m : Driver) (w : World) : Prop where
  ioMode : (m.sock sn).ioMode = true
  txState : (m.sock sn).txState = .idle
  chip : w.chip = ⟨false, false, false, 0, none, [], []⟩

lemma Starts.between {m : Driver} (h : Starts sn m w) : Between sn m.toGlobals w.chip [] := by
  have rests : w.chip.Rests [] := by
    rw [h.chip]
    exact ⟨rfl, rfl, rfl, rfl, rfl⟩
  refine ⟨⟨.inr h.ioMode, .idle h.txState rests⟩, ?_, ?_⟩
  · rw [h.chip]
  · rw [h.chip]

/-- In every run whose accesses have been clean, the SENDs that were accepted have been reported, once and in
order, and the next sendto reports the pending one as soon as it has ended. -/
theorem completion_reported {steps : List Call} {m m' : Driver} {w w' : World} (start : Starts sn m w)
    (run : History (fun op => Env.along (completing sn op) Driver.toGlobals) (Op.run b sn) steps m w m' w')
    (hshares : ∀ s ∈ steps, Shares s.call) (before : List Call) (s : Call) (after : List Call)
    (hsplit : steps = before ++ s :: after) (hclean : ∀ a ∈ s.post.2.accesses, a.Clean sn) :
    Ends sn before s s.post.2.chip := by
  have rule := history_rule (fun _ op _ _ => Shares op)
    (fun past m (w : World) => w.Sound sn fun c => Between sn m.toGlobals c (reports sn past))
    (fun past s => s.post.2.Sound sn (Ends sn past s))
    (fun past op m w hop h => wp_mono (ends_op hop past h) (fun _ _ _ h => h) fun _ _ h => h) run []
    (fun before s after hsplit => hshares s (by simp [hsplit])) fun _ => start.between
  exact rule.1 before s after hsplit hclean

end histories

section runs

/-- A chip that takes the commands of sendto at once and those of recvfrom never, with data to read. -/
def answer (op : Op) (c : Chip) : (e : Io) → e.Res
  | .read8 a =>
    if a = Reg.snSR 0 then (sockUdp, false)
    else if a = Reg.snIR 0 then
      ((if c.sendok then snIrSendok else 0) ||| (if c.timeout then snIrTimeout else 0), false)
    else (if snCrRecv ∈ op.commands then 1 else 0, false)
  | .readBuf _ len => (frameBytes len [8, 0], false)
  | .write8 _ _ | .writeBuf _ _ => false
  | .now => 0
  | .wait | .phyLink _ | .sockLock _ | .sockUnlock _ | .globalLock | .globalUnlock => ()

/-- The SEND ends as `e` once recvfrom is called. -/
def ending (e : Ending) (op : Op) : Option Ending := if snCrRecv ∈ op.commands then some e else none

def shared (e : Ending) (op : Op) : Handler Driver World Io Io.Res := fun m w i =>
  let c := w.chip.passes (ending e op)
  (answer op c i, ⟨c.access 0 i (answer op c i), w.accesses ++ [⟨op, m.toGlobals, i, answer op c i⟩]⟩)

lemma shared_allowed (e : Ending) (op : Op) (m : Driver) (w : World) (i : Io) :
    Env.along (completing 0 op) Driver.toGlobals m w i (shared e op m w i).1 (shared e op m w i).2 := by
  refine ⟨ending e op, ?_, rfl⟩
  cases i with
  | read8 a =>
    rintro rfl
    have hne : Reg.snIR 0 ≠ Reg.snSR 0 := by decide
    simp only [shared, answer, if_neg hne, if_pos]
    generalize w.chip.passes (ending e op) = c
    cases c.sendok with
    | false =>
      cases c.timeout with
      | false => simp
      | true => simp [snIrSendok, snIrTimeout]
    | true =>
      cases c.timeout with
      | false => simp [snIrSendok, snIrTimeout]
      | true => simp [snIrSendok, snIrTimeout]
  | _ => trivial

/-- A nonblocking UDP socket that is open. -/
def opened : Driver :=
  { (Driver.boot 1000 1000).setSock 0 fun s => { s with ioMode := true, mode := snMrUdp } with
    chipState := .ready
    txmaxCache := fun _ => 2048 }

def silent : World := ⟨⟨false, false, false, 0, none, [], []⟩, []⟩

def sends : Op := .sendto 2 (some (.replicate 2 7)) (.replicate 4 10) 80 4

@[irreducible] def exchange (e : Ending) : List Call × Driver × World :=
  replay (shared e) (Op.run .oneTurn 0) [sends, .recvfrom true 16 true, sends] opened silent

lemma history_exchange (e : Ending) :
    History (fun op => Env.along (completing 0 op) Driver.toGlobals) (Op.run .oneTurn 0) (exchange e).1 opened silent
      (exchange e).2.1 (exchange e).2.2 := by
  unfold exchange
  exact history_replay (shared_allowed e) _ _ _ _

lemma shares_exchange (e : Ending) : ∀ s ∈ (exchange e).1, Shares s.call := by
  intro s hs
  have hcalls : (exchange e).1.map Step.call <+: [sends, .recvfrom true 16 true, sends] := by
    unfold exchange
    exact calls_replay _ _ _ _ _
  have hcall := hcalls.subset (List.mem_map_of_mem hs)
  simp only [List.mem_cons, List.not_mem_nil, or_false] at hcall
  rcases hcall with h | h | h
  · rw [h]
    trivial
  · rw [h]
    trivial
  · rw [h]
    trivial

lemma starts_exchange : Starts 0 opened silent := ⟨rfl, rfl, rfl⟩

/-- A look of recvfrom at a TIMEOUT, or a MACRAW header. -/
def Access.spoils : Access → Bool
  | ⟨.recvfrom _ _ _, _, .read8 a, x⟩ => a = Reg.snIR 0 ∧ x.1 &&& snIrTimeout ≠ 0
  | ⟨.recvfrom _ _ _, g, .readBuf _ _, _⟩ => (g.sock 0).mode &&& 0x07 = snMrMacraw
  | _ => false

lemma clean_of_not_spoils {a : Access} (h : a.spoils = false) : a.Clean 0 := by
  obtain ⟨op, g, e, x⟩ := a
  cases op with
  | recvfrom buf len addrPort =>
    cases e with
    | read8 a =>
      rintro rfl -
      by_contra hbit
      exact absurd (decide_eq_false_iff_not.1 h) (not_not.2 ⟨rfl, hbit⟩)
    | readBuf a len => exact fun _ _ hmacraw => absurd hmacraw (decide_eq_false_iff_not.1 h)
    | _ => trivial
  | _ => trivial

theorem completion_reported_sendok : reports 0 (exchange .sendok).1 = [2] ∧ ∀ before s after,
    (exchange .sendok).1 = before ++ s :: after → Ends 0 before s s.post.2.chip := by
  refine ⟨?_, fun before s after hsplit => ?_⟩
  · unfold exchange
    decide +kernel
  · refine completion_reported starts_exchange (history_exchange .sendok) (shares_exchange .sendok)
      before s after hsplit fun a ha => clean_of_not_spoils ?_
    have hall : (exchange .sendok).1.all (fun s => s.post.2.accesses.all fun a => a.spoils = false) = true := by
      unfold exchange
      decide +kernel
    have hstep := List.all_eq_true.1 hall s (hsplit ▸ List.mem_append_right _ List.mem_cons_self)
    simpa using List.all_eq_true.1 hstep a ha

/-- recvfrom takes the TIMEOUT of the pending SEND, which no sendto reports. -/
theorem timeout_swallowed : ¬ ∀ (steps : List Call) (m m' : Driver) (w w' : World), Starts 0 m w →
    History (fun op => Env.along (completing 0 op) Driver.toGlobals) (Op.run .oneTurn 0) steps m w m' w' →
    (∀ s ∈ steps, Shares s.call) → ∀ before s after, steps = before ++ s :: after →
      Ends 0 before s s.post.2.chip := by
  intro hall
  have hrun := hall _ _ _ _ _ starts_exchange (history_exchange .timeout) (shares_exchange .timeout)
  have hlost :
      ((exchange .timeout).1.getLast?.map fun s => (decide (Outstanding 0 s.post.1.toGlobals), s.post.2.chip)) =
      some (true, ⟨false, false, false, 0, none, [2], [.timeout]⟩) := by
    unfold exchange
    decide +kernel
  have hnone : reports 0 (exchange .timeout).1 = [] := by
    unfold exchange
    decide +kernel
  rcases List.eq_nil_or_concat' (exchange .timeout).1 with hnil | ⟨before, s, hsplit⟩
  · rw [hnil] at hlost
    cases hlost
  · have hkept := (hrun before s [] hsplit).reported.kept
    rw [hsplit, List.getLast?_concat, Option.map_some, Option.some.injEq, Prod.mk.injEq] at hlost
    rw [← hsplit, hnone, hlost.2] at hkept
    exact Bool.false_ne_true (hkept (of_decide_eq_true hlost.1) .timeout rfl)

end runs

end IoLibrary.Completion
