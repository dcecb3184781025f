import IoLibrary.FifoWords
import IoLibrary.W5300.Closing
import IoLibrary.W5300.Receive

/-! The RX FIFO of a W5300 socket: a chip that gives its words in order, what the driver reads of it and
how its waits end. -/
namespace IoLibrary.W5300
open Effects FifoWords

/-- The RX FIFO of a socket, the reads of it so far, and whether a RECV waits for its acceptance. -/
structure Line where
  fifo : List (BitVec 16)
  reads : ℕ
  waiting : Bool

def Line.popped (w : Line) : Line := { w with fifo := w.fifo.tail, reads := w.reads + 1 }

/-- The word that a bus cycle brings. -/
def value (x : Vector Byte 2) : BitVec 16 := getElem x 0 Nat.zero_lt_two ++ getElem x 1 Nat.one_lt_two

/-- What the other registers of the socket show: no FIFO swap, no aligned mode, no received bytes in an
empty FIFO, and an established TCP connection. -/
structure Shown (sn : ℕ) (g : Globals) (w : Line) (a : Addr) (v : BitVec 16) : Prop where
  mode : a = atOffset 0 → v &&& mrFS = 0
  unaligned : a = snMR sn → v &&& snMrAlign = 0
  size : a = snRXRSR sn 0 ∨ a = snRXRSR sn 2 → w.fifo = [] → v = 0
  status : a = snSSR sn → (g.sock sn).mode &&& 0x03 = 0x01 → v.setWidth 8 = sockEstablished

/-- A received size that read_sn_rx_rsr does not take for zero. -/
structure RxSize where
  value : BitVec 32
  low_ne : value.setWidth 16 ≠ (0 : BitVec 16)

/-- What a prompt chip shows: the received size while its FIFO is not empty, no command in progress and an
open socket. -/
structure Prompt (sn : ℕ) (size : RxSize) (w : Line) (a : Addr) (v : BitVec 16) : Prop where
  high : a = snRXRSR sn 0 → w.fifo ≠ [] → v = (size.value >>> 16).setWidth 16
  low : a = snRXRSR sn 2 → w.fifo ≠ [] → v = size.value.setWidth 16
  taken : a = snCR sn → v.setWidth 8 = (0 : Byte)
  opened : a = snSSR sn → v.setWidth 8 ≠ sockClosed

/-- A chip that gives the words of its FIFO in order, and is prompt where a size is given. RECV is accepted
when Sn_CR shows zero after it. -/
def fifoChip (sn : ℕ) (size : Option RxSize) : Env Globals Line Io Io.Res := fun g w e x w' => match e, x with
  | .readBuf a 2, x =>
    if a = snRXFIFOR sn then (∀ v ∈ w.fifo.head?, value x.1 = v) ∧ w' = w.popped
    else Shown sn g w a (value x.1) ∧ (∀ s ∈ size, Prompt sn s w a (value x.1)) ∧
      w' = if a = snCR sn ∧ (value x.1).setWidth 8 = (0 : Byte) then { w with waiting := false } else w
  | .writeBuf a data, _ => w' = if Io.writeBuf a data = command sn snCrRecv then { w with waiting := true } else w
  | _, _ => w' = w

/-- The words of some bytes in the FIFO, the high byte first. -/
abbrev packed (pad : Byte) (data : List Byte) : List (BitVec 16) := words (· ++ ·) pad data

section rules
variable {sn : ℕ} {size : Option RxSize} {g : Globals} {w : Line} {carried : Byte} {H : Globals → Line → Prop}

lemma wpg_readFifo {Q : BitVec 16 → Globals → Line → Prop} {v : BitVec 16} {rest : List (BitVec 16)}
    (hfifo : w.fifo = v :: rest) (h : Q v g { w with fifo := rest, reads := w.reads + 1 }) :
    wpg (fifoChip sn size) (wizchipRead (snRXFIFOR sn)) Q H g w := by
  refine (wpg_wizchipRead _).2 fun x w₁ hx => ?_
  rw [fifoChip, if_pos rfl, hfifo] at hx
  obtain ⟨hvalue, rfl⟩ := hx
  rw [show x.1[0] ++ x.1[1] = v from hvalue v rfl, Line.popped, hfifo]
  exact h

lemma wpg_readShown {Q : BitVec 16 → Globals → Line → Prop} {a : Addr} (hfifo : a ≠ snRXFIFOR sn) (hcr : a ≠ snCR sn)
    (h : ∀ v, Shown sn g w a v → (∀ s ∈ size, Prompt sn s w a v) → Q v g w) : wpg (fifoChip sn size) (wizchipRead a) Q H g w := by
  refine (wpg_wizchipRead _).2 fun x w₁ hx => ?_
  rw [fifoChip, if_neg hfifo, if_neg fun h => hcr h.1] at hx
  obtain ⟨hshown, hprompt, rfl⟩ := hx
  exact h _ hshown hprompt

lemma wpg_getSnCR {Q : Byte → Globals → Line → Prop} (taken : Q 0 g { w with waiting := false })
    (busy : size = none → ∀ v ≠ 0, Q v g w) : wpg (fifoChip sn size) (getSnCR sn) Q H g w := by
  refine (wpv_bind _ _).2 ((wpg_wizchipRead _).2 fun x w₁ hx => ?_)
  rw [fifoChip, if_neg (by simp [snCR, snRXFIFOR, atOffset])] at hx
  obtain ⟨-, hprompt, rfl⟩ := hx
  by_cases hzero : (value x.1).setWidth 8 = (0 : Byte)
  · rw [if_pos ⟨rfl, hzero⟩, wpv_pure, show (x.1[0] ++ x.1[1]).setWidth 8 = (0 : Byte) from hzero]
    exact taken
  · rw [if_neg fun h => hzero h.2, wpv_pure]
    exact busy (Option.eq_none_iff_forall_not_mem.2 fun s hs => hzero ((hprompt s hs).taken rfl)) _ hzero

lemma wpg_recv {Q : Unit → Globals → Line → Prop} (h : Q () g { w with waiting := true }) :
    wpg (fifoChip sn size) (setSnCR sn snCrRecv) Q H g w := by
  refine (wpg_wizchipWrite _ _).2 fun x w₁ hx => ?_
  have hwaiting : w₁ = { w with waiting := true } := hx.trans (if_pos rfl)
  exact hwaiting ▸ h

lemma wpg_clearIR {Q : Unit → Globals → Line → Prop} (ir : Byte) (h : Q () g w) :
    wpg (fifoChip sn size) (setSnIR sn ir) Q H g w := by
  refine (wpg_wizchipWrite _ _).2 fun x w₁ hx => ?_
  rw [fifoChip, if_neg (by simp [command, snCR, snIR, atOffset])] at hx
  exact hx ▸ h

lemma ticks_fifo {I : Line → Prop} : Ticks (fifoChip sn size) g I := by
  rintro w _ x w₁ (rfl | rfl) h rfl
  · exact h
  · exact h

lemma high_append (high low : Byte) : ((high ++ low : BitVec 16) >>> 8).setWidth 8 = high := by
  rw [BitVec.setWidth_ushiftRight_eq_extractLsb]
  exact BitVec.extractLsb'_append_eq_left

/-- What is left of the FIFO behind some bytes of a list: the other byte of the last word goes too. -/
lemma wpg_recvBytes {Q : List Byte × BitVec 16 → Globals → Line → Prop} {pad : Byte} {rest : List (BitVec 16)}
    {n i : ℕ} {rd : BitVec 16} {l : List Byte} (hi : i % 2 = 0) (hn : n ≤ l.length) (hfifo : w.fifo = packed pad l ++ rest)
    (h : ∀ rd', (n % 2 = 1 → rd'.setWidth 8 = (l.drop n).headD pad) → Q (l.take n, rd') g
      { w with fifo := packed pad (l.drop (n + n % 2)) ++ rest, reads := w.reads + (n + 1) / 2 }) :
    wpg (fifoChip sn size) (recvBytes sn n i rd) Q H g w := by
  induction n using Nat.twoStepInduction generalizing i rd l w Q with
  | zero =>
    have hstay := h rd fun h => absurd h (by decide)
    rwa [List.take_zero, List.drop_zero, ← hfifo] at hstay
  | one =>
    obtain ⟨a, l, rfl⟩ := List.exists_cons_of_length_pos hn
    rw [packed, words_cons, List.cons_append] at hfifo
    rw [recvBytes, if_pos hi]
    refine (wpv_bind _ _).2 (wpg_readFifo hfifo ?_)
    have hlast := h (a ++ l.headD pad) fun _ => low_append _ _
    rw [show (a :: l).drop (1 + 1 % 2) = l.tail by simp] at hlast
    rw [recvBytes, wpv_bind, wpv_pure, wpv_pure, high_append]
    exact hlast
  | more n ih _ =>
    obtain ⟨a, l, rfl⟩ := List.exists_cons_of_length_pos (Nat.lt_of_lt_of_le (Nat.succ_pos _) hn)
    obtain ⟨a', l, rfl⟩ := List.exists_cons_of_length_pos (show 0 < l.length by simp at hn; omega)
    rw [packed, words_cons, List.cons_append] at hfifo
    rw [recvBytes, if_pos hi]
    refine (wpv_bind _ _).2 (wpg_readFifo hfifo ?_)
    rw [recvBytes, if_neg (by omega)]
    simp only [wpv_bind, wpv_pure]
    have hn' : n ≤ l.length := by
      simp only [List.length_cons] at hn
      omega
    refine ih (by omega) hn' rfl fun rd' hodd => ?_
    have hrest := h rd' fun h => hodd (by omega)
    rw [high_append, List.headD_cons, low_append]
    rw [show n + 2 + (n + 2) % 2 = n + n % 2 + 2 by omega, show w.reads + (n + 2 + 1) / 2 = w.reads + 1 + (n + 1) / 2 by omega] at hrest
    exact hrest

/-- The bytes of some FIFO words. -/
def unpacked (ws : List (BitVec 16)) : List Byte := ws.flatMap fun v : BitVec 16 => [(v >>> 8).setWidth 8, v.setWidth 8]

lemma halves_append (v : BitVec 16) : (v >>> 8).setWidth 8 ++ v.setWidth 8 = v := by
  rw [BitVec.setWidth_ushiftRight_eq_extractLsb]
  exact BitVec.extractLsb'_append_extractLsb' (w := 8)

lemma packed_unpacked (pad : Byte) (ws : List (BitVec 16)) : packed pad (unpacked ws) = ws := by
  induction ws with
  | nil => rfl
  | cons v ws ih => exact congrArg₂ List.cons (halves_append v) ih

lemma length_unpacked (ws : List (BitVec 16)) : (unpacked ws).length = 2 * ws.length := by
  induction ws with
  | nil => rfl
  | cons v ws ih =>
    rw [unpacked, List.flatMap_cons, List.length_append, ← unpacked, ih, List.length_cons]
    simp only [List.length_cons, List.length_nil]
    omega

/-- A header comes in whole words. -/
lemma wpg_readHeader {Q : List Byte × Byte → Globals → Line → Prop} {ws later : List (BitVec 16)} (hws : ws ≠ [])
    (hfifo : w.fifo = ws ++ later)
    (h : ∀ carried', Q (unpacked ws, carried') g { w with fifo := later, reads := w.reads + ws.length }) :
    wpg (fifoChip sn size) (wizRecvData sn (2 * ws.length) carried) Q H g w := by
  have hpos := List.length_pos_iff.2 hws
  have hlength := length_unpacked ws
  rw [wizRecvData, if_neg (by omega)]
  rw [← packed_unpacked 0 ws] at hfifo
  refine (wpv_bind _ _).2 (wpg_recvBytes (by decide) (by omega) hfifo fun rd' _ => ?_)
  rw [wpv_pure, List.take_of_length_le (by omega), List.drop_eq_nil_of_le (by omega), show (2 * ws.length + 1) / 2 = ws.length by omega]
  exact h _

lemma word16_unpacked (v : BitVec 16) : word16 ((v >>> 8).setWidth 8) (v.setWidth 8) = v.toNat := by
  rw [word16, BitVec.toNat_setWidth, BitVec.toNat_setWidth, BitVec.toNat_ushiftRight, Nat.shiftRight_eq_div_pow]
  omega

end rules

/-- A byte of a FIFO word is kept for the next call. -/
def Carries (sn : ℕ) (g : Globals) : Prop := (g.sock sn).packInfo &&& packFifobyte ≠ 0

instance (sn : ℕ) (g : Globals) : Decidable (Carries sn g) := inferInstanceAs (Decidable (_ ≠ _))

section waits
variable {b : Build} {sn : ℕ} {size : Option RxSize} {sure : Prop} {g : Globals} {w : Line}

/-- A run may only be stopped in a wait that is not sure to end. -/
abbrev Unsure (sure : Prop) : Globals → Line → Prop := fun _ _ => ¬ sure

/-- A RECV that the wait has not seen accepted still waits. -/
lemma wpg_waitCrAccepted {Q : ℤ → Globals → Line → Prop} {d : ℕ} (hsure : sure → size ≠ none) (hwaiting : w.waiting = true)
    (accepted : Q sockOk g { w with waiting := false })
    (refused : ¬ sure → ∀ ret ≠ sockOk, ∀ g' w', w'.waiting = true → Q ret g' w') :
    wpg (fifoChip sn size) (waitCrAccepted b sn d) Q (Unsure sure) g w := by
  simp only [waitCrAccepted, waitRegister, waitPollInit, wpv_bind, wpv_pure]
  refine timed_timeNow.wpg (ticks_fifo (I := (· = w))) rfl fun now w₁ hw₁ => ?_
  refine wpg_pollLoop_sure (ticks_fifo (I := (· = w))) hw₁ ?_ ?_ fun hnot _ _ => hnot
  · rintro _ rfl
    refine (wpv_bind _ _).2 (wpg_getSnCR ?_ fun hsize v hv => ?_)
    · exact ⟨nofun, accepted⟩
    · rw [if_neg hv]
      exact ⟨fun h => absurd hsize (hsure h), rfl, rfl⟩
  · rintro hnot _ rfl
    simp only [faultedTimeout, markFaulted, wpv_bind, wpg_modifySock, wpv_pure]
    exact refused hnot _ (by decide) _ _ hwaiting

lemma wpg_waitDatagramCrAccepted {Q : ℤ → Globals → Line → Prop} {timeoutUs : ℕ} {nonblocking : Bool}
    (hsure : sure → size ≠ none) (hwaiting : w.waiting = true) (accepted : Q sockOk g { w with waiting := false })
    (refused : ¬ sure → ∀ ret ≠ sockOk, ∀ g' w', w'.waiting = true → Q ret g' w') :
    wpg (fifoChip sn size) (waitDatagramCrAccepted b sn timeoutUs nonblocking) Q (Unsure sure) g w := by
  have look {P : Option ℤ → Globals → Line → Prop} (hok : P (some sockOk) g { w with waiting := false })
      (htimeout : ¬ sure → P (some sockerrTimeout) g w) (hnone : ¬ sure → P none g w) :
      wpg (fifoChip sn size) (crOrTimeoutLook sn) P (Unsure sure) g w := by
    refine (wpv_bind _ _).2 (wpg_getSnCR ?_ fun hsize v hv => ?_)
    · exact hok
    · have hnot : ¬ sure := fun h => hsure h hsize
      rw [if_neg hv]
      refine (wpv_bind _ _).2 ((wpv_bind _ _).2 (wpg_readShown ?_ ?_ fun ir _ _ => ?_))
      · simp [snIR, snRXFIFOR, atOffset]
      · simp [snIR, snCR, atOffset]
      · simp only [wpv_pure, wpv_ite, wpv_bind]
        exact ⟨fun _ => wpg_clearIR _ (htimeout hnot), fun _ => hnone hnot⟩
  refine (wpv_bind _ _).2 (look ?_ (fun hnot => ?_) fun hnot => ?_)
  · exact accepted
  · exact refused hnot _ (by decide) _ _ hwaiting
  · simp only [wpv_ite, wpv_pure, wpv_bind, waitPollInit]
    refine ⟨fun _ => refused hnot _ (by decide) _ _ hwaiting, fun _ => ?_⟩
    refine (timed_deadlineAbs _).wpg (ticks_fifo (I := (· = w))) rfl fun d w₁ hw₁ => ?_
    refine timed_timeNow.wpg (ticks_fifo (I := (· = w))) hw₁ fun now w₂ hw₂ => ?_
    refine wpg_pollLoop (ticks_fifo (I := (· = w))) hw₂ ?_ ?_ fun _ _ => hnot
    · rintro _ rfl
      exact look accepted (fun hnot => refused hnot _ (by decide) _ _ hwaiting) fun _ => ⟨rfl, rfl⟩
    · rintro _ rfl
      simp only [faultedTimeout, markFaulted, wpv_bind, wpg_modifySock, wpv_pure]
      exact refused hnot _ (by decide) _ _ hwaiting

/-- A received size that is not zero tells of a packet in the FIFO. -/
lemma wpg_readSnRxRsr {Q : ℕ → Globals → Line → Prop} (hsure : sure → size ≠ none ∧ 1 < b.turns) (hnone : ¬ Carries sn g)
    (h : ∀ n, (w.fifo = [] → n = 0) → (sure → w.fifo ≠ [] → n ≠ 0) → Q n g w) :
    wpg (fifoChip sn size) (readSnRxRsr b sn) Q (Unsure sure) g w := by
  have read (half : ℕ) (hhalf : half = 0 ∨ half = 2) {P : BitVec 16 → Globals → Line → Prop}
      (hP : ∀ v, Shown sn g w (snRXRSR sn half) v → (∀ s ∈ size, Prompt sn s w (snRXRSR sn half) v) → P v g w) :
      wpg (fifoChip sn size) (wizchipRead (snRXRSR sn half)) P (Unsure sure) g w := by
    refine wpg_readShown ?_ ?_ hP
    · obtain rfl | rfl := hhalf <;> simp [snRXRSR, snRXFIFOR, atOffset]
    · obtain rfl | rfl := hhalf <;> simp [snRXRSR, snCR, atOffset]
  have turn (last : BitVec 32) {P : Prog.Turn (BitVec 32) (BitVec 32) → Globals → Line → Prop}
      (hP : ∀ v : BitVec 32, (w.fifo = [] → v = 0) → (∀ s ∈ size, w.fifo ≠ [] → v = s.value) →
        (v = last → P (.leave v) g w) ∧ (v ≠ last → P (.again v) g w)) : wpg (fifoChip sn size) (do
          let high ← wizchipRead (snRXRSR sn 0)
          let low ← wizchipRead (snRXRSR sn 2)
          let receivedRxSize : BitVec 32 := high ++ low
          if receivedRxSize = last then return .leave receivedRxSize
          return .again receivedRxSize) P (Unsure sure) g w := by
    refine (wpv_bind _ _).2 (read 0 (.inl rfl) fun high hhigh hprompt => ?_)
    refine (wpv_bind _ _).2 (read 2 (.inr rfl) fun low hlow hprompt' => ?_)
    simp only [wpv_ite, wpv_pure]
    refine hP _ (fun hempty => ?_) fun s hs hsome => ?_
    · rw [hhigh.size (.inl rfl) hempty, hlow.size (.inr rfl) hempty]
      rfl
    · rw [(hprompt s hs).high rfl hsome, (hprompt' s hs).low rfl hsome, BitVec.setWidth_ushiftRight_eq_extractLsb]
      exact BitVec.extractLsb'_append_extractLsb' (w := 16)
  have done (v : BitVec 32) (hempty : w.fifo = [] → v = 0) (hsome : ∀ s ∈ size, w.fifo ≠ [] → v = s.value) :
      wpg (fifoChip sn size) Prog.get
        (fun m g w => Q ((v + if (m.sock sn).packInfo &&& packFifobyte ≠ 0 then 1 else 0).setWidth 16).toNat g w)
        (Unsure sure) g w := by
    refine wpv_get.2 ?_
    rintro m rfl
    rw [if_neg (show ¬ (m.sock sn).packInfo &&& packFifobyte ≠ 0 from hnone), show v + 0 = v from BitVec.add_zero v]
    refine h _ (fun hnil => by rw [hempty hnil]; rfl) fun h hne hzero => ?_
    obtain ⟨s, hs⟩ := Option.ne_none_iff_exists'.1 (hsure h).1
    rw [hsome s hs hne] at hzero
    exact s.low_ne (BitVec.eq_of_toNat_eq hzero)
  simp only [readSnRxRsr, getSnRXRSR, wpv_bind, wpv_pure]
  by_cases hs : sure
  · obtain ⟨n, hn⟩ := Nat.exists_eq_add_of_lt (hsure hs).2
    obtain ⟨s, hsize⟩ := Option.ne_none_iff_exists'.1 (hsure hs).1
    rw [show b.turns = n + 1 + 1 by omega]
    refine wpv_loop_turn (turn 1 fun v hempty hsome => ⟨fun _ => done v hempty hsome, fun _ => ?_⟩)
    refine wpv_loop_turn (turn v fun v' hempty' hsome' => ⟨fun _ => done v' hempty' hsome', fun hne => absurd ?_ hne⟩)
    by_cases hnil : w.fifo = []
    · rw [hempty hnil, hempty' hnil]
    · rw [hsome s hsize hnil, hsome' s hsize hnil]
  · refine wpv_loop (fun _ g' w' => g' = g ∧ w' = w) ?_ (fun _ _ _ _ => hs) _ ⟨rfl, rfl⟩
    rintro last _ _ ⟨rfl, rfl⟩
    exact turn last fun v hempty hsome => ⟨fun _ => done v hempty hsome, fun _ => ⟨rfl, rfl⟩⟩

variable {Q : Except ℤ ℕ → Globals → Line → Prop} {nonblocking : Bool} {d : ℕ}

lemma wpg_recvWait (hsure : sure → size ≠ none ∧ 1 < b.turns ∧ w.fifo ≠ []) (htcp : (g.sock sn).mode &&& 0x03 = 0x01)
    (hnone : ¬ Carries sn g) (ready : ∀ n, w.fifo ≠ [] → Q (.ok n) g w) (idle : ¬ sure → ∀ e ≤ 0, Q (.error e) g w) :
    wpg (fifoChip sn size) (recvWait b sn nonblocking d) Q (Unsure sure) g w := by
  simp only [recvWait, waitPollInit, wpv_bind, wpv_pure]
  refine timed_timeNow.wpg (ticks_fifo (I := (· = w))) rfl fun now w₁ hw₁ => ?_
  refine wpg_pollLoop_sure (ticks_fifo (I := (· = w))) hw₁ ?_ ?_ fun hnot _ _ => hnot
  · rintro _ rfl
    refine (wpv_bind _ _).2 (wpg_readSnRxRsr (fun h => ⟨(hsure h).1, (hsure h).2.1⟩) hnone fun n hempty hsome => ?_)
    refine (wpv_bind _ _).2 ((wpv_bind _ _).2 (wpg_readShown ?_ ?_ fun sr hsr _ => ?_))
    · simp [snSSR, snRXFIFOR, atOffset]
    · simp [snSSR, snCR, atOffset]
    · rw [wpv_pure, hsr.status rfl htcp, if_neg (by decide), if_neg (by decide)]
      simp only [wpv_ite, wpv_pure]
      have hnot (hzero : ¬ n ≠ 0) : ¬ sure := fun h => hzero (hsome h (hsure h).2.2)
      refine ⟨fun hne => ⟨by rintro _ ⟨⟩, ?_⟩, fun hzero => ⟨fun _ => ⟨by rintro _ ⟨⟩, ?_⟩, fun _ => ?_⟩⟩
      · exact ready n fun hnil => hne (hempty hnil)
      · exact idle (hnot hzero) _ (by decide)
      · exact ⟨fun h => absurd h (hnot hzero), rfl, rfl⟩
  · rintro hnot _ rfl
    exact idle hnot _ (by decide)

lemma wpg_recvfromWait (hsure : sure → size ≠ none ∧ 1 < b.turns ∧ w.fifo ≠ []) (hnone : ¬ Carries sn g)
    (ready : ∀ n, w.fifo ≠ [] → Q (.ok n) g w) (idle : ¬ sure → ∀ e ≤ 0, Q (.error e) g w) :
    wpg (fifoChip sn size) (recvfromWait b sn nonblocking d) Q (Unsure sure) g w := by
  simp only [recvfromWait, waitPollInit, wpv_bind, wpv_pure]
  refine timed_timeNow.wpg (ticks_fifo (I := (· = w))) rfl fun now w₁ hw₁ => ?_
  refine wpg_pollLoop_sure (ticks_fifo (I := (· = w))) hw₁ ?_ ?_ fun hnot _ _ => hnot
  · rintro _ rfl
    refine (wpv_bind _ _).2 (wpg_readSnRxRsr (fun h => ⟨(hsure h).1, (hsure h).2.1⟩) hnone fun n hempty hsome => ?_)
    refine (wpv_bind _ _).2 ((wpv_bind _ _).2 (wpg_readShown ?_ ?_ fun sr _ hprompt => ?_))
    · simp [snSSR, snRXFIFOR, atOffset]
    · simp [snSSR, snCR, atOffset]
    · simp only [wpv_ite, wpv_pure]
      have hnot (hzero : ¬ n ≠ 0) : ¬ sure := fun h => hzero (hsome h (hsure h).2.2)
      refine ⟨fun hclosed => ⟨by rintro _ ⟨⟩, idle (fun h => ?_) _ (by decide)⟩, fun _ => ⟨fun hne => ⟨by rintro _ ⟨⟩, ?_⟩, fun hzero =>
        ⟨fun _ => ⟨by rintro _ ⟨⟩, ?_⟩, fun _ => ?_⟩⟩⟩
      · obtain ⟨s, hs⟩ := Option.ne_none_iff_exists'.1 (hsure h).1
        exact (hprompt s hs).opened rfl hclosed
      · exact ready n fun hnil => hne (hempty hnil)
      · exact idle (hnot hzero) _ (by decide)
      · exact ⟨fun h => absurd h (hnot hzero), rfl, rfl⟩
  · rintro hnot _ rfl
    exact idle hnot _ (by decide)

end waits

end IoLibrary.W5300
