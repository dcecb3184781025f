import IoLibrary.Spi.Bus

/-! The frames of Transport from the bytes of the bus: a checked transfer on a bus is a run of
the same transfer on the frames that the bus makes. -/
namespace IoLibrary.Spi
open Effects

variable {W α β : Type}

/-- What the devices on a bus may answer; they do not see the memory of the driver. -/
abbrev Devices (W : Type) := W → (e : BusIo) → e.Res → W → Prop

abbrev busEnv (devices : Devices W) : Env Driver W BusIo BusIo.Res := fun _ => devices

def selBits (a : Addr) : BitVec 32 := BitVec.ofNat 32 a.sel

/-- The status after a frame. When it is not asked for, a report can be anything. -/
def reported (unasked : Option Bool) : Bus Bool :=
  match unasked with
  | none => statusCheck
  | some report => return report

/-- One frame in its critical section. -/
def polled (unasked : Option Bool) (frame : Bus α) : Bus (α × Bool) := do
  bus .enter
  bus .clear
  let x ← frame
  let failed ← reported unasked
  bus .exit
  return (x, failed)

/-- Devices make a frame with the given answer. -/
def Makes (devices : Devices W) (frame : Bus α) (w : W) (x : α) (failed : Bool) (w' : W) : Prop :=
  ∃ unasked, ∀ m, Eval (busEnv devices) (polled unasked frame) m w (some (x, failed)) m w'

/-- The frames that the devices of a bus make; the calls that are no frames answer as `rest`. -/
def frameEnv (c : Config) (devices : Devices W) (rest : Env Driver W Io Io.Res) :
    Env Driver W Io Io.Res := fun m w e x w' =>
  match e, x with
  | .read8 a, x => Makes devices (readFrame c (selBits a) (bus .readByte)) w x.1 x.2 w'
  | .readBuf a len, x =>
    Makes devices (readFrame c (selBits a) (readData c len)) w x.1.toList x.2 w'
  | .write8 a v, failed =>
    Makes devices (selected (writeData c (headerBytes (selBits a ||| spiWrite.setWidth 32) ++ [v])))
      w () failed w'
  | .writeBuf a data, failed =>
    Makes devices (selected do
      wizchipSpiWriteHeader c (selBits a) spiWrite
      writeData c data) w () failed w'
  | e, x => rest m w e x w'

/-- A bus program that returns and does not touch the memory. -/
structure Silent (p : Bus α) : Prop where
  wp : ∀ {devices : Devices W} {m : Driver} {w : W} {Q : α → Driver → W → Prop}
    {H : Driver → W → Prop},
    (∀ a w', (∀ m, Eval (busEnv devices) p m w (some a) m w') → Q a m w') →
    wp (busEnv devices) p Q H m w

lemma silent_pure (a : α) : Silent (W := W) (pure a : Bus α) := ⟨fun h => h a _ fun _ => .ret⟩

lemma silent_bus (e : BusIo) : Silent (W := W) (bus e) :=
  ⟨fun h => (wp_perform e).2 fun x w' hx => h x w' fun _ => .call hx .ret⟩

lemma Silent.bind {p : Bus α} {f : α → Bus β} (hp : Silent (W := W) p)
    (hf : ∀ a, Silent (W := W) (f a)) : Silent (W := W) (p >>= f) :=
  ⟨fun h => (wp_bind _ _).2 (hp.wp fun a _ ha => (hf a).wp fun b _ hb =>
    h b _ fun m => (ha m).bind (hb m))⟩

lemma silent_ite {c : Prop} [Decidable c] {p q : Bus α} (hp : Silent (W := W) p)
    (hq : Silent (W := W) q) : Silent (W := W) (if c then p else q) := by
  split
  · exact hp
  · exact hq

lemma silent_statusCheck : Silent (W := W) statusCheck :=
  (silent_bus .checkBusy).bind fun _ => silent_ite (silent_pure _) (silent_bus .checkError)

lemma silent_writeEach (data : List Byte) : Silent (W := W) (writeEach data) := by
  induction data with
  | nil => exact silent_pure ()
  | cons v data ih => exact (silent_bus (.writeByte v)).bind fun _ => ih

lemma silent_readEach (len : ℕ) : Silent (W := W) (readEach len) := by
  induction len with
  | zero => exact silent_pure []
  | succ n ih => exact (silent_bus .readByte).bind fun _ => ih.bind fun _ => silent_pure _

lemma silent_writeData (c : Config) (data : List Byte) : Silent (W := W) (writeData c data) :=
  silent_ite (silent_bus (.writeBurst data)) (silent_writeEach data)

lemma silent_readData (c : Config) (len : ℕ) : Silent (W := W) (readData c len) :=
  silent_ite ((silent_bus (.readBurst len)).bind fun _ => silent_pure _) (silent_readEach len)

lemma silent_selected {body : Bus α} (h : Silent (W := W) body) : Silent (W := W) (selected body) :=
  (silent_bus .select).bind fun _ =>
    h.bind fun _ => (silent_bus .deselect).bind fun _ => silent_pure _

lemma silent_readFrame (c : Config) (addr : BitVec 32) {data : Bus α} (h : Silent (W := W) data) :
    Silent (W := W) (readFrame c addr data) :=
  silent_selected ((silent_writeData c _).bind fun _ => h)

section transfers
variable {devices : Devices W} (rest : Env Driver W Io Io.Res) {c : Config} {b : Build}
variable {m m' : Driver} {w w' : W} {frame : Bus α} {H : Driver → W → Prop}

lemma makes {x : α} {u v : Unit} {w₁ w₂ w₃ w₄ : W} {failed : Bool} (unasked : Option Bool)
    (enter : devices w .enter u w₁) (clear : devices w₁ .clear v w₂)
    (framed : ∀ m, Eval (busEnv devices) frame m w₂ (some x) m w₃)
    (status : ∀ m, Eval (busEnv devices) (reported unasked) m w₃ (some failed) m w₄)
    (exit : devices w₄ .exit () w') : Makes devices frame w x failed w' :=
  ⟨unasked, fun m => .call enter (.call clear ((framed m).bind ((status m).bind (.call exit .ret))))⟩

/-- What holds of every answer of a frame's program holds of the frame. -/
lemma Makes.answer {x : α} {failed : Bool} {P : α → Prop}
    (made : Makes devices frame w x failed w')
    (h : ∀ m w, wp (busEnv devices) frame (fun x _ _ => P x) (fun _ _ => True) m w) : P x := by
  obtain ⟨unasked, run⟩ := made
  have polled_wp (m : Driver) : wp (busEnv devices) (polled unasked frame) (fun r _ _ => P r.1)
      (fun _ _ => True) m w := by
    refine (wp_bind _ _).2 ((wp_perform _).2 fun _ w₁ _ => ?_)
    refine (wp_bind _ _).2 ((wp_perform _).2 fun _ w₂ _ => ?_)
    refine (wp_bind _ _).2 (wp_mono (h m w₂) (fun x m w hx => ?_) fun _ _ => id)
    refine (wp_bind _ _).2 (wp_mono (wp_eval _ _ m w) (fun failed m w _ => ?_) fun _ _ _ => trivial)
    exact (wp_bind _ _).2 ((wp_perform _).2 fun _ _ _ => hx)
  exact wp_returns (polled_wp (.boot 1 1)) (run _)

/-- After a read the bus program consults the status exactly when the frame's does. -/
lemma wp_readExit_refines {Q : ℤ → Driver → W → Prop} (hb : b.safeSpi = c.safeSpi)
    (h : ∀ unasked failed r m' w₁ w',
      (∀ m, Eval (busEnv devices) (reported unasked) m w (some failed) m w₁) →
      devices w₁ .exit () w' →
      Eval (frameEnv c devices rest) (readStatus b failed) m w' (some r) m' w' → Q r m' w') :
    wp (busEnv devices) (readExit c) Q H m w := by
  have asked (ok : Driver → Driver) (good : ∀ w', Eval (frameEnv c devices rest)
      (readStatus b false) m w' (some 0) (ok m) w') (bad : ∀ w', Eval (frameEnv c devices rest)
      (readStatus b true) m w' (some sockerrIo)
        { m with chipState := .faulted, chipLastError := sockerrIo } w') :
      wp (busEnv devices) (checkedExit ok) Q H m w := by
    refine (wp_bind _ _).2 (silent_statusCheck.wp fun failed w₁ hstatus => ?_)
    simp only [wizchipSpiFault, wp_ite, wp_bind, wp_perform, wp_modify, wp_pure]
    refine ⟨fun hf _ w' hexit => ?_, fun hf _ w' hexit => ?_⟩
    · obtain rfl : failed = true := hf
      exact h none true _ _ w₁ w' hstatus hexit (bad w')
    · obtain rfl : failed = false := Bool.eq_false_iff.2 hf
      exact h none false _ _ w₁ w' hstatus hexit (good w')
  unfold readExit
  cases hs : c.safeSpi with
  | true =>
    refine asked id (fun w' => ?_) fun w' => ?_
    · simp only [readStatus, hb, hs, if_true, Bool.false_eq_true, if_false]
      exact .ret
    · simp only [readStatus, hb, hs, if_true, IoLibrary.wizchipSpiFault]
      exact .mem .ret
  | false =>
    have looked (w' : W) : Eval (frameEnv c devices rest) Prog.get m w' (some m) m w' := .mem .ret
    simp only [Bool.false_eq_true, if_false, wp_bind, wp_get]
    by_cases hm : m.transportHealthy = true
    · rw [if_pos hm]
      simp only [uncheckedExit, wp_bind, wp_perform, wp_pure]
      refine fun _ w' hexit => h (some false) false 0 m w w' (fun _ => .ret) hexit ?_
      simp only [readStatus, hb, hs, Bool.false_eq_true, if_false]
      refine (looked w').bind ?_
      rw [if_pos hm]
      exact .ret
    · rw [if_neg hm]
      refine asked _ (fun w' => ?_) fun w' => ?_
      · simp only [readStatus, hb, hs, Bool.false_eq_true, if_false]
        refine (looked w').bind ?_
        rw [if_neg hm]
        exact .mem .ret
      · simp only [readStatus, hb, hs, Bool.false_eq_true, if_false, if_true]
        refine (looked w').bind ?_
        rw [if_neg hm]
        exact .mem .ret

lemma wp_writeExit_refines {Q : ℤ → Driver → W → Prop} (hb : b.safeSpi = c.safeSpi)
    (h : ∀ unasked failed r m' w₁ w',
      (∀ m, Eval (busEnv devices) (reported unasked) m w (some failed) m w₁) →
      devices w₁ .exit () w' →
      Eval (frameEnv c devices rest) (writeStatus b failed) m w' (some r) m' w' → Q r m' w') :
    wp (busEnv devices) (writeExit c) Q H m w := by
  unfold writeExit
  cases hs : c.safeSpi with
  | true =>
    refine (wp_bind _ _).2 (silent_statusCheck.wp fun failed w₁ hstatus => ?_)
    simp only [wizchipSpiFault, wp_ite, wp_bind, wp_perform, wp_modify, wp_pure]
    refine ⟨fun hf _ w' hexit => ?_, fun hf _ w' hexit => ?_⟩
    · obtain rfl : failed = true := hf
      refine h none true _ _ w₁ w' hstatus hexit ?_
      simp only [writeStatus, hb, hs, and_self, if_true]
      exact .mem .ret
    · obtain rfl : failed = false := Bool.eq_false_iff.2 hf
      refine h none false _ _ w₁ w' hstatus hexit ?_
      simp only [writeStatus, Bool.false_eq_true, and_false, if_false]
      exact .ret
  | false =>
    simp only [Bool.false_eq_true, if_false, uncheckedExit, wp_bind, wp_perform, wp_pure]
    refine fun _ w' hexit => h (some false) false 0 m w w' (fun _ => .ret) hexit ?_
    simp only [writeStatus, Bool.false_eq_true, and_false, if_false]
    exact .ret

/-- A read on the bus, from its clear to its exit, is one frame and a look at its status. -/
lemma wp_read_refines {Q : ℤ × α → Driver → W → Prop} (hb : b.safeSpi = c.safeSpi)
    (hframe : Silent (W := W) frame)
    (h : ∀ x failed r m' w', Makes devices frame w x failed w' →
      Eval (frameEnv c devices rest) (readStatus b failed) m w' (some r) m' w' → Q (r, x) m' w') :
    wp (busEnv devices) (do
      bus .enter
      bus .clear
      let x ← frame
      let r ← readExit c
      return (r, x)) Q H m w := by
  refine (wp_bind _ _).2 ((wp_perform _).2 fun _ w₁ henter => ?_)
  refine (wp_bind _ _).2 ((wp_perform _).2 fun _ w₂ hclear => ?_)
  refine (wp_bind _ _).2 (hframe.wp fun x w₃ hx => (wp_bind _ _).2 ?_)
  refine wp_readExit_refines rest hb fun unasked failed r m' w₄ w' hstatus hexit hrun => ?_
  exact h x failed r m' w' (makes unasked henter hclear hx hstatus hexit) hrun

lemma wp_write_refines {frame : Bus Unit} {Q : ℤ → Driver → W → Prop} (hb : b.safeSpi = c.safeSpi)
    (hframe : Silent (W := W) frame)
    (h : ∀ failed r m' w', Makes devices frame w () failed w' →
      Eval (frameEnv c devices rest) (writeStatus b failed) { m with transportHealthy := false } w'
        (some r) m' w' → Q r m' w') :
    wp (busEnv devices) (do
      bus .enter
      Prog.modify fun m => { m with transportHealthy := false }
      bus .clear
      frame
      writeExit c) Q H m w := by
  refine (wp_bind _ _).2 ((wp_perform _).2 fun _ w₁ henter => ?_)
  refine (wp_bind _ _).2 ((wp_modify _).2 ?_)
  refine (wp_bind _ _).2 ((wp_perform _).2 fun _ w₂ hclear => ?_)
  refine (wp_bind _ _).2 (hframe.wp fun _ w₃ hx => ?_)
  refine wp_writeExit_refines rest hb fun unasked failed r m' w₄ w' hstatus hexit hrun => ?_
  exact h failed r m' w' (makes unasked henter hclear hx hstatus hexit) hrun

/-- `p` on the bus does only what `q` does on the frames of the bus. -/
def Refines {β : Type} (c : Config) (p : Bus β) (q : Drv β) : Prop :=
  ∀ (W : Type) (devices : Devices W) (rest : Env Driver W Io Io.Res) m w r m' w',
    Eval (busEnv devices) p m w r m' w' → Eval (frameEnv c devices rest) q m w r m' w'

lemma refines_of_wp {β : Type} {p : Bus β} {q : Drv β}
    (h : ∀ (W : Type) (devices : Devices W) (rest : Env Driver W Io Io.Res) m w,
      wp (busEnv devices) p (fun r m' w' => Eval (frameEnv c devices rest) q m w (some r) m' w')
        (fun _ _ => False) m w) : Refines c p q := by
  intro W devices rest m w r m' w' run
  have hrun := (wp_iff_eval p).1 (h W devices rest m w) r m' w' run
  cases r with
  | some r => exact hrun
  | none => exact hrun.elim

end transfers

section refinement
variable {c : Config} {b : Build}

theorem wizchipRead8CheckedOut_refines (hb : b.safeSpi = c.safeSpi) (a : Addr) :
    Refines c (wizchipRead8CheckedOut c (selBits a) true) (IoLibrary.wizchipRead8CheckedOut b a) := by
  refine refines_of_wp fun W devices rest m w => ?_
  refine wp_read_refines rest hb (silent_readFrame c _ (silent_bus .readByte)) ?_
  intro x failed r m' w' hmade hrun
  have frame : frameEnv c devices rest m w (.read8 a) (x, failed) w' := hmade
  exact Eval.call frame (hrun.bind .ret)

theorem wizchipWrite8Checked_refines (hb : b.safeSpi = c.safeSpi) (a : Addr) (v : Byte) :
    Refines c (wizchipWrite8Checked c (selBits a) v) (IoLibrary.wizchipWrite8Checked b a v) := by
  refine refines_of_wp fun W devices rest m w => ?_
  refine wp_write_refines rest hb (silent_selected (silent_writeData c _)) ?_
  intro failed r m' w' hmade hrun
  have frame (m : Driver) : frameEnv c devices rest m w (.write8 a v) failed w' := hmade
  exact .mem (Eval.call (frame _) hrun)

theorem wizchipWriteBufChecked_refines (hb : b.safeSpi = c.safeSpi) (a : Addr) {len : ℕ}
    (buf : Vector Byte len) :
    Refines c (wizchipWriteBufChecked c (selBits a) len (some buf))
      (IoLibrary.wizchipWriteBufChecked b a buf.toList) := by
  refine refines_of_wp fun W devices rest m w => ?_
  have hempty : buf.toList = [] ↔ len = 0 := by
    rw [← List.length_eq_zero_iff, Vector.length_toList]
  unfold wizchipWriteBufChecked IoLibrary.wizchipWriteBufChecked
  by_cases hlen : len = 0
  · simp only [hempty, hlen, if_true]
    exact .ret
  · simp only [hempty, hlen, if_false]
    refine wp_write_refines rest hb (silent_selected ((silent_writeData c _).bind fun _ =>
      silent_writeData c _)) ?_
    intro failed r m' w' hmade hrun
    have frame (m : Driver) : frameEnv c devices rest m w (.writeBuf a buf.toList) failed w' :=
      hmade
    exact .mem (Eval.call (frame _) hrun)

/-- A buffer read has the length it asked for, whichever callbacks fetch it. -/
lemma wp_readFrame_length {W : Type} {devices : Devices W} (len : ℕ) (addr : BitVec 32) (m : Driver)
    (w : W) : wp (busEnv devices) (readFrame c addr (readData c len))
      (fun data _ _ => data.length = len) (fun _ _ => True) m w := by
  have each (w : W) : wp (busEnv devices) (readEach len) (fun data _ _ => data.length = len)
      (fun _ _ => True) m w := by
    induction len generalizing w with
    | zero => rfl
    | succ n ih =>
      refine (wp_bind _ _).2 ((wp_perform _).2 fun v w₁ _ => (wp_bind _ _).2 ?_)
      exact wp_mono (ih w₁) (fun data _ _ hdata => congrArg (· + 1) hdata) fun _ _ => id
  have fetched (w : W) : wp (busEnv devices) (readData c len) (fun data _ _ => data.length = len)
      (fun _ _ => True) m w := by
    unfold readData
    split
    · exact (wp_bind _ _).2 ((wp_perform _).2 fun data _ _ => data.length_toList)
    · exact each w
  refine (wp_bind _ _).2 ((wp_perform _).2 fun _ w₁ _ => (wp_bind _ _).2 ((wp_bind _ _).2 ?_))
  refine (silent_writeData c _).wp fun _ w₂ _ => wp_mono (fetched w₂) ?_ fun _ _ => id
  exact fun data m w hdata => (wp_bind _ _).2 ((wp_perform _).2 fun _ _ _ => hdata)

theorem wizchipReadBufChecked_refines (hb : b.safeSpi = c.safeSpi) (a : Addr) (len : ℕ) :
    Refines c (wizchipReadBufChecked c (selBits a) true len)
      (IoLibrary.wizchipReadBufChecked b a len) := by
  refine refines_of_wp fun W devices rest m w => ?_
  unfold wizchipReadBufChecked IoLibrary.wizchipReadBufChecked
  by_cases hlen : len = 0
  · simp only [hlen, if_true]
    exact .ret
  · simp only [hlen, not_true_eq_false, if_false]
    refine wp_read_refines rest hb (silent_readFrame c _ (silent_readData c len)) ?_
    intro data failed r m' w' hmade hrun
    have hdata : data.length = len := hmade.answer fun m w => wp_readFrame_length len _ m w
    have frame : frameEnv c devices rest m w (.readBuf a len)
        (⟨data.toArray, by simpa using hdata⟩, failed) w' := hmade
    exact Eval.call frame (hrun.bind .ret)

end refinement

end IoLibrary.Spi
