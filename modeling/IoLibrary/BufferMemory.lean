import IoLibrary.Capacity
import IoLibrary.FrameRules

/-! The 16 KB of buffer memory in each direction: the eight sockets' buffers, one after the
other, against the sizes that the driver configures. -/
namespace IoLibrary.BufferMemory
open Effects Capacity

/-- The sizes of the first `n` sockets together. -/
def before (size : ℕ → ℕ) (n : ℕ) : ℕ := ((List.range n).map size).sum

/-- What the chip holds in one direction, in KB. -/
def held (s : Sizes) (d : Dir) (sn : ℕ) : ℕ := (s d sn).toNat

def total (s : Sizes) (d : Dir) : ℕ := before (held s d) sockNum

/-- The cells of a buffer in the 16 KB ring of its direction. -/
def Cell (size : ℕ → ℕ) (sn c : ℕ) : Prop :=
  ∃ j < 1024 * size sn, c = (1024 * before size sn + j) % 16384

section layout
variable {size size' : ℕ → ℕ}

lemma before_succ (size : ℕ → ℕ) (n : ℕ) : before size (n + 1) = before size n + size n := by
  simp [before, List.range_succ]

lemma before_congr {n : ℕ} (h : ∀ k < n, size k = size' k) : before size n = before size' n := by
  refine congrArg List.sum (List.map_congr_left fun k hk => h k (List.mem_range.1 hk))

lemma before_mono {n k : ℕ} (h : n ≤ k) : before size n ≤ before size k := by
  induction h with
  | refl => exact Nat.le_refl _
  | step _ ih =>
    rw [before_succ]
    omega

/-- Buffers that fit their 16 KB do not overlap. -/
theorem cells_disjoint (h : before size sockNum ≤ 16) {sn k c : ℕ} (hsn : sn < sockNum)
    (hk : k < sockNum) (hne : sn ≠ k) (hc : Cell size sn c) : ¬ Cell size k c := by
  have placed {sn c : ℕ} (hsn : sn < sockNum) (hc : Cell size sn c) :
      1024 * before size sn ≤ c ∧ c < 1024 * before size (sn + 1) := by
    obtain ⟨j, hj, rfl⟩ := hc
    have hend : before size (sn + 1) ≤ before size sockNum := before_mono hsn
    rw [before_succ] at hend ⊢
    rw [Nat.mod_eq_of_lt (by omega)]
    omega
  intro hc'
  have hsn' := placed hsn hc
  have hk' := placed hk hc'
  rcases Nat.lt_or_gt_of_ne hne with hlt | hlt
  · have : before size (sn + 1) ≤ before size k := before_mono hlt
    omega
  · have : before size (k + 1) ≤ before size sn := before_mono hlt
    omega

end layout

/-- A resize leaves its direction within the 16 KB. The other calls pass. -/
def Call.Fits (s : Sizes) : Call → Prop
  | .setTx sn kb => before (Function.update (held s .tx) sn kb) sockNum ≤ 16
  | .setRx sn kb => before (Function.update (held s .rx) sn kb) sockNum ≤ 16
  | _ => True

instance (s : Sizes) (c : Capacity.Call) : Decidable (Call.Fits s c) := by
  cases c <;> unfold Call.Fits <;> infer_instance

/-- Which transfers may fail during a call: any, except that without WIZCHIP_SAFE_SPI the size
registers must take what wizchip_init writes. -/
def Call.mayFail (b : Build) : Call → Io → Prop
  | .init _ _ => fun e => (∃ d sn v, e = .write8 (Dir.sizeReg d sn) v) → b.safeSpi
  | _ => fun _ => True

/-- Both directions are within their 16 KB. -/
def Fitted (s : Sizes) : Prop := ∀ d, total s d ≤ 16

lemma fitted_reset : Fitted fun _ _ => 2 := by
  intro d
  cases d <;> decide

section frames
variable {mayFail : Io → Prop} {g : Globals} {s s' : Sizes} {b : Build}

/-- Whatever is no write of a size register keeps the sizes fitted. -/
lemma fitted_spares {e : Io} {x : e.Res} (he : Spares e) (hx : sizeEnv mayFail g s e x s')
    (h : Fitted s) : Fitted s' := by
  cases e with
  | read8 a => exact hx.1 ▸ h
  | write8 a v =>
    rcases hx.2 with rfl | ⟨-, rfl⟩
    · unfold Sizes.written
      split
      · exact fitted_reset
      · have hsame : (fun d sn => if a = Dir.sizeReg d sn then v else s d sn) = s := by
          funext d sn
          exact if_neg (he a v rfl d sn)
        rwa [hsame]
    · exact h
  | _ =>
    obtain rfl : s' = s := hx
    exact h

lemma wpg_spares {α : Type} {p : Drv α} (hp : Within (fun _ => True) Spares p) (h : Fitted s) :
    wpg (sizeEnv mayFail) p (fun _ _ => Fitted) (fun _ => Fitted) g s :=
  wpv_of_within hp (fun _ => Fitted) (fun _ _ _ _ h => h)
    (fun _ he _ _ _ _ h hx => fitted_spares he hx h) h

/-- A write of a size register, taken by the chip. -/
lemma held_written (s : Sizes) (d : Dir) (sn : ℕ) {kb : ℕ} (hkb : sizeKbValid kb) (d' : Dir) :
    held (s.written (d.sizeReg sn) (BitVec.ofNat 8 kb)) d' =
      if d' = d then Function.update (held s d) sn kb else held s d' := by
  funext k
  simp only [held, written_sizeReg]
  by_cases hd : d' = d
  · by_cases hk : k = sn
    · simp [hd, hk, (toNat_size hkb).1]
    · simp [hd, hk, held]
  · simp [hd, held]

end frames

section calls
variable {mayFail : Io → Prop} {m : Driver} {s : Sizes} {b : Build}

/-- A status of 0 stands for fitted sizes. -/
def Ok (r : ℤ) (s : Sizes) : Prop := r = 0 → Fitted s

lemma ok_error {r : ℤ} (hr : r ≠ 0) : Ok r s := fun h0 => absurd h0 hr

lemma spares_common {e : Io} (he : ResetIo e) : Spares e := spares_of_reset he

lemma spares_locks {e : Io} (he : Locks e) : Spares e := by
  rintro a v rfl
  exact he.elim

lemma wp_spares {α : Type} {p : Drv α} (hp : Within (fun _ => True) Spares p) (h : Fitted s) :
    wp (chip mayFail) p (fun _ _ => Fitted) (fun _ => Fitted) m s :=
  wp_of_wpv (wpg_spares hp h)

lemma spares_begin : Within (fun _ => True) Spares wizchipTransactionBegin := by
  refine within_bind (within_wizchipTransactionLock.mono (fun _ h => h.elim) fun _ => spares_locks)
    fun _ => ?_
  exact within_bind ((within_modify _).2 trivial) fun _ => (within_modify _).2 trivial

lemma spares_finish (r : ℤ) : Within (fun _ => True) Spares (wizchipTransactionFinish r) := by
  refine within_bind (within_wizchipTransactionUnlock.mono (fun _ h => h.elim) fun _ => spares_locks)
    fun _ => ?_
  exact within_bind ((within_modify _).2 trivial) fun _ => within_pure _

lemma spares_reset (b : Build) : Within (fun _ => True) Spares (wizchipSwResetLocked b) :=
  within_wizchipSwResetLocked (fun _ _ => trivial) b fun _ => spares_common

lemma spares_refresh (b : Build) : Within (fun _ => True) Spares (wizchipRefreshSocketCaches b) :=
  within_wizchipRefreshSocketCaches (fun _ _ => trivial) b (fun _ _ _ => trivial)
    fun _ _ _ _ => nofun

/-- A reset either changes no size, or sets all to 2 KB. -/
lemma wp_wizchipSwReset (h : Fitted s) :
    wp (chip mayFail) (wizchipSwReset b) (fun _ _ => Fitted) (fun _ => Fitted) m s := by
  refine wp_spares (within_bind spares_begin fun _ => within_bind (spares_reset b) fun r => ?_) h
  refine within_ite (spares_finish r) (within_bind (spares_refresh b) fun r => spares_finish _)

/-- The loop over one size array leaves its direction with the sizes of the array. -/
lemma wp_writeSizes {d : Dir} {size : ℕ → ℕ} (hsize : sizesValid size)
    (strict : ∀ sn v, mayFail (.write8 (d.sizeReg sn) v) → b.safeSpi) (h : Fitted s) :
    wp (chip mayFail) (writeSizes b d (some size)) (fun r _ s => r ≠ some 0 ∧ (r = none → Fitted s))
      (fun _ _ => True) m s := by
  refine wp_each (fun i _ s' => (∀ k < i, held s' d k = size k) ∧ ∀ d' ≠ d, held s' d' = held s d')
    (fun sn m s' hsn hI => ?_) ⟨fun _ hk => absurd hk (Nat.not_lt_zero _), fun _ _ => rfl⟩ ?_
  · obtain ⟨hdone, hothers⟩ := hI
    have hkb := sizesValid_at hsize (Nat.zero_add sockNum ▸ hsn)
    refine (wp_bind _ _).2 (wp_wizchipWrite8Checked b _ _ fun x s₁ hx => ⟨fun hok => ?_, ?_⟩)
    · have hclean : ¬ x = true := fun hf => hok ⟨hf, strict sn _ (hx.1 hf)⟩
      obtain rfl : s₁ = s'.written _ _ := hx.2.resolve_right fun hf => hclean hf.1
      refine (wp_ite _ _ _).2 ⟨fun hne => absurd rfl hne, fun _ => ?_⟩
      refine ⟨fun k hk => ?_, fun d' hd' => ?_⟩
      · rw [held_written s' d sn hkb, if_pos rfl]
        by_cases hks : k = sn
        · rw [hks, Function.update_self]
        · rw [Function.update_of_ne hks]
          exact hdone k (by omega)
      · rw [held_written s' d sn hkb, if_neg hd']
        exact hothers d' hd'
    · exact fun _ _ => (wp_ite _ _ _).2 ⟨fun _ => ⟨by decide, nofun⟩, fun hne => absurd (by decide) hne⟩
  · rintro m s' ⟨hdone, hothers⟩
    refine ⟨nofun, fun _ d' => ?_⟩
    by_cases hd' : d' = d
    · have hsum : total s' d' = before size sockNum :=
        before_congr fun k hk => hd' ▸ hdone k (by omega)
      simp only [sizesValid, Bool.and_eq_true, decide_eq_true_eq] at hsize
      rw [hsum]
      exact hsize.2
    · have hsame : total s' d' = total s d' := congrArg (before · sockNum) (hothers d' hd')
      rw [hsame]
      exact h d'

/-- wizchip_init with a size array or without. -/
lemma wp_writeSizes_opt {d : Dir} {size : Option (ℕ → ℕ)} (hsize : size.all sizesValid = true)
    (strict : ∀ sn v, mayFail (.write8 (d.sizeReg sn) v) → b.safeSpi) (h : Fitted s) :
    wp (chip mayFail) (writeSizes b d size) (fun r _ s => r ≠ some 0 ∧ (r = none → Fitted s))
      (fun _ _ => True) m s := by
  cases size with
  | none => exact ⟨nofun, fun _ => h⟩
  | some size => exact wp_writeSizes (by simpa using hsize) strict h

lemma wp_initLocked {txsize rxsize : Option (ℕ → ℕ)} (htx : txsize.all sizesValid = true)
    (hrx : rxsize.all sizesValid = true)
    (strict : ∀ d sn v, mayFail (.write8 (Dir.sizeReg d sn) v) → b.safeSpi) (h : Fitted s) :
    wp (chip mayFail) (initLocked b txsize rxsize) (fun r _ => Ok r) (fun _ _ => True) m s := by
  refine (wp_bind _ _).2 (wp_mono (wp_spares (spares_reset b) h) ?_ fun _ _ _ => trivial)
  refine fun r m s h => (wp_ite _ _ _).2 ⟨fun hr => ok_error hr, fun _ => ?_⟩
  refine (wp_bind _ _).2 (wp_mono (wp_writeSizes_opt htx (strict .tx) h) ?_ fun _ _ => id)
  rintro (_ | r) m s ⟨hne, hfitted⟩
  · refine (wp_bind _ _).2 (wp_mono (wp_writeSizes_opt hrx (strict .rx) (hfitted rfl)) ?_ fun _ _ => id)
    rintro (_ | r) m s ⟨hne, hfitted⟩
    · have verify : Within (fun _ => True) Spares (initVerify b) :=
        within_initVerify (fun _ _ => trivial) b fun _ _ _ _ => nofun
      exact wp_mono (wp_spares verify (hfitted rfl)) (fun _ _ _ h _ => h) fun _ _ _ => trivial
    · exact ok_error fun h0 => hne (congrArg some h0)
  · exact ok_error fun h0 => hne (congrArg some h0)

lemma wp_wizchipInit {txsize rxsize : Option (ℕ → ℕ)}
    (strict : ∀ d sn v, mayFail (.write8 (Dir.sizeReg d sn) v) → b.safeSpi) (h : Fitted s) :
    wp (chip mayFail) (wizchipInit b txsize rxsize) (fun r _ => Ok r) (fun _ _ => True) m s := by
  refine (wp_ite _ _ _).2 ⟨fun _ => ok_error (by decide), fun htx => ?_⟩
  refine (wp_ite _ _ _).2 ⟨fun _ => ok_error (by decide), fun hrx => ?_⟩
  refine (wp_bind _ _).2 (wp_mono (wp_spares spares_begin h) ?_ fun _ _ _ => trivial)
  refine fun _ m s h => (wp_bind _ _).2 (wp_mono (wp_initLocked (not_not.1 htx) (not_not.1 hrx)
    strict h) ?_ fun _ _ => id)
  intro r m s hok
  by_cases hr : r = 0
  · exact wp_mono (wp_spares (spares_finish r) (hok hr)) (fun _ _ _ h _ => h) fun _ _ _ => trivial
  · refine (wp_bind _ _).2 (wp_mono (wp_eval _ _ _ _) (fun _ m s _ => ?_) fun _ _ _ => trivial)
    exact ok_error hr

/-- A resize that returns 0 has been read back from the chip: one size has changed. -/
lemma wp_setBufSizeLocked (d : Dir) {sn kb : ℕ} (hkb : sizeKbValid kb) (h : Fitted s)
    (fits : before (Function.update (held s d) sn kb) sockNum ≤ 16) :
    wp (chip mayFail) (setBufSizeLocked b d sn kb) (fun r _ => Ok r) (fun _ _ => True) m s := by
  have resized {s₁ : Sizes} (heq : held s₁ d = Function.update (held s d) sn kb)
      (hne : ∀ d' ≠ d, held s₁ d' = held s d') : Fitted s₁ := by
    intro d'
    by_cases hd : d' = d
    · rw [total, hd, heq]
      exact fits
    · rw [total, hne d' hd]
      exact h d'
  refine (wp_bind _ _).2 (wp_wizchipWrite8Checked b _ _ fun x s₁ hx => ⟨fun _ => ?_, fun _ _ => ?_⟩)
  · refine (wp_ite _ _ _).2 ⟨fun hne => absurd rfl hne, fun _ => ?_⟩
    refine (wp_bind _ _).2 (wp_wizchipRead8CheckedOut b _ fun y s₂ hy => ⟨fun hok _ => ?_, ?_⟩)
    · obtain ⟨rfl, -, hread⟩ := hy
      -- the write has left the health unknown, so a failing readback is noticed
      have hclean : y.2 = false := Bool.eq_false_iff.2 fun hf => hok ⟨hf, .inr rfl⟩
      have hval : y.1 = s₂ d sn := hread hclean d sn rfl
      refine (wp_ite _ _ _).2 ⟨fun hne => absurd rfl hne, fun _ => ?_⟩
      refine (wp_ite _ _ _).2 ⟨fun _ => ok_error (by decide), fun heq => fun _ => ?_⟩
      rcases hx.2 with rfl | ⟨-, rfl⟩
      · refine resized ?_ fun d' hd' => ?_
        · rw [held_written s d sn hkb, if_pos rfl]
        · rw [held_written s d sn hkb, if_neg hd']
      · refine resized ?_ fun _ _ => rfl
        have hsame : held s₂ d sn = kb := by
          rw [held, ← hval, not_not.1 heq, (toNat_size hkb).1]
        rw [← hsame, Function.update_eq_self]
    · exact fun _ _ => (wp_ite _ _ _).2 ⟨fun _ => ok_error (by decide), fun hne => absurd (by decide) hne⟩
  · exact (wp_ite _ _ _).2 ⟨fun _ => ok_error (by decide), fun hne => absurd (by decide) hne⟩

lemma wp_wizchipSetBufSize (d : Dir) {sn kb : ℕ} (h : Fitted s)
    (fits : before (Function.update (held s d) sn kb) sockNum ≤ 16) :
    wp (chip mayFail) (wizchipSetBufSize b d sn kb) (fun r _ => Ok r) (fun _ _ => True) m s := by
  refine (wp_ite _ _ _).2 ⟨fun _ => ok_error (by decide), fun hvalid => ?_⟩
  have hkb : sizeKbValid kb := by
    by_contra hkb
    exact hvalid (.inr hkb)
  simp only [globalLock, globalUnlock, wp_bind, wp_perform, wp_pure]
  rintro - s₁ rfl
  refine wp_mono (wp_setBufSizeLocked d hkb h fits) ?_ fun _ _ => id
  rintro r m s₂ hok - s₃ rfl
  exact hok

/-- The step rule: a call that returns 0 leaves the sizes fitted, if a resize leaves them so. -/
lemma wp_call (c : Capacity.Call) (h : Fitted s) (fits : Call.Fits s c) :
    wp (chip (Call.mayFail b c)) (c.run b) (fun r _ => Ok r) (fun _ _ => True) m s := by
  cases c with
  | init txsize rxsize => exact wp_wizchipInit (fun d sn v hf => hf ⟨d, sn, v, rfl⟩) h
  | swReset => exact wp_mono (wp_wizchipSwReset h) (fun _ _ _ h _ => h) fun _ _ _ => trivial
  | setTx sn kb => exact wp_wizchipSetBufSize .tx h fits
  | setRx sn kb => exact wp_wizchipSetBufSize .rx h fits

end calls

/-- In every sequence of calls that return success, in which each resize leaves its direction
within 16 KB and the chip takes the sizes that wizchip_init writes, the buffers of each direction
fit the memory of the chip and do not overlap. -/
theorem buffers_fit {b : Build} {steps : List (Step Capacity.Call Driver Sizes ℤ)} {m m' : Driver}
    {s s' : Sizes}
    (run : History (fun c => chip (Call.mayFail b c)) (Call.run b) steps m s m' s')
    (start : Fitted s) (success : ∀ t ∈ steps, t.result = some 0)
    (fits : ∀ t ∈ steps, Call.Fits t.pre.2 t.call) :
    ∀ d, total s' d ≤ 16 ∧ ∀ sn < sockNum, ∀ k < sockNum, sn ≠ k →
      ∀ c, Cell (held s' d) sn c → ¬ Cell (held s' d) k c := by
  have fitted : Fitted s' := by
    induction run with
    | nil => exact start
    | @call c r steps m s m₁ s₁ m' s' first rest ih =>
      have hr : some r = some 0 := success _ List.mem_cons_self
      have hok : Ok r s₁ := wp_returns (wp_call c start (fits _ List.mem_cons_self)) first
      exact ih (hok (Option.some.inj hr)) (fun t ht => success t (List.mem_cons_of_mem _ ht))
        fun t ht => fits t (List.mem_cons_of_mem _ ht)
    | running last => exact absurd (success _ List.mem_cons_self) nofun
  exact fun d => ⟨fitted d, fun sn hsn k hk hne c => cells_disjoint (fitted d) hsn hk hne⟩

/-- Socket 0 gives up its buffer, and socket 1 takes it. -/
theorem buffers_fit_moved :
    total (started [.init (some fun _ => 2) (some fun _ => 2), .setTx 0 0, .setTx 1 4]).2.2 .tx ≤ 16 := by
  have facts : (started [.init (some fun _ => 2) (some fun _ => 2), .setTx 0 0, .setTx 1 4]).1.all
      (fun t => t.result = some 0 ∧ Call.Fits t.pre.2 t.call) = true := by
    unfold started
    decide +kernel
  have each := fun t ht => of_decide_eq_true (List.all_eq_true.1 facts t ht)
  exact (buffers_fit (history_started (Call.mayFail .oneTurn) _) fitted_reset
    (fun t ht => (each t ht).1) (fun t ht => (each t ht).2) .tx).1

/-- A resize of one socket to 16 KB while the others keep their 2 KB returns success. -/
theorem resize_overcommits :
    ¬ ∀ (steps : List (Step Capacity.Call Driver Sizes ℤ)) (m m' : Driver) (s' : Sizes),
      History (fun _ => chip fun _ => False) (Call.run .oneTurn) steps m (fun _ _ => 2) m' s' →
      (∀ t ∈ steps, t.result = some 0) → ∀ d, total s' d ≤ 16 := by
  intro claim
  have success : (started [.init (some fun _ => 2) (some fun _ => 2), .setTx 0 16]).1.all
      (fun t => t.result = some 0) = true := by
    unfold started
    decide +kernel
  have exceeded :
      ¬ total (started [.init (some fun _ => 2) (some fun _ => 2), .setTx 0 16]).2.2 .tx ≤ 16 := by
    unfold started
    decide +kernel
  exact exceeded (claim _ _ _ _ (history_started (fun _ _ => False) _)
    (fun t ht => of_decide_eq_true (List.all_eq_true.1 success t ht)) .tx)

end IoLibrary.BufferMemory
