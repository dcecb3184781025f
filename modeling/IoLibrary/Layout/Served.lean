import IoLibrary.Layout.Supported
import Mathlib.Algebra.BigOperators.Group.List.Basic
import Mathlib.Tactic.IntervalCases

/-! For which layouts wizchip_init does what they ask, in each build. -/
namespace IoLibrary.Layout
open Effects

section registers
variable {c : Chip} {sound : Bool} {turns : ℕ} {txsize : Option (ℕ → ℕ)} {d : Dir} {i kb : ℕ} {m m' : Driver} {w w' : Regs}

/-- The register and the cache of one socket have been set, the others left alone. -/
structure Put (c : Chip) (d : Dir) (i kb : ℕ) (m : Driver) (w : Regs) (m' : Driver) (w' : Regs) : Prop where
  size : w'.size c d i = kb
  cache : m'.maxCache d i = if c = .w5500 then kb * 1024 else m.maxCache d i
  others : ∀ d' k, ¬ (d' = d ∧ k = i) → w'.size c d' k = w.size c d' k ∧ m'.maxCache d' k = m.maxCache d' k

/-- The chips with a register of one byte for each socket. -/
lemma put_byte (hsize : ∀ w d i, Regs.size w c d i = (w.bytes d i).toNat) (hkb : kb < 256)
    (hcache : m'.maxCache d i = if c = .w5500 then kb * 1024 else m.maxCache d i)
    (hothers : ∀ d' k, ¬ (d' = d ∧ k = i) → m'.maxCache d' k = m.maxCache d' k) :
    Put c d i kb m w m' (w.put d i (BitVec.ofNat 8 kb)) := by
  refine ⟨?_, hcache, fun d' k hother => ⟨?_, hothers d' k hother⟩⟩
  · rw [hsize, Regs.put]
    simp [Nat.mod_eq_of_lt hkb]
  · rw [hsize, hsize, Regs.put]
    simp [hother]

/-- setTMSR and setRMSR keep the other byte of the word. -/
lemma word_halves (mem kb : BitVec 16) :
    (mem &&& 0xFF00 ||| kb &&& 0x00FF) &&& 0x00FF = kb &&& 0x00FF ∧ (mem &&& 0xFF00 ||| kb &&& 0x00FF) >>> 8 = mem >>> 8 ∧
      (mem &&& 0x00FF ||| kb <<< 8) &&& 0x00FF = mem &&& 0x00FF ∧ (mem &&& 0x00FF ||| kb <<< 8) >>> 8 = kb &&& 0x00FF := by
  refine ⟨?_, ?_, ?_, ?_⟩ <;> ext i hi <;> interval_cases i <;> simp

lemma low_ofNat (hkb : kb < 256) : (BitVec.ofNat 16 kb &&& 0x00FF).toNat = kb := by
  rw [BitVec.toNat_and, BitVec.toNat_ofNat]
  exact (Nat.and_two_pow_sub_one_eq_mod _ 8).trans (by omega)

lemma put_word (hkb : kb < 256) : Put .w5300 d i kb m w m (w.put16 d (i / 2)
    (if i % 2 = 1 then w.words d (i / 2) &&& 0xFF00 ||| BitVec.ofNat 16 kb &&& 0x00FF
      else w.words d (i / 2) &&& 0x00FF ||| BitVec.ofNat 16 kb <<< 8)) := by
  obtain ⟨hlow, hlowKept, hhighKept, hhigh⟩ := word_halves (w.words d (i / 2)) (BitVec.ofNat 16 kb)
  refine ⟨?_, by rw [if_neg (by decide)], fun d' k hother => ⟨?_, rfl⟩⟩
  · by_cases hodd : i % 2 = 1
    · simp only [Regs.size, Regs.put16, if_pos hodd, and_self, if_true, hlow, low_ofNat hkb]
    · simp only [Regs.size, Regs.put16, if_neg hodd, and_self, if_true, hhigh, low_ofNat hkb]
  · by_cases hword : d' = d ∧ k / 2 = i / 2
    · obtain ⟨rfl, hk⟩ := hword
      have hne : k ≠ i := fun h => hother ⟨rfl, h⟩
      by_cases hodd : i % 2 = 1
      · simp only [Regs.size, Regs.put16, if_pos hodd, hk, and_self, if_true, if_neg (show ¬ k % 2 = 1 by omega), hlowKept]
      · simp only [Regs.size, Regs.put16, if_neg hodd, hk, and_self, if_true, if_pos (show k % 2 = 1 by omega), hhighKept]
    · simp only [Regs.size, Regs.put16, if_neg hword]

/-- Only a checked write of the W5500 build can fail, and only on a chip that is not sound. -/
lemma wp_setSnBufSize {H : Driver → Regs → Prop} (hc : c.belowW5200 = false) (hkb : kb < 256) :
    wp (chip sound) (setSnBufSize c turns txsize d i kb) (fun r m' w' => match r with
      | some e => e ≠ 0 ∧ ¬ sound
      | none => Put c d i kb m w m' w') H m w := by
  cases c with
  | w5100 | w5100s => cases hc
  | w5300 =>
    simp only [setSnBufSize, wp_bind, wp_perform, wp_pure]
    rintro x _ ⟨rfl, rfl⟩ _ _ rfl
    exact put_word hkb
  | w5500 =>
    simp only [setSnBufSize, wp_bind, wp_perform, wp_ite, wp_pure, wp_modify]
    rintro x w' ⟨hsound, hput⟩
    refine ⟨fun hx => ⟨hx, fun h => hx (hsound h)⟩, fun hx => ?_⟩
    obtain rfl | ⟨hne, -⟩ := hput
    · refine put_byte (fun _ _ _ => rfl) hkb ?_ fun d' k hother => ?_
      · rw [maxCache_setMax, if_pos ⟨rfl, rfl⟩, if_pos rfl]
      · rw [maxCache_setMax, if_neg hother]
    · exact absurd hne hx
  | w5200 | w6100 | w6300 =>
    simp only [setSnBufSize, wp_bind, wp_perform, wp_pure]
    rintro x _ rfl
    exact put_byte (fun _ _ _ => rfl) hkb (by rw [if_neg (by decide)]) fun _ _ _ => rfl

end registers

section arrays
variable {c : Chip} {sound : Bool} {turns : ℕ} {txsize rxsize : Option (ℕ → ℕ)} {d : Dir} {size : Option (ℕ → ℕ)} {kb : ℕ → ℕ}
  {m m' : Driver} {w w' : Regs} {H : Driver → Regs → Prop}

/-- The sizes of an array that is served: a byte each, and 0 where the build does not set the caches. -/
structure Fitting (c : Chip) (kb : ℕ → ℕ) : Prop where
  upper : c.belowW5200 = false
  total : chipTotal c kb = some (c.sum kb)
  byte : ∀ i < c.sockNum, kb i < 256
  zero : c ≠ .w5500 → ∀ i < c.sockNum, kb i = 0

lemma sum_zero (h : ∀ i < c.sockNum, kb i = 0) : c.sum kb = 0 := by
  refine List.sum_eq_zero fun v hv => ?_
  obtain ⟨i, hi, rfl⟩ := List.mem_map.1 hv
  exact h i (List.mem_range.1 hi)

/-- The part for one array does not touch the other direction. -/
structure Written (c : Chip) (d : Dir) (size : Option (ℕ → ℕ)) (m : Driver) (w : Regs) (m' : Driver) (w' : Regs) : Prop where
  programmed : Programmed c d size m' w'
  others : ∀ d' ≠ d, ∀ k, w'.size c d' k = w.size c d' k ∧ m'.maxCache d' k = m.maxCache d' k

lemma wp_writeSizes (hfit : ∀ kb, size = some kb → Fitting c kb) (hempty : ∀ i < c.sockNum, m.maxCache d i = 0) :
    wp (chip sound) (writeSizes c turns txsize d size 0) (fun r m' w' => match r with
      | .error e => e ≠ 0 ∧ ¬ sound
      | .ok tmp => tmp = 0 ∧ Written c d size m w m' w') H m w := by
  cases size with
  | none => exact ⟨rfl, nofun, fun _ _ _ => ⟨rfl, rfl⟩⟩
  | some kb =>
    obtain ⟨hc, htotal, hbyte, hzero⟩ := hfit kb rfl
    simp only [writeSizes, htotal]
    refine (wp_bind _ _).2 (wp_each (fun i (m' : Driver) (w' : Regs) => (∀ k < i, w'.size c d k = kb k ∧ m'.maxCache d k = 1024 * kb k) ∧
      (∀ k, i ≤ k → m'.maxCache d k = m.maxCache d k) ∧
      ∀ d' ≠ d, ∀ k, w'.size c d' k = w.size c d' k ∧ m'.maxCache d' k = m.maxCache d' k) ?_ ?_ ?_)
    · rintro i m₁ w₁ hi ⟨hdone, hleft, hothers⟩
      rw [Nat.zero_add] at hi
      refine wp_mono (wp_setSnBufSize hc (hbyte i hi)) ?_ fun _ _ => id
      rintro (_ | e) m₂ w₂ hput
      · refine ⟨fun k hk => ?_, fun k hk => ?_, fun d' hd k => ?_⟩
        · obtain rfl | hlt := Nat.eq_or_lt_of_le (Nat.le_of_lt_succ hk)
          · refine ⟨hput.size, hput.cache.trans ?_⟩
            by_cases hw5500 : c = .w5500
            · rw [if_pos hw5500, Nat.mul_comm]
            · rw [if_neg hw5500, hleft k le_rfl, hempty k hi, hzero hw5500 k hi]
          · obtain ⟨hsize, hcache⟩ := hput.others d k fun h => absurd h.2 (Nat.ne_of_lt hlt)
            exact ⟨hsize.trans (hdone k hlt).1, hcache.trans (hdone k hlt).2⟩
        · exact (hput.others d k fun h => absurd h.2 (by omega)).2.trans (hleft k (by omega))
        · obtain ⟨hsize, hcache⟩ := hput.others d' k fun h => hd h.1
          exact ⟨hsize.trans (hothers d' hd k).1, hcache.trans (hothers d' hd k).2⟩
      · exact hput
    · exact ⟨fun k hk => absurd hk (Nat.not_lt_zero k), fun _ _ => rfl, fun _ _ _ => ⟨rfl, rfl⟩⟩
    · rintro m₁ w₁ ⟨hdone, -, hothers⟩
      rw [Nat.zero_add] at hdone
      refine ⟨?_, fun kb' hkb i hi => ?_, hothers⟩
      · by_cases hw5500 : c = .w5500
        · exact if_pos hw5500
        · rw [if_neg hw5500, sum_zero (hzero hw5500)]
          rfl
      · obtain rfl := Option.some.inj hkb
        exact hdone i hi

lemma wp_initVerify (c : Chip) : wp (chip sound) initVerify (fun r m' w' => (sound → r = 0) ∧
    ∀ d k, w'.size c d k = w.size c d k ∧ m'.maxCache d k = m.maxCache d k) H m w := by
  have same : ∀ d k, Regs.size { w with accessed := true } c d k = w.size c d k := by
    cases c <;> exact fun _ _ => rfl
  simp only [initVerify, wp_bind, wp_perform, wp_ite, wp_pure, wp_modify]
  rintro ⟨r, version⟩ _ ⟨hversion, rfl⟩
  refine ⟨fun hr => ⟨fun h => absurd (Prod.mk.inj (hversion h)).1 hr, fun d k => ⟨same d k, trivial⟩⟩, fun _ => ⟨fun hv => ?_, fun _ => ?_⟩⟩
  · exact ⟨fun h => absurd (Prod.mk.inj (hversion h)).2 hv, fun d k => ⟨same d k, trivial⟩⟩
  · rintro ⟨r, phycfgr⟩ _ ⟨hphy, rfl⟩
    exact ⟨fun hr => ⟨fun h => absurd (hphy h) hr, fun d k => ⟨same d k, trivial⟩⟩, fun _ => ⟨fun _ => trivial, fun d k => ⟨same d k, trivial⟩⟩⟩

end arrays

section layouts
variable {c : Chip} {sound : Bool} {turns : ℕ} {txsize rxsize : Option (ℕ → ℕ)} {m : Driver} {w : Regs} {H : Driver → Regs → Prop}

lemma belowW5200_encodes (hc : c.belowW5200) {kb : ℕ} (h : c.Encodes kb) : kb ≠ 0 := by
  rintro rfl
  cases c <;> simp [Chip.belowW5200, Chip.Encodes] at hc h

/-- The sizes of a served layout are fit, and pass the check on entry. -/
lemma fitting_of_supports {size : ℕ → ℕ} (hsupports : c.Supports size)
    (hsized : ∀ i < c.sockNum, if c = .w5500 then size i ≠ 1 else size i = 0) : Fitting c size ∧ sizesValid c size := by
  have hzero (hc : c ≠ .w5500) : ∀ i < c.sockNum, size i = 0 := by
    simpa only [if_neg hc] using hsized
  have hpos : 0 < c.sockNum := by cases c <;> decide
  have hupper : c.belowW5200 = false := by
    by_contra hbelow
    rw [Bool.not_eq_false] at hbelow
    have hc : c ≠ .w5500 := by
      rintro rfl
      cases hbelow
    exact belowW5200_encodes hbelow (hsupports.encodes 0 hpos) (hzero hc 0 hpos)
  have total_of {valid : ℕ → Bool} {limit : ℕ} (hvalid : ∀ i < c.sockNum, valid (size i)) (hlimit : c.sum size ≤ limit) :
      total valid limit size c.sockNum 0 0 = some (c.sum size) := by
    refine (total_eq_some (Nat.zero_le limit)).2 ?_
    simp only [Nat.zero_add]
    exact ⟨hvalid, hlimit, rfl⟩
  have hfits := hsupports.fits
  by_cases hw5500 : c = .w5500
  · subst hw5500
    have hsize : ∀ i < Chip.sockNum .w5500, size i ∈ [0, 2, 4, 8, 16] := fun i hi => by
      have hencodes := hsupports.encodes i hi
      have hone := hsized i hi
      simp only [Chip.Encodes, List.mem_cons, List.not_mem_nil, or_false, if_true] at hencodes hone ⊢
      omega
    refine ⟨⟨rfl, ?_, fun i hi => ?_, fun hne => absurd rfl hne⟩, sizesValid_iff.2 ⟨fun i hi => ?_, hfits⟩⟩
    · rw [chipTotal]
      exact total_of (fun _ _ => rfl) hfits
    · have hmem := hsize i hi
      simp only [List.mem_cons, List.not_mem_nil, or_false] at hmem
      omega
    · have hmem := hsize i hi
      simpa [sizeKbValid, or_assoc] using hmem
  · have hsum := sum_zero (hzero hw5500)
    refine ⟨⟨hupper, ?_, fun i hi => ?_, hzero⟩, sizesValid_iff.2 ⟨fun i hi => ?_, ?_⟩⟩
    · cases c with
      | w5100 | w5100s => cases hupper
      | w5500 => exact absurd rfl hw5500
      | w5300 =>
        have hle (i : ℕ) (hi : i < Chip.sockNum .w5300) : decide (size i ≤ 64) = true := decide_eq_true (hsupports.encodes i hi)
        have htotal : total (· ≤ 64) 128 size (Chip.sockNum .w5300) 0 0 = some (Chip.sum .w5300 size) := total_of hle hfits
        rw [chipTotal, htotal, hsum]
        rfl
      | w5200 | w6100 | w6300 =>
        rw [chipTotal]
        exact total_of (fun _ _ => rfl) hfits
    · rw [hzero hw5500 i hi]
      decide
    · rw [hzero hw5500 i hi]
      rfl
    · rw [hsum]
      exact Nat.zero_le _

lemma wp_init_refused {Q : ℤ → Driver → Regs → Prop} (h : Refused c txsize rxsize) (hQ : Q (-1) m w) :
    wp (chip sound) (wizchipInit c turns txsize rxsize) Q H m w := by
  have hbad : ¬ txsize.all (sizesValid c) ∨ ¬ rxsize.all (sizesValid c) := by
    obtain ⟨size, rfl | rfl, hsize⟩ := h
    · exact .inl hsize
    · exact .inr hsize
  simp only [wizchipInit, wp_ite, wp_pure]
  exact ⟨fun _ => hQ, fun htx => ⟨fun _ => hQ, fun hrx => absurd hbad (not_or_intro htx hrx)⟩⟩

/-- Behind the checks on entry. -/
lemma wp_init_entered {Q : ℤ → Driver → Regs → Prop} (h : ¬ Refused c txsize rxsize)
    (hlocked : ∀ m, (∀ d, ∀ i < c.sockNum, m.maxCache d i = 0) → wp (chip sound) (initLocked c turns txsize rxsize)
      (fun r m' w' => Q r (m'.transactionFinished r) w') H m w) : wp (chip sound) (wizchipInit c turns txsize rxsize) Q H m w := by
  have hvalid {size : Option (ℕ → ℕ)} (hsize : ∀ kb, size = some kb → txsize = some kb ∨ rxsize = some kb) :
      size.all (sizesValid c) := by
    cases size with
    | none => rfl
    | some kb =>
      by_contra hbad
      exact h ⟨kb, hsize kb rfl, hbad⟩
  simp only [wizchipInit, wizchipTransactionBegin, wizchipTransactionFinish, wp_ite, wp_bind, wp_pure, wp_perform, wp_modify]
  refine ⟨fun hbad => absurd (hvalid fun _ => .inl) hbad, fun _ => ⟨fun hbad => absurd (hvalid fun _ => .inr) hbad, fun _ => ?_⟩⟩
  rintro x _ rfl
  refine wp_mono (hlocked _ fun d i hi => ?_) ?_ fun _ _ => id
  · cases d <;> exact if_pos hi
  · rintro r m' w' hQ y _ rfl
    exact hQ

lemma maxCache_transactionFinished (r : ℤ) (m : Driver) : (m.transactionFinished r).maxCache = m.maxCache := by
  rw [Driver.transactionFinished]
  split <;> rfl

/-- A served layout ends up in the registers and the caches, unless the chip is not in order. -/
lemma wp_initLocked (hfit : ∀ kb, txsize = some kb ∨ rxsize = some kb → Fitting c kb)
    (hempty : ∀ d, ∀ i < c.sockNum, m.maxCache d i = 0) :
    wp (chip sound) (initLocked c turns txsize rxsize) (fun r m' w' => (sound → r = 0) ∧
      (r = 0 → Programmed c .tx txsize m' w' ∧ Programmed c .rx rxsize m' w')) H m w := by
  simp only [initLocked, wizchipSwResetLocked, wp_bind, wp_modify, wp_perform, wp_ite, wp_pure]
  rintro x w₁ ⟨-, hsound⟩
  refine ⟨fun hx => ⟨fun h => absurd (hsound h) hx, fun h => absurd h hx⟩, fun hx => ?_⟩
  rw [not_not.1 hx]
  refine wp_mono (wp_writeSizes (fun kb h => hfit kb (.inl h)) fun i hi => hempty .tx i hi) ?_ fun _ _ => id
  rintro (e | tmp) m₂ w₂ htx
  · exact ⟨fun h => absurd h htx.2, fun h => absurd h htx.1⟩
  · obtain ⟨rfl, htx⟩ := htx
    refine (wp_bind _ _).2 (wp_mono (wp_writeSizes (fun kb h => hfit kb (.inr h)) fun i hi => ?_) ?_ fun _ _ => id)
    · exact (htx.others .rx (by rintro ⟨⟩) i).2.trans (hempty .rx i hi)
    rintro (e | tmp) m₃ w₃ hrx
    · exact ⟨fun h => absurd h hrx.2, fun h => absurd h hrx.1⟩
    · obtain ⟨rfl, hrx⟩ := hrx
      have htx₃ : Programmed c .tx txsize m₃ w₃ := fun kb hkb i hi => by
        obtain ⟨hsize, hcache⟩ := hrx.others .tx (by rintro ⟨⟩) i
        exact ⟨hsize.trans (htx.programmed kb hkb i hi).1, hcache.trans (htx.programmed kb hkb i hi).2⟩
      refine (wp_ite _ _ _).2 ⟨fun _ => ?_, fun _ => ⟨fun _ => rfl, fun _ => ⟨htx₃, hrx.programmed⟩⟩⟩
      refine wp_mono (wp_initVerify c) ?_ fun _ _ => id
      rintro r m₄ w₄ ⟨hr, hsame⟩
      have kept {d : Dir} {size : Option (ℕ → ℕ)} (h : Programmed c d size m₃ w₃) : Programmed c d size m₄ w₄ :=
        fun kb hkb i hi => ⟨(hsame d i).1.trans (h kb hkb i hi).1, (hsame d i).2.trans (h kb hkb i hi).2⟩
      exact ⟨hr, fun _ => ⟨kept htx₃, kept hrx.programmed⟩⟩

end layouts

section others
variable {c : Chip} {sound : Bool} {turns : ℕ} {txsize rxsize : Option (ℕ → ℕ)} {m : Driver} {w : Regs}

/-- Only the W5500 build sets the capacity caches. -/
def CachesKept (f : Driver → Driver) : Prop := ∀ m, (f m).maxCache = m.maxCache

abbrev Uncached {α : Type} (p : Drv α) : Prop := Within CachesKept (fun _ => True) p

lemma uncached_setSnBufSize (hc : c ≠ .w5500) (d : Dir) (i kb : ℕ) : Uncached (setSnBufSize c turns txsize d i kb) := by
  have hcode : Uncached (sizeCode turns txsize i kb) := by
    refine within_loop (fun j => within_ite (within_pure _) (within_bind ?_ fun tx => within_ite (within_pure _) (within_pure _))) _ _
    cases txsize with
    | none => exact within_bind ((within_perform _).2 trivial) fun v => within_pure _
    | some size => exact within_pure _
  cases c with
  | w5500 => exact absurd rfl hc
  | w5100 | w5100s =>
    refine within_bind hcode fun j => within_bind ((within_perform _).2 trivial) fun reg => ?_
    exact within_bind ((within_perform _).2 trivial) fun _ => within_pure _
  | w5300 =>
    refine within_bind ((within_perform _).2 trivial) fun mem => ?_
    exact within_bind ((within_perform _).2 trivial) fun _ => within_pure _
  | w5200 | w6100 | w6300 => exact within_bind ((within_perform _).2 trivial) fun _ => within_pure _

lemma uncached_initLocked (hc : c ≠ .w5500) : Uncached (initLocked c turns txsize rxsize) := by
  have sizes (d : Dir) (size : Option (ℕ → ℕ)) (tmp : ℤ) : Uncached (writeSizes c turns txsize d size tmp) := by
    cases size with
    | none => exact within_pure _
    | some kb =>
      rw [writeSizes]
      cases chipTotal c kb with
      | none => exact within_pure _
      | some sum =>
        refine within_bind (within_each (fun i => uncached_setSnBufSize hc d i (kb i)) _ _) fun r => ?_
        cases r with
        | none => exact within_pure _
        | some e => exact within_pure _
  refine within_bind (within_bind ((within_modify _).2 fun _ => rfl) fun _ => (within_perform _).2 trivial) fun tmp => ?_
  refine within_ite (within_pure _) (within_bind (sizes _ _ _) fun r => ?_)
  cases r with
  | error e => exact within_pure _
  | ok tmp =>
    refine within_bind (sizes _ _ _) fun r => ?_
    cases r with
    | error e => exact within_pure _
    | ok tmp =>
      show Uncached (if c = .w5500 then initVerify else pure tmp)
      rw [if_neg hc]
      exact within_pure _

/-- In the other builds the caches stay at 0. -/
lemma wp_uncached (hc : c ≠ .w5500) (h : ¬ Refused c txsize rxsize) : wp (chip sound) (wizchipInit c turns txsize rxsize)
    (fun _ m' _ => ∀ d, ∀ i < c.sockNum, m'.maxCache d i = 0) (fun _ _ => True) m w := by
  refine wp_init_entered h fun m₁ hempty => ?_
  have hkept : wpv id (chip sound) (initLocked c turns txsize rxsize) (fun _ m' _ => ∀ d, ∀ i < c.sockNum, m'.maxCache d i = 0)
      (fun m' _ => ∀ d, ∀ i < c.sockNum, m'.maxCache d i = 0) m₁ w := by
    refine wpv_of_within (uncached_initLocked hc) _ (fun f hf m' _ hm d i hi => ?_) (fun _ _ _ _ _ _ hm _ => hm) hempty
    rw [id, hf m']
    exact hm d i hi
  refine wp_mono (wpv_id.1 hkept) (fun r m' _ hm => ?_) fun _ _ _ => trivial
  rw [maxCache_transactionFinished]
  exact hm

/-- Behind the checks on entry the chip has been accessed. -/
lemma wp_accessed (h : ¬ Refused c txsize rxsize) : wp (chip sound) (wizchipInit c turns txsize rxsize)
    (fun _ _ w' => w'.accessed) (fun _ _ => True) m w := by
  have stays {α : Type} (p : Drv α) {m : Driver} {w : Regs} (hw : w.accessed) :
      wp (chip sound) p (fun _ _ w' => w'.accessed) (fun _ _ => True) m w := by
    have hkept : wpv id (chip sound) p (fun _ _ w' => w'.accessed) (fun _ w' => w'.accessed) m w := by
      refine wpv_of_within (within_all p) _ (fun _ _ _ _ hw => hw) (fun e _ _ w x w₁ hw hx => ?_) hw
      cases e with
      | lock | unlock | load => exact hx ▸ hw
      | swReset => exact hx.1
      | read | read16 | version | phycfgr => exact hx.2 ▸ rfl
      | write | write16 => exact hx ▸ rfl
      | writeChecked => obtain ⟨-, rfl | ⟨-, rfl⟩⟩ := hx <;> rfl
    exact wp_mono (wpv_id.1 hkept) (fun _ _ _ => id) fun _ _ _ => trivial
  refine wp_init_entered h fun m₁ _ => ?_
  simp only [initLocked, wizchipSwResetLocked, wp_bind, wp_modify, wp_perform]
  rintro x w₁ ⟨haccessed, -⟩
  exact stays _ haccessed

lemma chip_total (sound : Bool) (m : Driver) (w : Regs) (e : Io) : ∃ x w₁, chip sound m w e x w₁ := by
  cases e with
  | lock | unlock => exact ⟨(), w, rfl⟩
  | load i => exact ⟨0, w, rfl⟩
  | swReset => exact ⟨0, { w with accessed := true }, rfl, fun _ => rfl⟩
  | read d r => exact ⟨_, _, rfl, rfl⟩
  | read16 d r => exact ⟨_, _, rfl, rfl⟩
  | write d r v | write16 d r v => exact ⟨(), _, rfl⟩
  | writeChecked d r v => exact ⟨0, _, fun _ => rfl, .inl rfl⟩
  | version => exact ⟨(0, 0x04), _, fun _ => rfl, rfl⟩
  | phycfgr => exact ⟨(0, 0), _, fun _ => rfl, rfl⟩

/-- A run on a sound chip that has not been accessed. -/
lemma Configures.run (h : Configures c txsize rxsize) {Q : ℤ → Driver → Regs → Prop}
    (hQ : ∀ turns m w, wp (chip true) (wizchipInit c turns txsize rxsize) Q (fun _ _ => True) m w) :
    ∃ r m' w', Q r m' w' ∧ (Supported c txsize rxsize → r = 0) ∧ (¬ Supported c txsize rxsize → w'.accessed = false) ∧
      (r = 0 → Programmed c .tx txsize m' w' ∧ Programmed c .rx rxsize m' w') := by
  obtain ⟨turns, hturns⟩ := h
  let w : Regs := ⟨fun _ _ => 0, fun _ _ => 0, false⟩
  have hrun := wp_and (hturns turns le_rfl true (Driver.boot 1 1) w rfl) (hQ turns (Driver.boot 1 1) w)
  obtain ⟨r, m', w', heval⟩ := exists_eval (chip_total true) (wizchipInit c turns txsize rxsize) (Driver.boot 1 1) w
  cases r with
  | none => exact absurd (wp_cuts hrun heval).1 not_false
  | some r =>
    obtain ⟨⟨hsupported, hrefused, hsuccess⟩, hq⟩ := wp_returns hrun heval
    exact ⟨r, m', w', hq, fun hs => hsupported hs rfl, fun hs => (hrefused hs).2, hsuccess⟩

/-- What the size check of the W5500 build leaves of a supported layout. -/
lemma refused_w5500 {size : ℕ → ℕ} (hsize : txsize = some size ∨ rxsize = some size) {i : ℕ} (hi : i < Chip.sockNum .w5500)
    (hone : size i = 1) : Refused .w5500 txsize rxsize := by
  refine ⟨size, hsize, fun hvalid => ?_⟩
  have hkb := (sizesValid_iff.1 hvalid).1 i hi
  rw [hone] at hkb
  exact absurd hkb (by decide)

/-- A size other than 0 is not in the caches of the other builds. -/
lemma not_configures_of_nonzero (hc : c ≠ .w5500) (hsupported : Supported c txsize rxsize) {size : ℕ → ℕ}
    (hsize : txsize = some size ∨ rxsize = some size) {i : ℕ} (hi : i < c.sockNum) (hkb : size i ≠ 0) :
    ¬ Configures c txsize rxsize := by
  intro h
  by_cases hrefused : Refused c txsize rxsize
  · obtain ⟨r, -, -, hr, hzero, -, -⟩ := h.run (Q := fun r _ _ => r = -1) fun _ _ _ => wp_init_refused hrefused rfl
    exact absurd (hr.symm.trans (hzero hsupported)) (by decide)
  · obtain ⟨r, m', w', hempty, hzero, -, hprogrammed⟩ := h.run fun _ _ _ => wp_uncached hc hrefused
    obtain ⟨htx, hrx⟩ := hprogrammed (hzero hsupported)
    have hcache : ∃ d, m'.maxCache d i = 1024 * size i := by
      obtain htxsize | hrxsize := hsize
      · exact ⟨.tx, (htx size htxsize i hi).2⟩
      · exact ⟨.rx, (hrx size hrxsize i hi).2⟩
    obtain ⟨d, hd⟩ := hcache
    have hnone := hempty d i hi
    omega

/-- wizchip_init configures exactly the layouts that are served. -/
theorem configures_iff (c : Chip) (txsize rxsize : Option (ℕ → ℕ)) : Configures c txsize rxsize ↔ Served c txsize rxsize := by
  constructor
  · intro h
    by_cases hsupported : Supported c txsize rxsize
    · refine .inl ⟨hsupported, fun size hsize i hi => ?_⟩
      by_contra hkb
      beta_reduce at hkb
      by_cases hc : c = .w5500
      · subst hc
        rw [if_pos rfl, not_not] at hkb
        obtain ⟨r, -, -, hr, hzero, -, -⟩ := h.run (Q := fun r _ _ => r = -1) fun _ _ _ =>
          wp_init_refused (refused_w5500 hsize hi hkb) rfl
        exact absurd (hr.symm.trans (hzero hsupported)) (by decide)
      · rw [if_neg hc] at hkb
        exact not_configures_of_nonzero hc hsupported hsize hi hkb h
    · refine .inr ⟨hsupported, ?_⟩
      by_contra hrefused
      obtain ⟨r, m', w', haccessed, -, hnot, -⟩ := h.run fun _ _ _ => wp_accessed hrefused
      exact absurd haccessed (by simp [hnot hsupported])
  · rintro (⟨hsupported, hsized⟩ | ⟨hsupported, hrefused⟩)
    · have hfitting : ∀ kb, txsize = some kb ∨ rxsize = some kb → Fitting c kb ∧ sizesValid c kb := fun kb hkb =>
        fitting_of_supports (hsupported kb hkb) (hsized kb hkb)
      have hrefused : ¬ Refused c txsize rxsize := fun ⟨size, hsize, hbad⟩ => hbad (hfitting size hsize).2
      refine ⟨0, fun turns _ sound m w _ => wp_init_entered hrefused fun m₁ hempty => ?_⟩
      refine wp_mono (wp_initLocked (fun kb hkb => (hfitting kb hkb).1) hempty) ?_ fun _ _ => id
      rintro r m' w' ⟨hr, hprogrammed⟩
      refine ⟨fun _ => hr, fun h => absurd hsupported h, fun hzero => ?_⟩
      simpa only [Programmed, maxCache_transactionFinished] using hprogrammed hzero
    · refine ⟨0, fun turns _ sound m w hw => wp_init_refused hrefused ?_⟩
      exact ⟨fun h => absurd h hsupported, fun _ => ⟨by decide, hw⟩, fun h => absurd h (by decide)⟩

/-- The W6100 build with 2 KB for each socket. -/
theorem not_configures_w6100 : ¬ Configures .w6100 (some fun _ => 2) (some fun _ => 2) := by
  refine not_configures_of_nonzero (i := 0) nofun (fun size hsize => ?_) (.inl rfl) (by decide) (by decide)
  obtain rfl : (fun _ => 2) = size := by
    obtain h | h := hsize <;> exact Option.some.inj h
  exact ⟨fun i _ => by simp [Chip.Encodes], by decide, nofun⟩

end others

end IoLibrary.Layout
