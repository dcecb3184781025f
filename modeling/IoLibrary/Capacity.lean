import IoLibrary.Effects.Exec
import IoLibrary.LifecycleFootprints
import IoLibrary.Rules

/-! The capacity caches against the size registers of the chip, for any transport: a failed
read answers anything, a failed write may or may not have taken effect. -/
namespace IoLibrary.Capacity
open Effects

/-- The size registers of the sockets, in KB. -/
abbrev Sizes := Dir → ℕ → Byte

/-- A write of a register; MR.RST resets every size to 2 KB. -/
def Sizes.written (s : Sizes) (a : Addr) (v : Byte) : Sizes :=
  if a = Reg.mr ∧ v &&& mrRST ≠ 0 then fun _ _ => 2
  else fun d sn => if a = d.sizeReg sn then v else s d sn

/-- The transfers of size registers. -/
def SizeIo : Io → Prop
  | .read8 a | .write8 a _ => ∃ d sn, a = Dir.sizeReg d sn
  | _ => False

def sizeEnv (mayFail : Io → Prop) : Env Globals Sizes Io Io.Res := fun _ s e x s' =>
  match e, x with
  | .read8 a, x => s' = s ∧ (x.2 → mayFail (.read8 a)) ∧
      (x.2 = false → ∀ d sn, a = Dir.sizeReg d sn → x.1 = s d sn)
  | .write8 a v, x => (x → mayFail (.write8 a v)) ∧ (s' = s.written a v ∨ x ∧ s' = s)
  | _, _ => s' = s

inductive Call
  | init (txsize rxsize : Option (ℕ → ℕ))
  | swReset
  | setTx (sn sizeKb : ℕ)
  | setRx (sn sizeKb : ℕ)

def Call.run (b : Build) : Call → Drv ℤ
  | .init txsize rxsize => wizchipInit b txsize rxsize
  | .swReset => wizchipSwReset b
  | .setTx sn sizeKb => wizchipSetTxBufSize b sn sizeKb
  | .setRx sn sizeKb => wizchipSetRxBufSize b sn sizeKb

/-- The chip holds sizes the W5500 accepts. -/
def Sane (s : Sizes) : Prop := ∀ d sn, (s d sn).toNat ≤ 16

/-- The caches of the first `n` sockets agree with the chip in direction `d`. -/
def Agree (d : Dir) (n : ℕ) (g : Globals) (s : Sizes) : Prop :=
  ∀ sn < n, g.maxCache d sn = 1024 * (s d sn).toNat

lemma sizeReg_inj {d d' : Dir} {sn sn' : ℕ} (h : d.sizeReg sn = d'.sizeReg sn') :
    d = d' ∧ sn = sn' := by
  cases d <;> cases d' <;> simp_all [Dir.sizeReg, Reg.snTXBUFSIZE, Reg.snRXBUFSIZE]

lemma sizeReg_ne_mr (d : Dir) (sn : ℕ) : d.sizeReg sn ≠ Reg.mr := by
  cases d <;> simp [Dir.sizeReg, Reg.snTXBUFSIZE, Reg.snRXBUFSIZE, Reg.mr]

lemma written_sizeReg (s : Sizes) (d : Dir) (sn : ℕ) (v : Byte) (d' : Dir) (k : ℕ) :
    s.written (d.sizeReg sn) v d' k = if d' = d ∧ k = sn then v else s d' k := by
  simp only [Sizes.written, sizeReg_ne_mr, false_and, if_false]
  by_cases h : d.sizeReg sn = d'.sizeReg k
  · obtain ⟨rfl, rfl⟩ := sizeReg_inj h
    simp
  · have hne : ¬ (d' = d ∧ k = sn) := by
      rintro ⟨rfl, rfl⟩
      exact h rfl
    simp [h, hne]

lemma toNat_size {kb : ℕ} (h : sizeKbValid kb) : (BitVec.ofNat 8 kb).toNat = kb ∧ kb ≤ 16 := by
  simp only [sizeKbValid, Bool.or_eq_true, decide_eq_true_eq] at h
  rcases h with (((rfl | rfl) | rfl) | rfl) | rfl <;> decide

lemma capacity_eq {v : Byte} (h : v.toNat ≤ 16) : capacity v = 1024 * v.toNat := by
  simp only [capacity]
  omega

lemma sizesValid_at {size : ℕ → ℕ} (h : sizesValid size) {sn : ℕ} (hsn : sn < sockNum) :
    sizeKbValid (size sn) := by
  simp only [sizesValid, Bool.and_eq_true, List.all_eq_true] at h
  exact h.1 sn (List.mem_range.2 hsn)

/-- Not a write of a size register. -/
def Spares (e : Io) : Prop := ∀ a v, e = .write8 a v → ∀ d sn, a ≠ Dir.sizeReg d sn

section frames
variable {mayFail : Io → Prop} {g : Globals} {s s' : Sizes}

lemma sane_spares {e : Io} {x : e.Res} (he : Spares e) (hx : sizeEnv mayFail g s e x s')
    (h : Sane s) : Sane s' := by
  cases e with
  | read8 a => exact hx.1 ▸ h
  | write8 a v =>
    rcases hx.2 with rfl | ⟨-, rfl⟩
    · intro d sn
      unfold Sizes.written
      split
      · exact Nat.le_of_ble_eq_true rfl
      · simpa [he a v rfl d sn] using h d sn
    · exact h
  | _ =>
    obtain rfl : s' = s := hx
    exact h

lemma sane_size {d : Dir} {sn kb : ℕ} {x : Bool} (hkb : sizeKbValid kb)
    (hx : sizeEnv mayFail g s (.write8 (d.sizeReg sn) (BitVec.ofNat 8 kb)) x s') (h : Sane s) :
    Sane s' := by
  obtain ⟨hval, hle⟩ := toNat_size hkb
  rcases hx.2 with rfl | ⟨-, rfl⟩
  · intro d' k
    rw [written_sizeReg]
    split
    · omega
    · exact h d' k
  · exact h

end frames

section init
variable {mayFail : Io → Prop} {g : Globals} {s : Sizes} {b : Build}

/-- The loop over one size array makes its direction agree and leaves the other alone. -/
lemma wpg_writeSizes (strict : ∀ e, SizeIo e → mayFail e → b.safeSpi) {size : ℕ → ℕ}
    (hsize : sizesValid size) (d : Dir) {n : ℕ} (h : Sane s) (others : ∀ d' ≠ d, Agree d' n g s) :
    wpg (sizeEnv mayFail) (writeSizes b d (some size)) (fun r g' s' => Sane s' ∧
      (r.getD 0 = 0 → r = none ∧ Agree d sockNum g' s' ∧ ∀ d' ≠ d, Agree d' n g' s'))
      (fun _ _ => True) g s := by
  unfold writeSizes eachSocket
  refine wpv_each (fun i g s => Sane s ∧ Agree d i g s ∧ ∀ d' ≠ d, Agree d' n g s)
    (fun sn g s hsn hI => ?_) ⟨h, fun _ hk => absurd hk (Nat.not_lt_zero _), others⟩ ?_
  · obtain ⟨hsane, hd, hothers⟩ := hI
    have hkb := sizesValid_at hsize (Nat.zero_add _ ▸ hsn)
    obtain ⟨hval, hle⟩ := toNat_size hkb
    simp only [wpv_bind]
    refine wpg_wizchipWrite8Checked b _ _ fun x s₁ hx => ?_
    have hsane₁ := sane_size hkb hx hsane
    refine ⟨fun hok => ?_, fun _ => ?_⟩
    · have hclean : ¬ x := fun hf =>
        hok ⟨strict (.write8 (d.sizeReg sn) _) ⟨d, sn, rfl⟩ (hx.1 hf), hf⟩
      obtain rfl : s₁ = s.written _ _ := hx.2.resolve_right fun hf => hclean hf.1
      simp only [wpv_ite, wpv_bind, wpv_modify, wpv_pure]
      refine ⟨fun hne => absurd rfl hne, ?_⟩
      rintro - m rfl
      refine ⟨hsane₁, fun k hk => ?_, fun d' hne k hk => ?_⟩
      · rw [maxCache_setMax, written_sizeReg]
        by_cases hks : k = sn
        · simp [hks, hval, Nat.mul_comm]
        · simpa [hks] using hd k (by omega)
      · simpa [maxCache_setMax, written_sizeReg, hne] using hothers d' hne k hk
    · simp only [wpv_ite, wpv_bind, wpv_modify, wpv_pure]
      exact ⟨fun _ => ⟨hsane₁, fun h0 => absurd h0 (by decide)⟩, fun hne => absurd (by decide) hne⟩
  · rintro g s ⟨hsane, hd, hothers⟩
    rw [Nat.zero_add] at hd
    exact ⟨hsane, fun _ => ⟨rfl, hd, hothers⟩⟩

lemma spares_of_reset {e : Io} (he : ResetIo e) : Spares e := by
  cases he with
  | write8 v =>
    rintro _ _ ⟨⟩ d sn
    exact (sizeReg_ne_mr d sn).symm
  | _ => exact nofun

lemma wpg_wizchipSwResetLocked (h : Sane s) :
    wpg (sizeEnv mayFail) (wizchipSwResetLocked b) (fun _ _ => Sane) (fun _ => Sane) g s :=
  wpv_of_within (within_wizchipSwResetLocked (fun _ _ => trivial) b fun _ h => h)
    (fun _ => Sane) (fun _ (_ : True) _ _ h => h)
    (fun _ he _ _ _ _ h hx => sane_spares (spares_of_reset he) hx h) h

lemma wpg_initVerify (h : Sane s ∧ ∀ d, Agree d sockNum g s) :
    wpg (sizeEnv mayFail) (initVerify b) (fun _ g s => Sane s ∧ ∀ d, Agree d sockNum g s)
      (fun g s => Sane s ∧ ∀ d, Agree d sockNum g s) g s := by
  have reads : Within Noise (fun e => ∃ a, e = .read8 a) (initVerify b) :=
    within_initVerify (fun _ h => h) b fun a _ => ⟨a, rfl⟩
  refine wpv_of_within reads (fun g s => Sane s ∧ ∀ d, Agree d sockNum g s)
    (fun f hf m w hI => by rwa [(hf m).1]) ?_ h
  rintro _ ⟨a, rfl⟩ g s x s₁ hI hx
  obtain rfl : s₁ = s := hx.1
  exact hI

/-- The caches read back from the chip agree with it, unless a read failed unnoticed. -/
lemma wpg_wizchipRefreshSocketCaches (strict : ∀ e, SizeIo e → mayFail e → b.safeSpi) (h : Sane s) :
    wpg (sizeEnv mayFail) (wizchipRefreshSocketCaches b)
      (fun r g' s' => Sane s' ∧ (r.getD 0 = 0 → ∀ d, Agree d sockNum g' s'))
      (fun _ _ => True) g s := by
  unfold wizchipRefreshSocketCaches eachSocket
  refine wpv_each (fun i g s => Sane s ∧ ∀ d, Agree d i g s)
    (fun sn g s hsn hI => ?_) ⟨h, fun _ _ hk => absurd hk (Nat.not_lt_zero _)⟩ ?_
  · obtain ⟨hsane, hall⟩ := hI
    have read : ∀ {d : Dir} {x : Byte × Bool} {s₁ : Sizes},
        sizeEnv mayFail g s (.read8 (d.sizeReg sn)) x s₁ → s₁ = s ∧
          (¬ (b.safeSpi ∧ x.2) → x.1 = s d sn) := by
      rintro d x s₁ ⟨rfl, hfail, hval⟩
      refine ⟨rfl, fun hok => hval ?_ d sn rfl⟩
      exact Bool.eq_false_iff.2 fun hf => hok ⟨strict (.read8 (d.sizeReg sn)) ⟨d, sn, rfl⟩ (hfail hf), hf⟩
    have refused : Sane s ∧ ((some sockerrIo).getD 0 = 0 → ∀ d, Agree d sockNum g s) :=
      ⟨hsane, fun h0 => absurd h0 (by decide)⟩
    simp only [wpv_bind]
    refine wpg_wizchipRead8CheckedOut b _ fun x s₁ hx => ?_
    obtain ⟨rfl, hxv⟩ := read (d := .tx) hx
    refine ⟨fun hok => ?_, fun _ => ?_⟩
    · simp only [wpv_ite, wpv_bind, wpv_pure]
      refine ⟨fun hne => absurd rfl hne, fun _ => ?_⟩
      refine wpg_wizchipRead8CheckedOut b _ fun y s₂ hy => ?_
      obtain ⟨rfl, hyv⟩ := read (d := .rx) hy
      refine ⟨fun hok' => ?_, fun _ => ?_⟩
      · simp only [wpv_modify]
        refine ⟨fun hne => absurd rfl hne, ?_⟩
        rintro - m rfl m' hm'
        refine ⟨hsane, fun d k hk => ?_⟩
        rw [maxCache_setMax, hm', maxCache_setMax, hxv hok, hyv hok', capacity_eq (hsane _ _),
          capacity_eq (hsane _ _)]
        by_cases hks : k = sn
        · subst hks
          cases d <;> simp
        · simpa [hks] using hall d k (by omega)
      · exact ⟨fun _ => refused, fun hne => absurd (show sockerrIo ≠ 0 by decide) hne⟩
    · simp only [wpv_ite, wpv_pure]
      exact ⟨fun _ => refused, fun hne => absurd (by decide) hne⟩
  · rintro g s ⟨hsane, hall⟩
    rw [Nat.zero_add] at hall
    exact ⟨hsane, fun _ => hall⟩

end init

/-- Between calls: once the chip is ready, every cache agrees with it. -/
def Inv (m : Driver) (s : Sizes) : Prop :=
  Sane s ∧ (m.chipState = .ready → ∀ d, Agree d sockNum m.toGlobals s)

section calls
variable {mayFail : Io → Prop} {m : Driver} {s : Sizes} {b : Build}

abbrev chip (mayFail : Io → Prop) : Env Driver Sizes Io Io.Res :=
  (sizeEnv mayFail).along Driver.toGlobals

lemma wp_wizchipTransactionBegin (h : Sane s) :
    wp (chip mayFail) wizchipTransactionBegin (fun _ _ => Sane) (fun _ => Sane) m s := by
  have spares : ∀ e, Locks e → Spares e := by
    rintro e he a v rfl
    exact he.elim
  have lock : Within (fun _ => True) Spares wizchipTransactionBegin := by
    refine within_bind (within_wizchipTransactionLock.mono (fun _ h => h.elim) spares) fun _ => ?_
    exact within_bind ((within_modify _).2 trivial) fun _ => (within_modify _).2 trivial
  exact wp_of_within lock (fun _ => Sane) (fun _ _ _ _ h => h)
    (fun _ he _ _ _ _ h hx => sane_spares he hx h) h

/-- The transaction ends ready only with a result of 0, and unlocking changes nothing. -/
lemma wp_wizchipTransactionFinish {r : ℤ} (h : Sane s)
    (agree : r = 0 → ∀ d, Agree d sockNum m.toGlobals s) :
    wp (chip mayFail) (wizchipTransactionFinish r) (fun _ => Inv) (fun _ _ => True) m s := by
  simp only [wizchipTransactionFinish, wp_bind, wp_modify, wp_pure]
  refine wp_mono (wp_of_within within_wizchipTransactionUnlock (fun m s => Sane s ∧ (r = 0 → ∀ d, Agree d sockNum m.toGlobals s))
    (fun _ hf => hf.elim) (fun e he m s x s₁ hI hx => ?_) ⟨h, agree⟩) ?_ fun _ _ _ => trivial
  · obtain rfl : s₁ = s := by
      cases e with
      | read8 a => exact he.elim
      | write8 a v => exact he.elim
      | _ => exact hx
    exact hI
  · rintro - m s ⟨hsane, hagree⟩
    refine ⟨hsane, fun hready d => ?_⟩
    by_cases hr : r = 0
    · simpa [Driver.transactionFinished, hr] using hagree hr d
    · simp [Driver.transactionFinished, hr] at hready

lemma wp_wizchipSwReset (strict : ∀ e, SizeIo e → mayFail e → b.safeSpi) (h : Sane s) :
    wp (chip mayFail) (wizchipSwReset b) (fun _ => Inv) (fun _ _ => True) m s := by
  simp only [wizchipSwReset, wp_bind]
  refine wp_mono (wp_wizchipTransactionBegin h) (fun _ m s h => ?_) fun _ _ _ => trivial
  refine wp_mono (wp_of_wpv (wpg_wizchipSwResetLocked h)) (fun r m s h => ?_) fun _ _ _ => trivial
  simp only [wp_ite, wp_bind]
  refine ⟨fun hr => wp_wizchipTransactionFinish h fun h0 => absurd h0 hr, fun _ => ?_⟩
  refine wp_mono (wp_of_wpv (wpg_wizchipRefreshSocketCaches strict h)) ?_ fun _ _ _ => trivial
  rintro r m s ⟨h, hagree⟩
  exact wp_wizchipTransactionFinish h hagree

/-- With both arrays given every cache is written along with its register. -/
lemma wpg_initLocked (strict : ∀ e, SizeIo e → mayFail e → b.safeSpi) {txsize rxsize : ℕ → ℕ}
    (htx : sizesValid txsize) (hrx : sizesValid rxsize) {g : Globals} (h : Sane s) :
    wpg (sizeEnv mayFail) (initLocked b (some txsize) (some rxsize))
      (fun r g' s' => Sane s' ∧ (r = 0 → ∀ d, Agree d sockNum g' s')) (fun _ _ => True) g s := by
  simp only [initLocked, wpv_bind]
  refine wpv_mono (wpg_wizchipSwResetLocked h) (fun r g s h => ?_) fun _ _ _ => trivial
  simp only [wpv_ite, wpv_bind, wpv_pure]
  refine ⟨fun hr => ⟨h, fun h0 => absurd h0 hr⟩, fun _ => ?_⟩
  have none_agree : ∀ d' ≠ Dir.tx, Agree d' 0 g s := fun _ _ _ hk => absurd hk (Nat.not_lt_zero _)
  refine wpv_mono (wpg_writeSizes strict htx .tx h none_agree) ?_ fun _ _ _ => trivial
  rintro (_ | e) g s ⟨h, hagree⟩
  · obtain ⟨-, htxagree, -⟩ := hagree rfl
    have tx_agree : ∀ d' ≠ Dir.rx, Agree d' sockNum g s := by
      rintro (_ | _) hne
      · exact htxagree
      · exact absurd rfl hne
    simp only [wpv_bind]
    refine wpv_mono (wpg_writeSizes strict hrx .rx h tx_agree) ?_ fun _ _ _ => trivial
    rintro (_ | e) g s ⟨h, hagree⟩
    · obtain ⟨-, hrxagree, hothers⟩ := hagree rfl
      have all_agree : ∀ d, Agree d sockNum g s := by
        rintro (_ | _)
        · exact hothers .tx (by decide)
        · exact hrxagree
      refine wpv_mono (wpg_initVerify ⟨h, all_agree⟩) ?_ fun _ _ _ => trivial
      exact fun r g s hI => ⟨hI.1, fun _ => hI.2⟩
    · exact ⟨h, fun h0 => absurd (hagree h0).1 (by rintro ⟨⟩)⟩
  · exact ⟨h, fun h0 => absurd (hagree h0).1 (by rintro ⟨⟩)⟩

lemma wp_wizchipInit (strict : ∀ e, SizeIo e → mayFail e → b.safeSpi) (txsize rxsize : ℕ → ℕ)
    (h : Inv m s) :
    wp (chip mayFail) (wizchipInit b (some txsize) (some rxsize)) (fun _ => Inv)
      (fun _ _ => True) m s := by
  simp only [wizchipInit, Option.all_some, wp_ite, wp_bind, wp_pure]
  refine ⟨fun _ => h, fun htx => ⟨fun _ => h, fun hrx => ?_⟩⟩
  refine wp_mono (wp_wizchipTransactionBegin h.1) (fun _ m s h => ?_) fun _ _ _ => trivial
  refine wp_mono (wp_of_wpv (wpg_initLocked strict (not_not.1 htx) (not_not.1 hrx) h)) ?_
    fun _ _ _ => trivial
  rintro r m s ⟨h, hagree⟩
  exact wp_wizchipTransactionFinish h hagree

/-- Right after a write, both builds notice a failing read. -/
lemma wp_readStatus_unknown {Q : ℤ → Driver → Sizes → Prop} {H : Driver → Sizes → Prop} {fault : Bool}
    (hm : m.transportHealthy = false)
    (ok : fault = false → ∀ m' : Driver, m'.toGlobals = m.toGlobals → m'.chipState = m.chipState →
      Q 0 m' s)
    (failed : ∀ m' : Driver, m'.chipState = .faulted → Q sockerrIo m' s) :
    wp (chip mayFail) (readStatus b fault) Q H m s := by
  cases hs : b.safeSpi <;> cases fault <;> simp only [readStatus, wizchipSpiFault, hs, hm, wp_ite,
    wp_bind, wp_get, wp_modify, wp_pure, Bool.false_eq_true, not_false_eq_true, false_imp_iff,
    true_imp_iff, true_and, if_true, if_false]
  · exact ok rfl _ rfl rfl
  · exact failed _ rfl
  · exact ok rfl _ rfl rfl
  · exact failed _ rfl

/-- A failed transfer leaves the chip not ready, or shows in the readback. -/
lemma wp_setBufSizeLocked (d : Dir) {sn kb : ℕ} (hkb : sizeKbValid kb) (h : Inv m s) :
    wp (chip mayFail) (setBufSizeLocked b d sn kb) (fun _ => Inv) (fun _ _ => True) m s := by
  obtain ⟨hval, hle⟩ := toNat_size hkb
  obtain ⟨hsane, hagree⟩ := h
  simp only [setBufSizeLocked, wizchipWrite8Checked, wp_bind, wp_modify, wp_perform]
  intro x s₁ hx
  have hsane₁ : Sane s₁ := sane_size hkb hx hsane
  have faulted : ∀ {m' : Driver}, m'.chipState = .faulted → Inv m' s₁ := fun hm' =>
    ⟨hsane₁, fun hready => absurd (hm'.symm.trans hready) (by decide)⟩
  unfold writeStatus
  split
  · simp only [wizchipSpiFault, wp_bind, wp_modify, wp_ite, wp_pure]
    exact ⟨fun _ => faulted rfl, fun hne => absurd (by decide) hne⟩
  simp only [wizchipRead8CheckedOut, wp_pure, wp_ite, wp_bind, wp_perform, wp_modify]
  refine ⟨fun hne => absurd rfl hne, ?_⟩
  rintro - y s₂ ⟨rfl, -, hread⟩
  refine wp_readStatus_unknown rfl (fun hy m' hglobals hstate => ?_) fun m' hm' => ?_
  · have hy := hread hy d sn rfl
    refine ⟨fun hne => absurd rfl hne, fun _ => ⟨fun hne => ⟨hsane₁, fun hready => ?_⟩, fun heq => ?_⟩⟩
    · have hsame : s₂ = s := by
        refine (hx.2.resolve_left fun hw => hne ?_).2
        rw [hy, hw, written_sizeReg, if_pos ⟨rfl, rfl⟩]
      rw [hsame, hglobals]
      exact hagree (hstate ▸ hready)
    · refine ⟨hsane₁, fun hready d' k hk => ?_⟩
      have hready : m.chipState = .ready := by
        cases d <;> exact hstate ▸ hready
      rw [maxCache_setMax, hglobals]
      by_cases hhit : d' = d ∧ k = sn
      · obtain ⟨rfl, rfl⟩ := hhit
        rw [if_pos ⟨rfl, rfl⟩, ← hy, not_not.1 heq, hval, Nat.mul_comm]
      · rw [if_neg hhit, hagree hready d' k hk]
        rcases hx.2 with rfl | ⟨-, rfl⟩
        · rw [written_sizeReg, if_neg hhit]
        · rfl
  · exact ⟨fun _ => faulted hm', fun hne => absurd (show sockerrIo ≠ 0 by decide) hne⟩

lemma wp_wizchipSetBufSize (d : Dir) (sn kb : ℕ) (h : Inv m s) :
    wp (chip mayFail) (wizchipSetBufSize b d sn kb) (fun _ => Inv) (fun _ _ => True) m s := by
  simp only [wizchipSetBufSize, globalLock, globalUnlock, wp_ite, wp_bind, wp_pure, wp_perform]
  refine ⟨fun _ => h, ?_⟩
  rintro hvalid - s₁ rfl
  have hkb : sizeKbValid kb := by
    by_contra hkb
    exact hvalid (.inr hkb)
  refine wp_mono (wp_setBufSizeLocked d hkb h) ?_ fun _ _ => id
  rintro r m s hinv - s₁ rfl
  exact hinv

end calls

/-- Which transfers may fail during a call: any, except that without WIZCHIP_SAFE_SPI those of
the size registers must not fail in wizchip_init and wizchip_sw_reset. -/
def Call.mayFail (b : Build) : Call → Io → Prop
  | .init _ _ | .swReset => fun e => SizeIo e → b.safeSpi
  | .setTx _ _ | .setRx _ _ => fun _ => True

/-- wizchip_init is given both arrays. -/
def Call.Full : Call → Prop
  | .init txsize rxsize => txsize ≠ none ∧ rxsize ≠ none
  | _ => True

lemma wp_call {b : Build} {m : Driver} {s : Sizes} (c : Call) (full : c.Full) (h : Inv m s) :
    wp (chip (c.mayFail b)) (c.run b) (fun _ => Inv) (fun _ _ => True) m s := by
  cases c with
  | init txsize rxsize =>
    obtain ⟨tx, rfl⟩ := Option.ne_none_iff_exists'.1 full.1
    obtain ⟨rx, rfl⟩ := Option.ne_none_iff_exists'.1 full.2
    exact wp_wizchipInit (fun e he hf => hf he) tx rx h
  | swReset => exact wp_wizchipSwReset (fun e he hf => hf he) h.1
  | setTx sn kb => exact wp_wizchipSetBufSize .tx sn kb h
  | setRx sn kb => exact wp_wizchipSetBufSize .rx sn kb h

/-- From a chip that is not ready, any calls of the lifecycle in which wizchip_init is given both
arrays leave a ready chip only with caches that agree with it. -/
theorem caches_agree {b : Build} {steps : List (Step Call Driver Sizes ℤ)} {m m' : Driver}
    {s s' : Sizes} (run : History (fun c => chip (c.mayFail b)) (Call.run b) steps m s m' s')
    (fresh : m.chipState ≠ .ready) (sane : Sane s) (full : ∀ t ∈ steps, t.call.Full) :
    ∀ t ∈ steps, t.result ≠ none → t.post.1.chipState = .ready →
      ∀ d, ∀ sn < sockNum, t.post.1.maxCache d sn = 1024 * (t.post.2 d sn).toNat := by
  have rule := history_rule (fun _ c _ _ => c.Full) (fun _ m s => Inv m s)
    (fun _ t => t.result ≠ none → Inv t.post.1 t.post.2) (fun past c m s hfull hI => ?_) run []
    (fun before t after hsplit => full t (by simp [hsplit])) ⟨sane, fun hready => absurd hready fresh⟩
  · intro t ht hres hready d sn hsn
    obtain ⟨before, after, hsplit⟩ := List.append_of_mem ht
    exact (rule.1 before t after hsplit hres).2 hready d sn hsn
  · exact wp_mono (wp_call c hfull hI) (fun _ _ _ h => ⟨fun _ => h, h⟩) fun _ _ _ h => absurd rfl h

/-- A chip that answers every frame. -/
def soundChip : Handler Driver Sizes Io Io.Res := fun _ s e =>
  match e with
  | .read8 a => ((match a with
    | ⟨0x1E, .socket sn⟩ => s .rx sn
    | ⟨0x1F, .socket sn⟩ => s .tx sn
    | a => if a = Reg.versionr then 4 else 0, false), s)
  | .write8 a v => (false, s.written a v)
  | .readBuf _ len => ((frameBytes len [], false), s)
  | .writeBuf _ _ => (false, s)
  | .now => (0, s)
  | .wait | .phyLink _ | .sockLock _ | .sockUnlock _ | .globalLock | .globalUnlock => ((), s)

lemma soundChip_allowed (mayFail : Io → Prop) (m : Driver) (s : Sizes) (e : Io) :
    chip mayFail m s e (soundChip m s e).1 (soundChip m s e).2 := by
  cases e with
  | read8 a =>
    refine ⟨rfl, nofun, fun _ d sn ha => ?_⟩
    subst ha
    cases d <;> rfl
  | write8 a v => exact ⟨nofun, .inl rfl⟩
  | _ => rfl

/-- The calls of an application on a chip that has just been reset. -/
@[irreducible] def started (calls : List Call) : List (Step Call Driver Sizes ℤ) × Driver × Sizes :=
  replay (fun _ => soundChip) (Call.run .oneTurn) calls (Driver.boot 1000 1000) fun _ _ => 2

lemma history_started (mayFail : Call → Io → Prop) (calls : List Call) :
    History (fun c => chip (mayFail c)) (Call.run .oneTurn) (started calls).1 (Driver.boot 1000 1000)
      (fun _ _ => 2) (started calls).2.1 (started calls).2.2 := by
  unfold started
  exact history_replay (fun c => soundChip_allowed (mayFail c)) _ _ _ _

theorem caches_agree_full :
    ∃ t ∈ (started [.init (some fun _ => 2) (some fun _ => 2), .setTx 3 0]).1,
      t.post.1.chipState = .ready ∧
      ∀ d, ∀ sn < sockNum, t.post.1.maxCache d sn = 1024 * (t.post.2 d sn).toNat := by
  have hready : (started [.init (some fun _ => 2) (some fun _ => 2), .setTx 3 0]).1.any
      fun t => t.result.isSome ∧ t.post.1.chipState = .ready := by
    unfold started
    decide +kernel
  obtain ⟨t, ht, hres⟩ := List.any_eq_true.1 hready
  obtain ⟨hsome, hst⟩ := of_decide_eq_true hres
  refine ⟨t, ht, hst, ?_⟩
  refine caches_agree (history_started (Call.mayFail .oneTurn) _) (by decide)
    (fun _ _ => by simp) (fun t ht => ?_) t ht (Option.isSome_iff_ne_none.1 hsome) hst
  have hcalls : (started [.init (some fun _ => 2) (some fun _ => 2), .setTx 3 0]).1.map Step.call =
      [.init (some fun _ => 2) (some fun _ => 2), .setTx 3 0] := by
    unfold started
    rfl
  have hmem := hcalls ▸ List.mem_map_of_mem (f := Step.call) ht
  simp only [List.mem_cons, List.not_mem_nil, or_false] at hmem
  rcases hmem with h | h <;> simp [h, Call.Full]

/-- wizchip_init without arrays leaves a ready chip with empty caches over 2 KB buffers. -/
theorem init_null_disagrees :
    ¬ ∀ steps m' s', History (fun _ => chip fun _ => False) (Call.run .oneTurn) steps
        (Driver.boot 1000 1000) (fun _ _ => 2) m' s' → m'.chipState = .ready →
      ∀ d, ∀ sn < sockNum, m'.maxCache d sn = 1024 * (s' d sn).toNat := by
  intro claim
  have hready : (started [.init none none]).2.1.chipState = .ready := by
    unfold started
    decide +kernel
  have hempty : (started [.init none none]).2.1.maxCache .tx 0 ≠
      1024 * ((started [.init none none]).2.2 .tx 0).toNat := by
    unfold started
    decide +kernel
  exact hempty (claim _ _ _ (history_started (fun _ _ => False) _) hready .tx 0 (by decide))

end IoLibrary.Capacity
