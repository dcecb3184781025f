import IoLibrary.Effects.Exec
import IoLibrary.Effects.Trace
import IoLibrary.FrameRules
import IoLibrary.LifecycleFootprints

/-! What READY stands for: a transaction that has read the version of the chip without a
transport error, and nothing recorded since. -/
namespace IoLibrary.Readiness
open Effects

/-- The frames of the driver with their answers. -/
abbrev Frames := Trace Unit Io Io.Res

/-- A transport that answers what `ok` says from the memory of the driver. -/
def transport (ok : Driver → (e : Io) → e.Res → Prop) : Env Driver Frames Io Io.Res :=
  fun m t e x t' => ok m e x ∧ t' = t ++ [⟨(), e, x⟩]

inductive Call
  | init (txsize rxsize : Option (ℕ → ℕ))
  | swReset
  | recover
  | markFaulted
  | read8 (a : Addr)
  | write8 (a : Addr) (v : Byte)
  | readBuf (a : Addr) (len : ℕ)
  | writeBuf (a : Addr) (data : List Byte)

def Call.run (b : Build) : Call → Drv ℤ
  | .init txsize rxsize => wizchipInit b txsize rxsize
  | .swReset => wizchipSwReset b
  | .recover => wizchipRecover
  | .markFaulted => do
    wizchipMarkFaulted
    return 0
  | .read8 a => do
    let r ← wizchipRead8CheckedOut b a
    return r.1
  | .write8 a v => wizchipWrite8Checked b a v
  | .readBuf a len => do
    let r ← wizchipReadBufChecked b a len
    return r.1
  | .writeBuf a data => wizchipWriteBufChecked b a data

/-- An init or reset. A wizchip_init refused for its size arrays is none. -/
def Call.Resets : Call → Prop
  | .init txsize rxsize => txsize.all sizesValid = true ∧ rxsize.all sizesValid = true
  | .swReset => True
  | _ => False

abbrev Run := Step Call Driver Frames ℤ

/-- A frame without a transport error. -/
def Sound (v : Event Unit Io Io.Res) : Prop := ¬ Failed v.call v.answer

/-- A read of VERSIONR that answers the version of the chip. -/
def versionRead : Event Unit Io Io.Res := ⟨(), .read8 Reg.versionr, (0x04, false)⟩

/-- From `t` to `t'` no frame failed and the version was read. -/
def Verified (t t' : Frames) : Prop := Extends Sound t t' ∧ ∃ added, t' = t ++ added ∧ versionRead ∈ added

/-- The most recent init or reset has verified the chip, and no failure was recorded since. -/
def Trusted (past : List Run) : Prop :=
  ∃ before s after, past = before ++ s :: after ∧ s.call.Resets ∧ Verified s.pre.2 s.post.2 ∧
    ∀ x ∈ after, ¬ x.call.Resets ∧ x.result ≠ some sockerrIo

/-- In an init or reset every failing transfer is one whose status the build looks at. -/
def Call.transport (b : Build) : Call → Env Driver Frames Io Io.Res
  | .init _ _ | .swReset => Readiness.transport fun m e x => Failed e x → Noticed b m e
  | _ => Readiness.transport fun _ _ _ => True

section transaction
variable {b : Build} {m : Driver} {t : Frames}

/-- The transport inside a transaction. -/
abbrev noticing (b : Build) : Env Driver Frames Io Io.Res :=
  Readiness.transport fun m e x => Failed e x → Noticed b m e

/-- A fact about the frames that sound frames keep. -/
def Kept (K : Frames → Prop) : Prop := ∀ t v, Sound v → K t → K (t ++ [v])

/-- A status of 0 stands for `K`; the chip is not ready in any case. -/
def Status (K : Frames → Prop) (r : ℤ) (m : Driver) (t : Frames) : Prop :=
  m.chipState ≠ .ready ∧ (r = 0 → K t)

def NotReady (m : Driver) (_ : Frames) : Prop := m.chipState ≠ .ready

variable {K K' : Frames → Prop}

lemma status_error {r : ℤ} (hm : m.chipState ≠ .ready) (hr : r ≠ 0) : Status K r m t :=
  ⟨hm, fun h0 => absurd h0 hr⟩

lemma status_io (hm : m.chipState ≠ .ready) : Status K sockerrIo m t := status_error hm (by decide)

lemma spiFaulted_status (m : Driver) : Status K sockerrIo m.spiFaulted t :=
  status_io (by simp [Driver.spiFaulted])

/-- The source's way to go on: return an error, or do the rest. -/
lemma wp_unless_failed {r e : ℤ} {rest : Drv ℤ} (he : e ≠ 0) (h : Status K r m t)
    (next : m.chipState ≠ .ready → K t → wp (noticing b) rest (Status K') NotReady m t) :
    wp (noticing b) (if r ≠ 0 then return e else rest) (Status K') NotReady m t := by
  by_cases hr : r = 0
  · rw [if_neg (not_not.2 hr)]
    exact next h.1 (h.2 hr)
  · rw [if_pos hr]
    exact status_error h.1 he

/-- A read in a transaction: what failed was noticed, so a status of 0 is a sound frame. -/
lemma wp_read8 {Q : ℤ × Byte → Driver → Frames → Prop} {a : Addr} (hm : m.chipState ≠ .ready)
    (passed : ∀ x m', m'.chipState ≠ .ready →
      Q (0, x) m' (t ++ [⟨(), .read8 a, (x, false)⟩]))
    (caught : ∀ x m' t', m'.chipState ≠ .ready → Q (sockerrIo, x) m' t') :
    wp (noticing b) (wizchipRead8CheckedOut b a) Q NotReady m t := by
  refine wp_wizchipRead8CheckedOut b a fun x t' hx => ?_
  obtain ⟨hnoticed, rfl⟩ := hx
  refine ⟨fun hok healthy => ?_, fun _ _ => caught _ _ _ (by simp [Driver.spiFaulted])⟩
  obtain ⟨v, fault⟩ := x
  cases fault with
  | false => exact passed v _ hm
  | true => exact absurd ⟨rfl, hnoticed rfl⟩ hok

lemma wp_read8_status {a : Addr} (kept : Kept K) (hm : m.chipState ≠ .ready) (hK : K t) :
    wp (noticing b) (wizchipRead8CheckedOut b a) (fun r => Status K r.1) NotReady m t :=
  wp_read8 hm (fun _ _ hm' => ⟨hm', fun _ => kept t _ Bool.false_ne_true hK⟩)
    fun _ _ _ hm' => status_io hm'

lemma wp_readBuf_status {a : Addr} {len : ℕ} (kept : Kept K) (hm : m.chipState ≠ .ready) (hK : K t) :
    wp (noticing b) (wizchipReadBufChecked b a len) (fun r => Status K r.1) NotReady m t := by
  by_cases hlen : len = 0
  · simp only [wizchipReadBufChecked, hlen, if_true]
    exact ⟨hm, fun _ => hK⟩
  · refine wp_wizchipReadBufChecked b a hlen fun x t' hx => ?_
    obtain ⟨hnoticed, rfl⟩ := hx
    refine ⟨fun hok healthy => ⟨hm, fun _ => kept t _ (fun hf => hok ⟨hf, hnoticed hf⟩) hK⟩, ?_⟩
    exact fun _ _ => spiFaulted_status m

lemma wp_write8_status {a : Addr} {v : Byte} (kept : Kept K) (hm : m.chipState ≠ .ready) (hK : K t) :
    wp (noticing b) (wizchipWrite8Checked b a v) (Status K) NotReady m t := by
  refine wp_wizchipWrite8Checked b a v fun x t' hx => ?_
  obtain ⟨hnoticed, rfl⟩ := hx
  refine ⟨fun hok => ⟨hm, fun _ => kept t _ (fun hf => hok ⟨hf, hnoticed hf⟩) hK⟩, ?_⟩
  exact fun _ _ => spiFaulted_status _

lemma wp_writeBuf_status {a : Addr} {data : List Byte} (kept : Kept K) (hm : m.chipState ≠ .ready)
    (hK : K t) : wp (noticing b) (wizchipWriteBufChecked b a data) (Status K) NotReady m t := by
  by_cases hdata : data = []
  · simp only [wizchipWriteBufChecked, hdata, if_true]
    exact ⟨hm, fun _ => hK⟩
  · refine wp_wizchipWriteBufChecked b a hdata fun x t' hx => ?_
    obtain ⟨hnoticed, rfl⟩ := hx
    refine ⟨fun hok => ⟨hm, fun _ => kept t _ (fun hf => hok ⟨hf, hnoticed hf⟩) hK⟩, ?_⟩
    exact fun _ _ => spiFaulted_status _

/-- The wait for the version ends with 0 only on a frame that reads it. -/
lemma wp_versionWait (kept : Kept K) (hm : m.chipState ≠ .ready) (hK : K t)
    (seen : ∀ t, K t → K' (t ++ [versionRead])) :
    wp (noticing b) (versionWait b) (Status K') NotReady m t := by
  refine wp_loop (fun _ m t => m.chipState ≠ .ready ∧ K t) ?_ (fun _ _ _ h => h.1) _ ⟨hm, hK⟩
  rintro poll m t ⟨hm, hK⟩
  refine (wp_bind _ _).2 (wp_read8 hm (fun v m' hm' => ?_) fun v m' t' hm' => ?_)
  · simp only [ne_eq, not_true_eq_false, if_false]
    by_cases hv : v = 0x04
    · rw [if_pos hv, hv]
      exact ⟨hm', fun _ => seen t hK⟩
    · rw [if_neg hv]
      refine (wp_ite _ _ _).2 ⟨fun _ => ⟨hm', kept t _ Bool.false_ne_true hK⟩, fun _ => ?_⟩
      exact status_error hm' (by decide)
  · exact status_io hm'

/-- A reset is verified when it returns 0. -/
lemma wp_wizchipSwResetLocked (kept : Kept K) (hm : m.chipState ≠ .ready) (hK : K t)
    (seen : ∀ t, K t → K' (t ++ [versionRead])) :
    wp (noticing b) (wizchipSwResetLocked b) (Status K') NotReady m t := by
  have io : sockerrIo ≠ 0 := by decide
  simp only [wizchipSwResetLocked, wp_bind, wp_modify]
  refine wp_mono (wp_readBuf_status kept hm hK) ?_ fun _ _ => id
  refine fun _ m t h => wp_unless_failed io h fun hm hK => ?_
  refine (wp_bind _ _).2 (wp_mono (wp_readBuf_status kept hm hK) ?_ fun _ _ => id)
  refine fun _ m t h => wp_unless_failed io h fun hm hK => ?_
  refine (wp_bind _ _).2 (wp_mono (wp_readBuf_status kept hm hK) ?_ fun _ _ => id)
  refine fun _ m t h => wp_unless_failed io h fun hm hK => ?_
  refine (wp_bind _ _).2 (wp_mono (wp_readBuf_status kept hm hK) ?_ fun _ _ => id)
  refine fun _ m t h => wp_unless_failed io h fun hm hK => ?_
  refine (wp_bind _ _).2 (wp_mono (wp_write8_status kept hm hK) ?_ fun _ _ => id)
  refine fun _ m t h => wp_unless_failed io h fun hm hK => ?_
  refine (wp_bind _ _).2 (wp_mono (wp_read8_status kept hm hK) ?_ fun _ _ => id)
  refine fun _ m t h => wp_unless_failed io h fun hm hK => ?_
  refine (wp_bind _ _).2 (wp_mono (wp_writeBuf_status kept hm hK) ?_ fun _ _ => id)
  refine fun _ m t h => wp_unless_failed io h fun hm hK => ?_
  refine (wp_bind _ _).2 (wp_mono (wp_writeBuf_status kept hm hK) ?_ fun _ _ => id)
  refine fun _ m t h => wp_unless_failed io h fun hm hK => ?_
  refine (wp_bind _ _).2 (wp_mono (wp_writeBuf_status kept hm hK) ?_ fun _ _ => id)
  refine fun _ m t h => wp_unless_failed io h fun hm hK => ?_
  refine (wp_bind _ _).2 (wp_mono (wp_writeBuf_status kept hm hK) ?_ fun _ _ => id)
  refine fun _ m t h => wp_unless_failed io h fun hm hK => ?_
  exact wp_versionWait kept hm hK seen

/-- The result of a loop over the sockets: none for no error. -/
def LoopStatus (K : Frames → Prop) (r : Option ℤ) (m : Driver) (t : Frames) : Prop :=
  Status K (r.getD 0) m t

lemma wp_wizchipRefreshSocketCaches (kept : Kept K) (hm : m.chipState ≠ .ready) (hK : K t) :
    wp (noticing b) (wizchipRefreshSocketCaches b) (LoopStatus K) NotReady m t := by
  refine wp_each (fun _ m t => m.chipState ≠ .ready ∧ K t) (fun sn m t _ hI => ?_) ⟨hm, hK⟩
    fun m t hI => ⟨hI.1, fun _ => hI.2⟩
  obtain ⟨hm, hK⟩ := hI
  refine (wp_bind _ _).2 (wp_mono (wp_read8_status kept hm hK) ?_ fun _ _ => id)
  rintro ⟨r, txSize⟩ m t ⟨hm, hK⟩
  refine (wp_ite _ _ _).2 ⟨fun _ => status_io hm, fun hr => ?_⟩
  have hK := hK (not_not.1 hr)
  refine (wp_bind _ _).2 (wp_mono (wp_read8_status kept hm hK) ?_ fun _ _ => id)
  rintro ⟨r, rxSize⟩ m t ⟨hm, hK⟩
  refine (wp_ite _ _ _).2 ⟨fun _ => status_io hm, fun hr => ⟨hm, hK (not_not.1 hr)⟩⟩

lemma wp_writeSizes {d : Dir} {size : Option (ℕ → ℕ)} (kept : Kept K) (hm : m.chipState ≠ .ready)
    (hK : K t) : wp (noticing b) (writeSizes b d size) (fun r m t => m.chipState ≠ .ready ∧
      (r = none → K t) ∧ r ≠ some 0) NotReady m t := by
  cases size with
  | none => exact ⟨hm, fun _ => hK, nofun⟩
  | some size =>
    refine wp_each (fun _ m t => m.chipState ≠ .ready ∧ K t) (fun sn m t _ hI => ?_) ⟨hm, hK⟩
      fun m t hI => ⟨hI.1, fun _ => hI.2, nofun⟩
    obtain ⟨hm, hK⟩ := hI
    refine (wp_bind _ _).2 (wp_mono (wp_write8_status kept hm hK) ?_ fun _ _ => id)
    rintro r m t ⟨hm, hK⟩
    refine (wp_ite _ _ _).2 ⟨fun hr => ⟨hm, nofun, ?_⟩, fun hr => ?_⟩
    · exact fun h0 => hr (Option.some.inj h0)
    · cases d with
      | tx => exact ⟨hm, hK (not_not.1 hr)⟩
      | rx => exact ⟨hm, hK (not_not.1 hr)⟩

lemma wp_initVerify (kept : Kept K) (hm : m.chipState ≠ .ready) (hK : K t) :
    wp (noticing b) (initVerify b) (Status K) NotReady m t := by
  refine (wp_bind _ _).2 (wp_mono (wp_read8_status kept hm hK) ?_ fun _ _ => id)
  rintro ⟨r, version⟩ m t ⟨hm, hK⟩
  refine (wp_ite _ _ _).2 ⟨fun hr => status_error hm hr, fun hr => ?_⟩
  refine (wp_ite _ _ _).2 ⟨fun _ => status_error hm (by decide), fun _ => ?_⟩
  refine (wp_bind _ _).2 (wp_mono (wp_read8_status kept hm (hK (not_not.1 hr))) ?_ fun _ _ => id)
  exact fun _ m t h => wp_unless_failed (by decide) h fun hm hK => ⟨hm, fun _ => hK⟩

lemma wp_initLocked {txsize rxsize : Option (ℕ → ℕ)} (kept : Kept K) (kept' : Kept K')
    (hm : m.chipState ≠ .ready) (hK : K t) (seen : ∀ t, K t → K' (t ++ [versionRead])) :
    wp (noticing b) (initLocked b txsize rxsize) (Status K') NotReady m t := by
  refine (wp_bind _ _).2 (wp_mono (wp_wizchipSwResetLocked kept hm hK seen) ?_ fun _ _ => id)
  rintro r m t ⟨hm, hK⟩
  refine (wp_ite _ _ _).2 ⟨fun hr => status_error hm hr, fun hr => ?_⟩
  refine (wp_bind _ _).2 (wp_mono (wp_writeSizes kept' hm (hK (not_not.1 hr))) ?_ fun _ _ => id)
  rintro (_ | r) m t ⟨hm, hK, hne⟩
  · refine (wp_bind _ _).2 (wp_mono (wp_writeSizes kept' hm (hK rfl)) ?_ fun _ _ => id)
    rintro (_ | r) m t ⟨hm, hK, hne⟩
    · exact wp_initVerify kept' hm (hK rfl)
    · exact status_error hm fun h0 => hne (congrArg some h0)
  · exact status_error hm fun h0 => hne (congrArg some h0)

end transaction

section calls
variable {b : Build} {m : Driver} {t : Frames}

/-- Locks are sound frames. -/
lemma wp_locks {α : Type} {p : Drv α} {K : Frames → Prop} (hp : Within (fun _ => False) Locks p)
    (kept : Kept K) (hK : K t) :
    wp (noticing b) p (fun _ m' t' => m' = m ∧ K t') (fun m' t' => m' = m ∧ K t') m t := by
  refine wp_of_within hp (fun m' t' => m' = m ∧ K t') (fun _ hf => hf.elim) ?_ ⟨rfl, hK⟩
  rintro e he m' t' x _ ⟨rfl, hK⟩ ⟨-, rfl⟩
  refine ⟨rfl, kept t' _ ?_ hK⟩
  cases e <;> first | exact he.elim | exact id

lemma kept_sound (t₀ : Frames) : Kept (Extends Sound t₀) := fun _ _ hv h => h.snoc hv

lemma kept_verified (t₀ : Frames) : Kept (Verified t₀) := by
  rintro t v hv ⟨hsound, added, rfl, hseen⟩
  exact ⟨hsound.snoc hv, added ++ [v], List.append_assoc _ _ _, List.mem_append_left _ hseen⟩

lemma verified_snoc {t₀ t : Frames} (h : Extends Sound t₀ t) : Verified t₀ (t ++ [versionRead]) := by
  obtain ⟨added, rfl, hsound⟩ := h
  refine ⟨Extends.snoc ⟨added, rfl, hsound⟩ Bool.false_ne_true, added ++ [versionRead], ?_, ?_⟩
  · exact List.append_assoc _ _ _
  · exact List.mem_append_right _ List.mem_cons_self

/-- What an init or reset leaves: a chip that it has verified, or one that is not ready. -/
def Settled (t₀ : Frames) (r : ℤ) (m : Driver) (t : Frames) : Prop :=
  r = 0 ∧ Verified t₀ t ∨ m.chipState ≠ .ready

lemma wp_wizchipTransactionFinish {t₀ : Frames} {r : ℤ} (h : Status (Verified t₀) r m t) :
    wp (noticing b) (wizchipTransactionFinish r) (Settled t₀) (fun _ _ => True) m t := by
  have unlock := wp_locks (b := b) (m := m) within_wizchipTransactionUnlock
    (K := fun t => r = 0 → Verified t₀ t)
    (fun t v hv hK h0 => kept_verified t₀ t v hv (hK h0)) h.2
  refine (wp_bind _ _).2 (wp_mono unlock ?_ fun _ _ _ => trivial)
  rintro _ _ t ⟨rfl, hK⟩
  by_cases hr : r = 0
  · exact .inl ⟨hr, hK hr⟩
  · refine .inr ?_
    simp [Driver.transactionFinished, hr]

lemma wp_wizchipTransactionBegin :
    wp (noticing b) wizchipTransactionBegin
      (fun _ m' t' => m'.chipState ≠ .ready ∧ Extends Sound t t') (fun _ _ => True) m t := by
  have lock := wp_locks (b := b) (m := m) within_wizchipTransactionLock (kept_sound t) .refl
  refine (wp_bind _ _).2 (wp_mono lock ?_ fun _ _ _ => trivial)
  rintro _ _ t' ⟨rfl, ht'⟩
  simp only [wp_bind, wp_modify]
  exact ⟨by simp [Driver.socketsReset], ht'⟩

lemma wp_wizchipSwReset :
    wp (noticing b) (wizchipSwReset b) (Settled t) (fun _ _ => True) m t := by
  refine (wp_bind _ _).2 (wp_mono wp_wizchipTransactionBegin ?_ fun _ _ => id)
  rintro _ m t' ⟨hm, ht'⟩
  refine (wp_bind _ _).2 (wp_mono (wp_wizchipSwResetLocked (kept_sound t) hm ht'
    fun _ h => verified_snoc h) ?_ fun _ _ _ => trivial)
  rintro r m t' ⟨hm, hK⟩
  refine (wp_ite _ _ _).2 ⟨fun hr => ?_, fun hr => ?_⟩
  · exact wp_wizchipTransactionFinish (status_error hm hr)
  · have refresh := wp_wizchipRefreshSocketCaches (b := b) (kept_verified t) hm (hK (not_not.1 hr))
    refine (wp_bind _ _).2 (wp_mono refresh ?_ fun _ _ _ => trivial)
    exact fun r m t h => wp_wizchipTransactionFinish h

/-- A wizchip_init that passes its size checks. -/
lemma wp_wizchipInit {txsize rxsize : Option (ℕ → ℕ)} (htx : txsize.all sizesValid = true)
    (hrx : rxsize.all sizesValid = true) :
    wp (noticing b) (wizchipInit b txsize rxsize) (Settled t) (fun _ _ => True) m t := by
  simp only [wizchipInit, htx, hrx, not_true_eq_false, if_false]
  refine (wp_bind _ _).2 (wp_mono wp_wizchipTransactionBegin ?_ fun _ _ => id)
  rintro _ m t' ⟨hm, ht'⟩
  refine (wp_bind _ _).2 (wp_mono (wp_initLocked (kept_sound t) (kept_verified t) hm ht'
    fun _ h => verified_snoc h) ?_ fun _ _ _ => trivial)
  exact fun r m t h => wp_wizchipTransactionFinish h

/-- What a call that is no init or reset leaves: the state it found, or one that is not ready. -/
def Passed (m : Driver) (r : ℤ) (m' : Driver) : Prop :=
  r ≠ sockerrIo ∧ m'.chipState = m.chipState ∨ m'.chipState ≠ .ready

lemma passed_ok {m' : Driver} (h : m'.chipState = m.chipState) : Passed m 0 m' :=
  .inl ⟨by decide, h⟩

lemma passed_spiFaulted (m : Driver) {r : ℤ} (m' : Driver) : Passed m r m'.spiFaulted :=
  .inr (by simp [Driver.spiFaulted])

/-- A checked transfer on any transport. -/
lemma wp_transfer (ok : Driver → (e : Io) → e.Res → Prop) {c : Call}
    (hc : match c with
      | .read8 _ | .write8 _ _ | .readBuf _ _ | .writeBuf _ _ => True
      | _ => False) :
    wp (Readiness.transport ok) (c.run b) (fun r m' _ => Passed m r m') (fun _ _ => True) m t := by
  cases c with
  | read8 a =>
    refine (wp_bind _ _).2 (wp_wizchipRead8CheckedOut b a fun x t' _ => ⟨fun _ _ => ?_, ?_⟩)
    · exact passed_ok rfl
    · exact fun _ _ => passed_spiFaulted m _
  | write8 a v =>
    refine wp_wizchipWrite8Checked b a v fun x t' _ => ⟨fun _ => ?_, ?_⟩
    · exact passed_ok rfl
    · exact fun _ _ => passed_spiFaulted m _
  | readBuf a len =>
    refine (wp_bind _ _).2 ?_
    by_cases hlen : len = 0
    · simp only [wizchipReadBufChecked, hlen, if_true]
      exact passed_ok rfl
    · refine wp_wizchipReadBufChecked b a hlen fun x t' _ => ⟨fun _ _ => ?_, ?_⟩
      · exact passed_ok rfl
      · exact fun _ _ => passed_spiFaulted m _
  | writeBuf a data =>
    by_cases hdata : data = []
    · simp only [Call.run, wizchipWriteBufChecked, hdata, if_true]
      exact passed_ok rfl
    · refine wp_wizchipWriteBufChecked b a hdata fun x t' _ => ⟨fun _ => ?_, ?_⟩
      · exact passed_ok rfl
      · exact fun _ _ => passed_spiFaulted m _
  | _ => exact hc.elim

lemma trusted_snoc {past : List Run} {s : Run} (h : Trusted past) (hs : ¬ s.call.Resets)
    (hr : s.result ≠ some sockerrIo) : Trusted (past ++ [s]) := by
  obtain ⟨before, u, after, rfl, hresets, hverified, hafter⟩ := h
  refine ⟨before, u, after ++ [s], by simp, hresets, hverified, fun x hx => ?_⟩
  rcases List.mem_append.1 hx with hx | hx
  · exact hafter x hx
  · rw [List.mem_singleton.1 hx]
    exact ⟨hs, hr⟩

/-- Between calls: a ready chip is a trusted one. -/
def Inv (past : List Run) (m : Driver) : Prop := m.chipState = .ready → Trusted past

lemma inv_of_settled {past : List Run} {c : Call} {r : ℤ} {m' : Driver} {t' : Frames}
    (hc : c.Resets) (h : Settled t r m' t') :
    Inv (past ++ [⟨c, (m, t), some r, (m', t')⟩]) m' := by
  rintro hready
  rcases h with ⟨-, hverified⟩ | hm'
  · exact ⟨past, _, [], rfl, hc, hverified, by simp⟩
  · exact absurd hready hm'

lemma inv_of_passed {past : List Run} {c : Call} {r : ℤ} {m' : Driver} {t' : Frames}
    (hI : Inv past m) (hc : ¬ c.Resets) (h : Passed m r m') :
    Inv (past ++ [⟨c, (m, t), some r, (m', t')⟩]) m' := by
  rintro hready
  rcases h with ⟨hr, hm'⟩ | hm'
  · exact trusted_snoc (hI (hm' ▸ hready)) hc fun hres => hr (Option.some.inj hres)
  · exact absurd hready hm'

/-- The step rule: each call keeps the invariant, if a recovery finds only a trusted fault. -/
lemma wp_call {past : List Run} (c : Call) (hI : Inv past m)
    (hrecover : c = .recover → m.chipState = .faulted → Trusted past) :
    wp (c.transport b) (c.run b)
      (fun r m' t' => Inv (past ++ [⟨c, (m, t), some r, (m', t')⟩]) m') (fun _ _ => True) m t := by
  cases c with
  | init txsize rxsize =>
    by_cases hsizes : txsize.all sizesValid = true ∧ rxsize.all sizesValid = true
    · exact wp_mono (wp_wizchipInit hsizes.1 hsizes.2) (fun _ _ _ => inv_of_settled hsizes)
        fun _ _ => id
    · have refused : Inv (past ++ [⟨.init txsize rxsize, (m, t), some (-1), (m, t)⟩]) m :=
        inv_of_passed hI hsizes (.inl ⟨by decide, rfl⟩)
      refine (wp_ite _ _ _).2 ⟨fun _ => refused, fun htx => (wp_ite _ _ _).2 ⟨fun _ => refused, ?_⟩⟩
      exact fun hrx => absurd ⟨not_not.1 htx, not_not.1 hrx⟩ hsizes
  | swReset =>
    exact wp_mono wp_wizchipSwReset (fun _ _ _ => inv_of_settled trivial) fun _ _ => id
  | recover =>
    simp only [Call.run, wizchipRecover, wp_bind, wp_get]
    refine (wp_ite _ _ _).2 ⟨fun _ => ?_, fun _ => (wp_ite _ _ _).2 ⟨fun _ => ?_, fun hf => ?_⟩⟩
    · exact inv_of_passed hI not_false (passed_ok rfl)
    · exact inv_of_passed hI not_false (.inl ⟨by decide, rfl⟩)
    · have trusted := hrecover rfl (not_not.1 hf)
      exact fun _ => trusted_snoc trusted not_false fun h0 => absurd (Option.some.inj h0) (by decide)
  | markFaulted => exact inv_of_passed hI not_false (.inr (by simp))
  | read8 a | write8 a v | readBuf a len | writeBuf a data =>
    exact wp_mono (wp_transfer _ trivial) (fun _ _ _ => inv_of_passed hI not_false) fun _ _ => id

end calls

/-- In every run of the lifecycle in which a chip is only recovered from a fault that
wizchip_mark_faulted made, and in which no failing transfer of an init or reset goes unnoticed,
READY means verified. -/
theorem ready_trusted {b : Build} {steps : List Run} {m m' : Driver} {t t' : Frames}
    (run : History (Call.transport b) (Call.run b) steps m t m' t') (fresh : m.chipState ≠ .ready)
    (recovers : ∀ before s after, steps = before ++ s :: after → s.call = .recover →
      s.pre.1.chipState = .faulted → Trusted before) :
    ∀ before s after, steps = before ++ s :: after →
      (s.pre.1.chipState = .ready → Trusted before) ∧
        (s.result ≠ none → s.post.1.chipState = .ready → Trusted (before ++ [s])) := by
  intro before s after hsplit
  refine (history_rule
    (fun past c m _ => c = .recover → m.chipState = .faulted → Trusted past)
    (fun past m _ => Inv past m)
    (fun past s => (s.pre.1.chipState = .ready → Trusted past) ∧
      (s.result ≠ none → s.post.1.chipState = .ready → Trusted (past ++ [s])))
    (fun past c m t hc hI => ?_) run [] (fun before s after h => recovers before s after h)
    fun hready => absurd hready fresh).1 before s after hsplit
  refine wp_mono (wp_call c hI hc) (fun r m' t' h => ⟨⟨hI, fun _ => h⟩, h⟩) ?_
  exact fun m' t' _ => ⟨hI, fun hres => absurd rfl hres⟩

/-- A W5500 that answers its version, on a transport that always or never fails. -/
def answer (fails : Bool) : (e : Io) → e.Res
  | .read8 a => (if a = Reg.versionr then 0x04 else 0, fails)
  | .write8 _ _ => fails
  | .readBuf _ len => (frameBytes len [], fails)
  | .writeBuf _ _ => fails
  | .now => (0 : ℕ)
  | .wait | .phyLink _ | .sockLock _ | .sockUnlock _ | .globalLock | .globalUnlock => ()

/-- The calls of an application after power-up. -/
@[irreducible] def started (fails : Bool) (calls : List Call) : List Run × Driver × Frames :=
  replay (fun _ _ t e => (answer fails e, t ++ [⟨(), e, answer fails e⟩])) (Call.run .oneTurn)
    calls (.boot 1 1) []

/-- With WIZCHIP_SAFE_SPI every failing frame is noticed. -/
lemma noticed_of_failed {b : Build} (hb : b.safeSpi = true) {m : Driver} {e : Io} {x : e.Res}
    (h : Failed e x) : Noticed b m e := by
  cases e with
  | read8 a | readBuf a len => exact .inl hb
  | write8 a v | writeBuf a data => exact hb
  | _ => exact h.elim

lemma history_started (env : Call → Env Driver Frames Io Io.Res) (fails : Bool) (calls : List Call)
    (allowed : ∀ c m t e, env c m t e (answer fails e) (t ++ [⟨(), e, answer fails e⟩])) :
    History env (Call.run .oneTurn) (started fails calls).1 (.boot 1 1) []
      (started fails calls).2.1 (started fails calls).2.2 := by
  unfold started
  exact history_replay allowed _ _ _ _

lemma calls_started (fails : Bool) (calls : List Call) :
    ∀ s ∈ (started fails calls).1, s.call ∈ calls := by
  have hcalls : (started fails calls).1.map Step.call <+: calls := by
    unfold started
    exact calls_replay _ _ _ _ _
  exact fun s hs => hcalls.subset (List.mem_map_of_mem hs)

theorem ready_trusted_reset :
    ∃ s, (started false [.swReset]).1 = [s] ∧ s.post.1.chipState = .ready ∧ Trusted [s] := by
  have run := history_started (Call.transport .oneTurn) false [.swReset] fun c m t e => by
    cases c with
    | init txsize rxsize | swReset => exact ⟨noticed_of_failed rfl, rfl⟩
    | _ => exact ⟨trivial, rfl⟩
  have facts : (started false [.swReset]).1.map
      (fun s => (s.result, s.pre.1.chipState, s.post.1.chipState)) = [(some 0, .uninit, .ready)] := by
    unfold started
    decide +kernel
  obtain ⟨s, rest, hsteps, hs, hrest⟩ := List.map_eq_cons_iff.1 facts
  obtain rfl := List.map_eq_nil_iff.1 hrest
  simp only [Prod.mk.injEq] at hs
  refine ⟨s, hsteps, hs.2.2, ?_⟩
  refine (ready_trusted run (by simp [Driver.boot]) ?_ [] s [] hsteps).2 (by simp [hs.1]) hs.2.2
  intro before u after hsplit hrecover
  have hcall := calls_started false [.swReset] u (by simp [hsplit])
  simp [hrecover] at hcall

/-- A failing transfer before any init, and wizchip_recover makes the chip ready. -/
theorem recover_makes_ready :
    ¬ ∀ (b : Build) (steps : List Run) (m m' : Driver) (t t' : Frames),
      History (fun _ => Readiness.transport fun _ _ _ => True) (Call.run b) steps m t m' t' →
      m.chipState ≠ .ready → m'.chipState = .ready → (∀ s ∈ steps, s.result ≠ none) →
      Trusted steps := by
  intro claim
  have run := history_started (fun _ => Readiness.transport fun _ _ _ => True) true
    [.read8 Reg.versionr, .recover] fun _ _ _ _ => ⟨trivial, rfl⟩
  have returns : (started true [.read8 Reg.versionr, .recover]).1.all
      (fun s => s.result.isSome) = true := by
    unfold started
    decide +kernel
  have ready : (started true [.read8 Reg.versionr, .recover]).2.1.chipState = .ready := by
    unfold started
    decide +kernel
  obtain ⟨before, s, after, hsplit, hresets, -⟩ := claim _ _ _ _ _ _ run (by simp [Driver.boot]) ready
    fun s hs => Option.isSome_iff_ne_none.1 (List.all_eq_true.1 returns s hs)
  have hcall := calls_started true _ s (by rw [hsplit]; simp)
  simp only [List.mem_cons, List.not_mem_nil, or_false] at hcall
  rcases hcall with h | h <;> rw [h] at hresets <;> exact hresets

end IoLibrary.Readiness
