import IoLibrary.Footprints
import IoLibrary.Lifecycle

/-! Footprints of the lifecycle of the chip: a reset touches the common registers, and the
socket states are only cleared when a transaction begins. -/
namespace IoLibrary
open Effects

/-- The calls of wizchip_sw_reset under its locks. -/
inductive ResetIo : Io → Prop
  | read8 {a : Addr} (block : a.block = .common) : ResetIo (.read8 a)
  | readBuf {a : Addr} {len : ℕ} (block : a.block = .common) : ResetIo (.readBuf a len)
  | write8 (v : Byte) : ResetIo (.write8 Reg.mr v)
  | writeBuf {a : Addr} {data : List Byte} (block : a.block = .common) : ResetIo (.writeBuf a data)

/-- The calls that only lock and unlock. -/
def Locks : Io → Prop
  | .sockLock _ | .sockUnlock _ | .globalLock | .globalUnlock => True
  | _ => False

/-- An update of a capacity cache, or one that the globals do not show. -/
def CacheUpdate (f : Driver → Driver) : Prop :=
  ∀ m, (f m).sock = m.sock ∧ ((f m).chipState = m.chipState ∨ (f m).chipState = .faulted)

lemma cacheUpdate_noise {f : Driver → Driver} (hf : Noise f) : CacheUpdate f := fun m =>
  ⟨congrArg Globals.sock (hf m).1, (hf m).2⟩

lemma cacheUpdate_setMax (d : Dir) (sn v : ℕ) : CacheUpdate fun m => m.setMax d sn v := by
  intro m
  cases d with
  | tx => exact ⟨rfl, .inl rfl⟩
  | rx => exact ⟨rfl, .inl rfl⟩

section lifecycle
variable {U : (Driver → Driver) → Prop} {C : Io → Prop} (hU : ∀ f, Noise f → U f) (b : Build)
include hU

lemma within_versionWait (hC : C (.read8 Reg.versionr)) : Within U C (versionWait b) := by
  refine within_loop (fun poll => ?_) _ _
  refine within_bind (within_wizchipRead8CheckedOut hU b hC) fun r => ?_
  exact within_ite (within_pure _) (within_ite (within_pure _) (within_ite (within_pure _)
    (within_pure _)))

lemma within_wizchipSwResetLocked (hC : ∀ e, ResetIo e → C e) :
    Within U C (wizchipSwResetLocked b) := by
  have read {a : Addr} {len : ℕ} (ha : a.block = .common) : Within U C (wizchipReadBufChecked b a len) :=
    within_wizchipReadBufChecked hU b (hC _ (.readBuf ha))
  have write {a : Addr} {data : List Byte} (ha : a.block = .common) :
      Within U C (wizchipWriteBufChecked b a data) :=
    within_wizchipWriteBufChecked hU b (hC _ (.writeBuf ha))
  refine within_bind (within_noise hU fun _ => ⟨rfl, .inl rfl⟩) fun _ => ?_
  refine within_bind (read rfl) fun _ => within_ite (within_pure _) ?_
  refine within_bind (read rfl) fun _ => within_ite (within_pure _) ?_
  refine within_bind (read rfl) fun _ => within_ite (within_pure _) ?_
  refine within_bind (read rfl) fun _ => within_ite (within_pure _) ?_
  refine within_bind (within_wizchipWrite8Checked hU b (hC _ (.write8 _))) fun _ => ?_
  refine within_ite (within_pure _) ?_
  refine within_bind (within_wizchipRead8CheckedOut hU b (hC _ (.read8 rfl))) fun _ => ?_
  refine within_ite (within_pure _) ?_
  refine within_bind (write rfl) fun _ => within_ite (within_pure _) ?_
  refine within_bind (write rfl) fun _ => within_ite (within_pure _) ?_
  refine within_bind (write rfl) fun _ => within_ite (within_pure _) ?_
  refine within_bind (write rfl) fun _ => within_ite (within_pure _) ?_
  exact within_versionWait hU b (hC _ (.read8 rfl))

lemma within_initVerify (hC : ∀ a : Addr, a.block = .common → C (.read8 a)) :
    Within U C (initVerify b) := by
  refine within_bind (within_wizchipRead8CheckedOut hU b (hC _ rfl)) fun _ => ?_
  refine within_ite (within_pure _) (within_ite (within_pure _) ?_)
  refine within_bind (within_wizchipRead8CheckedOut hU b (hC _ rfl)) fun _ => ?_
  refine within_ite (within_pure _) ?_
  exact within_bind (within_noise hU fun _ => ⟨rfl, .inl rfl⟩) fun _ => within_pure _

variable (hset : ∀ d sn v, U fun m => m.setMax d sn v)
include hset

lemma within_wizchipRefreshSocketCaches (hC : ∀ d sn, C (.read8 (Dir.sizeReg d sn))) :
    Within U C (wizchipRefreshSocketCaches b) := by
  have read (d : Dir) (sn : ℕ) : Within U C (wizchipRead8CheckedOut b (d.sizeReg sn)) :=
    within_wizchipRead8CheckedOut hU b (hC d sn)
  refine within_each (fun sn => ?_) _ _
  refine within_bind (read .tx sn) fun r => within_ite (within_pure _) ?_
  refine within_bind (read .rx sn) fun r => within_ite (within_pure _) ?_
  refine within_bind ((within_modify _).2 (hset _ _ _)) fun _ => ?_
  exact within_bind ((within_modify _).2 (hset _ _ _)) fun _ => within_pure _

lemma within_writeSizes (d : Dir) (size : Option (ℕ → ℕ))
    (hC : ∀ sn v, C (.write8 (d.sizeReg sn) v)) : Within U C (writeSizes b d size) := by
  cases size with
  | none => exact within_pure _
  | some size =>
    refine within_each (fun sn => ?_) _ _
    refine within_bind (within_wizchipWrite8Checked hU b (hC sn _)) ?_
    refine fun r => within_ite (within_pure _) ?_
    exact within_bind ((within_modify _).2 (hset _ _ _)) fun _ => within_pure _

lemma within_initLocked (txsize rxsize : Option (ℕ → ℕ)) (reset : ∀ e, ResetIo e → C e)
    (sizes : ∀ d sn v, C (.write8 (Dir.sizeReg d sn) v)) :
    Within U C (initLocked b txsize rxsize) := by
  refine within_bind (within_wizchipSwResetLocked hU b reset) fun r => within_ite (within_pure _) ?_
  refine within_bind (within_writeSizes hU b hset .tx txsize (sizes .tx)) fun r => ?_
  cases r with
  | some r => exact within_pure _
  | none =>
    refine within_bind (within_writeSizes hU b hset .rx rxsize (sizes .rx)) fun r => ?_
    cases r with
    | some r => exact within_pure _
    | none => exact within_initVerify hU b fun _ ha => reset _ (.read8 ha)

end lifecycle

lemma within_lock {U : (Driver → Driver) → Prop} {C : Io → Prop} {e : ℕ → Drv Unit}
    (he : ∀ i, Within U C (e i)) : Within U C (eachSocket fun i => do e i; return none) :=
  within_each (fun i => within_bind (he i) fun _ => within_pure _) _ _

lemma within_wizchipTransactionLock : Within (fun _ => False) Locks wizchipTransactionLock :=
  within_bind ((within_perform _).2 trivial) fun _ =>
    within_bind (within_lock fun _ => (within_perform _).2 trivial) fun _ => within_pure _

lemma within_wizchipTransactionUnlock : Within (fun _ => False) Locks wizchipTransactionUnlock :=
  within_bind (within_lock fun _ => (within_perform _).2 trivial) fun _ =>
    (within_perform _).2 trivial

end IoLibrary
