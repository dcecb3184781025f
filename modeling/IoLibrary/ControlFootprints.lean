import IoLibrary.LifecycleFootprints
import IoLibrary.Locking
import Mathlib.Data.Finset.Image

/-! Footprints of the control functions and the lifecycle: transfers of registers under locks that
are taken in order and returned. The PHY functions, which wait and call back, are not here. -/
namespace IoLibrary
open Effects

/-- A frame, or a look at the clock. -/
def Transfer : Io → Prop
  | .read8 _ | .write8 _ _ | .readBuf _ _ | .writeBuf _ _ | .now => True
  | _ => False

lemma lockless_of_transfer {e : Io} (h : Transfer e) : Lockless e := by
  cases e with
  | read8 | write8 | readBuf | writeBuf | now => rfl
  | _ => exact h.elim

abbrev Transfers {α : Type} (p : Drv α) : Prop := Within (fun _ => True) Transfer p

section transfers
variable (b : Build) {α : Type}

lemma transfers_get : Transfers (Prog.get : Drv Driver) := within_get trivial

lemma transfers_modify (f : Driver → Driver) : Transfers (Prog.modify f) := (within_modify f).2 trivial

lemma transfers_read (a : Addr) : Transfers (wizchipRead b a) :=
  within_wizchipRead (fun _ _ => trivial) b trivial

lemma transfers_write (a : Addr) (v : Byte) : Transfers (wizchipWrite b a v) :=
  within_wizchipWrite (fun _ _ => trivial) b trivial

lemma transfers_readBuf (a : Addr) (len : ℕ) : Transfers (wizchipReadBuf b a len) :=
  within_wizchipReadBuf (fun _ _ => trivial) b trivial

lemma transfers_writeBuf (a : Addr) (data : List Byte) : Transfers (wizchipWriteBuf b a data) :=
  within_wizchipWriteBuf (fun _ _ => trivial) b trivial

lemma transfers_read16 (a : Addr) : Transfers (wizchipRead16Value b a) :=
  within_wizchipRead16Value (fun _ _ => trivial) b trivial

lemma transfers_write16 (a : Addr) (v : ℕ) :
    Transfers (do let _ ← wizchipWrite16 b a v; return () : Drv Unit) :=
  within_bind (within_wizchipWriteBufChecked (fun _ _ => trivial) b trivial) fun _ => within_pure _

lemma transfers_wizchipClrinterrupt (intr : IntrKind) : Transfers (wizchipClrinterrupt b intr) := by
  refine within_bind (transfers_write b _ _) fun _ => within_bind ?_ fun _ => within_pure _
  refine within_each (fun sn => within_ite ?_ (within_pure _)) _ _
  exact within_bind (transfers_write b _ _) fun _ => within_pure _

lemma transfers_setinterruptmask (intr : IntrKind) : Transfers (wizchipSetinterruptmaskLocked b intr) :=
  within_bind (transfers_write b _ _) fun _ => transfers_write b _ _

lemma transfers_getinterruptmask : Transfers (wizchipGetinterruptmaskLocked b) :=
  within_bind (transfers_read b _) fun _ => within_bind (transfers_read b _) fun _ => within_pure _

lemma transfers_setnetinfo (info : NetInfo) : Transfers (wizchipSetnetinfoLocked b info) := by
  refine within_bind (transfers_writeBuf b _ _) fun _ => within_bind (transfers_writeBuf b _ _) fun _ => ?_
  refine within_bind (transfers_writeBuf b _ _) fun _ => within_bind (transfers_writeBuf b _ _) fun _ => ?_
  exact transfers_modify _

lemma transfers_getnetinfo : Transfers (wizchipGetnetinfoLocked b) := by
  refine within_bind (transfers_readBuf b _ _) fun _ => within_bind (transfers_readBuf b _ _) fun _ => ?_
  refine within_bind (transfers_readBuf b _ _) fun _ => within_bind (transfers_readBuf b _ _) fun _ => ?_
  exact within_bind transfers_get fun _ => within_pure _

lemma transfers_setnetmode (netmode : BitVec 32) : Transfers (wizchipSetnetmode b netmode) := by
  refine within_ite (within_pure _) (within_bind (transfers_read b _) fun tmp => ?_)
  exact within_bind (transfers_write b _ _) fun _ => within_pure _

lemma transfers_settimeout (nettime : NetTimeout) : Transfers (wizchipSettimeoutLocked b nettime) := by
  refine within_bind (transfers_write16 b _ _) fun _ => within_bind (transfers_write b _ _) fun _ => ?_
  exact transfers_modify _

lemma transfers_gettimeout : Transfers (wizchipGettimeoutLocked b) :=
  within_bind (transfers_read b _) fun _ => within_bind (transfers_read16 b _) fun _ => within_pure _

lemma transfers_wizchipSocketStateResetOne (sn : ℕ) : Transfers (wizchipSocketStateResetOne sn) :=
  within_ite (transfers_modify _) (within_pure _)

lemma transfers_wizchipSocketStateReset : Transfers wizchipSocketStateReset := by
  refine within_bind (within_each (fun sn => ?_) _ _) fun _ => within_pure _
  exact within_bind (transfers_modify _) fun _ => within_pure _

lemma transfer_of_reset {e : Io} (h : ResetIo e) : Transfer e := by cases h <;> trivial

lemma lockless_of_reset {e : Io} (h : ResetIo e) : Lockless e :=
  lockless_of_transfer (transfer_of_reset h)

lemma transfers_wizchipSwResetLocked : Transfers (wizchipSwResetLocked b) :=
  within_wizchipSwResetLocked (fun _ _ => trivial) b fun _ => transfer_of_reset

lemma transfers_wizchipRefreshSocketCaches : Transfers (wizchipRefreshSocketCaches b) :=
  within_wizchipRefreshSocketCaches (fun _ _ => trivial) b (fun _ _ _ => trivial) fun _ _ => trivial

lemma transfers_initLocked (txsize rxsize : Option (ℕ → ℕ)) : Transfers (initLocked b txsize rxsize) :=
  within_initLocked (fun _ _ => trivial) b (fun _ _ _ => trivial) txsize rxsize
    (fun _ => transfer_of_reset) fun _ _ _ => trivial

end transfers

/-- Takes its locks in order and returns them all, and calls what `C` allows. -/
abbrev Tidy (C : Io → Prop) {α : Type} (p : Drv α) : Prop := Balanced (fun _ => True) C p

section tidy
variable {C : Io → Prop} (hC : ∀ e, Transfer e ∨ Locks e → C e) (b : Build)
include hC

lemma tidy_transfers {α : Type} {p : Drv α} (hp : Transfers p) : Tidy C p :=
  balanced_of_within hp fun e he => ⟨hC e (.inl he), lockless_of_transfer he⟩

lemma tidy_globalLocked {α : Type} {body : Drv α} (hbody : Transfers body) : Tidy C (globalLocked body) :=
  balanced_globalLocked ⟨hC _ (.inr trivial), hC _ (.inr trivial)⟩ hbody fun e he =>
    ⟨hC e (.inl he), lockless_of_transfer he⟩

omit hC in
lemma tidy_map {α β : Type} {p : Drv α} (f : α → β) (hp : Tidy C p) :
    Tidy C (do let a ← p; return f a) := balanced_bind hp fun _ => balanced_pure _

lemma tidy_wizphyGetphyconf (phyconf : Option PhyConf) : Tidy C (wizphyGetphyconf b phyconf) :=
  balanced_ite (balanced_pure _)
    (balanced_bind (tidy_globalLocked hC (transfers_read b _)) fun _ => balanced_pure _)

lemma tidy_wizphyGetphystat (phyconf : Option PhyConf) : Tidy C (wizphyGetphystat b phyconf) := by
  cases phyconf with
  | none => exact balanced_pure _
  | some c => exact balanced_bind (tidy_globalLocked hC (transfers_read b _)) fun _ => balanced_pure _

lemma tidy_setOperationTimeoutUs (timeoutUs : ℕ) : Tidy C (wizchipSetOperationTimeoutUs b timeoutUs) := by
  refine balanced_ite (balanced_pure _) (tidy_globalLocked hC ?_)
  refine within_bind (transfers_read16 b _) fun rtr => within_bind (transfers_read b _) fun rcr => ?_
  exact within_bind (transfers_modify _) fun _ => within_pure _

lemma tidy_setTimeoutConfig (config : Option TimeoutConfig) : Tidy C (wizchipSetTimeoutConfig b config) := by
  cases config with
  | none => exact balanced_pure _
  | some c =>
    refine balanced_ite (balanced_pure _) (tidy_globalLocked hC ?_)
    refine within_bind (transfers_read16 b _) fun rtr => within_bind (transfers_read b _) fun rcr => ?_
    exact within_bind (transfers_modify _) fun _ => within_pure _

lemma tidy_timeoutConfigSet (timeoutUs : ℕ) : Tidy C (wizchipTimeoutConfigSet timeoutUs) :=
  balanced_ite (balanced_pure _)
    (tidy_globalLocked hC (within_bind (transfers_modify _) fun _ => within_pure _))

lemma tidy_ctlnetwork (cntype : CtlnetworkType) : Tidy C (ctlnetwork b cntype) := by
  cases cntype with
  | setNetinfo arg => exact tidy_map _ (tidy_globalLocked hC (transfers_setnetinfo b arg))
  | getNetinfo => exact tidy_map _ (tidy_globalLocked hC (transfers_getnetinfo b))
  | setNetmode arg => exact tidy_map _ (tidy_transfers hC (transfers_setnetmode b arg))
  | getNetmode => exact tidy_map _ (tidy_transfers hC (transfers_read b _))
  | setTimeout arg => exact tidy_map _ (tidy_globalLocked hC (transfers_settimeout b arg))
  | getTimeout => exact tidy_map _ (tidy_globalLocked hC (transfers_gettimeout b))
  | other => exact balanced_pure _

end tidy

section transactions
variable {U : (Driver → Driver) → Prop} {C : Io → Prop}

/-- The locks of a transaction that has taken those of the first `n` sockets. -/
def taken (n : ℕ) : Finset Lock := insert .global ((Finset.range n).image .sock)

lemma mem_taken {n : ℕ} {l : Lock} : l ∈ taken n ↔ l = .global ∨ ∃ i < n, l = .sock i := by
  cases l with
  | global => simp [taken]
  | sock i => simp [taken, eq_comm]

lemma taken_succ (n : ℕ) : taken (n + 1) = insert (.sock n) (taken n) := by
  rw [taken, taken, Finset.range_add_one, Finset.image_insert, Finset.insert_comm]

lemma lt_of_mem_taken {n : ℕ} {l : Lock} (h : l ∈ taken n) : l < .sock n := by
  rcases mem_taken.1 h with rfl | ⟨i, hi, rfl⟩
  · rw [Lock.lt_iff]
    simp [Lock.rank]
  · rw [Lock.lt_iff]
    simpa [Lock.rank] using hi

lemma taken_succ_erase (n : ℕ) : (taken (n + 1)).erase (.sock n) = taken n := by
  rw [taken_succ]
  exact Finset.erase_insert fun h => lt_irrefl _ (lt_of_mem_taken h)

lemma taken_zero_erase : (taken 0).erase .global = ∅ := by simp [taken]

lemma orderly_transactionLock (hC : ∀ e, Locks e → C e) :
    Orderly Io.lockAct U C wizchipTransactionLock ∅ fun _ held => held = taken sockNum := by
  refine follows_bind (Q := fun _ held => held = taken 0) ?_ ?_
  · exact follows_perform ⟨hC _ trivial, by simp [InOrder, Io.lockAct], rfl⟩ fun _ => rfl
  · rintro _ _ rfl
    refine follows_bind (Q := fun _ held => held = taken sockNum) ?_ fun _ _ h => h
    refine follows_each (fun n held => held = taken n) ?_ rfl fun _ h => h
    rintro n _ - rfl
    refine follows_perform ⟨hC _ trivial, fun l hl => lt_of_mem_taken hl, rfl⟩ fun _ => ?_
    exact (taken_succ n).symm

/-- The socket locks go back from the last taken to the first. -/
lemma orderly_transactionUnlock (hC : ∀ e, Locks e → C e) :
    Orderly Io.lockAct U C wizchipTransactionUnlock (taken sockNum) fun _ held => held = ∅ := by
  refine follows_bind (Q := fun _ held => held = taken 0) ?_ ?_
  · refine follows_each (fun i held => held = taken (sockNum - i)) ?_ rfl fun _ h => ?_
    · rintro i _ hi rfl
      obtain ⟨n, hn⟩ : ∃ n, sockNum - i = n + 1 := ⟨sockNum - i - 1, by omega⟩
      have hlast : sockNum - 1 - i = n := by omega
      have hnext : sockNum - (i + 1) = n := by omega
      rw [hn, hlast, hnext]
      refine follows_perform ⟨hC _ trivial, mem_taken.2 (.inr ⟨n, by omega, rfl⟩), rfl⟩ fun _ => ?_
      exact taken_succ_erase n
    · simpa using h
  · rintro _ _ rfl
    refine follows_perform ⟨hC _ trivial, mem_taken.2 (.inl rfl), rfl⟩ fun _ => ?_
    exact taken_zero_erase

lemma orderly_transactionBegin (hC : ∀ e, Locks e → C e) :
    Orderly Io.lockAct (fun _ => True) C wizchipTransactionBegin ∅ fun _ held => held = taken sockNum := by
  refine follows_bind (orderly_transactionLock hC) ?_
  rintro _ _ rfl
  refine follows_bind (Q := fun _ held => held = taken sockNum) ?_ ?_
  · exact follows_modify ⟨trivial, rfl⟩ rfl
  · rintro _ _ rfl
    exact follows_modify ⟨trivial, rfl⟩ rfl

lemma orderly_transactionFinish (hC : ∀ e, Locks e → C e) (ret : ℤ) :
    Orderly Io.lockAct (fun _ => True) C (wizchipTransactionFinish ret) (taken sockNum)
      fun _ held => held = ∅ := by
  refine follows_bind (orderly_transactionUnlock hC) ?_
  rintro _ _ rfl
  refine follows_bind (Q := fun _ held => held = ∅) ?_ fun _ _ h => h
  exact follows_modify ⟨trivial, rfl⟩ rfl

end transactions

section lifecycle
variable {C : Io → Prop} (hC : ∀ e, Transfer e ∨ Locks e → C e) (b : Build)
include hC

lemma orderly_transfers {α : Type} {p : Drv α} {held : Finset Lock} (hp : Transfers p) :
    Orderly Io.lockAct (fun _ => True) C p held fun _ held' => held' = held :=
  orderly_of_within hp fun e he => ⟨hC e (.inl he), lockless_of_transfer he⟩

lemma tidy_wizchipSwReset : Tidy C (wizchipSwReset b) := by
  have locks : ∀ e, Locks e → C e := fun e he => hC e (.inr he)
  refine follows_bind (orderly_transactionBegin locks) ?_
  rintro _ _ rfl
  refine follows_bind (orderly_transfers hC (transfers_wizchipSwResetLocked b)) ?_
  rintro ret _ rfl
  refine follows_ite (orderly_transactionFinish locks ret) ?_
  refine follows_bind (orderly_transfers hC (transfers_wizchipRefreshSocketCaches b)) ?_
  rintro r _ rfl
  exact orderly_transactionFinish locks _

lemma tidy_wizchipInit (txsize rxsize : Option (ℕ → ℕ)) : Tidy C (wizchipInit b txsize rxsize) := by
  have locks : ∀ e, Locks e → C e := fun e he => hC e (.inr he)
  refine balanced_ite (balanced_pure _) (balanced_ite (balanced_pure _) ?_)
  refine follows_bind (orderly_transactionBegin locks) ?_
  rintro _ _ rfl
  refine follows_bind (orderly_transfers hC (transfers_initLocked b txsize rxsize)) ?_
  rintro ret _ rfl
  exact orderly_transactionFinish locks ret

lemma tidy_wizchipSetBufSize (d : Dir) (sn sizeKb : ℕ) : Tidy C (wizchipSetBufSize b d sn sizeKb) := by
  refine balanced_ite (balanced_pure _) (tidy_globalLocked hC ?_)
  refine within_bind (within_wizchipWrite8Checked (fun _ _ => trivial) b trivial) fun r => ?_
  refine within_ite (within_pure _) ?_
  refine within_bind (within_wizchipRead8CheckedOut (fun _ _ => trivial) b trivial) fun r => ?_
  refine within_ite (within_pure _) (within_ite (within_pure _) ?_)
  exact within_bind (transfers_modify _) fun _ => within_pure _

/-- The commands of ctlwizchip that neither wait nor call back. -/
def CtlwizchipType.Settled : CtlwizchipType → Prop
  | .resetPhy | .setPhyconf _ | .setPhypowmode (some _) | .getPhylink true => False
  | _ => True

lemma tidy_ctlwizchip {cwtype : CtlwizchipType} (h : cwtype.Settled) : Tidy C (ctlwizchip b cwtype) := by
  cases cwtype with
  | resetWizchip => exact tidy_map _ (tidy_wizchipSwReset hC b)
  | initWizchip arg => exact tidy_map _ (tidy_wizchipInit hC b _ _)
  | clrInterrupt arg =>
    cases arg with
    | none => exact balanced_pure _
    | some intr => exact tidy_map _ (tidy_globalLocked hC (transfers_wizchipClrinterrupt b intr))
  | getInterrupt arg =>
    cases arg with
    | false => exact balanced_pure _
    | true =>
      refine tidy_map _ (tidy_globalLocked hC ?_)
      exact within_bind (transfers_readBuf b _ _) fun _ => within_pure _
  | setIntrmask arg =>
    cases arg with
    | none => exact balanced_pure _
    | some intr => exact tidy_map _ (tidy_globalLocked hC (transfers_setinterruptmask b intr))
  | getIntrmask arg =>
    cases arg with
    | false => exact balanced_pure _
    | true => exact tidy_map _ (tidy_globalLocked hC (transfers_getinterruptmask b))
  | setIntrtime arg =>
    refine tidy_transfers hC (within_bind ?_ fun _ => within_pure _)
    exact within_wizchipWriteBufChecked (fun _ _ => trivial) b trivial
  | getIntrtime => exact tidy_map _ (tidy_transfers hC (transfers_read16 b _))
  | getId => exact balanced_pure _
  | getPhyconf arg => exact tidy_map _ (tidy_wizphyGetphyconf hC b arg)
  | getPhystatus arg => exact tidy_map _ (tidy_wizphyGetphystat hC b arg)
  | setPhypowmode arg =>
    cases arg with
    | none => exact balanced_pure _
    | some pmode => exact h.elim
  | getPhypowmode arg =>
    cases arg with
    | false => exact balanced_pure _
    | true =>
      refine tidy_transfers hC (within_bind ?_ fun tmp => within_ite (within_pure _) (within_pure _))
      exact within_bind (transfers_read b _) fun _ => within_pure _
  | getPhylink arg =>
    cases arg with
    | false => exact balanced_pure _
    | true => exact h.elim
  | other => exact balanced_pure _
  | resetPhy => exact h.elim
  | setPhyconf arg => exact h.elim

end lifecycle

end IoLibrary
