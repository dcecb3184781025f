import IoLibrary.Effects.Exec
import IoLibrary.LifecycleFootprints
import IoLibrary.Rules

/-! The network identity of the chip over resets, for any transport: MR.RST clears it, and a
call that resets the chip writes back what it has read before. -/
namespace IoLibrary.Identity
open Effects

/-- The registers that wizchip_sw_reset saves and writes back, in its order. -/
inductive IdReg
  | shar
  | gar
  | subr
  | sipr
  deriving DecidableEq, Repr

def IdReg.addr : IdReg → Addr
  | .shar => Reg.shar
  | .gar => Reg.gar
  | .subr => Reg.subr
  | .sipr => Reg.sipr

def IdReg.len : IdReg → ℕ
  | .shar => 6
  | .gar | .subr | .sipr => 4

/-- A transfer, whether its status is a failure, and whether the chip has carried it out. -/
structure Transfer where
  io : Io
  failed : Bool
  carriedOut : Bool
  deriving DecidableEq, Repr

/-- The common registers that hold what is written to them, and the transfers so far. -/
structure Chip where
  common : ℕ → Byte
  log : List Transfer

def bytes (common : ℕ → Byte) (offset len : ℕ) : List Byte :=
  (List.range len).map fun i => common (offset + i)

def Chip.identity (c : Chip) (r : IdReg) : List Byte := bytes c.common r.addr.offset r.len

def put (common : ℕ → Byte) (offset : ℕ) (data : List Byte) : ℕ → Byte := fun i =>
  if offset ≤ i then (data[i - offset]?).getD (common i) else common i

/-- What a write does to the common registers; what MR.RST makes of the others is left open. -/
def Takes (common : ℕ → Byte) (e : Io) (common' : ℕ → Byte) : Prop :=
  match e with
  | .write8 a v =>
    if a = Reg.mr ∧ v &&& mrRST ≠ 0 then
      ∀ r : IdReg, bytes common' r.addr.offset r.len = List.replicate r.len 0
    else common' = if a.block = .common then put common a.offset [v] else common
  | .writeBuf a data => common' = if a.block = .common then put common a.offset data else common
  | _ => common' = common

/-- A write that fails may or may not have been carried out. -/
def Wrote (c : Chip) (e : Io) (failed : Bool) (c' : Chip) : Prop :=
  ∃ done, (failed = false → done = true) ∧ c'.log = c.log ++ [⟨e, failed, done⟩] ∧
    (done = true → Takes c.common e c'.common) ∧ (done = false → c'.common = c.common)

/-- A read that fails answers anything; so do the single registers, which change by themselves. -/
def chip : Env Globals Chip Io Io.Res := fun _ c e x c' =>
  match e, x with
  | .read8 a, x => c' = { c with log := c.log ++ [⟨.read8 a, x.2, !x.2⟩] }
  | .readBuf a len, x => c' = { c with log := c.log ++ [⟨.readBuf a len, x.2, !x.2⟩] } ∧
      (x.2 = false → a.block = .common → x.1.toList = bytes c.common a.offset len)
  | .write8 a v, x => Wrote c (.write8 a v) x c'
  | .writeBuf a data, x => Wrote c (.writeBuf a data) x c'
  | _, _ => c' = c

inductive Call
  | swReset
  | init (txsize rxsize : Option (ℕ → ℕ))

def Call.run (b : Build) : Call → Drv ℤ
  | .swReset => wizchipSwReset b
  | .init txsize rxsize => wizchipInit b txsize rxsize

def Transfer.resets (t : Transfer) : Bool :=
  t.carriedOut && match t.io with
    | .write8 a v => decide (a = Reg.mr ∧ v &&& mrRST ≠ 0)
    | _ => false

def Transfer.restores (r : IdReg) (t : Transfer) : Bool :=
  t.carriedOut && match t.io with
    | .writeBuf a _ => decide (a = r.addr)
    | _ => false

/-- A failed read of `r`. -/
def Transfer.misses (r : IdReg) (t : Transfer) : Bool :=
  t.failed && decide (t.io = .readBuf r.addr r.len)

/-- The transfers of a call neither reset the chip nor write `r`; or no read of `r` fails and a
write of it is carried out. -/
def Keeps (r : IdReg) (added : List Transfer) : Prop :=
  (¬ added.any Transfer.resets ∧ ¬ added.any (Transfer.restores r)) ∨
    (¬ added.any (Transfer.misses r) ∧ added.any (Transfer.restores r))

instance (r : IdReg) (added : List Transfer) : Decidable (Keeps r added) :=
  inferInstanceAs (Decidable (_ ∨ _))

/-- The transfers since `pre`. -/
def Chip.since (c pre : Chip) : List Transfer := c.log.drop pre.log.length

section memory
variable {common : ℕ → Byte} {data : List Byte}

lemma length_bytes (offset len : ℕ) : (bytes common offset len).length = len := by
  simp [bytes]

lemma bytes_put_same (offset : ℕ) : bytes (put common offset data) offset data.length = data := by
  refine List.ext_getElem (length_bytes _ _) fun i _ hi => ?_
  simp [bytes, put, hi]

lemma bytes_put_apart {offset offset' len : ℕ}
    (h : offset' + len ≤ offset ∨ offset + data.length ≤ offset') :
    bytes (put common offset data) offset' len = bytes common offset' len := by
  refine List.map_congr_left fun i hi => ?_
  have hi := List.mem_range.1 hi
  unfold put
  split
  · rw [List.getElem?_eq_none (by omega), Option.getD_none]
  · rfl

lemma bytes_put_other {r r' : IdReg} (hne : r' ≠ r) (hlen : data.length = r.len) :
    bytes (put common r.addr.offset data) r'.addr.offset r'.len =
      bytes common r'.addr.offset r'.len := by
  refine bytes_put_apart ?_
  rw [hlen]
  revert hne
  cases r <;> cases r' <;> decide

end memory

/-- A transfer that leaves the identity alone. -/
def Spares : Io → Prop
  | .write8 a _ | .writeBuf a _ => a.block ≠ .common
  | _ => True

/-- Since `pre` the chip has only been read. -/
def Looked (pre c : Chip) : Prop :=
  c.common = pre.common ∧ ∀ r, ¬ (c.since pre).any Transfer.resets ∧
    ¬ (c.since pre).any (Transfer.restores r)

/-- What is read of `r` without a failure is what it was at `pre`. -/
def Saved (pre c : Chip) (r : IdReg) (data : List Byte) : Prop :=
  data.length = r.len ∧ (¬ (c.since pre).any (Transfer.misses r) → data = pre.identity r)

/-- Since `pre`, a register has the value it had unless a failure has cost it. -/
def Sound (pre c : Chip) : Prop :=
  pre.log.length ≤ c.log.length ∧ ∀ r, Keeps r (c.since pre) → c.identity r = pre.identity r

section steps
variable {pre c c' : Chip} {t : Transfer} {r : IdReg} {data : List Byte}

lemma since_append (hlen : pre.log.length ≤ c.log.length) (hlog : c'.log = c.log ++ [t]) :
    c'.since pre = c.since pre ++ [t] := by
  rw [Chip.since, hlog, List.drop_append_of_le_length hlen, Chip.since]

lemma length_append (hlen : pre.log.length ≤ c.log.length) (hlog : c'.log = c.log ++ [t]) :
    pre.log.length ≤ c'.log.length := by
  rw [hlog, List.length_append]
  omega

/-- A failed read stays in the log. -/
lemma Saved.later (h : Saved pre c r data) (hlen : pre.log.length ≤ c.log.length)
    (hlog : c'.log = c.log ++ [t]) : Saved pre c' r data := by
  refine ⟨h.1, fun hmiss => h.2 fun hfail => hmiss ?_⟩
  rw [since_append hlen hlog, List.any_append, hfail, Bool.true_or]

lemma keeps_of_append {added : List Transfer} (hreset : t.resets = false)
    (hrestore : t.restores r = false) (h : Keeps r (added ++ [t])) : Keeps r added := by
  simp only [Keeps, List.any_append, List.any_cons, List.any_nil, Bool.or_false, hreset,
    hrestore] at h
  refine h.imp id fun h => ⟨fun hmiss => h.1 ?_, h.2⟩
  rw [hmiss, Bool.true_or]

/-- A transfer that neither resets the chip nor writes an identity register. -/
lemma Sound.spared (h : Sound pre c) (hlog : c'.log = c.log ++ [t]) (hreset : t.resets = false)
    (hrestore : ∀ r, t.restores r = false) (hcommon : c'.common = c.common) : Sound pre c' := by
  refine ⟨length_append h.1 hlog, fun r hk => ?_⟩
  rw [since_append h.1 hlog] at hk
  rw [Chip.identity, hcommon]
  exact h.2 r (keeps_of_append hreset (hrestore r) hk)

lemma Looked.sound (h : Looked pre c) (hlen : pre.log.length ≤ c.log.length) : Sound pre c :=
  ⟨hlen, fun r _ => by rw [Chip.identity, h.1, Chip.identity]⟩

/-- A reset costs every register that has not been written since. -/
lemma Looked.reset (h : Looked pre c) (hlen : pre.log.length ≤ c.log.length) {failed : Bool}
    (hw : Wrote c (.write8 Reg.mr mrRST) failed c') : Sound pre c' := by
  obtain ⟨done, -, hlog, -, hundone⟩ := hw
  cases done with
  | false => exact (h.sound hlen).spared hlog rfl (fun _ => rfl) (hundone rfl)
  | true =>
    refine ⟨length_append hlen hlog, fun r hk => ?_⟩
    rw [since_append hlen hlog, Keeps, List.any_append, List.any_append] at hk
    rcases hk with ⟨hreset, -⟩ | ⟨-, hrestore⟩
    · exact absurd (Bool.or_eq_true_iff.2 (.inr rfl)) hreset
    · rcases Bool.or_eq_true_iff.1 hrestore with hrestore | hrestore
      · exact absurd hrestore (h.2 r).2
      · exact absurd hrestore (by simp [Transfer.restores])

lemma restores_addr {r r' : IdReg} {failed done : Bool} (hne : r' ≠ r) :
    Transfer.restores r' ⟨.writeBuf r.addr data, failed, done⟩ = false := by
  have haddr : r.addr ≠ r'.addr := by
    revert hne
    cases r <;> cases r' <;> decide
  simp [Transfer.restores, haddr]

/-- Writing back what was saved. -/
lemma Sound.restored (h : Sound pre c) (hsaved : Saved pre c r data) {failed : Bool}
    (hw : Wrote c (.writeBuf r.addr data) failed c') : Sound pre c' := by
  obtain ⟨done, -, hlog, hdone, hundone⟩ := hw
  cases done with
  | false => exact h.spared hlog rfl (fun _ => rfl) (hundone rfl)
  | true =>
    have hcommon : c'.common = put c.common r.addr.offset data := by
      have := hdone rfl
      cases r <;> exact this
    have hsaved' : Saved pre c' r data := hsaved.later h.1 hlog
    refine ⟨length_append h.1 hlog, fun r' hk => ?_⟩
    by_cases hr : r' = r
    · subst hr
      have hdata : c'.identity r' = data := by
        rw [Chip.identity, hcommon, ← hsaved.1]
        exact bytes_put_same _
      rw [hdata]
      rcases hk with ⟨-, hrestore⟩ | ⟨hmiss, -⟩
      · refine absurd ?_ hrestore
        rw [since_append h.1 hlog, List.any_append]
        exact Bool.or_eq_true_iff.2 (.inr (by simp [Transfer.restores]))
      · exact hsaved'.2 hmiss
    · rw [since_append h.1 hlog] at hk
      have hsame : c'.identity r' = c.identity r' := by
        rw [Chip.identity, hcommon]
        exact bytes_put_other hr hsaved.1
      rw [hsame]
      exact h.2 r' (keeps_of_append rfl (restores_addr hr) hk)

end steps

section calls
variable {pre c : Chip} {g : Globals} {b : Build} {H : Globals → Chip → Prop}

lemma wpg_readStatus_any {Q : ℤ → Globals → Chip → Prop} {fault : Bool} (h : ∀ r, Q r g c) :
    wpg chip (readStatus b fault) Q H g c :=
  wpv_mono ((wpg_readStatus (Q := fun g c => ∀ r, Q r g c) b fault).2 h) (fun r _ _ h => h r)
    fun _ _ => id

lemma wpg_writeStatus_any {Q : ℤ → Globals → Chip → Prop} {fault : Bool} (h : ∀ r, Q r g c) :
    wpg chip (writeStatus b fault) Q H g c :=
  wpv_mono ((wpg_writeStatus (Q := fun g c => ∀ r, Q r g c) b fault).2 h) (fun r _ _ h => h r)
    fun _ _ => id

/-- Reading a register to save it. -/
lemma wpg_save {Q : ℤ × List Byte → Globals → Chip → Prop} (r : IdReg) (h : Looked pre c)
    (hlen : pre.log.length ≤ c.log.length)
    (next : ∀ st data c', Looked pre c' → pre.log.length ≤ c'.log.length →
      (∀ r' d, Saved pre c r' d → Saved pre c' r' d) → Saved pre c' r data → Q (st, data) g c') :
    wpg chip (wizchipReadBufChecked b r.addr r.len) Q H g c := by
  have hpos : r.len ≠ 0 := by cases r <;> decide
  have hblock : r.addr.block = .common := by cases r <;> rfl
  simp only [wizchipReadBufChecked, hpos, if_false, wpv_bind, wpv_perform, wpv_pure]
  rintro x c' ⟨rfl, hread⟩
  refine wpg_readStatus_any fun st => next st _ _ ⟨h.1, fun r' => ?_⟩ (length_append hlen rfl)
    (fun r' d hs => hs.later hlen rfl) ⟨x.1.size_toArray, fun hmiss => ?_⟩
  · rw [since_append hlen rfl, List.any_append, List.any_append]
    simpa [Transfer.resets, Transfer.restores] using h.2 r'
  · rw [since_append hlen rfl, List.any_append, Bool.or_eq_true_iff, not_or] at hmiss
    have hok : x.2 = false := by simpa [Transfer.misses] using hmiss.2
    rw [hread hok hblock, h.1, Chip.identity]

lemma wpg_restore {Q : ℤ → Globals → Chip → Prop} {data : List Byte} (r : IdReg) (h : Sound pre c)
    (hsaved : Saved pre c r data)
    (next : ∀ st c', Sound pre c' → (∀ r' d, Saved pre c r' d → Saved pre c' r' d) → Q st g c') :
    wpg chip (wizchipWriteBufChecked b r.addr data) Q H g c := by
  have hne : data ≠ [] := by
    rintro rfl
    have hlen := hsaved.1
    cases r <;> exact absurd hlen (by decide)
  simp only [wizchipWriteBufChecked, hne, if_false, wpv_bind, wpv_modify, wpv_perform]
  rintro m rfl failed c' hw
  refine wpg_writeStatus_any fun st => next st c' (h.restored hsaved hw) fun r' d hs => ?_
  obtain ⟨done, -, hlog, -⟩ := hw
  exact hs.later h.1 hlog

lemma sound_spares {e : Io} {x : e.Res} {c' : Chip} (he : Spares e) (hx : chip g c e x c')
    (h : Sound pre c) : Sound pre c' := by
  cases e with
  | read8 a =>
    obtain rfl := hx
    exact h.spared rfl (by simp [Transfer.resets]) (fun r => by simp [Transfer.restores]) rfl
  | readBuf a len =>
    obtain ⟨rfl, -⟩ := hx
    exact h.spared rfl (by simp [Transfer.resets]) (fun r => by simp [Transfer.restores]) rfl
  | write8 a v =>
    obtain ⟨done, -, hlog, hdone, hundone⟩ := hx
    have hmr : a ≠ Reg.mr := fun ha => he (ha ▸ rfl)
    have hreset : Transfer.resets ⟨.write8 a v, x, done⟩ = false := by simp [Transfer.resets, hmr]
    refine h.spared hlog hreset (fun r => by simp [Transfer.restores]) ?_
    cases done with
    | false => exact hundone rfl
    | true => simpa [Takes, hmr, show a.block ≠ .common from he] using hdone rfl
  | writeBuf a data =>
    obtain ⟨done, -, hlog, hdone, hundone⟩ := hx
    have hr (r : IdReg) : a ≠ r.addr := fun ha => he (by rw [ha]; cases r <;> rfl)
    refine h.spared hlog (by simp [Transfer.resets]) (fun r => by simp [Transfer.restores, hr r]) ?_
    cases done with
    | false => exact hundone rfl
    | true => simpa [Takes, show a.block ≠ .common from he] using hdone rfl
  | _ =>
    obtain rfl : c' = c := hx
    exact h

/-- Anything else that the calls do. -/
lemma wpg_spares {α : Type} {p : Drv α} (hp : Within (fun _ => True) Spares p) (h : Sound pre c) :
    wpg chip p (fun _ _ => Sound pre) (fun _ => Sound pre) g c :=
  wpv_of_within hp (fun _ => Sound pre) (fun _ _ _ _ => id)
    (fun _ he _ _ _ _ h hx => sound_spares he hx h) h

/-- The source's way to go on: return an error, or do the rest. -/
lemma wpg_unless {st e : ℤ} {rest : Drv ℤ} (h : Sound pre c)
    (next : wpg chip rest (fun _ _ => Sound pre) H g c) :
    wpg chip (if st ≠ 0 then return e else rest) (fun _ _ => Sound pre) H g c := by
  simp only [wpv_ite, wpv_pure]
  exact ⟨fun _ => h, fun _ => next⟩

/-- A reset writes back what it has saved. -/
lemma wpg_wizchipSwResetLocked : wpg chip (wizchipSwResetLocked b) (fun _ _ => Sound c)
    (fun _ => Sound c) g c := by
  have nothing : Looked c c := ⟨rfl, fun r => by simp [Chip.since]⟩
  simp only [wizchipSwResetLocked, wpv_bind, wpv_modify]
  rintro m -
  refine wpg_save .shar nothing (Nat.le_refl _) fun st mac c₁ looked₁ len₁ _ mac₁ => ?_
  refine wpg_unless (looked₁.sound len₁) ((wpv_bind _ _).2 ?_)
  refine wpg_save .gar looked₁ len₁ fun st gw c₂ looked₂ len₂ keep₂ gw₂ => ?_
  refine wpg_unless (looked₂.sound len₂) ((wpv_bind _ _).2 ?_)
  refine wpg_save .subr looked₂ len₂ fun st sn c₃ looked₃ len₃ keep₃ sn₃ => ?_
  refine wpg_unless (looked₃.sound len₃) ((wpv_bind _ _).2 ?_)
  refine wpg_save .sipr looked₃ len₃ fun st sip c₄ looked₄ len₄ keep₄ sip₄ => ?_
  refine wpg_unless (looked₄.sound len₄) ((wpv_bind _ _).2 ?_)
  simp only [wizchipWrite8Checked, wpv_bind, wpv_modify, wpv_perform]
  rintro m₄ - failed c₅ hreset
  have sound₅ : Sound c c₅ := looked₄.reset len₄ hreset
  have keep₅ (r : IdReg) (d : List Byte) (h : Saved c c₄ r d) : Saved c c₅ r d := by
    obtain ⟨done, -, hlog, -⟩ := hreset
    exact h.later len₄ hlog
  refine wpg_writeStatus_any fun st => wpg_unless sound₅ ((wpv_bind _ _).2 ?_)
  simp only [wizchipRead8CheckedOut, wpv_bind, wpv_perform, wpv_pure]
  intro x c₆ hread
  have sound₆ : Sound c c₆ := sound_spares (e := .read8 Reg.mr) trivial hread sound₅
  have keep₆ (r : IdReg) (d : List Byte) (h : Saved c c₄ r d) : Saved c c₆ r d :=
    (keep₅ r d h).later sound₅.1 (congrArg Chip.log hread)
  refine wpg_readStatus_any fun st => wpg_unless sound₆ ((wpv_bind _ _).2 ?_)
  refine wpg_restore .shar sound₆ (keep₆ _ _ (keep₄ _ _ (keep₃ _ _ (keep₂ _ _ mac₁)))) ?_
  refine fun st c₇ sound₇ keep₇ => wpg_unless sound₇ ((wpv_bind _ _).2 ?_)
  refine wpg_restore .gar sound₇ (keep₇ _ _ (keep₆ _ _ (keep₄ _ _ (keep₃ _ _ gw₂)))) ?_
  refine fun st c₈ sound₈ keep₈ => wpg_unless sound₈ ((wpv_bind _ _).2 ?_)
  refine wpg_restore .subr sound₈ (keep₈ _ _ (keep₇ _ _ (keep₆ _ _ (keep₄ _ _ sn₃)))) ?_
  refine fun st c₉ sound₉ keep₉ => wpg_unless sound₉ ((wpv_bind _ _).2 ?_)
  refine wpg_restore .sipr sound₉ (keep₉ _ _ (keep₈ _ _ (keep₇ _ _ (keep₆ _ _ sip₄)))) ?_
  refine fun st c₁₀ sound₁₀ _ => wpg_unless sound₁₀ ?_
  exact wpg_spares (within_versionWait (fun _ _ => trivial) b trivial) sound₁₀

lemma wpg_initLocked (txsize rxsize : Option (ℕ → ℕ)) :
    wpg chip (initLocked b txsize rxsize) (fun _ _ => Sound c) (fun _ => Sound c) g c := by
  have sizes (d : Dir) (size : Option (ℕ → ℕ)) :
      Within (fun _ => True) Spares (writeSizes b d size) := by
    refine within_writeSizes (fun _ _ => trivial) b (fun _ _ _ => trivial) d size fun sn v => ?_
    cases d <;> exact Block.noConfusion
  simp only [initLocked, wpv_bind]
  refine wpv_mono wpg_wizchipSwResetLocked (fun st g c₁ h => ?_) fun _ _ => id
  refine wpg_unless h ((wpv_bind _ _).2 ?_)
  refine wpv_mono (wpg_spares (sizes .tx txsize) h) (fun st g c₂ h => ?_) fun _ _ => id
  cases st with
  | some st => exact h
  | none =>
    refine (wpv_bind _ _).2 (wpv_mono (wpg_spares (sizes .rx rxsize) h) ?_ fun _ _ => id)
    intro st g c₃ h
    cases st with
    | some st => exact h
    | none => exact wpg_spares (within_initVerify (fun _ _ => trivial) b fun _ _ => trivial) h

lemma sound_refl : Sound c c := ⟨Nat.le_refl _, fun _ _ => rfl⟩

/-- A transaction begins without a transfer. -/
lemma wpg_wizchipTransactionBegin {Q : Unit → Globals → Chip → Prop} (next : ∀ g, Q () g c) :
    wpg chip wizchipTransactionBegin Q (fun _ => Sound c) g c := by
  have locks : Within (fun _ => True) Locks wizchipTransactionBegin := by
    refine within_bind (within_wizchipTransactionLock.mono (fun _ h => h.elim) fun _ => id) ?_
    exact fun _ => within_bind ((within_modify _).2 trivial) fun _ => (within_modify _).2 trivial
  refine wpv_mono (wpv_of_within locks (fun _ c₁ => c₁ = c) (fun _ _ _ _ => id) ?_ rfl) ?_ ?_
  · intro e he g c₁ x c₂ hc hx
    cases e <;> first | exact he.elim | exact Eq.trans hx hc
  · rintro - g _ rfl
    exact next g
  · rintro g _ rfl
    exact sound_refl

lemma within_wizchipTransactionFinish (r : ℤ) :
    Within (fun _ => True) Spares (wizchipTransactionFinish r) := by
  have spares : ∀ e, Locks e → Spares e := fun e he => by cases e <;> first | exact he.elim | trivial
  refine within_bind (within_wizchipTransactionUnlock.mono (fun _ h => h.elim) spares) fun _ => ?_
  exact within_bind ((within_modify _).2 trivial) fun _ => within_pure _

lemma wpg_wizchipSwReset : wpg chip (wizchipSwReset b) (fun _ _ => Sound c) (fun _ => Sound c) g c := by
  have caches : Within (fun _ => True) Spares (wizchipRefreshSocketCaches b) :=
    within_wizchipRefreshSocketCaches (fun _ _ => trivial) b (fun _ _ _ => trivial)
      fun _ _ => trivial
  refine (wpv_bind _ _).2 (wpg_wizchipTransactionBegin fun g => (wpv_bind _ _).2 ?_)
  refine wpv_mono wpg_wizchipSwResetLocked (fun ret g c₁ h => ?_) fun _ _ => id
  refine (wpv_ite _ _ _).2 ⟨fun _ => wpg_spares (within_wizchipTransactionFinish _) h, fun _ => ?_⟩
  exact wpg_spares (within_bind caches fun _ => within_wizchipTransactionFinish _) h

lemma wpg_wizchipInit (txsize rxsize : Option (ℕ → ℕ)) :
    wpg chip (wizchipInit b txsize rxsize) (fun _ _ => Sound c) (fun _ => Sound c) g c := by
  simp only [wizchipInit, wpv_ite, wpv_pure]
  refine ⟨fun _ => sound_refl, fun _ => ⟨fun _ => sound_refl, fun _ => ?_⟩⟩
  refine (wpv_bind _ _).2 (wpg_wizchipTransactionBegin fun g => (wpv_bind _ _).2 ?_)
  refine wpv_mono (wpg_initLocked txsize rxsize) (fun ret g c₁ h => ?_) fun _ _ => id
  exact wpg_spares (within_wizchipTransactionFinish _) h

lemma wpg_call (call : Call) :
    wpg chip (call.run b) (fun _ _ => Sound c) (fun _ => Sound c) g c := by
  cases call with
  | swReset => exact wpg_wizchipSwReset
  | init txsize rxsize => exact wpg_wizchipInit txsize rxsize

end calls

/-- Over any calls of wizchip_sw_reset and wizchip_init, in each of which every register is left
alone or is read without failure and written back, the identity stays what it was. -/
theorem identity_kept {b : Build} {steps : List (Step Call Driver Chip ℤ)} {m m' : Driver}
    {c c' : Chip}
    (run : History (fun _ => chip.along Driver.toGlobals) (Call.run b) steps m c m' c')
    (kept : ∀ t ∈ steps, ∀ r, Keeps r (t.post.2.since t.pre.2)) :
    ∀ t ∈ steps, ∀ r, t.post.2.identity r = c.identity r := by
  induction run with
  | nil => exact fun t ht => absurd ht List.not_mem_nil
  | @call call a steps m c m₁ c₁ m' c' first rest ih =>
    have hfirst : ∀ r, c₁.identity r = c.identity r := fun r =>
      (wp_returns (wp_of_wpv (wpg_call call)) first).2 r (kept _ List.mem_cons_self r)
    intro t ht r
    rcases List.mem_cons.1 ht with rfl | ht
    · exact hfirst r
    · rw [ih (fun t ht => kept t (List.mem_cons_of_mem _ ht)) t ht r, hfirst r]
  | @running call m c m' c' last =>
    intro t ht r
    obtain rfl := List.mem_singleton.1 ht
    exact (wp_cuts (wp_of_wpv (wpg_call call)) last).2 r (kept _ List.mem_cons_self r)

/-- The common registers after a write that is carried out. -/
def took (common : ℕ → Byte) : Io → ℕ → Byte
  | .write8 a v =>
    if a = Reg.mr ∧ v &&& mrRST ≠ 0 then fun i => if 0 < i ∧ i < 0x13 then 0 else common i
    else if a.block = .common then put common a.offset [v] else common
  | .writeBuf a data => if a.block = .common then put common a.offset data else common
  | _ => common

lemma takes_took (common : ℕ → Byte) (e : Io) : Takes common e (took common e) := by
  cases e with
  | write8 a v =>
    by_cases h : a = Reg.mr ∧ v &&& mrRST ≠ 0
    · simp only [Takes, took, if_pos h]
      exact fun r => by cases r <;> rfl
    · simp only [Takes, took, if_neg h]
  | _ => rfl

/-- The chip after the transfer `e`. -/
def Chip.next (c : Chip) (e : Io) (failed : Bool) : Chip where
  common := if failed then c.common else took c.common e
  log := c.log ++ [⟨e, failed, !failed⟩]

/-- A chip that does not get the transfers numbered in `lost`, and answers the others. -/
def answering (lost : List ℕ) : Handler Driver Chip Io Io.Res := fun _ c e =>
  let failed := lost.contains c.log.length
  match e with
  | .read8 a => ((if a = Reg.versionr then 4 else 0, failed), c.next (.read8 a) failed)
  | .readBuf a len =>
    ((frameBytes len (bytes c.common a.offset len), failed), c.next (.readBuf a len) failed)
  | .write8 a v => (failed, c.next (.write8 a v) failed)
  | .writeBuf a data => (failed, c.next (.writeBuf a data) failed)
  | .now => (0, c)
  | .wait | .phyLink _ | .sockLock _ | .sockUnlock _ | .globalLock | .globalUnlock => ((), c)

lemma wrote_next (c : Chip) (e : Io) (failed : Bool) : Wrote c e failed (c.next e failed) := by
  cases failed with
  | false => exact ⟨true, fun _ => rfl, rfl, fun _ => takes_took _ _, nofun⟩
  | true => exact ⟨false, nofun, rfl, nofun, fun _ => rfl⟩

lemma common_next_read (c : Chip) {e : Io} (he : took c.common e = c.common) (failed : Bool) :
    c.next e failed = { c with log := c.log ++ [⟨e, failed, !failed⟩] } := by
  cases failed with
  | false => rw [Chip.next, if_neg Bool.false_ne_true, he]
  | true => rfl

lemma answering_allowed (lost : List ℕ) (m : Driver) (c : Chip) (e : Io) :
    chip.along Driver.toGlobals m c e (answering lost m c e).1 (answering lost m c e).2 := by
  cases e with
  | read8 a => exact common_next_read c rfl _
  | readBuf a len =>
    refine ⟨common_next_read c rfl _, fun _ _ => ?_⟩
    refine List.ext_getElem (by simp [length_bytes]) fun i _ hi => ?_
    simp [answering, frameBytes, byteAt, bytes]
  | write8 a v => exact wrote_next c _ _
  | writeBuf a data => exact wrote_next c _ _
  | _ => rfl

/-- Two resets of a chip whose registers are all 1. -/
@[irreducible] def resetTwice (lost : List ℕ) : List (Step Call Driver Chip ℤ) × Driver × Chip :=
  replay (fun _ => answering lost) (Call.run .oneTurn) [.swReset, .swReset]
    (Driver.boot 1000 1000) ⟨fun _ => 1, []⟩

lemma history_resetTwice (lost : List ℕ) :
    History (fun _ => chip.along Driver.toGlobals) (Call.run .oneTurn) (resetTwice lost).1
      (Driver.boot 1000 1000) ⟨fun _ => 1, []⟩ (resetTwice lost).2.1 (resetTwice lost).2.2 := by
  unfold resetTwice
  exact history_replay (fun _ => answering_allowed lost) _ _ _ _

/-- The first of the two resets fails at its second read, before it clears anything. -/
theorem identity_kept_retry : ∃ t ∈ (resetTwice [1]).1, t.result = some 0 ∧
    (t.post.2.since t.pre.2).any Transfer.resets ∧
    ∀ r, t.post.2.identity r = List.replicate r.len 1 := by
  have hlast : (resetTwice [1]).1.any fun t => decide (t.result = some 0) &&
      (t.post.2.since t.pre.2).any Transfer.resets := by
    unfold resetTwice
    decide +kernel
  have hkept : ∀ r ∈ [IdReg.shar, .gar, .subr, .sipr], ∀ t ∈ (resetTwice [1]).1,
      Keeps r (t.post.2.since t.pre.2) := by
    unfold resetTwice
    decide +kernel
  obtain ⟨t, ht, hres⟩ := List.any_eq_true.1 hlast
  obtain ⟨hok, hreset⟩ := Bool.and_eq_true_iff.1 hres
  refine ⟨t, ht, of_decide_eq_true hok, hreset, fun r => ?_⟩
  have hid : t.post.2.identity r = Chip.identity ⟨fun _ => 1, []⟩ r :=
    identity_kept (history_resetTwice [1]) (fun t ht r => hkept r (by cases r <;> simp) t ht) t ht r
  rw [hid]
  cases r <;> rfl

/-- The reset that loses the write of SHAR fails; the next one saves the cleared register, succeeds
and leaves it so. -/
theorem lost_address : ¬ ∀ (b : Build) (steps : List (Step Call Driver Chip ℤ)) (m m' : Driver)
    (c c' : Chip), History (fun _ => chip.along Driver.toGlobals) (Call.run b) steps m c m' c' →
      (∀ t, steps.getLast? = some t → t.result = some 0) →
      ∀ r, c'.identity r = c.identity r := by
  intro claim
  have hlast : ∀ t ∈ (resetTwice [6]).1.getLast?, t.result = some 0 := by
    unfold resetTwice
    decide +kernel
  have hcleared : (resetTwice [6]).2.2.identity .shar ≠ Chip.identity ⟨fun _ => 1, []⟩ .shar := by
    unfold resetTwice
    decide +kernel
  exact hcleared (claim _ _ _ _ _ _ (history_resetTwice [6]) hlast .shar)

end IoLibrary.Identity
