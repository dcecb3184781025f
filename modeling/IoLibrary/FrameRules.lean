import IoLibrary.Effects.View
import IoLibrary.Transport

/-! Rules for the checked transfers that tell a noticed failure from one that is not. -/
namespace IoLibrary
open Effects

/-- The frame answers a failure. -/
def Failed : (e : Io) → e.Res → Prop
  | .read8 _, x | .readBuf _ _, x => x.2 = true
  | .write8 _ _, x | .writeBuf _ _, x => x = true
  | _, _ => False

/-- After this frame the build looks at the status. -/
def Noticed (b : Build) (m : Driver) : Io → Prop
  | .read8 _ | .readBuf _ _ => b.safeSpi = true ∨ m.transportHealthy = false
  | .write8 _ _ | .writeBuf _ _ => b.safeSpi = true
  | _ => False

def Driver.spiFaulted (m : Driver) : Driver :=
  { m with chipState := .faulted, chipLastError := sockerrIo }

def Driver.health (m : Driver) (healthy : Bool) : Driver := { m with transportHealthy := healthy }

variable {W : Type} {env : Env Driver W Io Io.Res} {H : Driver → W → Prop} {m : Driver} {w : W}

lemma wp_readStatus {Q : ℤ → Driver → W → Prop} (b : Build) (a : Addr) (fault : Bool)
    (passed : ¬ (fault = true ∧ Noticed b m (.read8 a)) → ∀ healthy, Q 0 (m.health healthy) w)
    (caught : fault = true → Noticed b m (.read8 a) → Q sockerrIo m.spiFaulted w) :
    wp env (readStatus b fault) Q H m w := by
  have same : m = m.health m.transportHealthy := rfl
  unfold readStatus
  cases hs : b.safeSpi with
  | true =>
    simp only [if_true, wp_ite, wizchipSpiFault, wp_bind, wp_modify, wp_pure]
    refine ⟨fun hf => caught hf (.inl hs), fun hf => ?_⟩
    rw [same]
    exact passed (fun h => hf h.1) _
  | false =>
    simp only [Bool.false_eq_true, if_false, wp_bind, wp_get, wp_ite, wizchipSpiFault, wp_modify,
      wp_pure]
    refine ⟨fun hm => ?_, fun hm => ⟨fun hf => ?_, fun hf => ?_⟩⟩
    · rw [same]
      refine passed (fun h => ?_) _
      rcases h.2 with hsafe | hhealth
      · exact absurd (hs.symm.trans hsafe) (by decide)
      · exact absurd (hm.symm.trans hhealth) (by decide)
    · exact caught hf (.inr (by simpa using hm))
    · exact passed (fun h => hf h.1) true

/-- The rule for a checked read: a failure is noticed, or the call passes. -/
lemma wp_wizchipRead8CheckedOut {Q : ℤ × Byte → Driver → W → Prop} (b : Build) (a : Addr)
    (h : ∀ x w', env m w (.read8 a) x w' →
      (¬ (x.2 = true ∧ Noticed b m (.read8 a)) → ∀ healthy, Q (0, x.1) (m.health healthy) w') ∧
        (x.2 = true → Noticed b m (.read8 a) → Q (sockerrIo, x.1) m.spiFaulted w')) :
    wp env (wizchipRead8CheckedOut b a) Q H m w := by
  simp only [wizchipRead8CheckedOut, wp_bind, wp_perform, wp_pure]
  exact fun x w' hx => wp_readStatus b a x.2 (h x w' hx).1 (h x w' hx).2

lemma wp_wizchipReadBufChecked {Q : ℤ × List Byte → Driver → W → Prop} (b : Build) (a : Addr)
    {len : ℕ} (hlen : len ≠ 0)
    (h : ∀ x w', env m w (.readBuf a len) x w' →
      (¬ (x.2 = true ∧ Noticed b m (.readBuf a len)) →
        ∀ healthy, Q (0, x.1.toList) (m.health healthy) w') ∧
      (x.2 = true → Noticed b m (.readBuf a len) → Q (sockerrIo, x.1.toList) m.spiFaulted w')) :
    wp env (wizchipReadBufChecked b a len) Q H m w := by
  simp only [wizchipReadBufChecked, hlen, if_false, wp_bind, wp_perform, wp_pure]
  exact fun x w' hx => wp_readStatus b a x.2 (h x w' hx).1 (h x w' hx).2

lemma wp_wizchipRead16Value {Q : ℕ → Driver → W → Prop} (b : Build) (a : Addr)
    (h : ∀ x w', env m w (.readBuf a 2) x w' →
      (¬ (x.2 = true ∧ Noticed b m (.readBuf a 2)) →
        ∀ healthy, Q (word16 (getElem x.1 0 Nat.zero_lt_two) (getElem x.1 1 Nat.one_lt_two))
          (m.health healthy) w') ∧
      (x.2 = true → Noticed b m (.readBuf a 2) → Q 0 m.spiFaulted w')) :
    wp env (wizchipRead16Value b a) Q H m w := by
  simp only [wizchipRead16Value, wizchipRead16, wp_bind, wp_perform, wp_pure]
  refine fun x w' hx => wp_readStatus b a x.2 (fun hok healthy => ?_) fun hf hn => ?_
  · rw [if_pos rfl]
    exact (h x w' hx).1 hok healthy
  · rw [if_neg (by decide)]
    exact (h x w' hx).2 hf hn

lemma wp_writeStatus {Q : ℤ → Driver → W → Prop} (b : Build) (fault : Bool)
    (passed : ¬ (fault = true ∧ b.safeSpi = true) → Q 0 m w)
    (caught : fault = true → b.safeSpi = true → Q sockerrIo m.spiFaulted w) :
    wp env (writeStatus b fault) Q H m w := by
  unfold writeStatus
  split
  · next h => exact caught h.2 h.1
  · next h => exact passed fun h' => h h'.symm

/-- The rule for a checked write. The frame is made from a memory that does not know the
transport to be healthy. -/
lemma wp_wizchipWrite8Checked {Q : ℤ → Driver → W → Prop} (b : Build) (a : Addr) (v : Byte)
    (h : ∀ x w', env (m.health false) w (.write8 a v) x w' →
      (¬ (x = true ∧ b.safeSpi = true) → Q 0 (m.health false) w') ∧
        (x = true → b.safeSpi = true → Q sockerrIo (m.health false).spiFaulted w')) :
    wp env (wizchipWrite8Checked b a v) Q H m w := by
  simp only [wizchipWrite8Checked, wp_bind, wp_modify, wp_perform]
  exact fun x w' hx => wp_writeStatus b x (h x w' hx).1 (h x w' hx).2

lemma wp_wizchipWriteBufChecked {Q : ℤ → Driver → W → Prop} (b : Build) (a : Addr)
    {data : List Byte} (hdata : data ≠ [])
    (h : ∀ x w', env (m.health false) w (.writeBuf a data) x w' →
      (¬ (x = true ∧ b.safeSpi = true) → Q 0 (m.health false) w') ∧
        (x = true → b.safeSpi = true → Q sockerrIo (m.health false).spiFaulted w')) :
    wp env (wizchipWriteBufChecked b a data) Q H m w := by
  simp only [wizchipWriteBufChecked, hdata, if_false, wp_bind, wp_modify, wp_perform]
  exact fun x w' hx => wp_writeStatus b x (h x w' hx).1 (h x w' hx).2

end IoLibrary
