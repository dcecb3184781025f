import IoLibrary.Effects.Sampling
import IoLibrary.W5300.Socket

/-! getSn_TX_FSR and getSn_RX_RSR of the builds that read a size register until it is stable
without a bound: what they do on every sequence of values of the register. -/
namespace IoLibrary.SizeReads
open Effects

inductive Chip
  | w5100
  | w5200
  | w5300
  | w6100
  | w6300
  deriving DecidableEq, Repr

inductive Size
  | txFsr
  | rxRsr
  deriving DecidableEq, Repr

def Chip.width : Chip → ℕ
  | .w5300 => 32
  | _ => 16

section reads
variable (sn : ℕ)

/-- Sn_TX_FSR and Sn_RX_RSR -/
def Chip.reg : Chip → Size → Addr
  | .w5100, .txFsr => ⟨0x0400 + 0x0100 * sn + 0x0020, .common⟩
  | .w5100, .rxRsr => ⟨0x0400 + 0x0100 * sn + 0x0026, .common⟩
  | .w5200, .txFsr => ⟨0x4000 + 0x0100 * sn + 0x0020, .common⟩
  | .w5200, .rxRsr => ⟨0x4000 + 0x0100 * sn + 0x0026, .common⟩
  | .w5300, .txFsr => W5300.snTXFSR sn 0
  | .w5300, .rxRsr => W5300.snRXRSR sn 0
  | .w6100, .txFsr | .w6300, .txFsr => ⟨0x0204, .socket sn⟩
  | .w6100, .rxRsr | .w6300, .rxRsr => ⟨0x0224, .socket sn⟩

/-- A WIZCHIP_READ of the register and one of the next offset. -/
def readWord (a : Addr) : Drv (BitVec 16) := do
  let high ← ask (.read8 a)
  let low ← ask (.read8 { a with offset := a.offset + 1 })
  return high.1 ++ low.1

def readLong (a a' : Addr) : Drv (BitVec 32) := do
  let high ← W5300.wizchipRead a
  let low ← W5300.wizchipRead a'
  return high ++ low

variable (b : Build)

/-- getSn_TX_FSR -/
def getSnTXFSR : (chip : Chip) → Drv (BitVec chip.width)
  | .w5100 => paired (readWord (Chip.w5100.reg sn .txFsr)) b.turns 0
  | .w5200 => paired (readWord (Chip.w5200.reg sn .txFsr)) b.turns 0
  | .w5300 => W5300.getSnTXFSR b sn
  | .w6100 => repeated (readWord (Chip.w6100.reg sn .txFsr)) b.turns 0
  | .w6300 => repeated (readWord (Chip.w6300.reg sn .txFsr)) b.turns 0

/-- getSn_RX_RSR -/
def getSnRXRSR : (chip : Chip) → Drv (BitVec chip.width)
  | .w5100 => paired (readWord (Chip.w5100.reg sn .rxRsr)) b.turns 0
  | .w5200 => paired (readWord (Chip.w5200.reg sn .rxRsr)) b.turns 0
  | .w5300 => W5300.getSnRXRSR b sn
  | .w6100 => repeated (readWord (Chip.w6100.reg sn .rxRsr)) b.turns 0
  | .w6300 => repeated (readWord (Chip.w6300.reg sn .rxRsr)) b.turns 0

def getSize (chip : Chip) : Size → Drv (BitVec chip.width)
  | .txFsr => getSnTXFSR sn b chip
  | .rxRsr => getSnRXRSR sn b chip

/-- The byte that PACK_FIFOBYTE stands for. -/
def carried (m : Driver) : BitVec 32 := if (m.sock sn).packInfo &&& W5300.packFifobyte ≠ 0 then 1 else 0

lemma getSnTXFSR_w5300 : W5300.getSnTXFSR b sn =
    repeated (readLong (W5300.snTXFSR sn 0) (W5300.snTXFSR sn 2)) b.turns 1 := by
  simp only [W5300.getSnTXFSR, repeated, readLong, bind_assoc, pure_bind]

lemma getSnRXRSR_w5300 : W5300.getSnRXRSR b sn = do
    let r ← repeated (readLong (W5300.snRXRSR sn 0) (W5300.snRXRSR sn 2)) b.turns 1
    let m ← Prog.get
    return r + carried sn m := by
  simp only [W5300.getSnRXRSR, carried, repeated, readLong, bind_assoc, pure_bind]

end reads

/-- A chip whose size register has the value `v k` at its complete read `k`. The state counts the
bus cycles, of which each complete read takes two. -/
def register {n : ℕ} (v : ℕ → BitVec n) : Handler Driver ℕ Io Io.Res := fun _ cycle e =>
  match e with
  | .read8 _ => ((half 8 cycle, false), cycle + 1)
  | .readBuf _ len => ((frameBytes len [(half 16 cycle).extractLsb' 8 8, (half 16 cycle).extractLsb' 0 8], false), cycle + 1)
  | .write8 _ _ | .writeBuf _ _ => (false, cycle)
  | .now => (0, cycle)
  | .wait | .phyLink _ | .sockLock _ | .sockUnlock _ | .globalLock | .globalUnlock => ((), cycle)
where
  half (w cycle : ℕ) : BitVec w := (v (cycle / 2)).extractLsb' (if cycle % 2 = 0 then w else 0) w

/-- A value is put together again from its halves. -/
lemma halves (w : ℕ) (x : BitVec (w + w)) : x.extractLsb' w w ++ x.extractLsb' 0 w = x := by
  apply BitVec.eq_of_getLsbD_eq
  intro i hi
  rw [BitVec.getLsbD_append, BitVec.getLsbD_extractLsb', BitVec.getLsbD_extractLsb']
  split
  · next h => simp [h]
  · next h => rw [show w + (i - w) = i by omega, decide_eq_true (show i - w < w by omega), Bool.true_and]

lemma register_wizchipRead {n : ℕ} (v : ℕ → BitVec n) (m : Driver) (cycle : ℕ) (a : Addr) :
    exec (register v) (W5300.wizchipRead a) m cycle =
      (some (register.half v 16 cycle), m, cycle + 1) := by
  have bytes : ((register.half v 16 cycle).extractLsb' 8 8 ++ (register.half v 16 cycle).extractLsb' 0 8 : BitVec 16) =
      register.half v 16 cycle := halves 8 _
  refine Eq.trans ?_ (congrArg (fun x => (some x, m, cycle + 1)) bytes)
  rfl

lemma half_even {n : ℕ} (v : ℕ → BitVec n) (w k : ℕ) : register.half v w (2 * k) = (v k).extractLsb' w w := by
  rw [register.half, if_pos (Nat.mul_mod_right 2 k), Nat.mul_div_cancel_left k Nat.two_pos]

lemma half_odd {n : ℕ} (v : ℕ → BitVec n) (w k : ℕ) :
    register.half v w (2 * k + 1) = (v k).extractLsb' 0 w := by
  rw [register.half, if_neg (by omega), show (2 * k + 1) / 2 = k by omega]

lemma samples_readWord (v : ℕ → BitVec 16) (m : Driver) (a : Addr) :
    Samples (register v) m (2 * ·) v (readWord a) := by
  intro k
  have word : (register.half v 8 (2 * k) ++ register.half v 8 (2 * k + 1) : BitVec 16) = v k := by
    rw [half_even, half_odd]
    exact halves 8 (v k)
  refine Eq.trans ?_ (congrArg (fun x => (some x, m, 2 * k + 2)) word)
  rfl

lemma samples_readLong (v : ℕ → BitVec 32) (m : Driver) (a a' : Addr) :
    Samples (register v) m (2 * ·) v (readLong a a') := by
  intro k
  have long : (register.half v 16 (2 * k) ++ register.half v 16 (2 * k + 1) : BitVec 32) = v k := by
    rw [half_even, half_odd]
    exact halves 16 (v k)
  refine (exec_bind (register_wizchipRead v m (2 * k) a)).trans ?_
  refine (exec_bind (register_wizchipRead v m (2 * k + 1) a')).trans ?_
  refine Eq.trans ?_ (congrArg (fun x => (some x, m, 2 * k + 2)) long)
  rfl

/-- On the register with the values `v`, a read of it ends once they stay the same, and returns
a value, and `carried` with it, that it has seen in two complete reads in a row. -/
structure Stable {n : ℕ} (read : Build → Drv (BitVec n)) (m : Driver) (v : ℕ → BitVec n) (carried : BitVec n) :
    Prop where
  ends : (∃ c N, ∀ k ≥ N, v k = c) → ∃ turns, ∀ b : Build, turns ≤ b.turns →
    ∃ x, (exec (register v) (read b) m 0).1 = some x
  agreed : ∀ b x, (exec (register v) (read b) m 0).1 = some x →
    ∃ k, 2 * (k + 2) ≤ (exec (register v) (read b) m 0).2.2 ∧ v k = v (k + 1) ∧ x = v k + carried

section stable
variable {n : ℕ} {v : ℕ → BitVec n} {m : Driver} {read : Drv (BitVec n)}

lemma Stable.not_first {p : Build → Drv (BitVec n)} {carried x : BitVec n} (h : Stable p m v carried)
    (hrun : exec (register v) (p .oneTurn) m 0 = (some x, m, 2)) : False := by
  obtain ⟨k, hk, -⟩ := h.agreed .oneTurn x (by rw [hrun])
  rw [hrun] at hk
  change 2 * (k + 2) ≤ 2 at hk
  omega

lemma stable_repeated (hread : Samples (register v) m (2 * ·) v read) (start : BitVec n) :
    Stable (fun b => repeated read b.turns start) m v 0 ↔ v 0 ≠ start := by
  constructor
  · intro h hstart
    exact h.not_first (repeated_leave hread 0 hstart)
  · intro hstart
    refine ⟨fun ⟨c, N, hconst⟩ => ⟨N + 2, fun b hb => ?_⟩, fun b x hx => ?_⟩
    · have hagree : v (N + 1) = v N := (hconst _ (Nat.le_succ N)).trans (hconst N (Nat.le_refl N)).symm
      exact repeated_ends hread (k := 0) (Nat.zero_le N) hagree (by omega)
    · obtain ⟨turns, hturns⟩ := Nat.exists_eq_add_one.2 b.turns_pos
      rw [hturns, repeated_again hread turns hstart] at hx ⊢
      obtain ⟨j, -, hend, rfl, hnext⟩ := repeated_agrees hread (Prod.ext hx rfl)
      exact ⟨j, Nat.le_of_eq hend.symm, hnext.symm, (BitVec.add_zero _).symm⟩

lemma stable_paired (hread : Samples (register v) m (2 * ·) v read) :
    Stable (fun b => paired read b.turns 0) m v 0 ↔ v 0 ≠ 0 ∧ ¬ Starved v := by
  constructor
  · intro h
    have hfirst : v 0 ≠ 0 := fun hzero => h.not_first (paired_zero hread 0 hzero)
    refine ⟨hfirst, fun hstarved => ?_⟩
    obtain ⟨last, -, -, hafter, -⟩ := id hstarved
    obtain ⟨turns, hends⟩ := h.ends ⟨0, last + 1, fun k hk => hafter k hk⟩
    obtain ⟨x, hx⟩ := hends ⟨true, turns + 1, Nat.succ_pos turns⟩ (Nat.le_succ turns)
    rw [paired_run_starved hread hfirst hstarved] at hx
    cases hx
  · rintro ⟨hfirst, hfed⟩
    refine ⟨fun ⟨c, N, hconst⟩ => ⟨N + 2, fun b hb => ?_⟩, fun b x hx => ?_⟩
    · exact paired_run_ends hread hfirst hconst hfed hb
    · obtain ⟨j, hend, rfl, hnext⟩ := paired_run_agrees hread hfirst (Prod.ext hx rfl)
      exact ⟨j, Nat.le_of_eq hend.symm, hnext.symm, (BitVec.add_zero _).symm⟩

end stable

/-- The byte that a size has on top of its register. -/
def Chip.extra (sn : ℕ) (m : Driver) : (chip : Chip) → Size → BitVec chip.width
  | .w5300, .rxRsr => carried sn m
  | _, _ => 0

/-- When the reads are stable: the first value is not the one that the loop starts from, and on the
W5100 and the W5200 no second value of a pair is kept while the register stays zero. -/
def Chip.Steady : (chip : Chip) → (ℕ → BitVec chip.width) → Prop
  | .w5100, v | .w5200, v => v 0 ≠ 0 ∧ ¬ Starved v
  | .w5300, v => v 0 ≠ 1
  | .w6100, v | .w6300, v => v 0 ≠ 0

lemma stable_carried (sn : ℕ) (v : ℕ → BitVec 32) (m : Driver) :
    Stable (fun b => W5300.getSnRXRSR b sn) m v (carried sn m) ↔ v 0 ≠ 1 := by
  have hread := samples_readLong v m (W5300.snRXRSR sn 0) (W5300.snRXRSR sn 2)
  have run (b : Build) : exec (register v) (W5300.getSnRXRSR b sn) m 0 =
      ((exec (register v) (repeated (readLong (W5300.snRXRSR sn 0) (W5300.snRXRSR sn 2)) b.turns 1) m 0).1.map
          (· + carried sn m),
        (exec (register v) (repeated (readLong (W5300.snRXRSR sn 0) (W5300.snRXRSR sn 2)) b.turns 1) m 0).2) := by
    rw [getSnRXRSR_w5300]
    refine (exec_get_map _ fun m r => r + carried sn m).trans ?_
    rw [repeated_mem (k := 0) hread]
  refine Iff.trans ⟨fun h => ?_, fun h => ?_⟩ (stable_repeated hread 1)
  · refine ⟨fun hconst => ?_, fun b x hx => ?_⟩
    · obtain ⟨turns, hends⟩ := h.ends hconst
      refine ⟨turns, fun b hb => ?_⟩
      obtain ⟨x, hx⟩ := hends b hb
      rw [run] at hx
      obtain ⟨r, hr, -⟩ := Option.map_eq_some_iff.1 hx
      exact ⟨r, hr⟩
    · obtain ⟨k, hk, hagree, hsum⟩ := h.agreed b (x + carried sn m) (by rw [run, hx]; rfl)
      rw [run] at hk
      exact ⟨k, hk, hagree, ((BitVec.add_left_inj _).1 hsum).trans (BitVec.add_zero _).symm⟩
  · refine ⟨fun hconst => ?_, fun b x hx => ?_⟩
    · obtain ⟨turns, hends⟩ := h.ends hconst
      refine ⟨turns, fun b hb => ?_⟩
      obtain ⟨x, hx⟩ := hends b hb
      exact ⟨_, by rw [run, hx]; rfl⟩
    · rw [run] at hx ⊢
      obtain ⟨r, hr, rfl⟩ := Option.map_eq_some_iff.1 hx
      obtain ⟨k, hk, hagree, hsum⟩ := h.agreed b r hr
      exact ⟨k, hk, hagree, congrArg (· + carried sn m) (hsum.trans (BitVec.add_zero _))⟩

/-- For every sequence of values of the register. -/
theorem stable_iff (chip : Chip) (size : Size) (sn : ℕ) (m : Driver) (v : ℕ → BitVec chip.width) :
    Stable (fun b => getSize sn b chip size) m v (chip.extra sn m size) ↔ chip.Steady v := by
  cases chip with
  | w5100 => cases size <;> exact stable_paired (samples_readWord v m _)
  | w5200 => cases size <;> exact stable_paired (samples_readWord v m _)
  | w5300 =>
    cases size with
    | txFsr =>
      simp only [getSize, getSnTXFSR, getSnTXFSR_w5300]
      exact stable_repeated (samples_readLong v m _ _) 1
    | rxRsr => exact stable_carried sn v m
  | w6100 => cases size <;> exact stable_repeated (samples_readWord v m _) 0
  | w6300 => cases size <;> exact stable_repeated (samples_readWord v m _) 0

/-- A size that is 5, then 7 and then 0. -/
def drained : ℕ → BitVec 16
  | 0 => 5
  | 1 => 7
  | _ => 0

/-- Once the size is zero the first samples stay zero and the second one stays 7. -/
lemma starved_drained : Starved drained := by
  refine ⟨1, ⟨id, by decide⟩, by decide, fun j hj => ?_, fun j hj => ?_⟩
  · obtain ⟨i, rfl⟩ := Nat.exists_eq_add_of_le' hj
    rfl
  · rcases Nat.le_one_iff_eq_zero_or_eq_one.1 hj with rfl | rfl
    · exact fun h : drained 0 = 0 => absurd h (by decide)
    · exact fun h => absurd h.1 (by decide)

theorem size_read_hangs : ¬ ∀ (chip : Chip) (size : Size) (sn : ℕ) (m : Driver) (v : ℕ → BitVec chip.width),
    Stable (fun b => getSize sn b chip size) m v (chip.extra sn m size) := by
  intro claim
  have hstable : Stable (fun b => paired (readWord (Chip.w5100.reg 0 .txFsr)) b.turns 0) (Driver.boot 0 0)
      drained 0 := claim .w5100 .txFsr 0 (Driver.boot 0 0) drained
  exact ((stable_paired (samples_readWord drained (Driver.boot 0 0) _)).1 hstable).2 starved_drained

end IoLibrary.SizeReads
