import IoLibrary.Driver
import IoLibrary.Effects.Sampling
import IoLibrary.RingMemory
import IoLibrary.Search

/-! peeksockmsg of the W6100 and the W6300 builds: a search of the received bytes through single
reads of the buffer. -/
namespace IoLibrary.Peek
open Effects RingMemory Search

section reads
variable (b : Build) (sn : ℕ)

def snRXRSR : Addr := ⟨0x0224, .socket sn⟩
def snRXRD : Addr := ⟨0x0228, .socket sn⟩

def wizchipRead (a : Addr) : Drv Byte := do
  let v ← ask (.read8 a)
  return v.1

def read16 (a : Addr) : Drv ℕ := do
  let high ← wizchipRead a
  let low ← wizchipRead { a with offset := a.offset + 1 }
  return word16 high low

def getSnRXRSR : Drv ℕ := repeated (read16 (snRXRSR sn)) b.turns 0

def getSnRXRD : Drv ℕ := read16 (snRXRD sn)

/-- The pass over the `n` bytes that are left, from the buffer address `rxPtr`; an address has 16 bits. -/
def peekLoop (submsg : List Byte) : (n rxPtr i subIdx : ℕ) → Drv (Option ℕ)
  | 0, _, _, _ => return none
  | n + 1, rxPtr, i, subIdx => do
    let v ← wizchipRead ⟨rxPtr % 65536, .rxBuf sn⟩
    if submsg[subIdx]? = some v then
      if subIdx + 1 = submsg.length then return some (i + 1 - (subIdx + 1))
      peekLoop submsg n (rxPtr + 1) (i + 1) (subIdx + 1)
    else peekLoop submsg n (rxPtr + 1) (i + 1) 0

/-- The result is an int16_t. -/
def int16 (i : ℕ) : ℤ := (BitVec.ofNat 16 i).toInt

/-- peeksockmsg; the length of `submsg` is `subsize`. -/
def peeksockmsg (submsg : List Byte) : Drv ℤ := do
  let available ← getSnRXRSR b sn
  if available > 0 ∧ submsg.length > 0 then
    let rd ← getSnRXRD sn
    match ← peekLoop sn submsg available rd 0 0 with
    | some i => return int16 i
    | none => return -1
  else return -1

end reads

/-- The chip is the memory behind its addresses, which wrap within a block. -/
def memory : Handler Driver (Addr → Byte) Io Io.Res := fun _ mem e =>
  match e with
  | .read8 a => ((mem a, false), mem)
  | .write8 a v => (false, Function.update mem a v)
  | .readBuf a _ => ((.ofFn fun i => mem { a with offset := (a.offset + i) % 65536 }, false), mem)
  | .writeBuf a data => (false, fun a' =>
      if a'.block = a.block then store 65536 (fun o => mem ⟨o, a.block⟩) a.offset data a'.offset else mem a')
  | .now => (0, mem)
  | .wait | .phyLink _ | .sockLock _ | .sockUnlock _ | .globalLock | .globalUnlock => ((), mem)

def value16 (mem : Addr → Byte) (a : Addr) : ℕ := word16 (mem a) (mem { a with offset := a.offset + 1 })

/-- The received bytes of a socket. -/
def received (mem : Addr → Byte) (sn : ℕ) : List Byte :=
  window 65536 (fun o => mem ⟨o, .rxBuf sn⟩) (value16 mem (snRXRD sn)) (value16 mem (snRXRSR sn))

/-- What a search of `c` for `p` gives: the first offset, or -1. -/
structure Peeked (p c : List Byte) (r : ℤ) : Prop where
  found : ∀ i, FirstAt p c i → r = i
  missing : r = -1 ↔ ∀ i, ¬ OccursAt p c i

section peek
variable {b : Build} {sn : ℕ} {m : Driver} {mem : Addr → Byte} {p c : List Byte}

lemma exec_wizchipRead (a : Addr) : exec memory (wizchipRead a) m mem = (some (mem a), m, mem) := rfl

lemma exec_read16 (a : Addr) : exec memory (read16 a) m mem = (some (value16 mem a), m, mem) := rfl

lemma exec_getSnRXRSR (hb : 2 ≤ b.turns) :
    exec memory (getSnRXRSR b sn) m mem = (some (value16 mem (snRXRSR sn)), m, mem) := by
  have hread : Samples memory m (fun _ => mem) (fun _ => value16 mem (snRXRSR sn)) (read16 (snRXRSR sn)) :=
    fun _ => exec_read16 _
  obtain ⟨n, hn⟩ := Nat.exists_eq_add_of_le' hb
  rw [getSnRXRSR, hn]
  by_cases hzero : value16 mem (snRXRSR sn) = 0
  · exact repeated_leave hread (k := 0) _ hzero
  · exact (repeated_again hread (k := 0) _ hzero).trans (repeated_leave hread (k := 1) _ rfl)

/-- The loop is the pass over the bytes that are left. -/
lemma exec_peekLoop (n ptr i k : ℕ) : exec memory (peekLoop sn p n ptr i k) m mem =
    (some (scan p k i (window 65536 (fun o => mem ⟨o, .rxBuf sn⟩) ptr n)), m, mem) := by
  induction n generalizing ptr i k with
  | zero => rfl
  | succ n ih =>
    rw [window_cons, scan, peekLoop]
    refine (exec_bind (exec_wizchipRead _)).trans ?_
    split
    · split
      · rfl
      · exact ih _ _ _
    · exact ih _ _ _

def outcome : Option ℕ → ℤ
  | some i => int16 i
  | none => -1

lemma exec_peeksockmsg (hb : 2 ≤ b.turns) (hp : p ≠ []) : exec memory (peeksockmsg b sn p) m mem =
    (some (outcome (scan p 0 0 (received mem sn))), m, mem) := by
  have hlen : 0 < p.length := List.length_pos_iff.2 hp
  refine (exec_bind (exec_getSnRXRSR hb)).trans ?_
  split
  · refine (exec_bind (exec_read16 _)).trans ((exec_bind (exec_peekLoop _ _ _ _)).trans ?_)
    rw [received]
    cases scan p 0 0 _ with
    | some i => rfl
    | none => rfl
  · next hempty =>
    have hzero : value16 mem (snRXRSR sn) = 0 := by omega
    rw [received, hzero]
    rfl

lemma int16_eq {i : ℕ} (hi : i < 2 ^ 16) : int16 i = if i < 2 ^ 15 then (i : ℤ) else i - 2 ^ 16 := by
  rw [int16, BitVec.toInt_ofNat']
  split
  · exact Int.bmod_eq_of_le (by omega) (by omega)
  · rw [Int.bmod]
    split <;> omega

lemma occursAt_lt {i : ℕ} (hp : p ≠ []) (h : OccursAt p (received mem sn) i) : i < 2 ^ 16 - 1 := by
  obtain ⟨before, after, hsplit, rfl⟩ := (occursAt_iff hp).1 h
  have hlen := congrArg List.length hsplit
  have hlt : value16 mem (snRXRSR sn) < 65536 := word16_lt _ _
  have hpos : 0 < p.length := List.length_pos_iff.2 hp
  simp [received] at hlen
  omega

/-- The first place, if there is one, is below 32768 and failed attempts lead up to it. -/
def LedTo (p c : List Byte) : Prop := ∀ i, FirstAt p c i → i < 2 ^ 15 ∧ Attempts p (c.take i)

/-- It searches right exactly where nothing hides the first place; it never writes. -/
theorem peeked_iff (hb : 2 ≤ b.turns) (hp : p ≠ []) :
    (∃ r, exec memory (peeksockmsg b sn p) m mem = (some r, m, mem) ∧ Peeked p (received mem sn) r) ↔
      LedTo p (received mem sn) := by
  have short {i : ℕ} (hi : OccursAt p (received mem sn) i) : i < 2 ^ 16 := Nat.lt_of_lt_of_le (occursAt_lt hp hi) (by decide)
  have led {i : ℕ} (h : LedTo p (received mem sn)) (hi : FirstAt p (received mem sn) i) :
      outcome (scan p 0 0 (received mem sn)) = i := by
    rw [(scan_iff hp).2 ⟨hi.1, (h i hi).2⟩, outcome, int16_eq (short hi.1), if_pos (h i hi).1]
  rw [exec_peeksockmsg hb hp]
  constructor
  · rintro ⟨r, hr, hfound, -⟩ i hi
    obtain rfl : outcome (scan p 0 0 (received mem sn)) = r := by simpa using hr
    have hres := hfound i hi
    cases hscan : scan p 0 0 (received mem sn) with
    | none =>
      rw [hscan, outcome] at hres
      omega
    | some j =>
      obtain ⟨hj, hbefore⟩ := (scan_iff hp).1 hscan
      have hjlt := occursAt_lt hp hj
      have hilt := short hi.1
      rw [hscan, outcome, int16_eq (short hj)] at hres
      split at hres
      · obtain rfl : j = i := by omega
        exact ⟨by omega, hbefore⟩
      · omega
  · intro h
    refine ⟨_, rfl, fun i hi => led h hi, fun hres i hi => ?_, fun hnone => ?_⟩
    · obtain ⟨j, hj⟩ := hi.exists_first
      have hfirst := led h hj
      omega
    · cases hscan : scan p 0 0 (received mem sn) with
      | none => rfl
      | some j => exact absurd ((scan_iff hp).1 hscan).1 (hnone j)

end peek

/-- A chip on whose socket 0 these bytes have been received. -/
def holding (bytes : List Byte) (a : Addr) : Byte :=
  if a = ⟨0x0225, .socket 0⟩ then BitVec.ofNat 8 bytes.length
  else if a.block = .rxBuf 0 then byteAt bytes a.offset
  else 0

/-- WIZCHIP_SAFE_SPI, with loops cut after two turns. -/
def twoTurns : Build := ⟨true, 2, Nat.two_pos⟩

theorem peeked_iff_aab : (∃ r, exec memory (peeksockmsg twoTurns 0 [97, 97, 98]) (Driver.boot 0 0) (holding [97, 97, 98]) =
      (some r, Driver.boot 0 0, holding [97, 97, 98]) ∧ Peeked [97, 97, 98] (received (holding [97, 97, 98]) 0) r) ↔
    LedTo [97, 97, 98] (received (holding [97, 97, 98]) 0) :=
  peeked_iff (by decide) (by decide)

/-- aab in aaab: the first attempt takes aa and fails on the third a, with which the next could go on. -/
theorem aab_missed : ¬ ∀ (b : Build) (sn : ℕ) (m : Driver) (mem : Addr → Byte) (p : List Byte), 2 ≤ b.turns → p ≠ [] →
    ∃ r, exec memory (peeksockmsg b sn p) m mem = (some r, m, mem) ∧ Peeked p (received mem sn) r := by
  intro claim
  obtain ⟨r, hr, -, hmissing⟩ := claim twoTurns 0 (Driver.boot 0 0) (holding [97, 97, 97, 98]) [97, 97, 98]
    (by decide) (by decide)
  have hnone : scan [97, 97, 98] 0 0 (received (holding [97, 97, 97, 98]) 0) = none := by decide
  rw [exec_peeksockmsg (by decide) (by decide), hnone] at hr
  obtain rfl : -1 = r := by simpa [outcome] using hr
  exact hmissing.1 rfl 1 (by decide)

end IoLibrary.Peek
