import IoLibrary.Dns.RoundTrip
import IoLibrary.Effects.Program
import Mathlib.Data.Int.Basic

/-! parse_name turn by turn: when it ends, what it writes and which names it reads. -/
namespace IoLibrary.Dns
open Effects

/-- The variables of parse_name; `buf` is what has been written to the buffer. -/
structure Scan where
  cp : ℕ
  len : ℤ
  clen : ℕ
  indirect : Bool
  nseg : ℕ
  buf : List Byte

/-- What is written behind the last label: the NUL, with a dot before it for the root. -/
def nameEnd (nseg : ℕ) : List Byte := if nseg = 0 then [dot, 0] else [0]

/-- One turn of the loop of parse_name, up to its result. len is an int16_t. -/
def Scan.turn (msg : Mem) (s : Scan) : Prog.Turn Scan (ℤ × List Byte) :=
  let (slen, next, followed) := segment msg s.cp
  let clen := if s.indirect then s.clen else if followed then s.clen + 2 else s.clen + 1
  let indirect := s.indirect || followed
  if slen = 0 then .leave (clen, s.buf ++ nameEnd s.nseg)
  else
    let len := Int.bmod (s.len - (slen + 1)) (2 ^ 16)
    if len < 0 then .leave (-1, s.buf)
    else .again
      { cp := next + slen
        len := len
        clen := if indirect then clen else clen + slen
        indirect := indirect
        nseg := s.nseg + 1
        buf := s.buf ++ msg.slice next slen ++ [dot] }

/-- What parse_name returns and has written after at most `turns` turns; none if it still runs. -/
def Scan.run (msg : Mem) : ℕ → Scan → Option (ℤ × List Byte)
  | 0, _ => none
  | turns + 1, s =>
    match s.turn msg with
    | .leave ret => some ret
    | .again s => Scan.run msg turns s

def nameScan (compressed : ℕ) (len : ℤ) : Scan := ⟨compressed, len, 0, false, 0, []⟩

/-- The budget of an int16_t. -/
structure Scan.Budget (s : Scan) : Prop where
  nonneg : 0 ≤ s.len
  upper : s.len ≤ 32767

section turns
variable {msg : Mem} {s : Scan}

lemma segment_lt (msg : Mem) (cp : ℕ) : (segment msg cp).1 < 256 := by
  rw [segment]
  split_ifs
  · exact (msg _).isLt
  · exact (msg _).isLt

/-- Where a label is read, the budget does not wrap around. -/
lemma Scan.Budget.bmod (h : s.Budget) (slen : ℕ) (hslen : slen < 256) :
    Int.bmod (s.len - (slen + 1)) (2 ^ 16) = s.len - (slen + 1) := by
  obtain ⟨hnonneg, hupper⟩ := h
  apply Int.bmod_eq_of_le <;> omega

/-- What one turn does: the name ends, the budget is used up, or a label is written. -/
lemma Scan.Budget.turn (msg : Mem) (h : s.Budget) :
    ((segment msg s.cp).1 = 0 ∧ ∃ clen : ℕ, s.turn msg = .leave (clen, s.buf ++ nameEnd s.nseg)) ∨
    ((segment msg s.cp).1 ≠ 0 ∧ s.len < (segment msg s.cp).1 + 1 ∧ s.turn msg = .leave (-1, s.buf)) ∨
    ((segment msg s.cp).1 ≠ 0 ∧ ∃ s', s.turn msg = .again s' ∧ s'.Budget ∧
      s'.cp = (segment msg s.cp).2.1 + (segment msg s.cp).1 ∧ s'.len = s.len - ((segment msg s.cp).1 + 1) ∧
      s'.nseg = s.nseg + 1 ∧ s'.buf = s.buf ++ msg.slice (segment msg s.cp).2.1 (segment msg s.cp).1 ++ [dot]) := by
  have hslen := segment_lt msg s.cp
  rw [Scan.turn]
  generalize segment msg s.cp = seg at hslen ⊢
  obtain ⟨slen, next, followed⟩ := seg
  dsimp only at hslen ⊢
  by_cases hzero : slen = 0
  · rw [if_pos hzero]
    exact .inl ⟨hzero, _, rfl⟩
  · rw [if_neg hzero, h.bmod slen hslen]
    obtain ⟨hnonneg, hupper⟩ := h
    by_cases hover : s.len - (slen + 1) < 0
    · rw [if_pos hover]
      exact .inr (.inl ⟨hzero, by omega, rfl⟩)
    · rw [if_neg hover]
      exact .inr (.inr ⟨hzero, _, rfl, ⟨by dsimp only; omega, by dsimp only; omega⟩, rfl, rfl, rfl, rfl⟩)

/-- Each label takes two from the budget at least. -/
lemma Scan.Budget.returns (msg : Mem) (turns : ℕ) (h : s.Budget) (hturns : s.len / 2 + 1 ≤ turns) :
    ∃ ret buf, s.run msg turns = some (ret, buf) := by
  induction turns generalizing s with
  | zero =>
    have hnonneg := h.nonneg
    omega
  | succ turns ih =>
    rw [Scan.run]
    obtain ⟨-, clen, hturn⟩ | ⟨-, -, hturn⟩ | ⟨hslen, s', hturn, h', -, hlen, -, -⟩ := h.turn msg
    · rw [hturn]
      exact ⟨_, _, rfl⟩
    · rw [hturn]
      exact ⟨_, _, rfl⟩
    · rw [hturn]
      exact ih h' (by omega)

end turns

lemma nameScan_budget (compressed : ℕ) {len : ℕ} (hlen : len ≤ 32767) : (nameScan compressed len).Budget :=
  ⟨Int.natCast_nonneg len, Int.ofNat_le.2 hlen⟩

lemma nameScan_turns (compressed len : ℕ) : (nameScan compressed len).len / 2 + 1 ≤ (len / 2 + 1 : ℕ) := by
  rw [show (nameScan compressed len).len = (len : ℤ) from rfl]
  omega

/-- parse_name returns after at most len / 2 + 1 turns, whatever the memory holds. -/
theorem parseName_returns (msg : Mem) (compressed : ℕ) (len : ℕ) (hlen : len ≤ 32767) :
    ∃ ret buf, (nameScan compressed len).run msg (len / 2 + 1) = some (ret, buf) := by
  exact (nameScan_budget compressed hlen).returns msg _ (nameScan_turns compressed len)

/-- A pointer to itself, with the budget of the callers. -/
theorem parseName_returns_cycle : ∃ ret buf, (nameScan 0 192).run (fun _ => 0xC0) 97 = some (ret, buf) :=
  parseName_returns (fun _ => 0xC0) 0 192 (by decide)

/-- The labels of the name, each with its dot, come to exactly this number of bytes. -/
inductive Fills (msg : Mem) : ℕ → ℕ → Prop
  | ends {cp : ℕ} (zero : (segment msg cp).1 = 0) : Fills msg cp 0
  | label {cp n : ℕ} (nonempty : (segment msg cp).1 ≠ 0)
      (rest : Fills msg ((segment msg cp).2.1 + (segment msg cp).1) n) : Fills msg cp ((segment msg cp).1 + 1 + n)

lemma fills_of_zero {msg : Mem} {cp n : ℕ} (h : (segment msg cp).1 = 0) : Fills msg cp n ↔ n = 0 := by
  constructor
  · rintro (_ | ⟨hne, -⟩)
    · rfl
    · exact absurd h hne
  · rintro rfl
    exact .ends h

lemma fills_of_label {msg : Mem} {cp n : ℕ} (h : (segment msg cp).1 ≠ 0) : Fills msg cp n ↔
    (segment msg cp).1 + 1 ≤ n ∧ Fills msg ((segment msg cp).2.1 + (segment msg cp).1) (n - ((segment msg cp).1 + 1)) := by
  constructor
  · rintro (hzero | ⟨-, hrest⟩)
    · exact absurd hzero h
    · rw [Nat.add_sub_cancel_left]
      exact ⟨Nat.le_add_right _ _, hrest⟩
  · rintro ⟨hle, hrest⟩
    have hfills := Fills.label h hrest
    rwa [Nat.add_sub_cancel' hle] at hfills

/-- What is written and what is left of the budget come to the same after each label; the NUL is not in it. -/
lemma Scan.Budget.written {msg : Mem} {s : Scan} {turns : ℕ} (h : s.Budget) (hroot : s.nseg = 0 → 2 ≤ s.len) {ret : ℤ}
    {buf : List Byte} (hrun : s.run msg turns = some (ret, buf)) :
    (buf.length : ℤ) ≤ s.buf.length + s.len ↔ ¬ Fills msg s.cp s.len.toNat := by
  induction turns generalizing s with
  | zero => cases hrun
  | succ turns ih =>
    rw [Scan.run] at hrun
    have hnonneg := h.nonneg
    obtain ⟨hzero, clen, hturn⟩ | ⟨hslen, hover, hturn⟩ | ⟨hslen, s', hturn, h', hcp, hlen, hnseg, hbuf⟩ := h.turn msg
    · rw [hturn] at hrun
      obtain ⟨-, rfl⟩ := Prod.mk.inj (Option.some.inj hrun)
      rw [fills_of_zero hzero, List.length_append, nameEnd]
      by_cases hnseg : s.nseg = 0
      · have htwo := hroot hnseg
        rw [if_pos hnseg, List.length_cons, List.length_singleton]
        omega
      · rw [if_neg hnseg, List.length_singleton]
        omega
    · rw [hturn] at hrun
      obtain ⟨-, rfl⟩ := Prod.mk.inj (Option.some.inj hrun)
      rw [fills_of_label hslen]
      omega
    · rw [hturn] at hrun
      have hsum : (s'.buf.length : ℤ) + s'.len = s.buf.length + s.len := by
        rw [hbuf, hlen, List.length_append, List.length_append, Mem.length_slice, List.length_singleton]
        push_cast
        omega
      have hle : (segment msg s.cp).1 + 1 ≤ s.len.toNat := by
        have hnonneg' := h'.nonneg
        omega
      have hlen' : s'.len.toNat = s.len.toNat - ((segment msg s.cp).1 + 1) := by omega
      rw [← hsum, ih h' (fun hnone => absurd hnone (by omega)) hrun, fills_of_label hslen, hcp, hlen', and_iff_right hle]

/-- parse_name stays inside its buffer exactly where the labels do not fill it. -/
theorem parseName_bounded_iff (msg : Mem) (compressed len : ℕ) (htwo : 2 ≤ len) (hlen : len ≤ 32767) :
    (∃ ret buf, (nameScan compressed len).run msg (len / 2 + 1) = some (ret, buf) ∧ buf.length ≤ len) ↔
      ¬ Fills msg compressed len := by
  have hbudget := nameScan_budget compressed hlen
  obtain ⟨ret, buf, hrun⟩ := hbudget.returns msg (len / 2 + 1) (nameScan_turns compressed len)
  have hwritten : (buf.length : ℤ) ≤ (0 : ℕ) + len ↔ ¬ Fills msg compressed len :=
    hbudget.written (fun _ => Int.ofNat_le.2 htwo) hrun
  rw [← hwritten]
  constructor
  · rintro ⟨ret', buf', hrun', hle⟩
    obtain ⟨-, rfl⟩ := Prod.mk.inj (Option.some.inj (hrun.symm.trans hrun'))
    omega
  · intro hle
    exact ⟨ret, buf, hrun, by omega⟩

/-- The root fits any buffer. -/
theorem parseName_bounded_root : (∃ ret buf, (nameScan 0 2).run (fun _ => 0) (2 / 2 + 1) = some (ret, buf) ∧ buf.length ≤ 2) ↔
    ¬ Fills (fun _ => 0) 0 2 :=
  parseName_bounded_iff (fun _ => 0) 0 2 (by decide) (by decide)

/-- Three labels of 63 bytes fill the buffer of the callers. -/
def threeLabels : Mem := fun i => if i % 64 ≠ 0 then 0x61 else if i < maxCname then 63 else 0

theorem name_overruns : ¬ ∀ msg compressed, ∀ len : ℕ, 2 ≤ len → len ≤ 32767 →
    ∃ ret buf, (nameScan compressed len).run msg (len / 2 + 1) = some (ret, buf) ∧ buf.length ≤ len := by
  intro hall
  obtain ⟨ret, buf, hrun, hle⟩ := hall threeLabels 0 maxCname (by decide) (by decide)
  have hlength : ((nameScan 0 maxCname).run threeLabels (maxCname / 2 + 1)).map (fun r => r.2.length) = some 193 := by
    decide +kernel
  rw [hrun, Option.map_some, Option.some.injEq] at hlength
  exact absurd (hlength ▸ hle) (by decide)

/-- Where a compression pointer leads. -/
def pointerTarget (msg : Mem) (p : ℕ) : ℕ := (((msg p).toNat &&& 0x3F) <<< 8) + (msg (p + 1)).toNat

/-- A name of the message: its labels and the bytes that it takes at its place. -/
inductive DomainName (msg : Mem) : ℕ → List (List Byte) → ℕ → Prop
  | root {p : ℕ} (zero : msg p = 0) : DomainName msg p [] 1
  | pointer {p size : ℕ} {labels : List (List Byte)} (mark : 0xC0 ≤ (msg p).toNat)
      (rest : DomainName msg (pointerTarget msg p) labels size) : DomainName msg p labels 2
  | label {p size : ℕ} {labels : List (List Byte)} (nonempty : 0 < (msg p).toNat) (short : (msg p).toNat < 64)
      (rest : DomainName msg (p + 1 + (msg p).toNat) labels size) :
      DomainName msg p (msg.slice (p + 1) (msg p).toNat :: labels) (1 + (msg p).toNat + size)

/-- No pointer of the name leads to another pointer. -/
inductive Direct (msg : Mem) : ℕ → Prop
  | root {p : ℕ} (zero : msg p = 0) : Direct msg p
  | pointer {p : ℕ} (mark : 0xC0 ≤ (msg p).toNat) (plain : (msg (pointerTarget msg p)).toNat < 0xC0)
      (rest : Direct msg (pointerTarget msg p)) : Direct msg p
  | label {p : ℕ} (nonempty : 0 < (msg p).toNat) (short : (msg p).toNat < 64)
      (rest : Direct msg (p + 1 + (msg p).toNat)) : Direct msg p

/-- parse_name writes the labels, each with its dot, and the NUL, and returns the bytes of the name. -/
def Decodes (msg : Mem) (p len : ℕ) (labels : List (List Byte)) (size : ℕ) : Prop :=
  (nameScan p len).run msg (len / 2 + 1) = some ((size : ℤ), dotted labels ++ nameEnd labels.length)

section segments
variable {msg : Mem} {p : ℕ}

lemma segment_short (h : (msg p).toNat < 64) : segment msg p = ((msg p).toNat, p + 1, false) :=
  segment_plain (Nat.le_of_lt_succ h) (by rw [BitVec.ofNat_toNat, BitVec.setWidth_eq])

lemma segment_pointer (h : 0xC0 ≤ (msg p).toNat) :
    segment msg p = ((msg (pointerTarget msg p)).toNat, pointerTarget msg p + 1, true) := by
  have hflag : ∀ b : Byte, 0xC0 ≤ b.toNat → b.toNat &&& 0xC0 = 0xC0 := by decide +kernel
  rw [segment]
  exact if_pos (hflag _ h)

/-- The scan where the pointer leads. -/
def Scan.follow (msg : Mem) (s : Scan) : Scan :=
  { s with cp := pointerTarget msg s.cp, clen := if s.indirect then s.clen else s.clen + 2, indirect := true }

lemma Scan.Budget.follow {s : Scan} (hb : s.Budget) : (s.follow msg).Budget := ⟨hb.nonneg, hb.upper⟩

/-- A pointer that leads to a label or the end of a name is followed in the same turn. -/
lemma turn_pointer {s : Scan} (h : 0xC0 ≤ (msg s.cp).toNat) (hplain : (msg (pointerTarget msg s.cp)).toNat < 64) :
    s.turn msg = (s.follow msg).turn msg := by
  rw [Scan.turn, Scan.turn, segment_pointer h, Scan.follow, segment_short hplain]
  dsimp only
  rw [Bool.or_true, Bool.true_or]
  rfl

lemma run_pointer {s : Scan} (h : 0xC0 ≤ (msg s.cp).toNat) (hplain : (msg (pointerTarget msg s.cp)).toNat < 64) (turns : ℕ) :
    s.run msg turns = (s.follow msg).run msg turns := by
  cases turns with
  | zero => rfl
  | succ turns => rw [Scan.run, Scan.run, turn_pointer h hplain]

/-- A name begins with a label, its end or a pointer. -/
lemma DomainName.first {labels : List (List Byte)} {size : ℕ} (h : DomainName msg p labels size) (hplain : (msg p).toNat < 0xC0) :
    (msg p).toNat < 64 := by
  cases h with
  | root zero =>
    rw [zero]
    decide
  | pointer mark rest => exact absurd hplain (Nat.not_lt.2 mark)
  | label nonempty short rest => exact short

/-- A label that the budget has room for. -/
lemma Scan.Budget.turn_label {s : Scan} (hb : s.Budget) (hnonempty : 0 < (msg s.cp).toNat) (hshort : (msg s.cp).toNat < 64)
    (hfit : ((msg s.cp).toNat + 1 : ℤ) ≤ s.len) : ∃ s', s.turn msg = .again s' ∧ s'.Budget ∧
      s'.cp = s.cp + 1 + (msg s.cp).toNat ∧ s'.len = s.len - ((msg s.cp).toNat + 1) ∧
      s'.clen = (if s.indirect then s.clen else s.clen + 1 + (msg s.cp).toNat) ∧ s'.indirect = s.indirect ∧
      s'.nseg = s.nseg + 1 ∧ s'.buf = s.buf ++ msg.slice (s.cp + 1) (msg s.cp).toNat ++ [dot] := by
  have hupper := hb.upper
  rw [Scan.turn, segment_short hshort]
  dsimp only
  rw [if_neg (Nat.ne_of_gt hnonempty), hb.bmod _ (Nat.lt_trans hshort (by decide)), if_neg (by omega), Bool.or_false]
  refine ⟨_, rfl, ⟨?_, ?_⟩, rfl, rfl, ?_, rfl, rfl, rfl⟩
  · dsimp only
    omega
  · dsimp only
    omega
  · cases s.indirect <;> rfl

/-- The scan of a name without a pointer to a pointer. -/
lemma DomainName.run {labels : List (List Byte)} {size : ℕ} (h : DomainName msg p labels size) (hd : Direct msg p) {s : Scan}
    {turns : ℕ} (hcp : s.cp = p) (hb : s.Budget) (hfit : ((dotted labels).length : ℤ) ≤ s.len) (hturns : s.len / 2 + 1 ≤ turns) :
    s.run msg turns = some (((if s.indirect then s.clen else s.clen + size : ℕ) : ℤ),
      s.buf ++ dotted labels ++ nameEnd (s.nseg + labels.length)) := by
  have hnonneg := hb.nonneg
  obtain ⟨turns, rfl⟩ : ∃ k, turns = k + 1 := ⟨turns - 1, by omega⟩
  induction h generalizing s turns with
  | root zero =>
    subst hcp
    have hshort : (msg s.cp).toNat < 64 := by
      rw [zero]
      decide
    rw [Scan.run, Scan.turn, segment_short hshort, zero]
    cases s.indirect <;> simp [dotted]
  | @label p size labels nonempty short rest ih =>
    subst hcp
    have hrest : Direct msg (s.cp + 1 + (msg s.cp).toNat) := by
      cases hd with
      | root zero =>
        rw [zero] at nonempty
        cases nonempty
      | pointer mark plain rest => exact absurd mark (by omega)
      | label nonempty short rest => exact rest
    rw [dotted, List.length_append, List.length_append, Mem.length_slice, List.length_singleton] at hfit
    push_cast at hfit
    obtain ⟨s', hturn, hb', hcp', hlen', hclen', hindirect', hnseg', hbuf'⟩ := hb.turn_label nonempty short (by omega)
    obtain ⟨turns, rfl⟩ : ∃ k, turns = k + 1 := ⟨turns - 1, by omega⟩
    rw [Scan.run, hturn]
    dsimp only
    rw [ih hrest hcp' hb' (by omega) hb'.nonneg turns (by omega), hclen', hindirect', hnseg', hbuf', dotted, List.length_cons]
    refine congrArg some (Prod.ext ?_ ?_)
    · cases s.indirect
      · simp only [Bool.false_eq_true, if_false]
        omega
      · rfl
    · simp only [List.append_assoc, Nat.add_assoc, Nat.add_comm 1]
  | pointer mark rest ih =>
    subst hcp
    cases hd with
    | root zero =>
      rw [zero] at mark
      cases mark
    | label nonempty short => exact absurd mark (by omega)
    | pointer mark plain direct =>
      rw [run_pointer mark (rest.first plain), ih direct (s := s.follow msg) rfl hb.follow hfit hnonneg turns hturns]
      rfl

/-- With the budget of the callers a name is only read to its end if no pointer leads to a pointer and the labels fit. -/
lemma DomainName.direct {labels : List (List Byte)} {size : ℕ} (h : DomainName msg p labels size) {s : Scan} {turns : ℕ} {ret : ℤ}
    {buf : List Byte} (hcp : s.cp = p) (hb : s.Budget) (hsmall : s.len ≤ 192) (hrun : s.run msg turns = some (ret, buf))
    (hret : 0 ≤ ret) : Direct msg p ∧ ((dotted labels).length : ℤ) ≤ s.len := by
  obtain ⟨turns, rfl⟩ : ∃ k, turns = k + 1 := by
    cases turns with
    | zero => cases hrun
    | succ turns => exact ⟨turns, rfl⟩
  induction h generalizing s turns with
  | root zero => exact ⟨.root zero, hb.nonneg⟩
  | @label p size labels nonempty short rest ih =>
    subst hcp
    rw [Scan.run] at hrun
    have hsegment := segment_short short
    obtain ⟨hzero, -⟩ | ⟨-, -, hturn⟩ | ⟨-, s', hturn, hb', hcp', hlen', -, -⟩ := hb.turn msg
    · rw [hsegment] at hzero
      exact absurd hzero (Nat.ne_of_gt nonempty)
    · rw [hturn] at hrun
      obtain ⟨rfl, -⟩ := Prod.mk.inj (Option.some.inj hrun)
      exact absurd hret (by decide)
    · rw [hturn] at hrun
      rw [hsegment] at hcp' hlen'
      obtain ⟨turns, rfl⟩ : ∃ k, turns = k + 1 := by
        cases turns with
        | zero => cases hrun
        | succ turns => exact ⟨turns, rfl⟩
      dsimp only at hlen'
      obtain ⟨hdirect, hfit⟩ := ih hcp' hb' (by omega) turns hrun
      rw [dotted, List.length_append, List.length_append, Mem.length_slice, List.length_singleton]
      push_cast
      exact ⟨.label nonempty short hdirect, by omega⟩
  | pointer mark rest ih =>
    subst hcp
    by_cases hplain : (msg (pointerTarget msg s.cp)).toNat < 0xC0
    · rw [run_pointer mark (rest.first hplain)] at hrun
      obtain ⟨hdirect, hfit⟩ := ih (s := s.follow msg) rfl hb.follow hsmall turns hrun
      exact ⟨.pointer mark hplain hdirect, hfit⟩
    · -- the second pointer is taken for a label that the budget has no room for
      rw [Scan.run] at hrun
      have hsegment := segment_pointer mark
      obtain ⟨hzero, -⟩ | ⟨-, -, hturn⟩ | ⟨-, s', hturn, hb', -, hlen', -, -⟩ := hb.turn msg
      · rw [hsegment] at hzero
        exact absurd hzero (by dsimp only; omega)
      · rw [hturn] at hrun
        obtain ⟨rfl, -⟩ := Prod.mk.inj (Option.some.inj hrun)
        exact absurd hret (by decide)
      · rw [hsegment] at hlen'
        have hnonneg := hb'.nonneg
        dsimp only at hlen'
        omega

/-- The scan is the loop that the parser is modelled with. -/
lemma run_parseNameLoop {s : Scan} {turns : ℕ} (hb : s.Budget) (hturns : s.len / 2 + 1 ≤ turns) :
    match parseNameLoop msg s.cp s.len.toNat s.clen s.indirect s.nseg s.buf with
    | some (clen, buf) => s.run msg turns = some ((clen : ℤ), buf)
    | none => ∃ buf, s.run msg turns = some (-1, buf) := by
  have hnonneg := hb.nonneg
  induction turns generalizing s with
  | zero => omega
  | succ turns ih =>
    have hslen := segment_lt msg s.cp
    rw [parseNameLoop, Scan.run, Scan.turn]
    generalize segment msg s.cp = seg at hslen ⊢
    obtain ⟨slen, next, followed⟩ := seg
    dsimp only at hslen ⊢
    by_cases hzero : slen = 0
    · rw [if_pos hzero, if_pos hzero, nameEnd]
      by_cases hnseg : s.nseg = 0
      · rw [if_pos hnseg, if_pos hnseg]
      · rw [if_neg hnseg, if_neg hnseg]
    · rw [if_neg hzero, if_neg hzero, hb.bmod slen hslen]
      have hupper := hb.upper
      by_cases hover : s.len - (slen + 1) < 0
      · rw [if_pos hover, if_pos (by omega)]
        exact ⟨_, rfl⟩
      · rw [if_neg hover, if_neg (by omega), show s.len.toNat - (slen + 1) = (s.len - (slen + 1)).toNat by omega]
        have hnext (s' : Scan) (hlen : s'.len = s.len - (slen + 1)) : s'.Budget ∧ s'.len / 2 + 1 ≤ (turns : ℤ) ∧ 0 ≤ s'.len := by
          refine ⟨⟨?_, ?_⟩, ?_, ?_⟩ <;> omega
        obtain ⟨hb', hturns', hnonneg'⟩ := hnext ⟨next + slen, s.len - (slen + 1), _, _, s.nseg + 1, _⟩ rfl
        exact ih hb' hturns' hnonneg'

end segments

/-- A name that fits is decoded if no pointer leads to a pointer, and with the budget of the callers only then. -/
theorem parseName_decodes {msg : Mem} {p size len : ℕ} {labels : List (List Byte)} (h : DomainName msg p labels size)
    (hlen : len ≤ 32767) (hfit : (dotted labels ++ nameEnd labels.length).length ≤ len) :
    (Direct msg p → Decodes msg p len labels size) ∧ (len ≤ maxCname → Decodes msg p len labels size → Direct msg p) := by
  have hbudget := nameScan_budget p hlen
  have hturns := nameScan_turns p len
  constructor
  · intro hd
    have hdotted : ((dotted labels).length : ℤ) ≤ len := by
      rw [List.length_append] at hfit
      omega
    have hrun := h.run hd rfl hbudget hdotted hturns
    rw [Decodes, hrun, nameScan]
    simp
  · intro hsmall hdecodes
    exact (h.direct rfl hbudget (Int.ofNat_le.2 hsmall) hdecodes (Int.natCast_nonneg size)).1

/-- A label and a pointer to it, and a pointer to that pointer. -/
def chain : Mem := fun i => ([0x01, 0x61, 0x00, 0xC0, 0x00, 0xC0, 0x03] : List Byte).getD i 0

lemma chain_name : DomainName chain 3 [[0x61]] 2 :=
  .pointer (by decide) (.label (by decide) (by decide) (.root rfl))

theorem parseName_decodes_pointer : (Direct chain 3 → Decodes chain 3 maxCname [[0x61]] 2) ∧
    (maxCname ≤ maxCname → Decodes chain 3 maxCname [[0x61]] 2 → Direct chain 3) :=
  parseName_decodes chain_name (by decide) (by decide)

theorem pointer_chain_refused : ¬ ∀ msg p labels size len, DomainName msg p labels size → len ≤ 32767 →
    (dotted labels ++ nameEnd labels.length).length ≤ len → Decodes msg p len labels size := by
  intro hall
  have hdecodes := hall chain 5 [[0x61]] 2 maxCname (.pointer (by decide) chain_name) (by decide) (by decide)
  exact absurd hdecodes (by rw [Decodes]; decide +kernel)

end IoLibrary.Dns
