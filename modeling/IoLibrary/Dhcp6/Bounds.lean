import IoLibrary.Dhcp6.Run
import Mathlib.Data.List.Range

/-! What parseDHCP6MSG reads. Its loops take the fields of an option for granted, and those over the
identifiers end only at their end itself. -/
namespace IoLibrary.Dhcp6

/-- The places that a loop up to `e` comes to from `p` on, each time at `next` of the last. -/
inductive Comes (next : ℕ → ℕ) (e : ℕ) : ℕ → ℕ → Prop
  | here {p} (h : p < e) : Comes next e p p
  | after {p q} (h : p < e) (rest : Comes next e (next p) q) : Comes next e p q

/-- What holds at some place that a loop comes to. -/
lemma comes_or {next : ℕ → ℕ} {e p : ℕ} {P : ℕ → Prop} :
    (∃ q, Comes next e p q ∧ P q) ↔ p < e ∧ (P p ∨ ∃ q, Comes next e (next p) q ∧ P q) := by
  constructor
  · rintro ⟨q, hcomes, hP⟩
    cases hcomes with
    | here h => exact ⟨h, .inl hP⟩
    | after h rest => exact ⟨h, .inr ⟨q, rest, hP⟩⟩
  · rintro ⟨h, hP | ⟨q, rest, hP⟩⟩
    · exact ⟨p, .here h, hP⟩
    · exact ⟨q, .after h rest, hP⟩

section iana
variable (m : Mem) (p e : ℕ)

/-- The bytes from the start of an option inside an IA_NA that its case takes. -/
def ianaFields : ℕ := if m (p + 1) = optIaaddr then 28 else if m (p + 1) = optStatusCode then 6 else 4

def ianaNext : ℕ := if m (p + 1) = optIaaddr then p + 28 else optionEnd m p

lemma lt_ianaNext : p < ianaNext m p := by
  simp only [ianaNext, optionEnd]
  split <;> omega

/-- What the loop inside an IA_NA reads: of each option all but its first byte. -/
def ianaReads (m : Mem) (p e : ℕ) : List ℕ :=
  if p < e then List.range' (p + 1) (ianaFields m p - 1) ++ ianaReads m (ianaNext m p) e else []
termination_by e - p
decreasing_by
  have := lt_ianaNext m p
  omega

def ianaEnd (m : Mem) (p e : ℕ) : ℕ := if p < e then ianaEnd m (ianaNext m p) e else p
termination_by e - p
decreasing_by
  have := lt_ianaNext m p
  omega

lemma le_ianaEnd (m : Mem) (p e : ℕ) : p ≤ ianaEnd m p e := by
  rw [ianaEnd]
  split
  · have hlt := lt_ianaNext m p
    have hle := le_ianaEnd m (ianaNext m p) e
    omega
  · exact Nat.le_refl p
termination_by e - p
decreasing_by
  have := lt_ianaNext m p
  omega

lemma mem_ianaReads {i : ℕ} (m : Mem) (p e : ℕ) :
    i ∈ ianaReads m p e ↔
      ∃ q, Comes (ianaNext m) e p q ∧ i ∈ List.range' (q + 1) (ianaFields m q - 1) := by
  rw [ianaReads, comes_or]
  split
  · rename_i hlt
    rw [List.mem_append, mem_ianaReads m (ianaNext m p) e]
    simp [hlt]
  · rename_i hge
    simp [hge]
termination_by e - p
decreasing_by
  have := lt_ianaNext m p
  omega

lemma parseIana_place (opts : Options) : (parseIana m p e opts).1 = ianaEnd m p e := by
  induction p, opts using parseIana.induct m e with
  | case1 p opts hlt hcode ih =>
    rw [parseIana, if_pos hlt, if_pos hcode, ianaEnd, if_pos hlt, ianaNext, if_pos hcode, ih]
  | case2 p opts hlt hcode hstatus ih =>
    rw [parseIana, if_pos hlt, if_neg hcode, if_pos hstatus, ianaEnd, if_pos hlt, ianaNext, if_neg hcode, ih]
  | case3 p opts hlt hcode hstatus ih =>
    rw [parseIana, if_pos hlt, if_neg hcode, if_neg hstatus, ianaEnd, if_pos hlt, ianaNext, if_neg hcode, ih]
  | case4 p opts hlt => rw [parseIana, if_neg hlt, ianaEnd, if_neg hlt]

end iana

section option
variable (m : Mem) (p : ℕ)

/-- The bytes from the start of an option that its case takes before its loop. -/
def fields : ℕ :=
  if m (p + 1) = optIana then 16
  else if m (p + 1) = optServerid then
    if get16 m (p + 4) = 2 then 16 else if get16 m (p + 4) = 1 then 18 else 14
  else if m (p + 1) = dnsRecursiveNameServer then 20
  else 4

def optionReads : List ℕ :=
  List.range' (p + 1) (fields m p - 1) ++
    if m (p + 1) = optIana then ianaReads m (p + 16) (optionEnd m p) else []

def nextOption : ℕ :=
  if m (p + 1) = optIana then ianaEnd m (p + 16) (optionEnd m p)
  else if m (p + 1) = dnsRecursiveNameServer then max (p + 20) (optionEnd m p)
  else optionEnd m p

lemma parseOption_place (opts : Options) : (parseOption m p opts).1 = nextOption m p := by
  have hclient : optClientid ≠ optIana ∧ optClientid ≠ dnsRecursiveNameServer := by decide
  have hserver : optServerid ≠ dnsRecursiveNameServer := by decide
  rw [parseOption, nextOption]
  by_cases h1 : m (p + 1) = optClientid
  · rw [if_pos h1, h1, if_neg hclient.1, if_neg hclient.2]
  · rw [if_neg h1]
    by_cases h2 : m (p + 1) = optIana
    · rw [if_pos h2, if_pos h2, parseIana_place]
    · rw [if_neg h2, if_neg h2]
      by_cases h3 : m (p + 1) = optServerid
      · rw [if_pos h3, h3, if_neg hserver]
      · rw [if_neg h3]
        split <;> rfl

lemma lt_nextOption : p < nextOption m p := by
  have hend : p < optionEnd m p := by
    simp only [optionEnd]
    omega
  have hiana := le_ianaEnd m (p + 16) (optionEnd m p)
  rw [nextOption]
  split_ifs <;> omega

/-- What the loop over the options reads, from `p` on. -/
def optionsReads (m : Mem) (p e : ℕ) : List ℕ :=
  if p < e then optionReads m p ++ optionsReads m (nextOption m p) e else []
termination_by e - p
decreasing_by
  have := lt_nextOption m p
  omega

lemma mem_optionsReads {i : ℕ} (m : Mem) (p e : ℕ) :
    i ∈ optionsReads m p e ↔ ∃ q, Comes (nextOption m) e p q ∧ i ∈ optionReads m q := by
  rw [optionsReads, comes_or]
  split
  · rename_i hlt
    rw [List.mem_append, mem_optionsReads m (nextOption m p) e]
    simp [hlt]
  · rename_i hge
    simp [hge]
termination_by e - p
decreasing_by
  have := lt_nextOption m p
  omega

end option

section message
variable (m : Mem) (len : ℕ)

def HasOptions : Prop := m 0 = dhcp6Advertise ∨ m 0 = dhcp6Reply

instance : Decidable (HasOptions m) := inferInstanceAs (Decidable (_ ∨ _))

/-- What parseDHCP6MSG reads of a message. -/
def messageReads : List ℕ := 0 :: if HasOptions m then optionsReads m 4 len else []

/-- The places of the options that parseDHCP6MSG comes to. -/
def OptionAt (p : ℕ) : Prop := HasOptions m ∧ Comes (nextOption m) len 4 p

/-- The loop over an identifier, which goes on until it is at its end, does not begin behind it. -/
def StopsAtEnd (p : ℕ) : Prop :=
  m (p + 1) = optClientid ∨ m (p + 1) = optServerid → p + fields m p ≤ optionEnd m p

/-- parseDHCP6MSG reads only the `len` bytes of the datagram in `m`, and its loops stop. -/
structure Bounded : Prop where
  read : ∀ i ∈ messageReads m len, i < len
  stops : ∀ p, OptionAt m len p → StopsAtEnd m p

/-- The datagram has its type, and the fields of each option, those in an IA_NA among them; a server
identifier is as long as its fields. -/
structure Framed : Prop where
  type : 0 < len
  option : ∀ p, OptionAt m len p → p + fields m p ≤ len
  inside : ∀ p, OptionAt m len p → m (p + 1) = optIana →
    ∀ q, Comes (ianaNext m) (optionEnd m p) (p + 16) q → q + ianaFields m q ≤ len
  serverid : ∀ p, OptionAt m len p → m (p + 1) = optServerid → fields m p ≤ 4 + get16 m (p + 2)

end message

section fits
variable {m : Mem} {len p k : ℕ}

lemma range_fits (hk : 2 ≤ k) : (∀ i ∈ List.range' (p + 1) (k - 1), i < len) ↔ p + k ≤ len := by
  constructor
  · intro h
    have hlast := h (p + k - 1) (List.mem_range'_1.2 (by omega))
    omega
  · intro h i hi
    have := List.mem_range'_1.1 hi
    omega

lemma le_ianaFields (m : Mem) (p : ℕ) : 2 ≤ ianaFields m p := by
  rw [ianaFields]
  split_ifs <;> decide

lemma le_fields (m : Mem) (p : ℕ) : 2 ≤ fields m p := by
  rw [fields]
  split_ifs <;> decide

/-- What the case of an option reads lies in the datagram. -/
lemma optionReads_fit : (∀ i ∈ optionReads m p, i < len) ↔
    p + fields m p ≤ len ∧ (m (p + 1) = optIana →
      ∀ q, Comes (ianaNext m) (optionEnd m p) (p + 16) q → q + ianaFields m q ≤ len) := by
  rw [optionReads, List.forall_mem_append, range_fits (le_fields m p)]
  apply and_congr_right
  intro _
  split
  · rename_i hiana
    simp only [hiana, true_implies]
    constructor
    · intro h q hq
      exact (range_fits (le_ianaFields m q)).1 fun i hi => h i ((mem_ianaReads m _ _).2 ⟨q, hq, hi⟩)
    · intro h i hi
      obtain ⟨q, hq, hmem⟩ := (mem_ianaReads m _ _).1 hi
      exact (range_fits (le_ianaFields m q)).2 (h q hq) i hmem
  · rename_i hother
    simp [hother]

lemma messageReads_fit : (∀ i ∈ messageReads m len, i < len) ↔
    0 < len ∧ ∀ p, OptionAt m len p → ∀ i ∈ optionReads m p, i < len := by
  rw [messageReads, List.forall_mem_cons]
  apply and_congr_right
  intro _
  split
  · rename_i hoptions
    constructor
    · intro h p hp i hi
      exact h i ((mem_optionsReads m _ _).2 ⟨p, hp.2, hi⟩)
    · intro h i hi
      obtain ⟨p, hp, hmem⟩ := (mem_optionsReads m _ _).1 hi
      exact h p ⟨hoptions, hp⟩ i hmem
  · rename_i hnone
    simp [OptionAt, hnone]

lemma stopsAtEnd_iff :
    StopsAtEnd m p ↔ (m (p + 1) = optServerid → fields m p ≤ 4 + get16 m (p + 2)) := by
  have hclient : m (p + 1) = optClientid → fields m p = 4 := by
    intro h
    rw [fields, h]
    rfl
  simp only [StopsAtEnd, optionEnd]
  constructor
  · intro h hserver
    have hle := h (.inr hserver)
    omega
  · rintro h (hcode | hcode)
    · rw [hclient hcode]
      omega
    · have hle := h hcode
      omega

end fits

end IoLibrary.Dhcp6
