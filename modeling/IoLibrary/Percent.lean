import IoLibrary.MessageBuffer

/-! Percent-decoding of byte strings. -/
namespace IoLibrary.Percent

def percent : Byte := 0x25

def IsHex (c : Byte) : Prop :=
  0x30 ≤ c ∧ c ≤ 0x39 ∨ 0x61 ≤ c ∧ c ≤ 0x66 ∨ 0x41 ≤ c ∧ c ≤ 0x46

instance (c : Byte) : Decidable (IsHex c) := inferInstanceAs (Decidable (_ ∨ _))

def hexValue (c : Byte) : Byte := if c ≤ 0x39 then c - 0x30 else if c ≤ 0x46 then c - 0x37 else c - 0x57

/-- Each percent sign followed by two hexadecimal digits becomes the byte they denote. -/
def decode : List Byte → List Byte
  | c :: h :: l :: s =>
    if c = percent ∧ IsHex h ∧ IsHex l then (hexValue h * 16 + hexValue l) :: decode s
    else c :: decode (h :: l :: s)
  | s => s

/-- Every percent sign of the string is followed by two hexadecimal digits. -/
def Escaped (s : List Byte) : Prop :=
  ∀ before after, s = before ++ percent :: after → ∃ h l rest, after = h :: l :: rest ∧ IsHex h ∧ IsHex l

variable {s r : List Byte} {c h l : Byte}

lemma IsHex.ne_percent (hc : IsHex c) : c ≠ percent := by
  rintro rfl
  exact absurd hc (by decide)

lemma decode_escape (hh : IsHex h) (hl : IsHex l) :
    decode (percent :: h :: l :: s) = (hexValue h * 16 + hexValue l) :: decode s := by
  rw [decode, if_pos ⟨rfl, hh, hl⟩]

lemma decode_copy (hc : ∀ h l r, s = h :: l :: r → ¬ (c = percent ∧ IsHex h ∧ IsHex l)) :
    decode (c :: s) = c :: decode s := by
  match s, hc with
  | [], _ => rfl
  | [h], _ => rfl
  | h :: l :: r, hc => rw [decode, if_neg (hc h l r rfl)]

lemma decode_ne_nil (hs : s ≠ []) : decode s ≠ [] := by
  match s, hs with
  | [c], _ => exact List.cons_ne_nil _ _
  | [c, h], _ => exact List.cons_ne_nil _ _
  | c :: h :: l :: s, _ =>
    rw [decode]
    split
    · exact List.cons_ne_nil _ _
    · exact List.cons_ne_nil _ _

@[simp] lemma escaped_nil : Escaped [] := by
  intro before after hsplit
  simp at hsplit

lemma escaped_cons :
    Escaped (c :: s) ↔ (c = percent → ∃ h l r, s = h :: l :: r ∧ IsHex h ∧ IsHex l) ∧ Escaped s := by
  constructor
  · intro hs
    refine ⟨?_, fun before after hsplit => hs (c :: before) after (congrArg _ hsplit)⟩
    rintro rfl
    exact hs [] s rfl
  · rintro ⟨hc, hs⟩ before after hsplit
    cases before with
    | nil =>
      obtain ⟨rfl, rfl⟩ := List.cons.inj hsplit
      exact hc rfl
    | cons b before => exact hs before after (List.cons.inj hsplit).2

lemma escaped_escape (hh : IsHex h) (hl : IsHex l) : Escaped (percent :: h :: l :: s) ↔ Escaped s := by
  simp only [escaped_cons (c := percent), escaped_cons (c := h), escaped_cons (c := l), hh.ne_percent, hl.ne_percent]
  simp [hh, hl]

end IoLibrary.Percent
