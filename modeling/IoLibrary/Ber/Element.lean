import Mathlib.Data.BitVec
import Mathlib.Data.List.Induction
import Mathlib.Tactic.Common

/-! Elements of the Basic Encoding Rules: a tag of one octet, a definite length in the short or in
the long form, and the content. -/
namespace IoLibrary.Ber

/-- The last `n` octets of a number, the most significant one first. -/
def octets : ℕ → ℕ → List (BitVec 8)
  | 0, _ => []
  | n + 1, k => octets n (k / 256) ++ [BitVec.ofNat 8 k]

def number (bytes : List (BitVec 8)) : ℕ := bytes.foldl (fun k b => k * 256 + b.toNat) 0

@[simp] lemma length_octets (n k : ℕ) : (octets n k).length = n := by
  induction n generalizing k with
  | zero => rfl
  | succ n ih => simp [octets, ih]

lemma number_append (bytes : List (BitVec 8)) (b : BitVec 8) :
    number (bytes ++ [b]) = number bytes * 256 + b.toNat := by
  simp [number]

lemma number_octets (n k : ℕ) : number (octets n k) = k % 256 ^ n := by
  induction n generalizing k with
  | zero => simp [octets, number, Nat.mod_one]
  | succ n ih =>
    have hlast : (BitVec.ofNat 8 k).toNat = k % 256 := by simp
    have hsplit : k % (256 * 256 ^ n) = k % 256 + 256 * (k / 256 % 256 ^ n) := Nat.mod_mul
    rw [octets, number_append, ih, hlast, Nat.pow_succ, Nat.mul_comm (256 ^ n), hsplit]
    omega

/-- The short form of a length, or the long one with `n` octets behind the first. -/
inductive Form
  | short
  | long (n : ℕ)
  deriving DecidableEq

/-- How many octets the form takes. -/
def Form.size : Form → ℕ
  | .short => 1
  | .long n => n + 1

lemma Form.size_pos (f : Form) : 0 < f.size := by
  cases f <;> simp [size]

def Form.octets : Form → ℕ → List (BitVec 8)
  | .short, len => [BitVec.ofNat 8 len]
  | .long n, len => BitVec.ofNat 8 (0x80 + n) :: Ber.octets n len

/-- The length can be said in this form. The first octet 0xFF is reserved. -/
def Form.Fits : Form → ℕ → Prop
  | .short, len => len < 0x80
  | .long n, len => 0 < n ∧ n < 0x7F ∧ len < 256 ^ n

/-- The form can say some length. -/
def Form.Definite : Form → Prop
  | .short => True
  | .long n => 0 < n ∧ n < 0x7F

lemma Form.Fits.definite {f : Form} {len : ℕ} (h : f.Fits len) : f.Definite := by
  cases f with
  | short => trivial
  | long n => exact ⟨h.1, h.2.1⟩

lemma Form.Definite.size_le {f : Form} (h : f.Definite) : f.size ≤ 127 := by
  cases f with
  | short => decide
  | long n => exact h.2

instance (f : Form) (len : ℕ) : Decidable (f.Fits len) := by
  cases f <;> unfold Form.Fits <;> infer_instance

@[simp] lemma Form.length_octets (f : Form) (len : ℕ) : (f.octets len).length = f.size := by
  cases f with
  | short => rfl
  | long n => simp [octets, size]

structure Element where
  tag : BitVec 8
  form : Form
  content : List (BitVec 8)

/-- The tag and the length octets. -/
def Element.header (e : Element) : List (BitVec 8) := e.tag :: e.form.octets e.content.length

def Element.bytes (e : Element) : List (BitVec 8) := e.header ++ e.content

def Element.WellFormed (e : Element) : Prop := e.form.Fits e.content.length

instance (e : Element) : Decidable e.WellFormed := inferInstanceAs (Decidable (e.form.Fits _))

@[simp] lemma Element.length_header (e : Element) : e.header.length = e.form.size + 1 := by
  simp [header]

@[simp] lemma Element.length_bytes (e : Element) :
    e.bytes.length = e.form.size + 1 + e.content.length := by
  simp [bytes]

section reading
variable {e e' : Element} {rest rest' : List (BitVec 8)} {t : BitVec 8} {k n : ℕ}

lemma number_cons (b : BitVec 8) (bytes : List (BitVec 8)) :
    number (b :: bytes) = b.toNat * 256 ^ bytes.length + number bytes := by
  induction bytes using List.reverseRecOn with
  | nil => simp [number]
  | append_singleton bytes c ih =>
    rw [← List.cons_append, number_append, ih, number_append, List.length_append,
      List.length_singleton, Nat.pow_succ, Nat.add_mul, Nat.mul_assoc, Nat.add_assoc]

/-- The octets of a number begin with its most significant one. -/
lemma octets_lead (hn : 0 < n) (hk : k < 256 ^ n) {b : BitVec 8} (h : octets n k ++ rest = b :: rest') :
    b.toNat * 256 ^ (n - 1) ≤ k ∧ (n = 1 → k = b.toNat) := by
  cases hocts : octets n k with
  | nil =>
    have hlength := length_octets n k
    rw [hocts, List.length_nil] at hlength
    omega
  | cons c bytes =>
    rw [hocts, List.cons_append] at h
    cases h
    have hlength := length_octets n k
    have hnumber := number_octets n k
    rw [hocts, List.length_cons] at hlength
    have hbytes : bytes.length = n - 1 := by omega
    rw [hocts, number_cons, Nat.mod_eq_of_lt hk, hbytes] at hnumber
    refine ⟨by omega, fun hone => ?_⟩
    have hnil : bytes = [] := List.eq_nil_of_length_eq_zero (by omega)
    rw [← hnumber, hone, hnil]
    simp [number]

/-- What is read behind a tag and a length in the long form. -/
lemma Element.WellFormed.long (h : e.WellFormed) (hn : n < 0x7F)
    (heq : e.bytes ++ rest = t :: ((Form.long n).octets k ++ rest')) :
    e.tag = t ∧ e.form = .long n ∧ e.content.length = k % 256 ^ n ∧ e.content ++ rest = rest' := by
  rw [bytes, header, List.cons_append, List.cons_append, List.cons.injEq] at heq
  obtain ⟨htag, heq⟩ := heq
  rw [WellFormed] at h
  have hfirst : (BitVec.ofNat 8 (0x80 + n)).toNat = 0x80 + n := by
    rw [BitVec.toNat_ofNat]
    omega
  cases hform : e.form with
  | short =>
    rw [hform, Form.Fits] at h
    rw [hform, Form.octets, Form.octets, List.cons_append, List.cons_append, List.cons_append,
      List.cons.injEq] at heq
    have hbyte := congrArg BitVec.toNat heq.1
    rw [hfirst, BitVec.toNat_ofNat] at hbyte
    omega
  | long m =>
    rw [hform] at h
    obtain ⟨hpos, hm, hlen⟩ := h
    rw [hform, Form.octets, Form.octets, List.cons_append, List.cons_append, List.cons_append,
      List.cons.injEq] at heq
    have hbyte := congrArg BitVec.toNat heq.1
    rw [hfirst, BitVec.toNat_ofNat] at hbyte
    have hmn : m = n := by omega
    subst hmn
    have hrest := heq.2
    rw [List.append_assoc] at hrest
    obtain ⟨hocts, hcontent⟩ := List.append_inj hrest (by rw [length_octets, length_octets])
    have hnumber := congrArg number hocts
    rw [number_octets, number_octets, Nat.mod_eq_of_lt hlen] at hnumber
    exact ⟨htag, rfl, hnumber, hcontent⟩

/-- What is read behind a tag and an octet below 0x80. -/
lemma Element.WellFormed.short (h : e.WellFormed) (hk : k % 256 < 0x80)
    (heq : e.bytes ++ rest = t :: (Form.short.octets k ++ rest')) :
    e.tag = t ∧ e.form = .short ∧ e.content.length = k % 256 ∧ e.content ++ rest = rest' := by
  rw [bytes, header, List.cons_append, List.cons_append, List.cons.injEq] at heq
  obtain ⟨htag, heq⟩ := heq
  rw [WellFormed] at h
  cases hform : e.form with
  | short =>
    rw [hform, Form.Fits] at h
    rw [hform, Form.octets, Form.octets, List.cons_append, List.cons_append, List.nil_append,
      List.cons_append, List.cons.injEq] at heq
    have hbyte := congrArg BitVec.toNat heq.1
    rw [BitVec.toNat_ofNat, BitVec.toNat_ofNat] at hbyte
    exact ⟨htag, rfl, by omega, heq.2⟩
  | long m =>
    rw [hform] at h
    rw [hform, Form.octets, Form.octets, List.cons_append, List.cons_append, List.cons_append,
      List.cons.injEq] at heq
    have hbyte := congrArg BitVec.toNat heq.1
    have hm := h.2.1
    rw [BitVec.toNat_ofNat, BitVec.toNat_ofNat] at hbyte
    omega

/-- A larger octet begins a length in the long form. -/
lemma Element.WellFormed.overflow (h : e.WellFormed) (hk : 0x80 ≤ k % 256)
    (heq : e.bytes ++ rest = t :: (Form.short.octets k ++ rest')) :
    ∃ n, 0 < n ∧ k % 256 = 0x80 + n ∧ e.form = .long n ∧ e.content.length < 256 ^ n ∧
      octets n e.content.length ++ (e.content ++ rest) = rest' := by
  rw [bytes, header, List.cons_append, List.cons_append, List.cons.injEq] at heq
  obtain ⟨-, heq⟩ := heq
  rw [WellFormed] at h
  cases hform : e.form with
  | short =>
    rw [hform, Form.Fits] at h
    rw [hform, Form.octets, Form.octets, List.cons_append, List.cons_append, List.nil_append,
      List.cons_append, List.cons.injEq] at heq
    have hbyte := congrArg BitVec.toNat heq.1
    rw [BitVec.toNat_ofNat, BitVec.toNat_ofNat] at hbyte
    omega
  | long m =>
    rw [hform] at h
    obtain ⟨hpos, hm, hlen⟩ := h
    rw [hform, Form.octets, Form.octets, List.cons_append, List.cons_append, List.cons_append,
      List.cons.injEq, List.nil_append, List.append_assoc] at heq
    have hbyte := congrArg BitVec.toNat heq.1
    rw [BitVec.toNat_ofNat, BitVec.toNat_ofNat] at hbyte
    exact ⟨m, hpos, by omega, rfl, hlen, heq.2⟩

/-- No element begins another. -/
lemma Element.bytes_inj (h : e.WellFormed) (h' : e'.WellFormed)
    (heq : e.bytes ++ rest = e'.bytes ++ rest') : e = e' ∧ rest = rest' := by
  have hsplit : e'.bytes ++ rest' =
      e'.tag :: (e'.form.octets e'.content.length ++ (e'.content ++ rest')) := by
    simp [bytes, header]
  rw [hsplit] at heq
  have hread : e.tag = e'.tag ∧ e.form = e'.form ∧ e.content.length = e'.content.length ∧
      e.content ++ rest = e'.content ++ rest' := by
    rw [WellFormed] at h'
    cases hform : e'.form with
    | short =>
      rw [hform] at heq h'
      have hfit : e'.content.length < 0x80 := h'
      obtain ⟨htag, hshort, hlength, hcontent⟩ := h.short (by omega) heq
      exact ⟨htag, hshort, by omega, hcontent⟩
    | long n =>
      rw [hform] at heq h'
      obtain ⟨-, hn, hfit⟩ := h'
      obtain ⟨htag, hlong, hlength, hcontent⟩ := h.long hn heq
      rw [Nat.mod_eq_of_lt hfit] at hlength
      exact ⟨htag, hlong, hlength, hcontent⟩
  obtain ⟨htag, hform, hlength, hcontent⟩ := hread
  obtain ⟨hsame, hrest⟩ := List.append_inj hcontent hlength
  cases e
  cases e'
  simp only at htag hform hsame
  rw [htag, hform, hsame]
  exact ⟨rfl, hrest⟩

end reading

end IoLibrary.Ber
