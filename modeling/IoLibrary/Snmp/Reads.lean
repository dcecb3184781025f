import IoLibrary.Snmp.Layout

/-! What the parts of the parser ask of the buffers, as conditions on the request. -/
namespace IoLibrary.Snmp
open Effects

/-- What may stop a run: a loop that goes on, when `more` holds. -/
def tolerates (more : Prop) : Fault → Prop
  | .outside => False
  | .endless => more

lemma tolerates_false : tolerates False = fun _ => False := by
  funext f
  cases f with
  | outside => rfl
  | endless => rfl

variable {more : Prop} {m : Request} {a : Agent}

@[simp] lemma lands_need (c : Prop) [Decidable c] {Q : Unit → Agent → Prop} :
    lands (tolerates more) (need c) Q a ↔ c ∧ Q () a := by
  rw [need, lands_ite]
  split_ifs with h
  · exact (and_iff_right h).symm
  · exact iff_of_false id fun hc => h hc.1

@[simp] lemma lands_byte (i : ℤ) {Q : Byte → Agent → Prop} :
    lands (tolerates more) (m.byte i) Q a ↔ (0 ≤ i ∧ i < m.limit) ∧ Q (m.buffer i.toNat) a := by
  rw [Request.byte, lands_bind, lands_need]
  rfl

@[simp] lemma lands_bytes (i : ℤ) (n : ℕ) {Q : List Byte → Agent → Prop} :
    lands (tolerates more) (m.bytes i n) Q a ↔
      (n = 0 ∨ 0 ≤ i ∧ i + n ≤ m.limit) ∧ Q (m.buffer.slice i.toNat n) a := by
  rw [Request.bytes, lands_bind, lands_need]
  rfl

/-- A check that ends a function of the parser. -/
lemma lands_check {c P : Prop} [Decidable (¬ c)] {ret : ℤ} {p : Parser ℤ} {Q : ℤ → Agent → Prop}
    (hreject : Q ret a) (h : c → (lands (tolerates more) p Q a ↔ P)) :
    lands (tolerates more) (if ¬ c then return ret else p) Q a ↔ (c → P) := by
  rw [lands_ite]
  by_cases hc : c
  · rw [if_neg (not_not.2 hc), forall_prop_of_true hc]
    exact h hc
  · rw [if_pos hc, lands_pure]
    exact iff_of_true hreject fun hP => absurd hP hc

lemma lands_moreOctets (n : ℕ) (i : ℤ) (len : BitVec 32) {Q : BitVec 32 → Agent → Prop} :
    lands (tolerates more) (moreOctets m n i len) Q a ↔
      (n = 0 ∨ 0 ≤ i ∧ i + n ≤ m.limit) ∧
        Q ((m.buffer.slice i.toNat n).foldl (fun len b => len <<< 8 ||| b.setWidth 32) len) a := by
  induction n generalizing i len with
  | zero =>
    rw [moreOctets, lands_pure]
    simp
  | succ n ih =>
    rw [moreOctets, lands_bind, lands_byte, ih, ← and_assoc]
    have hinside : ((0 ≤ i ∧ i < m.limit) ∧ (n = 0 ∨ 0 ≤ i + 1 ∧ i + 1 + n ≤ m.limit)) ↔
        (n + 1 = 0 ∨ 0 ≤ i ∧ i + (n + 1 : ℕ) ≤ m.limit) := by omega
    rw [hinside]
    apply and_congr_right
    intro h
    have hnext : (i + 1).toNat = i.toNat + 1 := by omega
    rw [Mem.slice_succ, List.foldl_cons, hnext]

/-- The length octet 0x80 sends the loop of parseLength through the whole of an int32_t. -/
lemma tlen_indefinite {b : Byte} (h : b = 0x80) :
    ((b &&& 0x7F).setWidth 32 - 1 : BitVec 32).toNat = 2 ^ 32 - 1 := by
  rw [h]
  rfl

lemma tlen_definite {b : Byte} (hlong : b &&& 0x80 ≠ 0) (h : b ≠ 0x80) :
    ((b &&& 0x7F).setWidth 32 - 1 : BitVec 32).toNat + 1 = (b &&& 0x7F).toNat := by
  have hall : ∀ b : Byte, b &&& 0x80 ≠ 0 → b ≠ 0x80 →
      ((b &&& 0x7F).setWidth 32 - 1 : BitVec 32).toNat + 1 = (b &&& 0x7F).toNat := by decide +kernel
  exact hall b hlong h

/-- The octets of a long length from `i` on. -/
lemma lands_longLength {b : Byte} (hlong : b &&& 0x80 ≠ 0) {i : ℤ} (hi : 0 ≤ i)
    {Q : ℤ × ℤ → Agent → Prop} :
    lands (tolerates more) (do
        let tlen : BitVec 32 := (b &&& 0x7F).setWidth 32 - 1
        let first ← m.byte i
        let len ← moreOctets m tlen.toNat (i + 1) (first.setWidth 32)
        return ((tlen.toNat + 2 : ℤ), len.toInt)) Q a ↔
      (b ≠ 0x80 ∧ i + (b &&& 0x7F).toNat ≤ m.limit) ∧
        Q (1 + (b &&& 0x7F).toNat, (m.number (b &&& 0x7F).toNat i).toInt) a := by
  have hbound := m.bound
  rw [maxSnmpmsgLen] at hbound
  simp only [lands_bind, lands_byte, lands_moreOctets, lands_pure]
  by_cases hindefinite : b = 0x80
  · have htlen := tlen_indefinite hindefinite
    rw [htlen]
    constructor
    · rintro ⟨-, h | ⟨-, h⟩, -⟩
      · omega
      · omega
    · exact fun h => absurd hindefinite h.1.1
  · have htlen := tlen_definite hlong hindefinite
    generalize ((b &&& 0x7F).setWidth 32 - 1 : BitVec 32).toNat = tlen at htlen
    rw [← htlen, ← and_assoc]
    have hinside : ((0 ≤ i ∧ i < m.limit) ∧ (tlen = 0 ∨ 0 ≤ i + 1 ∧ i + 1 + tlen ≤ m.limit)) ↔
        i + (tlen + 1 : ℕ) ≤ m.limit := by omega
    have hnext : (i + 1).toNat = i.toNat + 1 := by omega
    have hoctets : (tlen + 2 : ℤ) = 1 + (tlen + 1 : ℕ) := by omega
    rw [hinside, and_iff_right hindefinite, hnext, hoctets, Request.number, getValue, Mem.slice_succ,
      List.foldl_cons]
    simp

lemma lands_parseLength (p : ℤ) {Q : ℤ × ℤ → Agent → Prop} :
    lands (tolerates more) (parseLength m (p + 1)) Q a ↔
      (0 ≤ p + 1 ∧ m.lengthOctet p ≠ 0x80 ∧ p + 2 + m.octets p ≤ m.limit) ∧
        Q (1 + m.octets p, m.length p) a := by
  have hnext : p + 1 + 1 = p + 2 := by omega
  have hlast : p + 1 + 2 = p + 2 + 1 := by omega
  rw [parseLength, lands_bind, lands_byte, Request.length, Request.octets, hnext, hlast]
  change _ ∧ lands _ (if m.lengthOctet p &&& 0x80 ≠ 0 then _ else _) _ _ ↔ _
  rw [lands_ite, and_assoc]
  by_cases hlong : m.lengthOctet p &&& 0x80 ≠ 0
  · rw [if_pos hlong, if_pos hlong, if_pos hlong, and_assoc]
    apply and_congr_right
    intro hp
    refine (and_congr_right fun _ => lands_longLength hlong (by omega)).trans ?_
    constructor
    · exact fun h => h.2
    · intro h
      exact ⟨by omega, h⟩
  · have hdefinite : m.lengthOctet p ≠ 0x80 := fun h => hlong (by rw [h]; decide)
    rw [if_neg hlong, if_neg hlong, if_neg hlong, lands_pure, and_iff_right hdefinite, and_assoc]
    apply and_congr_right
    intro hp
    have hinside : p + 1 < m.limit ↔ p + 2 + (0 : ℕ) ≤ m.limit := by omega
    rw [hinside]
    rfl

lemma lands_parseTLV (p : ℤ) {Q : Tlv → Agent → Prop} :
    lands (tolerates more) (parseTLV m p) Q a ↔ m.Readable p ∧ Q (m.tlv p) a := by
  have hvstart : p + (1 + m.octets p) + 1 = p + 2 + m.octets p := by omega
  rw [parseTLV, lands_bind, lands_parseLength, lands_bind, lands_byte, lands_pure, hvstart,
    ← and_assoc]
  have hinside : ((0 ≤ p + 1 ∧ m.lengthOctet p ≠ 0x80 ∧ p + 2 + m.octets p ≤ m.limit) ∧
      0 ≤ p ∧ p < m.limit) ↔ m.Readable p := by
    constructor
    · exact fun h => ⟨h.2.1, h.1.2⟩
    · rintro ⟨hp, hdefinite, hlast⟩
      exact ⟨⟨by omega, hdefinite, hlast⟩, hp, by omega⟩
  rw [hinside]
  rfl

def Agent.place (a : Agent) : Place := ⟨a.index, a.respIndex, a.snmpData, a.errorStatus ≠ 0⟩

lemma int32_eq {x : ℤ} (hlow : 0 ≤ x) (hhigh : x < 2 ^ 31) : int32 x = x := by
  apply Int.bmod_eq_of_le
  · omega
  · omega

@[simp] lemma lands_put (i : ℤ) (data : List Byte) {Q : Unit → Agent → Prop} :
    lands (tolerates more) (put i data) Q a ↔
      (data = [] ∨ 0 ≤ i ∧ i + data.length ≤ maxSnmpmsgLen) ∧
        Q () { a with response := Mem.put a.response i.toNat data } := by
  rw [put, lands_bind, lands_need, lands_modify]

/-- A copy from where the agent is moves it on in both messages. -/
lemma lands_copySegment {t : Tlv} {seglen : ℤ} (hstart : t.start = a.index) (hp : 0 ≤ a.index)
    {Q : Unit → Agent → Prop} {P : Prop}
    (h : m.Copied t seglen a.respIndex → ∀ a', a'.place = a.place.go seglen seglen.toNat →
      (Q () a' ↔ P)) :
    lands (tolerates more) (copySegment m t seglen) Q a ↔ m.Copied t seglen a.respIndex ∧ P := by
  have hbound := m.bound
  rw [maxSnmpmsgLen] at hbound
  simp only [copySegment, lands_bind, lands_get, lands_need, lands_modify]
  have hpos : 0 ≤ t.start := hstart ▸ hp
  rw [and_iff_right hpos]
  apply and_congr_right
  intro hcopied
  have hseglen : 0 ≤ seglen := hcopied.1
  have hlast : t.start + seglen ≤ m.limit := hcopied.2.1
  apply h hcopied
  have hindex : int32 (a.index + seglen) = a.index + seglen := int32_eq (by omega) (by omega)
  rw [Agent.place, Place.go, hindex]
  rfl

lemma length_respLenOctets (size : BitVec 32) (n : ℕ) (mask : BitVec 32) (shift : ℕ) :
    (respLenOctets size n mask shift).length = n := by
  induction n generalizing mask shift with
  | zero => rfl
  | succ n ih => rw [respLenOctets, List.length_append, ih, List.length_singleton]

/-- The octets of a length go where those of the request have been copied. -/
lemma lands_insertRespLen {start resp size : ℤ} (hread : m.Readable start) (hresp : 0 ≤ resp)
    (hfit : resp + 2 + m.octets start ≤ maxSnmpmsgLen) {Q : Unit → Agent → Prop} {P : Prop}
    (h : ∀ a', a'.place = a.place → (Q () a' ↔ P)) :
    lands (tolerates more) (insertRespLen m start resp size) Q a ↔ P := by
  obtain ⟨hstart, -, hlast⟩ := hread
  rw [insertRespLen, lands_bind, lands_byte, and_iff_right ⟨by omega, by omega⟩, lands_ite]
  change (if m.lengthOctet start &&& 0x80 ≠ 0 then _ else _) ↔ _
  by_cases hlong : m.lengthOctet start &&& 0x80 ≠ 0
  · rw [Request.octets, if_pos hlong] at hfit
    rw [if_pos hlong, lands_put, length_respLenOctets]
    exact (and_iff_right (.inr ⟨by omega, hfit⟩)).trans (h _ rfl)
  · rw [Request.octets, if_neg hlong] at hfit
    have hroom : 0 ≤ resp + 1 ∧ resp + 1 + (1 : ℕ) ≤ maxSnmpmsgLen := by omega
    rw [if_neg hlong, lands_put]
    exact (and_iff_right (.inr hroom)).trans (h _ rfl)

lemma lands_findEntry {oid len : ℤ} (hoid : 0 ≤ oid) (snmpData : List DataEntry) (i : ℤ)
    {Q : ℤ → Agent → Prop} :
    lands (tolerates more) (findEntry m oid len snmpData i) Q a ↔
      m.Searched oid len snmpData ∧ Q (m.find oid len snmpData i) a := by
  induction snmpData generalizing i with
  | nil => exact (and_iff_right trivial).symm
  | cons e snmpData ih =>
    rw [findEntry, lands_ite, Request.Searched, Request.find]
    by_cases hlen : len = e.oid.length
    · rw [if_pos hlen, if_pos hlen, lands_bind, lands_bytes, and_iff_right hoid, lands_ite, lands_pure,
        ih, and_assoc]
      apply and_congr_right
      intro _
      by_cases hfound : m.buffer.slice oid.toNat e.oid.length = e.oid
      · rw [if_pos hfound, if_pos ⟨hlen, hfound⟩]
        exact (and_iff_right (.inl hfound)).symm
      · rw [if_neg hfound, if_neg fun h => hfound h.2, or_iff_right hfound]
    · rw [if_neg hlen, if_neg hlen, if_neg fun h => hlen h.1, ih]

end IoLibrary.Snmp
