import IoLibrary.MessageBuffer

/-! Lists of items with a code, a length and a value, where the code and the length take two octets each. -/
namespace IoLibrary.WideTlv

structure Item where
  code : ℕ
  value : List Byte
  deriving DecidableEq

def Item.bytes (item : Item) : List Byte := bytes16 item.code ++ bytes16 item.value.length ++ item.value

structure Item.WellFormed (item : Item) : Prop where
  code : item.code < 65536
  short : item.value.length < 65536

def encode (items : List Item) : List Byte := items.flatMap Item.bytes

/-- The items of the bytes; none where an item is cut off or something is left over. -/
def decode : List Byte → Option (List Item)
  | [] => some []
  | c₁ :: c₀ :: l₁ :: l₀ :: rest =>
    if word16 l₁ l₀ ≤ rest.length then
      (decode (rest.drop (word16 l₁ l₀))).map (⟨word16 c₁ c₀, rest.take (word16 l₁ l₀)⟩ :: ·)
    else none
  | _ => none
termination_by bytes => bytes.length
decreasing_by
  simp only [List.length_drop, List.length_cons]
  omega

variable {item : Item} {items : List Item} {bytes rest : List Byte}

lemma decode_item (h : item.WellFormed) : decode (item.bytes ++ rest) = (decode rest).map (item :: ·) := by
  simp only [Item.bytes, bytes16, List.cons_append, List.nil_append]
  rw [decode, word16_bytes16 h.code, word16_bytes16 h.short, if_pos (by simp), List.drop_left, List.take_left]

/-- What is encoded is read back. -/
lemma decode_encode (h : ∀ item ∈ items, item.WellFormed) : decode (encode items) = some items := by
  induction items with
  | nil => rw [encode, List.flatMap_nil, decode]
  | cons item items ih =>
    have hrest := ih fun item hitem => h item (List.mem_cons_of_mem _ hitem)
    rw [encode] at hrest
    rw [encode, List.flatMap_cons, decode_item (h item List.mem_cons_self), hrest, Option.map_some]

/-- What is read is encoded in the bytes, and nothing else is. -/
lemma encode_decode {bytes : List Byte} {items : List Item} (h : decode bytes = some items) :
    encode items = bytes := by
  match bytes with
  | [] =>
    rw [decode] at h
    cases h
    rfl
  | [_] | [_, _] | [_, _, _] =>
    rw [decode] at h
    · cases h
    all_goals simp
  | c₁ :: c₀ :: l₁ :: l₀ :: rest =>
    rw [decode] at h
    split_ifs at h with hfits
    obtain ⟨tail, htail, rfl⟩ := Option.map_eq_some_iff.1 h
    have hrest := encode_decode htail
    rw [encode] at hrest
    rw [encode, List.flatMap_cons, hrest, Item.bytes, List.length_take_of_le hfits, bytes16_word16, bytes16_word16,
      List.append_assoc, List.take_append_drop]
    rfl
termination_by bytes.length
decreasing_by
  simp only [List.length_drop, List.length_cons]
  omega

lemma decode_iff (h : ∀ item ∈ items, item.WellFormed) : decode bytes = some items ↔ bytes = encode items := by
  constructor
  · exact fun hread => (encode_decode hread).symm
  · rintro rfl
    exact decode_encode h

end IoLibrary.WideTlv
