import IoLibrary.MessageBuffer

/-! Lists of items with a code, one octet for the length and a value. Pad octets may stand between the
items, and an octet of its own ends the list. -/
namespace IoLibrary.Tlv

structure Format where
  pad : Byte
  stop : Byte

structure Item where
  code : Byte
  value : List Byte
  deriving DecidableEq

def Item.bytes (item : Item) : List Byte := item.code :: BitVec.ofNat 8 item.value.length :: item.value

structure Item.WellFormed (f : Format) (item : Item) : Prop where
  pad : item.code ≠ f.pad
  stop : item.code ≠ f.stop
  short : item.value.length < 256

instance (f : Format) (item : Item) : Decidable (item.WellFormed f) :=
  decidable_of_iff (item.code ≠ f.pad ∧ item.code ≠ f.stop ∧ item.value.length < 256)
    ⟨fun h => ⟨h.1, h.2.1, h.2.2⟩, fun h => ⟨h.pad, h.stop, h.short⟩⟩

/-- The items up to the octet that ends them, or up to the end of the bytes; none where an item is cut off. -/
def decode (f : Format) : List Byte → Option (List Item)
  | [] => some []
  | code :: rest =>
    if code = f.stop then some []
    else if code = f.pad then decode f rest
    else match rest with
      | [] => none
      | len :: rest =>
        if len.toNat ≤ rest.length then
          (decode f (rest.drop len.toNat)).map (⟨code, rest.take len.toNat⟩ :: ·)
        else none
termination_by bytes => bytes.length
decreasing_by
  · simp
  · simp only [List.length_drop, List.length_cons]
    omega

/-- The value of the last item with the code. -/
def last (code : Byte) (items : List Item) : Option (List Byte) :=
  ((items.filter fun item => item.code = code).map Item.value).getLast?

section decode
variable {f : Format} {item : Item} {items : List Item} {code : Byte} {rest : List Byte}

@[simp] lemma decode_nil : decode f [] = some [] := by rw [decode]

@[simp] lemma decode_stop : decode f (f.stop :: rest) = some [] := by
  rw [decode.eq_def]
  exact if_pos rfl

lemma decode_pad (h : f.pad ≠ f.stop) : decode f (f.pad :: rest) = decode f rest := by
  rw [decode.eq_def]
  exact (if_neg h).trans (if_pos rfl)

lemma decode_item (h : item.WellFormed f) :
    decode f (item.bytes ++ rest) = (decode f rest).map (item :: ·) := by
  have hlen : (BitVec.ofNat 8 item.value.length).toNat = item.value.length := by
    rw [BitVec.toNat_ofNat]
    exact Nat.mod_eq_of_lt h.short
  rw [Item.bytes, List.cons_append, List.cons_append, decode, if_neg h.stop, if_neg h.pad]
  simp only [hlen]
  rw [if_pos (by simp), List.drop_left, List.take_left]

/-- A list of items is read back. -/
lemma decode_items (h : ∀ item ∈ items, item.WellFormed f) :
    decode f (items.flatMap Item.bytes ++ rest) = (decode f rest).map (items ++ ·) := by
  induction items with
  | nil => simp
  | cons item items ih =>
    rw [List.flatMap_cons, List.append_assoc, decode_item (h item List.mem_cons_self),
      ih fun item hitem => h item (List.mem_cons_of_mem _ hitem), Option.map_map]
    rfl

lemma last_cons : last code (item :: items) =
    (last code items).or (if item.code = code then some item.value else none) := by
  rw [last, last, List.filter_cons]
  by_cases h : item.code = code
  · simp [h, List.getLast?_cons]
  · simp [h]

end decode

end IoLibrary.Tlv
