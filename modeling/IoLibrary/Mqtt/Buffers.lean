import IoLibrary.Mqtt.RoundTrips

/-! The serializers and the size of their buffer. -/
namespace IoLibrary.Mqtt
open Base128

/-- What a serializer is called for. -/
inductive Outgoing
  | connect (options : ConnectData)
  | connack (connackRc sessionPresent : ℕ)
  | publish (dup qos retained packetid : ℕ) (topicName : MqttString) (payload : List Byte)
  | ack (packettype dup packetid : ℕ)
  | zero (packettype : ℕ)
  | subscribe (dup packetid : ℕ) (topicFilters : List (MqttString × ℕ))
  | suback (packetid : ℕ) (grantedQoSs : List ℕ)
  | unsubscribe (dup packetid : ℕ) (topicFilters : List MqttString)
  | unsuback (packetid : ℕ)

namespace Outgoing

def serialize (buflen : ℕ) : Outgoing → Except ℤ (List Byte)
  | connect options => serializeConnect buflen options
  | connack connackRc sessionPresent => serializeConnack buflen connackRc sessionPresent
  | publish dup qos retained packetid topicName payload =>
    serializePublish buflen dup qos retained packetid topicName payload
  | ack packettype dup packetid => serializeAck buflen packettype dup packetid
  | zero packettype => serializeZero buflen packettype
  | subscribe dup packetid topicFilters => serializeSubscribe buflen dup packetid topicFilters
  | suback packetid grantedQoSs => serializeSuback buflen packetid grantedQoSs
  | unsubscribe dup packetid topicFilters => serializeUnsubscribe buflen dup packetid topicFilters
  | unsuback packetid => serializeUnsuback buflen packetid

/-- The remaining length in the packet. -/
def rem : Outgoing → ℕ
  | connect options => connectLength options
  | publish _ qos _ _ topicName payload => publishLength qos topicName payload.length
  | subscribe _ _ topicFilters => subscribeLength topicFilters
  | unsubscribe _ _ topicFilters => unsubscribeLength topicFilters
  | suback _ grantedQoSs => 2 + grantedQoSs.length
  | zero _ => 0
  | _ => 2

/-- The size of the packet on the wire. -/
def size (r : Outgoing) : ℕ := 1 + (packetEncode r.rem).length + r.rem

structure WellFormed (r : Outgoing) : Prop where
  rem : r.rem < 2 ^ 28
  strings : match r with
    | connect options => options.WellFormed
    | publish _ _ _ _ topicName _ => topicName.WellFormed
    | subscribe _ _ topicFilters => ∀ f ∈ topicFilters, f.1.WellFormed
    | unsubscribe _ _ topicFilters => ∀ f ∈ topicFilters, f.WellFormed
    | _ => True

/-- The size that the serializer compares with the buffer: an estimate for a packet of any length, the size for a short
one, or, where the header and the length field are left out, too little. -/
def checked : Outgoing → ℕ
  | connect options => packetLen (connectLength options)
  | connack _ _ => 2
  | publish _ qos _ _ topicName payload => packetLen (publishLength qos topicName payload.length)
  | ack _ _ _ => 4
  | zero _ => 2
  | subscribe _ _ topicFilters => packetLen (subscribeLength topicFilters)
  | suback _ grantedQoSs => 2 + grantedQoSs.length
  | unsubscribe _ _ topicFilters => packetLen (unsubscribeLength topicFilters)
  | unsuback _ => 2

/-- The lengths that the estimate of the size takes for a digit longer than they are. -/
def Rounded (rem : ℕ) : Prop := rem = 127 ∨ rem = 16383 ∨ rem = 2097150 ∨ rem = 2097151

instance (rem : ℕ) : Decidable (Rounded rem) := inferInstanceAs (Decidable (_ ∨ _))

/-- The packets whose size is estimated. -/
def Estimated : Outgoing → Prop
  | connect _ | publish .. | subscribe .. | unsubscribe .. => True
  | _ => False

/-- The answers of a server: their buffer is compared with the size of what follows the length field. -/
def Short : Outgoing → Prop
  | connack .. | suback .. | unsuback _ => True
  | _ => False

end Outgoing

section sizes
variable {rem buflen : ℕ} {r : Outgoing}

lemma packetLen_eq (h : rem < 2 ^ 28) :
    packetLen rem = 1 + (packetEncode rem).length + rem + if Outgoing.Rounded rem then 1 else 0 := by
  have hpos := length_encode_pos rem
  have h₁ := length_encode_le (k := 0) (n := rem)
  have h₂ := length_encode_le (k := 1) (n := rem)
  have h₃ := length_encode_le (k := 2) (n := rem)
  have h₄ := length_encode_le (k := 3) (n := rem)
  rw [packetEncode_eq (by omega)]
  norm_num at h₁ h₂ h₃ h₄
  simp only [packetLen]
  by_cases hrounded : rem = 127 ∨ rem = 16383 ∨ rem = 2097150 ∨ rem = 2097151
  · rw [if_pos (show Outgoing.Rounded rem from hrounded)]
    split_ifs <;> omega
  · rw [if_neg (show ¬Outgoing.Rounded rem from hrounded)]
    split_ifs <;> omega

lemma length_filters {fs : List (MqttString × ℕ)} (h : ∀ f ∈ fs, f.1.WellFormed) :
    (fs.flatMap fun f => writeMqttString f.1 ++ [BitVec.ofNat 8 f.2]).length =
      (fs.map fun f => 2 + mqttstrlen f.1 + 1).sum :=
  length_flatMap_filterBytes true h

lemma length_topics {fs : List MqttString} (h : ∀ f ∈ fs, f.WellFormed) :
    (fs.flatMap writeMqttString).length = (fs.map fun f => 2 + mqttstrlen f).sum := by
  induction fs with
  | nil => rfl
  | cons f fs ih =>
    obtain ⟨hf, hfs⟩ := List.forall_mem_cons.1 h
    rw [List.flatMap_cons, List.length_append, length_writeMqttString hf, ih hfs, List.map_cons, List.sum_cons]

/-- A serializer compares `checked` with the buffer, and what it writes has the size of the packet. -/
lemma serialize_cases (buflen : ℕ) (h : r.WellFormed) : ∃ bytes : List Byte, bytes.length = r.size ∧
    r.serialize buflen = if buflen < r.checked then .error bufferTooShort else .ok bytes := by
  have hstrings := h.strings
  cases r with
  | connect options =>
    exact ⟨_, length_connectBytes hstrings, serializeConnect_eq buflen options⟩
  | connack connackRc sessionPresent =>
    refine ⟨_, ?_, rfl⟩
    simp only [List.length_append, List.length_cons, List.length_nil, Outgoing.size, Outgoing.rem]
    omega
  | publish dup qos retained packetid topicName payload =>
    refine ⟨_, ?_, rfl⟩
    simp only [List.length_append, List.length_cons, length_packetid, length_writeMqttString hstrings, Outgoing.size,
      Outgoing.rem]
    generalize (packetEncode (publishLength qos topicName payload.length)).length = n
    rw [publishLength]
    omega
  | ack packettype dup packetid =>
    refine ⟨_, ?_, rfl⟩
    simp only [List.length_append, List.length_cons, List.length_nil, Outgoing.size, Outgoing.rem, bytes16]
    omega
  | zero packettype =>
    refine ⟨_, ?_, rfl⟩
    simp only [List.length_cons, Outgoing.size, Outgoing.rem]
    omega
  | subscribe dup packetid topicFilters =>
    refine ⟨_, ?_, rfl⟩
    simp only [List.length_append, List.length_cons, length_filters hstrings, Outgoing.size, Outgoing.rem]
    generalize (packetEncode (subscribeLength topicFilters)).length = n
    rw [subscribeLength]
    simp only [bytes16, List.length_cons, List.length_nil]
    omega
  | suback packetid grantedQoSs =>
    refine ⟨_, ?_, rfl⟩
    simp only [List.length_append, List.length_cons, List.length_map, Outgoing.size, Outgoing.rem, bytes16,
      List.length_nil]
    omega
  | unsubscribe dup packetid topicFilters =>
    refine ⟨_, ?_, rfl⟩
    simp only [List.length_append, List.length_cons, length_topics hstrings, Outgoing.size, Outgoing.rem]
    generalize (packetEncode (unsubscribeLength topicFilters)).length = n
    rw [unsubscribeLength]
    simp only [bytes16, List.length_cons, List.length_nil]
    omega
  | unsuback packetid =>
    refine ⟨_, ?_, rfl⟩
    simp only [List.length_append, List.length_cons, List.length_nil, Outgoing.size, Outgoing.rem, bytes16]
    omega

lemma checked_estimated (h : r.Estimated) : r.checked = packetLen r.rem := by
  cases r with
  | connect | publish | subscribe | unsubscribe => rfl
  | connack | ack | zero | suback | unsuback => exact h.elim

lemma checked_exact (hest : ¬r.Estimated) (hshort : ¬r.Short) : r.checked = r.size := by
  have htwo : (packetEncode 2).length = 1 := by decide
  have hzero : (packetEncode 0).length = 1 := by decide
  cases r with
  | connect | publish | subscribe | unsubscribe => exact absurd trivial hest
  | connack | suback | unsuback => exact absurd trivial hshort
  | ack => rw [Outgoing.checked, Outgoing.size, Outgoing.rem, htwo] <;> simp
  | zero => rw [Outgoing.checked, Outgoing.size, Outgoing.rem, hzero]

lemma size_le_checked (h : r.WellFormed) (hshort : ¬r.Short) : r.size ≤ r.checked := by
  by_cases hest : r.Estimated
  · rw [checked_estimated hest, packetLen_eq h.rem]
    exact Nat.le_add_right _ _
  · exact (checked_exact hest hshort).ge

lemma checked_le_size (hshort : r.Short) : r.checked ≤ r.size := by
  cases r with
  | connack | unsuback | suback => simp only [Outgoing.checked, Outgoing.size, Outgoing.rem]; omega
  | connect | publish | subscribe | unsubscribe | ack | zero => exact hshort.elim

/-- A serializer that reports success has written past its buffer exactly for a CONNACK, SUBACK or UNSUBACK in a
buffer that has room for what follows the length field and none for the packet. -/
theorem serialize_writes_past (h : r.WellFormed) :
    (∃ bytes, r.serialize buflen = .ok bytes ∧ buflen < bytes.length) ↔
      r.Short ∧ r.checked ≤ buflen ∧ buflen < r.size := by
  obtain ⟨bytes, hlen, hser⟩ := serialize_cases buflen h
  rw [hser]
  constructor
  · rintro ⟨bytes', hok, hpast⟩
    obtain ⟨hfits, rfl⟩ := ok_iff.1 hok
    rw [hlen] at hpast
    refine ⟨not_not.1 fun hshort => ?_, Nat.not_lt.1 hfits, hpast⟩
    have hle := size_le_checked h hshort
    omega
  · rintro ⟨-, hfits, hpast⟩
    exact ⟨bytes, if_neg (Nat.not_lt.2 hfits), hlen ▸ hpast⟩

theorem serialize_writes_past_unsuback :
    (∃ bytes, (Outgoing.unsuback 7).serialize 2 = .ok bytes ∧ 2 < bytes.length) ↔
      (Outgoing.unsuback 7).Short ∧ (Outgoing.unsuback 7).checked ≤ 2 ∧ 2 < (Outgoing.unsuback 7).size :=
  have h : (Outgoing.unsuback 7).WellFormed := ⟨by decide, trivial⟩
  serialize_writes_past h

/-- A packet that would fit in the buffer is refused exactly when its size is estimated, it fits to the byte, and its
remaining length is one that the estimate takes for a digit longer. -/
theorem serialize_refuses (h : r.WellFormed) :
    (r.serialize buflen = .error bufferTooShort ∧ r.size ≤ buflen) ↔
      r.Estimated ∧ Outgoing.Rounded r.rem ∧ buflen = r.size := by
  obtain ⟨bytes, hlen, hser⟩ := serialize_cases buflen h
  have hrefused : r.serialize buflen = .error bufferTooShort ↔ buflen < r.checked := by
    rw [hser]
    split_ifs with hshort <;> simp [hshort]
  rw [hrefused]
  constructor
  · rintro ⟨hrefuses, hfits⟩
    by_cases hest : r.Estimated
    · rw [checked_estimated hest, packetLen_eq h.rem, ← Outgoing.size] at hrefuses
      split_ifs at hrefuses with hrounded
      · exact ⟨hest, hrounded, by omega⟩
      · omega
    · by_cases hshort : r.Short
      · have hle := checked_le_size hshort
        omega
      · rw [checked_exact hest hshort] at hrefuses
        omega
  · rintro ⟨hest, hrounded, rfl⟩
    rw [checked_estimated hest, packetLen_eq h.rem, if_pos hrounded, ← Outgoing.size]
    exact ⟨Nat.lt_succ_self _, Nat.le_refl _⟩

theorem serialize_refuses_rounded :
    ((Outgoing.publish 0 0 0 0 (.ofC [0x61]) (.replicate 124 0)).serialize 129 = .error bufferTooShort ∧
        (Outgoing.publish 0 0 0 0 (.ofC [0x61]) (.replicate 124 0)).size ≤ 129) ↔
      (Outgoing.publish 0 0 0 0 (.ofC [0x61]) (.replicate 124 0)).Estimated ∧
        Outgoing.Rounded (Outgoing.publish 0 0 0 0 (.ofC [0x61]) (.replicate 124 0)).rem ∧
        129 = (Outgoing.publish 0 0 0 0 (.ofC [0x61]) (.replicate 124 0)).size :=
  have h : (Outgoing.publish 0 0 0 0 (.ofC [0x61]) (.replicate 124 0)).WellFormed :=
    ⟨by norm_num [Outgoing.rem, publishLength, mqttstrlen, MqttString.ofC], ⟨.inr rfl, by decide⟩⟩
  serialize_refuses h

end sizes

end IoLibrary.Mqtt
