import IoLibrary.Mqtt.Packet
import Mathlib.Algebra.BigOperators.Group.List.Basic
import Mathlib.Tactic.NormNum
import Mathlib.Tactic.Ring

/-! What the serializers of the packets write, the deserializers of the other side read. -/
namespace IoLibrary.Mqtt
open Base128

section lengths
variable {m : Mem} {p len digits multiplier value n : ℕ} {bytes : List Byte}

lemma encodeLoop_eq : ∀ {digits n : ℕ}, n < 128 ^ (digits + 1) → encodeLoop (digits + 1) n = encode n
  | digits, n, h => by
    rw [encodeLoop]
    rcases Nat.lt_or_ge n 128 with hsmall | hlarge
    · rw [if_neg (by omega), encode_small hsmall, Nat.mod_eq_of_lt hsmall]
    · cases digits with
      | zero => omega
      | succ digits =>
        rw [pow_succ] at h
        rw [if_pos (by omega), encode_large hlarge, encodeLoop_eq (by omega)]

lemma packetEncode_eq (h : n < 2 ^ 31) : packetEncode n = encode n := encodeLoop_eq (by omega)

/-- The loop over the digits of a number that is not too long. -/
lemma decodeLoop_numeral (hnum : Numeral bytes) (hlen : bytes.length ≤ digits) (hm : m.Holds (p + len) bytes) :
    decodeLoop m p digits len multiplier value = (len + bytes.length, value + multiplier * Base128.value bytes) := by
  induction bytes generalizing digits len multiplier value with
  | nil => exact absurd rfl hnum.ne_nil
  | cons b rest ih =>
    obtain ⟨digits, rfl⟩ := Nat.exists_eq_add_of_lt (Nat.lt_of_lt_of_le (Nat.succ_pos _) hlen)
    obtain ⟨hb, hrest⟩ := Mem.holds_cons.1 hm
    rw [Nat.zero_add, decodeLoop, hb, Base128.value]
    rcases rest with _ | ⟨c, rest⟩
    · rw [if_neg (Nat.not_le.2 hnum), Base128.value, Nat.mul_zero, Nat.add_zero, Nat.mul_comm]
      rfl
    · rw [if_pos hnum.1, ih hnum.2 (by simp only [List.length_cons] at hlen ⊢; omega) hrest]
      simp only [List.length_cons, Prod.mk.injEq]
      constructor
      · omega
      · ring

/-- A number of more digits than are read: the loop gives the value of those it has read. -/
lemma decodeLoop_long (len multiplier value : ℕ) (hbytes : ∀ b ∈ bytes, 128 ≤ b.toNat)
    (hm : m.Holds (p + len) bytes) :
    decodeLoop m p bytes.length len multiplier value =
      (len + bytes.length + 1, value + multiplier * Base128.value bytes) := by
  induction bytes generalizing len multiplier value with
  | nil => simp [decodeLoop, Base128.value]
  | cons b rest ih =>
    obtain ⟨hb, hrest⟩ := Mem.holds_cons.1 hm
    rw [List.length_cons, decodeLoop, hb, if_pos (hbytes b List.mem_cons_self),
      ih _ _ _ (fun b h => hbytes b (List.mem_cons_of_mem _ h)) hrest, Base128.value]
    simp only [Prod.mk.injEq]
    constructor
    · omega
    · ring

lemma packetDecodeBuf_encode (h : n < 2 ^ 28) (hm : m.Holds p (packetEncode n)) :
    packetDecodeBuf m p = ((packetEncode n).length, n) := by
  rw [packetEncode_eq (by omega)] at hm ⊢
  rw [packetDecodeBuf, decodeLoop_numeral (numeral_encode n) (length_encode_le.2 (by omega)) hm, value_encode]
  simp

/-- The first digits of a long number all say that another one follows. -/
lemma encode_take {k n : ℕ} (h : 128 ^ k ≤ n) :
    ∃ bytes rest, encode n = bytes ++ rest ∧ bytes.length = k ∧ (∀ b ∈ bytes, 128 ≤ b.toNat) ∧
      Base128.value bytes = n % 128 ^ k := by
  induction k generalizing n with
  | zero => exact ⟨[], encode n, rfl, rfl, by simp, by simp [Base128.value, Nat.mod_one]⟩
  | succ k ih =>
    have hpow : 128 ^ (k + 1) = 128 * 128 ^ k := by ring
    have hpos : 0 < 128 ^ k := Nat.pos_of_ne_zero (by simp)
    obtain ⟨bytes, rest, heq, hlen, hbytes, hvalue⟩ := ih (n := n / 128) (by omega)
    refine ⟨BitVec.ofNat 8 (n % 128 + 128) :: bytes, rest, ?_, by rw [List.length_cons, hlen], ?_, ?_⟩
    · rw [encode_large (by omega), heq, List.cons_append]
    · intro b hb
      rcases List.mem_cons.1 hb with rfl | hb
      · rw [toNat_digit (by omega)]
        omega
      · exact hbytes b hb
    · rw [Base128.value, hvalue, toNat_digit (by omega), hpow, Nat.mod_mul]
      omega

/-- The length of a packet is read back from where it is written exactly when it fits in four digits; of a longer one
the low digits come back, and the length reader claims a fifth byte that it has not looked at. -/
theorem packetDecodeBuf_packetEncode (m : Mem) (p n : ℕ) (hn : n < 2 ^ 31) (hm : m.Holds p (packetEncode n)) :
    packetDecodeBuf m p = if n < 2 ^ 28 then ((packetEncode n).length, n) else (5, n % 2 ^ 28) := by
  split_ifs with hfits
  · exact packetDecodeBuf_encode hfits hm
  · obtain ⟨bytes, rest, heq, hlen, hbytes, hvalue⟩ := encode_take (k := 4) (n := n) (by omega)
    rw [packetEncode_eq hn, heq] at hm
    have hloop := decodeLoop_long 0 1 0 hbytes (Mem.holds_append.1 hm).1
    rw [hlen] at hloop
    rw [packetDecodeBuf, hloop, hvalue]
    norm_num

theorem packetDecodeBuf_packetEncode_300 :
    packetDecodeBuf (Mem.fill (fun _ => 0) (packetEncode 300)) 0 =
      if 300 < 2 ^ 28 then ((packetEncode 300).length, 300) else (5, 300 % 2 ^ 28) :=
  packetDecodeBuf_packetEncode _ 0 300 (by norm_num) (Mem.holds_fill _)

end lengths

section strings
variable {m : Mem} {p enddata rem : ℕ} {s : List Byte} {topic : MqttString}

/-- One way of giving a string at a time, and not too long for its two length bytes. -/
structure MqttString.WellFormed (s : MqttString) : Prop where
  single : s.cstring = none ∨ s.lenstring = none
  short : (written s).length < 65536

lemma mqttstrlen_eq (h : topic.cstring = none ∨ topic.lenstring = none) :
    mqttstrlen topic = (written topic).length := by
  rcases topic with ⟨_ | c, _ | l⟩
  · rfl
  · rcases l with _ | ⟨b, l⟩ <;> rfl
  · rfl
  · rcases h with h | h <;> cases h

lemma length_writeMqttString (h : topic.WellFormed) : (writeMqttString topic).length = 2 + mqttstrlen topic := by
  rw [writeMqttString, mqttstrlen_eq h.single, List.length_append]
  rfl

lemma readMqttLenString_holds (hs : s.length < 65536) (hm : m.Holds p (bytes16 s.length ++ s))
    (hend : p + 2 + s.length ≤ enddata) : readMqttLenString m p enddata = some (s, p + 2 + s.length) := by
  obtain ⟨hlen, hdata⟩ := Mem.holds_append.1 hm
  rw [readMqttLenString, hlen.get16 hs, if_pos ⟨by omega, hend⟩]
  exact congrArg some (Prod.ext_iff.2 ⟨hdata, rfl⟩)

lemma readMqttLenString_write (h : topic.WellFormed) (hm : m.Holds p (writeMqttString topic))
    (hend : p + (writeMqttString topic).length ≤ enddata) :
    readMqttLenString m p enddata = some (written topic, p + (writeMqttString topic).length) := by
  have hlen : (writeMqttString topic).length = 2 + (written topic).length := by
    rw [length_writeMqttString h, mqttstrlen_eq h.single]
  rw [readMqttLenString_holds h.short hm (by omega), hlen, Nat.add_assoc]

/-- The estimate of the size is never too small. -/
lemma packetLen_ge (h : rem < 2 ^ 28) : 1 + (packetEncode rem).length + rem ≤ packetLen rem := by
  have h₁ := length_encode_le (k := 0) (n := rem)
  have h₂ := length_encode_le (k := 1) (n := rem)
  have h₃ := length_encode_le (k := 2) (n := rem)
  have h₄ := length_encode_le (k := 3) (n := rem)
  rw [packetEncode_eq (by omega)]
  norm_num at h₁ h₂ h₃ h₄
  simp only [packetLen]
  split_ifs <;> omega

end strings

/-- What a reader finds at the front of a packet, and where the rest begins. -/
lemma holds_packet {b : Byte} {body : List Byte} (hrem : rem < 2 ^ 28)
    (hm : m.Holds 0 (b :: packetEncode rem ++ body)) :
    m 0 = b ∧ packetDecodeBuf m 1 = ((packetEncode rem).length, rem) ∧
      m.Holds (1 + (packetEncode rem).length) body := by
  rw [List.cons_append, Mem.holds_cons, Mem.holds_append] at hm
  obtain ⟨hb, hlen, hbody⟩ := hm
  rw [Nat.zero_add] at hlen hbody
  exact ⟨hb, packetDecodeBuf_encode hrem hlen, hbody⟩

/-- A serializer that has not refused has written its bytes. -/
lemma ok_iff {c : Prop} [Decidable c] {e : ℤ} {x bytes : List Byte} :
    (if c then Except.error e else .ok x) = .ok bytes ↔ ¬c ∧ x = bytes := by
  split_ifs with hc <;> simp [hc]

section publishing
variable {m : Mem} {buflen dup qos retained packetid packettype : ℕ} {topicName : MqttString}
  {payload bytes : List Byte}

lemma length_packetid : (if 0 < qos then bytes16 packetid else []).length = if 0 < qos then 2 else 0 := by
  split_ifs <;> rfl

/-- The packet of a message. -/
def publishBytes (dup qos retained packetid : ℕ) (topicName : MqttString) (payload : List Byte) : List Byte :=
  header msgPublish dup qos retained :: packetEncode (publishLength qos topicName payload.length) ++
    writeMqttString topicName ++ (if 0 < qos then bytes16 packetid else []) ++ payload

lemma deserializePublish_holds (hdup : dup < 2) (hqos : qos < 4) (hretained : retained < 2) (hid : packetid < 65536)
    (htopic : topicName.WellFormed) (hlen : publishLength qos topicName payload.length < 2 ^ 28)
    (hbytes : publishBytes dup qos retained packetid topicName payload = bytes) (hm : m.Holds 0 bytes) :
    bytes.length ≤ packetLen (publishLength qos topicName payload.length) ∧
    deserializePublish m = (1, some ⟨dup, qos, retained, some (written topicName),
      if 0 < qos then some packetid else none, some (bytes.length - payload.length, payload.length)⟩) ∧
    m.slice (bytes.length - payload.length) payload.length = payload := by
  subst hbytes
  have hfits := packetLen_ge hlen
  have htop := length_writeMqttString htopic
  have hrem : publishLength qos topicName payload.length =
    (writeMqttString topicName).length + (if 0 < qos then 2 else 0) + payload.length := by
    rw [publishLength, htop]
    omega
  rw [publishBytes, List.append_assoc, List.append_assoc] at hm
  rw [publishBytes]
  obtain ⟨hheader, hdecode, hbody⟩ := holds_packet hlen hm
  generalize publishLength qos topicName payload.length = rem at *
  rw [Mem.holds_append, Mem.holds_append, length_packetid] at hbody
  obtain ⟨htopicName, hpacketid, hpayload⟩ := hbody
  have hread : readMqttLenString m _ (1 + (packetEncode rem).length + rem) = _ :=
    readMqttLenString_write htopic htopicName (by omega)
  simp only [List.length_append, List.length_cons, length_packetid]
  generalize (packetEncode rem).length = n at *
  generalize (writeMqttString topicName).length = l at *
  have hplace : n + 1 + l + (if 0 < qos then 2 else 0) + payload.length - payload.length =
      1 + n + l + if 0 < qos then 2 else 0 := by omega
  rw [hplace]
  refine ⟨by omega, ?_, hpayload⟩
  have hq : qosOf (header msgPublish dup qos retained) = qos := by rw [qosOf_header, Nat.mod_eq_of_lt hqos]
  simp only [deserializePublish, hheader, hdecode, hread, hq, typeOf_header, dupOf_header, retainOf_header,
    Nat.mod_eq_of_lt hdup, Nat.mod_eq_of_lt hretained]
  rw [if_neg (by decide)]
  split_ifs at hpacketid hrem ⊢ with hpos
  · rw [hpacketid.get16 hid]
    simp only [Prod.mk.injEq, Option.some.injEq, PublishOut.mk.injEq, true_and]
    omega
  · simp only [Prod.mk.injEq, Option.some.injEq, PublishOut.mk.injEq, true_and]
    omega

/-- A message comes out of a packet as it went in: whatever stands behind the packet in the memory, the flags, the
quality, the topic, the packet id where there is one and the payload are read back, and the packet has fitted in the
buffer it was written to. -/
theorem deserializePublish_serializePublish (hdup : dup < 2) (hqos : qos < 4) (hretained : retained < 2)
    (hid : packetid < 65536) (htopic : topicName.WellFormed)
    (hlen : publishLength qos topicName payload.length < 2 ^ 28)
    (h : serializePublish buflen dup qos retained packetid topicName payload = .ok bytes) (hm : m.Holds 0 bytes) :
    bytes.length ≤ buflen ∧
    deserializePublish m = (1, some ⟨dup, qos, retained, some (written topicName),
      if 0 < qos then some packetid else none, some (bytes.length - payload.length, payload.length)⟩) ∧
    m.slice (bytes.length - payload.length) payload.length = payload := by
  obtain ⟨hshort, hbytes⟩ := ok_iff.1 h
  obtain ⟨hfits, hread⟩ := deserializePublish_holds hdup hqos hretained hid htopic hlen hbytes hm
  exact ⟨hfits.trans (Nat.not_lt.1 hshort), hread⟩

theorem deserializePublish_serializePublish_two :
    deserializePublish (Mem.fill (fun _ => 0) [0x33, 7, 0, 2, 0x61, 0x62, 2, 1, 9]) =
      (1, some ⟨0, 1, 1, some [0x61, 0x62], some 513, some (8, 1)⟩) :=
  have h : serializePublish 16 0 1 1 513 (.ofC [0x61, 0x62]) [9] = .ok [0x33, 7, 0, 2, 0x61, 0x62, 2, 1, 9] := rfl
  (deserializePublish_serializePublish (by decide) (by decide) (by decide) (by decide) ⟨.inr rfl, by decide⟩
    (by decide) h (Mem.holds_fill _)).2.1

lemma deserializeAck_holds (htype : packettype < 16) (hdup : dup < 2) (hid : packetid < 65536)
    (hm : m.Holds 0 (header packettype dup qos 0 :: packetEncode 2 ++ bytes16 packetid)) :
    deserializeAck m = (1, ⟨packettype, dup, some packetid⟩) := by
  obtain ⟨hheader, hdecode, hbody⟩ := holds_packet (by norm_num) hm
  simp only [deserializeAck, hheader, hdecode, hbody.get16 hid, typeOf_header, dupOf_header, Nat.mod_eq_of_lt htype,
    Nat.mod_eq_of_lt hdup]
  rfl

/-- An acknowledgement comes back with its type and its packet id. -/
theorem deserializeAck_serializeAck (htype : packettype < 16) (hdup : dup < 2) (hid : packetid < 65536)
    (h : serializeAck buflen packettype dup packetid = .ok bytes) (hm : m.Holds 0 bytes) :
    bytes.length ≤ buflen ∧ deserializeAck m = (1, ⟨packettype, dup, some packetid⟩) := by
  obtain ⟨hshort, rfl⟩ := ok_iff.1 h
  exact ⟨Nat.not_lt.1 hshort, deserializeAck_holds htype hdup hid hm⟩

theorem deserializeAck_serializeAck_two :
    deserializeAck (Mem.fill (fun _ => 0) [0x62, 2, 0, 7]) = (1, ⟨msgPubrel, 0, some 7⟩) :=
  have h : serializeAck 4 msgPubrel 0 7 = .ok [0x62, 2, 0, 7] := rfl
  (deserializeAck_serializeAck (by decide) (by decide) (by decide) h (Mem.holds_fill _)).2

end publishing

section subscribing
variable {m : Mem} {quality : Bool} {rc other : ℤ} {enddata turns p rem type buflen dup packetid maxcount : ℕ}
  {fs : List (MqttString × ℕ)} {bytes : List Byte} {granted : List ℕ} {acc : List (List Byte × Option Byte)}

/-- A topic filter in a packet, with its quality if the packet has them. -/
def filterBytes (quality : Bool) (f : MqttString × ℕ) : List Byte :=
  writeMqttString f.1 ++ if quality then [BitVec.ofNat 8 f.2] else []

/-- What is read of a topic filter. -/
def filterRead (quality : Bool) (f : MqttString × ℕ) : List Byte × Option Byte :=
  (written f.1, if quality then some (BitVec.ofNat 8 f.2) else none)

lemma length_flatMap_filterBytes (quality : Bool) (h : ∀ f ∈ fs, f.1.WellFormed) :
    (fs.flatMap (filterBytes quality)).length =
      (fs.map fun f => 2 + mqttstrlen f.1 + if quality then 1 else 0).sum := by
  induction fs with
  | nil => rfl
  | cons f fs ih =>
    have hlen : (filterBytes quality f).length = 2 + mqttstrlen f.1 + if quality then 1 else 0 := by
      rw [filterBytes, List.length_append, length_writeMqttString (h f List.mem_cons_self)]
      cases quality <;> rfl
    rw [List.flatMap_cons, List.length_append, hlen, ih fun f hf => h f (List.mem_cons_of_mem _ hf), List.map_cons,
      List.sum_cons]

/-- The loop over the topic filters reads them all, one after the other. -/
lemma filterLoop_holds (h : ∀ f ∈ fs, f.1.WellFormed) (hm : m.Holds p (fs.flatMap (filterBytes quality)))
    (hend : p + (fs.flatMap (filterBytes quality)).length = enddata) (hturns : fs.length < turns) :
    filterLoop m quality rc enddata turns p acc = (1, acc ++ fs.map (filterRead quality)) := by
  induction fs generalizing turns p acc with
  | nil =>
    obtain ⟨turns, rfl⟩ := Nat.exists_eq_add_of_lt hturns
    rw [filterLoop, if_pos (by simpa using hend.ge), List.map_nil, List.append_nil]
  | cons f fs ih =>
    obtain ⟨turns, rfl⟩ := Nat.exists_eq_add_of_lt (Nat.lt_of_le_of_lt (Nat.zero_le _) hturns)
    rw [List.flatMap_cons, Mem.holds_append] at hm
    rw [List.flatMap_cons, List.length_append] at hend
    rw [List.length_cons] at hturns
    have hwf := h f List.mem_cons_self
    have hlen := length_writeMqttString hwf
    have hrest : ∀ f ∈ fs, f.1.WellFormed := fun f hf => h f (List.mem_cons_of_mem _ hf)
    obtain ⟨hf, hfs⟩ := hm
    obtain ⟨htopic, hquality⟩ := Mem.holds_append.1 hf
    rw [filterBytes, List.length_append] at hend hfs
    rw [Nat.zero_add, filterLoop, if_neg (by omega), readMqttLenString_write hwf htopic (by omega)]
    cases quality with
    | true =>
      simp only [if_true, List.length_singleton] at hquality hfs hend ⊢
      rw [if_neg (by omega), (Mem.holds_cons.1 hquality).1,
        ih hrest (by rwa [Nat.add_assoc]) (by omega) (by omega),
        List.map_cons, List.append_assoc, List.singleton_append]
      rfl
    | false =>
      simp only [Bool.false_eq_true, if_false, List.length_nil, Nat.add_zero] at hfs hend ⊢
      rw [ih hrest hfs (by omega) (by omega), List.map_cons, List.append_assoc, List.singleton_append]
      rfl

lemma deserializeFilters_holds (htype : type < 16) (hdup : dup < 2) (hid : packetid < 65536)
    (hwf : ∀ f ∈ fs, f.1.WellFormed) (hrem : rem = 2 + (fs.flatMap (filterBytes quality)).length)
    (hlen : rem < 2 ^ 28) (hm : m.Holds 0
      (header type dup 1 0 :: packetEncode rem ++ bytes16 packetid ++ fs.flatMap (filterBytes quality))) :
    deserializeFilters type quality other m = (1, some ⟨dup, packetid, fs.map (filterRead quality)⟩) := by
  rw [List.append_assoc] at hm
  obtain ⟨hheader, hdecode, hbody⟩ := holds_packet hlen hm
  obtain ⟨hpacketid, hfs⟩ := Mem.holds_append.1 hbody
  have hcount : fs.length ≤ (fs.flatMap (filterBytes quality)).length := by
    rw [length_flatMap_filterBytes _ hwf]
    refine (Nat.le_of_eq (by simp)).trans (List.length_le_sum_of_one_le _ fun size hsize => ?_)
    obtain ⟨f, -, rfl⟩ := List.mem_map.1 hsize
    omega
  have hplace : 1 + (packetEncode rem).length + (bytes16 packetid).length = 3 + (packetEncode rem).length := by
    simp only [bytes16, List.length_cons, List.length_nil]
    omega
  rw [hplace] at hfs
  simp only [deserializeFilters, hheader, hdecode, typeOf_header, dupOf_header, Nat.mod_eq_of_lt htype,
    Nat.mod_eq_of_lt hdup, hpacketid.get16 hid, ne_eq, not_true_eq_false, if_false]
  rw [filterLoop_holds hwf hfs (by omega) (by omega), List.nil_append]

/-- Every topic filter of a subscription is read back in its place, with the quality that was asked for. -/
theorem deserializeSubscribe_serializeSubscribe (hdup : dup < 2) (hid : packetid < 65536)
    (hwf : ∀ f ∈ fs, f.1.WellFormed) (hlen : subscribeLength fs < 2 ^ 28)
    (h : serializeSubscribe buflen dup packetid fs = .ok bytes) (hm : m.Holds 0 bytes) :
    bytes.length ≤ buflen ∧ deserializeSubscribe m =
      (1, some ⟨dup, packetid, fs.map fun f => (written f.1, some (BitVec.ofNat 8 f.2))⟩) := by
  obtain ⟨hshort, rfl⟩ := ok_iff.1 h
  have hsum := length_flatMap_filterBytes true hwf
  have hrem : subscribeLength fs = 2 + (fs.flatMap (filterBytes true)).length := by rw [hsum]; rfl
  refine ⟨?_, deserializeFilters_holds (by decide) hdup hid hwf hrem hlen hm⟩
  have hfits := packetLen_ge hlen
  change (_ :: _ ++ _ ++ fs.flatMap (filterBytes true)).length ≤ buflen
  simp only [List.length_append, List.length_cons, bytes16, List.length_nil]
  omega

theorem deserializeSubscribe_serializeSubscribe_two :
    deserializeSubscribe (Mem.fill (fun _ => 0) [0x82, 10, 0, 7, 0, 1, 0x61, 1, 0, 1, 0x62, 2]) =
      (1, some ⟨0, 7, [([0x61], some 1), ([0x62], some 2)]⟩) :=
  have h : serializeSubscribe 16 0 7 [(.ofC [0x61], 1), (.ofLen [0x62], 2)] =
    .ok [0x82, 10, 0, 7, 0, 1, 0x61, 1, 0, 1, 0x62, 2] := rfl
  have hwf : ∀ f ∈ [(MqttString.ofC [0x61], 1), (.ofLen [0x62], 2)], f.1.WellFormed :=
    List.forall_mem_cons.2 ⟨⟨.inr rfl, by decide⟩, List.forall_mem_singleton.2 ⟨.inl rfl, by decide⟩⟩
  (deserializeSubscribe_serializeSubscribe (by decide) (by decide) hwf (by decide) h (Mem.holds_fill _)).2

lemma unsubscribe_filters (fs : List MqttString) :
    fs.flatMap writeMqttString = (fs.map fun f => (f, 0)).flatMap (filterBytes false) := by
  rw [List.flatMap_map]
  exact List.flatMap_congr fun f _ => (List.append_nil _).symm

/-- Every topic filter that is given up is read back in its place. -/
theorem deserializeUnsubscribe_serializeUnsubscribe {fs : List MqttString} (hdup : dup < 2) (hid : packetid < 65536)
    (hwf : ∀ f ∈ fs, f.WellFormed) (hlen : unsubscribeLength fs < 2 ^ 28)
    (h : serializeUnsubscribe buflen dup packetid fs = .ok bytes) (hm : m.Holds 0 bytes) :
    bytes.length ≤ buflen ∧
      deserializeUnsubscribe m = (1, some ⟨dup, packetid, fs.map fun f => (written f, none)⟩) := by
  obtain ⟨hshort, rfl⟩ := ok_iff.1 h
  have hwf' : ∀ f ∈ fs.map fun f => (f, 0), f.1.WellFormed := by
    intro f hf
    obtain ⟨g, hg, rfl⟩ := List.mem_map.1 hf
    exact hwf g hg
  have hsum := length_flatMap_filterBytes false hwf'
  have hrem : unsubscribeLength fs = 2 + ((fs.map fun f => (f, 0)).flatMap (filterBytes false)).length := by
    rw [hsum, List.map_map]
    rfl
  rw [unsubscribe_filters] at hm ⊢
  constructor
  · have hfits := packetLen_ge hlen
    simp only [List.length_append, List.length_cons, bytes16, List.length_nil]
    omega
  · rw [deserializeUnsubscribe, deserializeFilters_holds (by decide) hdup hid hwf' hrem hlen hm, List.map_map]
    rfl

theorem deserializeUnsubscribe_serializeUnsubscribe_two :
    deserializeUnsubscribe (Mem.fill (fun _ => 0) [0xa2, 8, 0, 7, 0, 1, 0x61, 0, 1, 0x62]) =
      (1, some ⟨0, 7, [([0x61], none), ([0x62], none)]⟩) :=
  have h : serializeUnsubscribe 16 0 7 [.ofC [0x61], .ofLen [0x62]] =
    .ok [0xa2, 8, 0, 7, 0, 1, 0x61, 0, 1, 0x62] := rfl
  have hwf : ∀ f ∈ [MqttString.ofC [0x61], .ofLen [0x62]], f.WellFormed :=
    List.forall_mem_cons.2 ⟨⟨.inr rfl, by decide⟩, List.forall_mem_singleton.2 ⟨.inl rfl, by decide⟩⟩
  (deserializeUnsubscribe_serializeUnsubscribe (by decide) (by decide) hwf (by decide) h (Mem.holds_fill _)).2

/-- The loop takes one quality more than the array has places. -/
lemma subackLoop_eq {left : ℕ} {acc : List Byte} (hacc : acc.length ≤ maxcount + 1) :
    subackLoop m maxcount left p acc =
      (if acc.length + left ≤ maxcount + 1 then 1 else -1,
        acc ++ (m.slice p left).take (maxcount + 1 - acc.length)) := by
  induction left generalizing p acc with
  | zero => simp [subackLoop, hacc]
  | succ left ih =>
    rw [subackLoop]
    split_ifs with hfull hfits hfits
    · omega
    · simp [show maxcount + 1 - acc.length = 0 by omega]
    all_goals
      rw [ih (by simp; omega), Mem.slice_succ, show maxcount + 1 - acc.length = maxcount - acc.length + 1 by omega,
        List.take_succ_cons, List.append_assoc, List.length_append, List.length_singleton,
        show maxcount + 1 - (acc.length + 1) = maxcount - acc.length by omega]
    · rw [if_pos (by omega)]
      rfl
    · rw [if_neg (by omega)]
      rfl

lemma deserializeSuback_holds {qs : List Byte} (hid : packetid < 65536) (hlen : 2 + qs.length < 2 ^ 28)
    (hm : m.Holds 0 (header msgSuback 0 0 0 :: packetEncode (2 + qs.length) ++ (bytes16 packetid ++ qs))) :
    deserializeSuback m maxcount =
      (if qs.length ≤ maxcount + 1 then 1 else -1, some (packetid, qs.take (maxcount + 1))) := by
  obtain ⟨hheader, hdecode, hbody⟩ := holds_packet hlen hm
  obtain ⟨hpacketid, hgranted⟩ := Mem.holds_append.1 hbody
  have hslice : m.slice (3 + (packetEncode (2 + qs.length)).length) (2 + qs.length - 2) = qs := by
    rw [Mem.Holds] at hgranted
    rw [← hgranted, Nat.add_sub_cancel_left]
    simp only [Mem.length_slice]
    congr 1
    simp only [bytes16, List.length_cons, List.length_nil]
    omega
  simp only [deserializeSuback, hheader, hdecode, typeOf_header, hpacketid.get16 hid]
  rw [if_neg (by decide), if_neg (by omega), subackLoop_eq (by simp), hslice]
  simp only [List.length_nil, Nat.zero_add, List.nil_append, Nat.sub_zero, Nat.add_sub_cancel_left]

/-- The answer to a subscription is read with its packet id. It is taken as right when it has up to one quality more
than there is room for, and that one is stored behind the array; a longer one is refused, after the same one has been
stored. -/
theorem deserializeSuback_serializeSuback (hid : packetid < 65536) (hlen : 2 + granted.length < 2 ^ 28)
    (h : serializeSuback buflen packetid granted = .ok bytes) (hm : m.Holds 0 bytes) :
    deserializeSuback m maxcount = (if granted.length ≤ maxcount + 1 then 1 else -1,
      some (packetid, (granted.map (BitVec.ofNat 8)).take (maxcount + 1))) := by
  obtain ⟨hshort, rfl⟩ := ok_iff.1 h
  have hsame : (granted.map (BitVec.ofNat 8)).length = granted.length := List.length_map _
  rw [List.append_assoc, ← hsame] at hm
  rw [deserializeSuback_holds hid (by rwa [hsame]) hm, hsame]

theorem deserializeSuback_serializeSuback_two :
    deserializeSuback (Mem.fill (fun _ => 0) [0x90, 4, 0, 7, 1, 2]) 1 = (1, some (7, [1, 2])) :=
  have h : serializeSuback 6 7 [1, 2] = .ok [0x90, 4, 0, 7, 1, 2] := rfl
  deserializeSuback_serializeSuback (by decide) (by decide) h (Mem.holds_fill _)

end subscribing

section connecting
variable {m : Mem} {p enddata buflen packetid : ℕ} {bytes : List Byte} {options data : ConnectData} {flags : Byte}

structure ConnectData.WellFormed (options : ConnectData) : Prop where
  version : options.mqttVersion = 3 ∨ options.mqttVersion = 4
  keepAlive : options.keepAliveInterval < 65536
  clientId : options.clientId.WellFormed
  topicName : options.will.topicName.WellFormed
  message : options.will.message.WellFormed
  username : options.username.WellFormed
  password : options.password.WellFormed

/-- What the reader asks of the name and the password: no password without a name, no empty password, and no empty
name at the end of the packet. -/
def ConnectData.Accepted (options : ConnectData) : Prop :=
  (options.password.given → options.username.given ∧ written options.password ≠ []) ∧
    (options.username.given → written options.username = [] → options.password.given)

instance (options : ConnectData) : Decidable options.Accepted := inferInstanceAs (Decidable (_ ∧ _))

/-- The options as they are read into `data`. -/
def received (options data : ConnectData) : ConnectData where
  mqttVersion := data.mqttVersion
  clientId := .ofLen (written options.clientId)
  keepAliveInterval := options.keepAliveInterval
  cleansession := options.cleansession % 2
  willFlag := options.willFlag
  will := if options.willFlag then ⟨.ofLen (written options.will.topicName), .ofLen (written options.will.message),
    options.will.retained % 2, options.will.qos % 4⟩ else data.will
  username := if options.username.given then .ofLen (written options.username) else data.username
  password := if options.password.given then .ofLen (written options.password) else data.password

lemma toNat_connectFlags : (connectFlags options).toNat =
    options.username.given.toNat * 128 + options.password.given.toNat * 64 +
      (if options.willFlag then options.will.retained % 2 * 32 + options.will.qos % 4 * 8 + 4 else 0) +
      options.cleansession % 2 * 2 := by
  have hu := options.username.given.toNat_le
  have hp := options.password.given.toNat_le
  rw [connectFlags, BitVec.toNat_ofNat]
  split_ifs <;> omega

lemma getLsbD_eq (b : Byte) (i : ℕ) : b.getLsbD i = decide (b.toNat / 2 ^ i % 2 = 1) := by
  rw [← BitVec.testBit_toNat, Nat.testBit_eq_decide_div_mod_eq]

lemma connectFlags_username : (connectFlags options).getLsbD 7 = options.username.given := by
  have hp := options.password.given.toNat_le
  rw [getLsbD_eq, toNat_connectFlags]
  cases options.username.given <;> simp only [Bool.toNat_true, Bool.toNat_false, decide_eq_true_eq,
    decide_eq_false_iff_not]
    <;> split_ifs <;> omega

lemma connectFlags_password : (connectFlags options).getLsbD 6 = options.password.given := by
  have hu := options.username.given.toNat_le
  rw [getLsbD_eq, toNat_connectFlags]
  cases options.password.given <;> simp only [Bool.toNat_true, Bool.toNat_false, decide_eq_true_eq,
    decide_eq_false_iff_not]
    <;> split_ifs <;> omega

lemma connectFlags_will : (connectFlags options).getLsbD 2 = options.willFlag := by
  have hu := options.username.given.toNat_le
  have hp := options.password.given.toNat_le
  rw [getLsbD_eq, toNat_connectFlags]
  cases options.willFlag <;> simp only [if_true, Bool.false_eq_true, if_false, decide_eq_true_eq,
    decide_eq_false_iff_not]
    <;> omega

lemma connectFlags_cleansession : (connectFlags options).toNat / 2 % 2 = options.cleansession % 2 := by
  rw [toNat_connectFlags]
  split_ifs <;> omega

lemma connectFlags_willOptions (h : options.willFlag = true) :
    (connectFlags options).toNat / 32 % 2 = options.will.retained % 2 ∧
      (connectFlags options).toNat / 8 % 4 = options.will.qos % 4 := by
  rw [toNat_connectFlags, if_pos h]
  omega

def willBytes (options : ConnectData) : List Byte :=
  if options.willFlag then writeMqttString options.will.topicName ++ writeMqttString options.will.message else []

def userBytes (options : ConnectData) : List Byte :=
  (if options.username.given then writeMqttString options.username else []) ++
    if options.password.given then writeMqttString options.password else []

lemma readWill_holds (hwf : options.WellFormed) (hm : m.Holds p (willBytes options))
    (hend : p + (willBytes options).length ≤ enddata) :
    readWill m enddata (connectFlags options) data p =
      some ({ data with willFlag := options.willFlag, will := (received options data).will },
        p + (willBytes options).length) := by
  rw [readWill, connectFlags_will]
  rw [willBytes] at hm hend ⊢
  cases hwill : options.willFlag with
  | false => simp [received, hwill]
  | true =>
    obtain ⟨hretained, hqos⟩ := connectFlags_willOptions hwill
    simp only [hwill, if_true, List.length_append] at hm hend ⊢
    obtain ⟨htopicName, hmessage⟩ := Mem.holds_append.1 hm
    rw [readMqttLenString_write hwf.topicName htopicName (by omega), Option.bind_eq_bind, Option.bind_some,
      readMqttLenString_write hwf.message hmessage (by omega), Option.bind_some, hretained, hqos, received,
      if_pos hwill, Nat.add_assoc]

lemma readUser_holds (hwf : options.WellFormed) (hm : m.Holds p (userBytes options))
    (hend : p + (userBytes options).length = enddata) :
    readUser m enddata (connectFlags options) data p = if options.Accepted then
      some { data with username := (received options data).username, password := (received options data).password }
    else none := by
  have hulen := length_writeMqttString hwf.username
  have hplen := length_writeMqttString hwf.password
  rw [mqttstrlen_eq hwf.username.single] at hulen
  rw [mqttstrlen_eq hwf.password.single] at hplen
  have hempty : ∀ s : List Byte, s = [] ↔ s.length = 0 := fun s => List.length_eq_zero_iff.symm
  rw [readUser, connectFlags_username, connectFlags_password]
  simp only [userBytes, ConnectData.Accepted, received, ne_eq, hempty] at hm hend ⊢
  cases hu : options.username.given <;> cases hp : options.password.given <;>
    simp only [hu, hp, Bool.false_eq_true, if_true, if_false, List.nil_append, List.append_nil, List.length_append,
      false_implies, true_implies, true_and, and_true, false_and, imp_false] at hm hend ⊢
  · trivial
  · trivial
  · rcases Nat.eq_zero_or_pos (written options.username).length with hnone | hsome
    · rw [if_pos (by omega), if_neg (by omega)]
    · rw [if_neg (by omega), if_pos (by omega), readMqttLenString_write hwf.username hm (by omega)]
      rfl
  · obtain ⟨husername, hpassword⟩ := Mem.holds_append.1 hm
    rw [if_neg (by omega), readMqttLenString_write hwf.username husername (by omega), Option.bind_eq_bind,
      Option.bind_some]
    rcases Nat.eq_zero_or_pos (written options.password).length with hnone | hsome
    · rw [if_pos (by omega), if_neg (by omega)]
    · rw [if_neg (by omega), if_pos ⟨by omega, fun _ => trivial⟩,
        readMqttLenString_write hwf.password hpassword (by omega)]
      rfl

lemma connectLength_eq (hwf : options.WellFormed) (n : ℕ) (hn : n = if options.mqttVersion = 4 then 7 else 9) :
    connectLength options = n + 3 + (writeMqttString options.clientId).length + (willBytes options).length +
      (userBytes options).length := by
  have hversion := hwf.version
  rw [connectLength, willBytes, userBytes, List.length_append, length_writeMqttString hwf.clientId]
  split_ifs at hn ⊢ <;>
    simp only [List.length_append, length_writeMqttString hwf.topicName, length_writeMqttString hwf.message,
      length_writeMqttString hwf.username, length_writeMqttString hwf.password, List.length_nil] <;> omega

lemma connectLength_lt (hwf : options.WellFormed) : connectLength options < 2 ^ 28 := by
  have h₁ := hwf.clientId.short
  have h₂ := hwf.topicName.short
  have h₃ := hwf.message.short
  have h₄ := hwf.username.short
  have h₅ := hwf.password.short
  simp only [connectLength, mqttstrlen_eq hwf.clientId.single, mqttstrlen_eq hwf.topicName.single,
    mqttstrlen_eq hwf.message.single, mqttstrlen_eq hwf.username.single, mqttstrlen_eq hwf.password.single]
  split_ifs <;> omega

/-- The protocol name and version of a connection. -/
def protocolBytes (options : ConnectData) : List Byte :=
  if options.mqttVersion = 4 then bytes16 4 ++ mqtt ++ [4] else bytes16 6 ++ mqisdp ++ [3]

lemma readProtocol_holds (enddata : ℕ) (hm : m.Holds p (protocolBytes options))
    (hend : p + (protocolBytes options).length ≤ enddata) :
    ∃ protocol q, readMqttLenString m p enddata = some (protocol, q) ∧ checkVersion protocol (m q) = true ∧
      q + 1 = p + (protocolBytes options).length := by
  have hread : ∀ {name : List Byte} {v : Byte}, name.length < 65536 → checkVersion name v = true →
      m.Holds p (bytes16 name.length ++ name ++ [v]) → p + (2 + name.length + 1) ≤ enddata →
      ∃ protocol q, readMqttLenString m p enddata = some (protocol, q) ∧ checkVersion protocol (m q) = true ∧
        q + 1 = p + (2 + name.length + 1) := by
    intro name v hname hcheck hm hend
    obtain ⟨hstring, hversion⟩ := Mem.holds_append.1 hm
    have hplace : p + (bytes16 name.length ++ name).length = p + 2 + name.length := by
      rw [List.length_append, Nat.add_assoc]
      rfl
    rw [hplace] at hversion
    exact ⟨_, _, readMqttLenString_holds hname hstring (by omega), by rwa [(Mem.holds_cons.1 hversion).1], by omega⟩
  rw [protocolBytes] at hm hend ⊢
  split_ifs at hm hend ⊢
  · exact hread (by decide) rfl hm hend
  · exact hread (by decide) rfl hm hend

/-- The packet of a connection request. -/
def connectBytes (options : ConnectData) : List Byte :=
  header msgConnect 0 0 0 :: packetEncode (connectLength options) ++
    (protocolBytes options ++ (connectFlags options :: (bytes16 options.keepAliveInterval ++
      (writeMqttString options.clientId ++ (willBytes options ++ userBytes options)))))

lemma serializeConnect_eq (buflen : ℕ) (options : ConnectData) : serializeConnect buflen options =
    if buflen < packetLen (connectLength options) then .error bufferTooShort else .ok (connectBytes options) := by
  simp only [serializeConnect, connectBytes, protocolBytes, willBytes, userBytes, List.append_assoc, List.cons_append]

lemma length_protocolBytes : (protocolBytes options).length = if options.mqttVersion = 4 then 7 else 9 := by
  rw [protocolBytes]
  split_ifs <;> rfl

lemma length_connectBytes (hwf : options.WellFormed) :
    (connectBytes options).length = 1 + (packetEncode (connectLength options)).length + connectLength options := by
  have hrem := connectLength_eq hwf _ length_protocolBytes
  simp only [connectBytes, List.length_append, List.length_cons, bytes16, List.length_nil]
  omega

/-- A connection request is read back, flags, times and strings, exactly when the name and the password are given in
one of the ways the reader accepts; whatever else is given, the reader refuses what the writer has written. -/
theorem deserializeConnect_serializeConnect (hwf : options.WellFormed)
    (h : serializeConnect buflen options = .ok bytes) (hm : m.Holds 0 bytes) :
    bytes.length ≤ buflen ∧ deserializeConnect m bytes.length data =
      if options.Accepted then some (received options data) else none := by
  rw [serializeConnect_eq] at h
  obtain ⟨hshort, rfl⟩ := ok_iff.1 h
  have hlen := connectLength_lt hwf
  have hfits := packetLen_ge hlen
  have hprotocol : (protocolBytes options).length = if options.mqttVersion = 4 then 7 else 9 := length_protocolBytes
  have hrem := connectLength_eq hwf _ hprotocol
  obtain ⟨hheader, hdecode, hbody⟩ := holds_packet hlen hm
  rw [length_connectBytes hwf]
  refine ⟨by omega, ?_⟩
  generalize (packetEncode (connectLength options)).length = n at *
  generalize connectLength options = rem at *
  obtain ⟨hproto, hflags⟩ := Mem.holds_append.1 hbody
  obtain ⟨protocol, q, hread, hcheck, hq⟩ := readProtocol_holds (1 + n + rem) hproto (by omega)
  rw [← hq, Mem.holds_cons, Mem.holds_append, Mem.holds_append, Mem.holds_append] at hflags
  obtain ⟨hflags, hkeepAlive, hclientId, hwill, huser⟩ := hflags
  have hplace : q + 1 + 1 + (bytes16 options.keepAliveInterval).length = q + 4 := rfl
  rw [hplace] at hclientId hwill huser
  rw [deserializeConnect, hheader, typeOf_header, if_neg (by decide), hdecode, hread]
  simp only [Option.bind_eq_bind, Option.bind_some, hcheck, if_true, hflags, hkeepAlive.get16 hwf.keepAlive,
    readMqttLenString_write hwf.clientId hclientId (by omega : _ ≤ 1 + n + rem),
    readWill_holds hwf hwill (by omega : _ ≤ 1 + n + rem), readUser_holds hwf huser (by omega : _ = 1 + n + rem),
    connectFlags_cleansession]
  rfl

theorem deserializeConnect_serializeConnect_named :
    deserializeConnect (Mem.fill (fun _ => 0) [0x10, 17, 0, 4, 0x4d, 0x51, 0x54, 0x54, 4, 0x82, 0, 60, 0, 1, 0x61,
      0, 2, 0x62, 0x63]) 19 .initializer =
      some { ConnectData.initializer with clientId := .ofLen [0x61], username := .ofLen [0x62, 0x63] } :=
  have h : serializeConnect 32
      { ConnectData.initializer with clientId := .ofC [0x61], username := .ofC [0x62, 0x63] } =
    .ok [0x10, 17, 0, 4, 0x4d, 0x51, 0x54, 0x54, 4, 0x82, 0, 60, 0, 1, 0x61, 0, 2, 0x62, 0x63] := rfl
  (deserializeConnect_serializeConnect ⟨.inr rfl, by decide, ⟨.inr rfl, by decide⟩, ⟨.inr rfl, by decide⟩,
    ⟨.inr rfl, by decide⟩, ⟨.inr rfl, by decide⟩, ⟨.inr rfl, by decide⟩⟩ h (Mem.holds_fill _)).2

end connecting

end IoLibrary.Mqtt
