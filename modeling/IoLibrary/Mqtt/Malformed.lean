import IoLibrary.Mqtt.Session

/-! PUBLISH packets whose lengths do not agree, and packets of which only a part has come. -/
namespace IoLibrary.Mqtt
open Effects Base128

section reading
variable {m : Mem}

/-- The end of the packet at the start of the memory, as its length field says. -/
def packetEnd (m : Mem) : ℕ := 1 + (packetDecodeBuf m 1).1 + (packetDecodeBuf m 1).2

/-- The length of the topic name, where there is one. -/
def topicLength (m : Mem) : ℕ := get16 m (1 + (packetDecodeBuf m 1).1)

def TopicFits (m : Mem) : Prop := 2 + topicLength m ≤ (packetDecodeBuf m 1).2

/-- The place of the payload: behind the topic name and, for a quality above 0, the packet id. -/
def payloadStart (m : Mem) : ℕ :=
  1 + (packetDecodeBuf m 1).1 + 2 + topicLength m + if 0 < qosOf (m 0) then 2 else 0

instance (m : Mem) : Decidable (TopicFits m) := inferInstanceAs (Decidable (_ ≤ _))

/-- The packet is taken for a message with a topic name and a payload that ends with the packet. -/
def WellRead (m : Mem) : Prop := ∃ (out : PublishOut) (topic : List Byte) (p n : ℕ),
  deserializePublish m = (1, some out) ∧ out.topicName = some topic ∧ out.payload = some (p, (n : ℤ)) ∧
    p + n = packetEnd m

lemma readMqttLenString_fits : readMqttLenString m (1 + (packetDecodeBuf m 1).1) (packetEnd m) =
    if TopicFits m then
      some (m.slice (1 + (packetDecodeBuf m 1).1 + 2) (topicLength m), 1 + (packetDecodeBuf m 1).1 + 2 + topicLength m)
    else none := by
  have hiff : 1 + (packetDecodeBuf m 1).1 + 1 < packetEnd m ∧
      1 + (packetDecodeBuf m 1).1 + 2 + topicLength m ≤ packetEnd m ↔ TopicFits m := by
    rw [packetEnd, TopicFits]
    omega
  rw [readMqttLenString, ← topicLength]
  exact if_congr hiff rfl rfl

/-- What the deserializer makes of a PUBLISH packet. Where the topic name does not fit, it returns what the length
reader has returned, which is 1 for a length of one byte. -/
lemma deserializePublish_eq (htype : typeOf (m 0) = msgPublish) : deserializePublish m =
    if TopicFits m then
      ((1 : ℤ), some (⟨dupOf (m 0), qosOf (m 0), retainOf (m 0),
        some (m.slice (1 + (packetDecodeBuf m 1).1 + 2) (topicLength m)),
        if 0 < qosOf (m 0) then some (get16 m (1 + (packetDecodeBuf m 1).1 + 2 + topicLength m)) else none,
        some (payloadStart m, (packetEnd m : ℤ) - payloadStart m)⟩ : PublishOut))
    else (((packetDecodeBuf m 1).1 : ℤ),
      some (⟨dupOf (m 0), qosOf (m 0), retainOf (m 0), none, none, none⟩ : PublishOut)) := by
  have hread := readMqttLenString_fits (m := m)
  rw [packetEnd] at hread
  simp only [deserializePublish, if_neg (not_not.2 htype), hread, packetEnd, payloadStart]
  split_ifs <;> simp

/-- A PUBLISH packet is accepted when its topic name lies in it, and also when it does not as long as the length field
has one byte. What is accepted is a message with a topic name and a payload that ends with the packet exactly when the
topic name lies in the packet and, for a quality above 0, the packet id behind it too: else the topic name has not been
read, or the length of the payload is negative. -/
theorem deserializePublish_accepts (m : Mem) :
    ((deserializePublish m).1 = 1 ↔
      typeOf (m 0) = msgPublish ∧ (TopicFits m ∨ (packetDecodeBuf m 1).1 = 1)) ∧
    (WellRead m ↔ typeOf (m 0) = msgPublish ∧ TopicFits m ∧
      (0 < qosOf (m 0) → 4 + topicLength m ≤ (packetDecodeBuf m 1).2)) := by
  by_cases htype : typeOf (m 0) = msgPublish
  · have heq := deserializePublish_eq htype
    by_cases hfits : TopicFits m
    · rw [if_pos hfits] at heq
      refine ⟨?_, ?_⟩
      · rw [heq]
        exact iff_of_true rfl ⟨htype, .inl hfits⟩
      · have hroom : payloadStart m ≤ packetEnd m ↔
            (0 < qosOf (m 0) → 4 + topicLength m ≤ (packetDecodeBuf m 1).2) := by
          have hlen : 2 + topicLength m ≤ (packetDecodeBuf m 1).2 := hfits
          rw [payloadStart, packetEnd]
          split_ifs with hqos
          · simp only [hqos, true_imp_iff]
            omega
          · exact iff_of_true (by omega) fun h => absurd h hqos
        rw [← hroom, WellRead, heq]
        constructor
        · rintro ⟨out, topic, p, n, hout, -, hpayload, hsum⟩
          obtain rfl := Option.some.inj (Prod.ext_iff.1 hout).2
          simp only [Option.some.injEq, Prod.mk.injEq] at hpayload
          refine ⟨htype, hfits, ?_⟩
          omega
        · rintro ⟨-, -, hle⟩
          refine ⟨_, _, payloadStart m, packetEnd m - payloadStart m, rfl, rfl, ?_, by omega⟩
          rw [Nat.cast_sub hle]
    · rw [if_neg hfits] at heq
      refine ⟨?_, ?_⟩
      · rw [heq]
        simp only [htype, hfits, true_and, false_or]
        exact_mod_cast Iff.rfl
      · refine iff_of_false ?_ fun h => hfits h.2.1
        rintro ⟨out, topic, p, n, hout, htopic, -⟩
        rw [heq] at hout
        obtain rfl := Option.some.inj (Prod.ext_iff.1 hout).2
        cases htopic
  · have heq : deserializePublish m = (0, none) := by rw [deserializePublish, if_pos htype]
    refine ⟨iff_of_false ?_ fun h => htype h.1, iff_of_false ?_ fun h => htype h.1⟩
    · rw [heq]
      decide
    · rintro ⟨out, topic, p, n, hout, -⟩
      rw [heq] at hout
      cases (Prod.ext_iff.1 hout).2

end reading

section cycling
variable {Q : ℤ → Client → Wire → Prop} {H : Client → Wire → Prop} {c : Client} {w : Wire} {turns : ℕ} {b : Byte}
  {body rest : List Byte}

/-- The topic name at the start of the body of a PUBLISH packet. -/
def topicOf (body : List Byte) : List Byte := (body.drop 2).take (word16 (body.getD 0 0) (body.getD 1 0))

def TopicInside (body : List Byte) : Prop := 2 + word16 (body.getD 0 0) (body.getD 1 0) ≤ body.length

/-- The bytes behind the packet do not decide whether its topic name lies in it. -/
lemma topicFits_iff {m : Mem} (hbody : body.length < 2 ^ 28) (hm : m.Holds 0 (packet b body)) :
    (TopicFits m ↔ TopicInside body) ∧ (TopicInside body →
      m.slice (1 + (packetDecodeBuf m 1).1 + 2) (topicLength m) = topicOf body) := by
  obtain ⟨-, hdecode, hholds⟩ := holds_packet hbody hm
  rw [TopicFits, TopicInside, topicLength, topicOf, hdecode]
  simp only
  rcases body with _ | ⟨hi, _ | ⟨lo, body⟩⟩
  · simp
  · refine ⟨iff_of_false ?_ ?_, fun h => absurd h ?_⟩ <;> simp only [List.length_singleton] <;> omega
  · obtain ⟨hhi, htail⟩ := Mem.holds_cons.1 hholds
    obtain ⟨hlo, hbytes⟩ := Mem.holds_cons.1 htail
    have hget : get16 m (1 + (packetEncode (hi :: lo :: body).length).length) = word16 hi lo := by
      rw [get16, hhi, hlo]
    rw [hget]
    simp only [List.getD_cons_zero, List.getD_cons_succ, List.drop_succ_cons, List.drop_zero]
    refine ⟨trivial, fun hinside => ?_⟩
    have hlen : word16 hi lo ≤ body.length := by
      simp only [List.length_cons] at hinside
      omega
    have hsplit : m.Holds (1 + (packetEncode (hi :: lo :: body).length).length + 1 + 1)
        (body.take (word16 hi lo) ++ body.drop (word16 hi lo)) := by
      rw [List.take_append_drop]
      exact hbytes
    have htopic := (Mem.holds_append.1 hsplit).1
    rw [Mem.Holds, List.length_take, Nat.min_eq_left hlen] at htopic
    exact htopic

/-- Whatever is due, nothing is delivered with it. -/
lemma wp_ackMessage_delivered {out : PublishOut}
    (h : ∀ rc c' w', w'.delivered = w.delivered → Q rc c' w') : wp prompt (ackMessage (turns + 2) out) Q H c w := by
  have hsend : ∀ type,
      wp prompt (sendBytes (turns + 2) (serializeAck c.bufSize type 0 (out.packetid.getD 0))) Q H c w := by
    intro type
    rw [serializeAck]
    split_ifs
    · exact h _ _ _ rfl
    · exact wp_sendBytes (List.cons_ne_nil _ _) (h _ _ _ rfl)
    · exact wp_sendBytes (List.cons_ne_nil _ _) (h _ _ _ rfl)
  rw [ackMessage, wp_bind, wp_get]
  simp only
  split_ifs
  · exact h _ _ _ rfl
  · exact hsend _
  · exact hsend _
  · exact h _ _ _ rfl

lemma one_lt_digits (hbody : body.length < 2 ^ 28) :
    ((packetEncode body.length).length : ℤ) ≠ 1 ↔ 128 ≤ body.length := by
  have hle := length_encode_le (k := 0) (n := body.length)
  have hpos := List.length_pos_of_ne_nil (numeral_encode body.length).ne_nil
  rw [packetEncode_eq (by omega)]
  omega

/-- A message in a short packet whose topic name does not lie in it is accepted, and its topic name looked at. -/
lemma wp_cyclePublish_unread {Q : Bool × ℤ → Client → Wire → Prop} (hb : typeOf b = msgPublish)
    (hread : c.readbuf.Holds 0 (packet b body)) (hinside : ¬TopicInside body) (hshort : body.length < 128)
    (h : H c w) : wp prompt (cyclePublish turns) Q H c w := by
  obtain ⟨hzero, hdecode, -⟩ := holds_packet (by omega) hread
  have heq := deserializePublish_eq (hzero.symm ▸ hb)
  rw [if_neg (mt (topicFits_iff (by omega) hread).1.1 hinside), hdecode] at heq
  rw [cyclePublish, wp_bind, wp_get, heq]
  simp only
  rw [if_neg (mt (one_lt_digits (by omega)).1 (Nat.not_le.2 hshort)), wp_bind, wp_ask]
  exact h

/-- What becomes of a PUBLISH packet of any body: it is delivered when its topic name lies in it and dropped without an
answer when it does not and the length field has more than one byte. Where the length field has one byte, the client
goes on with a topic name that has not been read. -/
theorem cycle_publish (hb : typeOf b = msgPublish) (hbody : body.length < 2 ^ 28)
    (hw : w.incoming = packet b body ++ rest) :
    wp prompt (cycle (turns + 2)) (fun _ _ w' =>
      (TopicInside body ∧ w'.delivered.map Prod.fst = w.delivered.map Prod.fst ++ c.recipients (topicOf body)) ∨
      (¬TopicInside body ∧ 128 ≤ body.length ∧ w'.delivered = w.delivered ∧ w'.sent = w.sent))
      (fun _ w' => ¬TopicInside body ∧ body.length < 128 ∧ w'.delivered = w.delivered) c w := by
  rw [cycle]
  refine (wp_bind _ _).2 (wp_readPacket hbody hw fun readbuf hread => ?_)
  obtain ⟨hzero, hdecode, -⟩ := holds_packet hbody hread
  obtain ⟨hfits, htopic⟩ := topicFits_iff hbody hread
  have heq := deserializePublish_eq (hzero.symm ▸ hb)
  have htype : packetType (typeOf b) = msgPublish := (packetType_typeOf b).trans hb
  simp only [htype, cycleSwitch, if_true]
  rw [wp_bind]
  by_cases hinside : TopicInside body
  · rw [cyclePublish, wp_bind, wp_get, heq, if_pos (hfits.2 hinside)]
    simp only [ne_eq, not_true_eq_false, if_false]
    refine (wp_bind _ _).2 (wp_deliverMessage ?_)
    refine (wp_bind _ _).2 (wp_ackMessage_delivered fun rc c' w' hdelivered => ?_)
    rw [wp_pure]
    have hgood : w'.delivered.map Prod.fst = w.delivered.map Prod.fst ++ c.recipients (topicOf body) := by
      have hfst : ∀ (is : List (Option ℕ)) (message : Message), (is.map fun i => (i, message)).map Prod.fst = is := by
        intro is message
        rw [List.map_map]
        exact List.map_id' _
      rw [hdelivered, List.map_append, hfst, htopic hinside]
      rfl
    simp only [decide_eq_true_eq]
    by_cases hfailure : rc = failure
    · rw [if_pos hfailure]
      exact .inl ⟨hinside, hgood⟩
    · rw [if_neg hfailure]
      refine (wp_bind _ _).2 (wp_keepalive ?_)
      exact .inl ⟨hinside, hgood⟩
  · by_cases hlong : 128 ≤ body.length
    · rw [cyclePublish, wp_bind, wp_get, heq, if_neg (mt hfits.1 hinside), hdecode]
      simp only
      rw [if_pos ((one_lt_digits hbody).2 hlong), wp_pure]
      exact .inr ⟨hinside, hlong, rfl, rfl⟩
    · exact wp_cyclePublish_unread hb hread hinside (Nat.not_le.1 hlong) ⟨hinside, Nat.not_le.1 hlong, rfl⟩

theorem cycle_publish_short :
    wp prompt (cycle 2) (fun _ _ w' =>
      (TopicInside [0, 9, 0x61] ∧ w'.delivered.map Prod.fst = [] ++ plainClient.recipients (topicOf [0, 9, 0x61])) ∨
      (¬TopicInside [0, 9, 0x61] ∧ 128 ≤ 3 ∧ w'.delivered = [] ∧ w'.sent = []))
      (fun _ w' => ¬TopicInside [0, 9, 0x61] ∧ 3 < 128 ∧ w'.delivered = []) plainClient
      ⟨[0x30, 3, 0, 9, 0x61], [], []⟩ :=
  have hw : Wire.incoming ⟨[0x30, 3, 0, 9, 0x61], [], []⟩ = packet 0x30 [0, 9, 0x61] ++ [] := rfl
  cycle_publish (by decide) (by decide) hw

end cycling

section cut
variable {H : Client → Wire → Prop} {c : Client} {w : Wire} {turns k : ℕ} {b : Byte} {body : List Byte}

/-- The `k` bytes of a packet that have come end in its length field, and its digits so far are all 0. -/
def Bare (body : List Byte) (k : ℕ) : Prop :=
  1 ≤ k ∧ k ≤ (packetEncode body.length).length ∧ body.length % 128 ^ (k - 1) = 0

instance (body : List Byte) (k : ℕ) : Decidable (Bare body k) := inferInstanceAs (Decidable (_ ∧ _))

/-- A length field that breaks off counts with the digits that have come. -/
lemma wp_decodePacket_cut {Q : ℕ → Client → Wire → Prop} {bytes : List Byte} {digits multiplier value : ℕ}
    (hmore : ∀ b ∈ bytes, 128 ≤ b.toNat) (hlen : bytes.length ≤ digits) (hw : w.incoming = bytes)
    (h : Q (value + multiplier * Base128.value bytes) c { w with incoming := [] }) :
    wp prompt (decodePacket digits multiplier value) Q H c w := by
  induction bytes generalizing digits multiplier value w with
  | nil =>
    have hend : { w with incoming := [] } = w := by rw [← hw]
    rw [Base128.value, Nat.mul_zero, Nat.add_zero, hend] at h
    cases digits with
    | zero => exact h
    | succ digits =>
      rw [decodePacket, wp_bind, wp_ask]
      simp only [answer, hw, List.take_nil, List.length_nil, List.drop_nil]
      rw [if_pos (by decide), hend]
      exact h
  | cons b bytes ih =>
    obtain ⟨hb, hmore⟩ := List.forall_mem_cons.1 hmore
    cases digits with
    | zero => exact absurd hlen (Nat.not_succ_le_zero _)
    | succ digits =>
      rw [decodePacket, wp_bind, wp_ask]
      simp only [answer, hw, List.take_succ_cons, List.take_zero, List.length_singleton, ne_eq, not_true_eq_false,
        if_false, List.getD_cons_zero, List.drop_succ_cons, List.drop_zero]
      rw [if_pos hb]
      refine ih hmore (Nat.le_of_succ_le_succ hlen) rfl ?_
      rw [Base128.value] at h
      have hvalue : value + b.toNat % 128 * multiplier + multiplier * 128 * Base128.value bytes =
          value + multiplier * (b.toNat % 128 + 128 * Base128.value bytes) := by ring
      rwa [hvalue]

/-- The digits before the last one. -/
lemma packetEncode_take (hbody : body.length < 2 ^ 28) (hk : k < (packetEncode body.length).length) :
    (∀ b ∈ (packetEncode body.length).take k, 128 ≤ b.toNat) ∧
      Base128.value ((packetEncode body.length).take k) = body.length % 128 ^ k := by
  rw [packetEncode_eq (by omega)] at hk ⊢
  cases k with
  | zero => simp [Base128.value, Nat.mod_one]
  | succ k =>
    obtain ⟨bytes, rest, heq, hlen, hbytes, hvalue⟩ :=
      encode_take (Nat.le_of_not_lt fun h => Nat.not_le_of_lt hk (length_encode_le.2 h))
    rw [heq, ← hlen, List.take_left, hlen]
    exact ⟨hbytes, hvalue⟩

/-- What the reader makes of a packet that has come only in part: its bytes are gone, and where the length field is
not complete and the digits so far are 0, it is taken for a whole packet without a body. -/
lemma wp_readPacket_cut {Q : ℤ → Client → Wire → Prop} (hbody : body.length < 2 ^ 28)
    (hk : k < (packet b body).length) (hw : w.incoming = (packet b body).take k)
    (hbare : Bare body k → ∀ readbuf : Mem, readbuf.Holds 0 (packet b []) →
      Q (typeOf b) { c with readbuf } { w with incoming := [] })
    (hfails : ¬Bare body k → ∀ readbuf : Mem, Q failure { c with readbuf } { w with incoming := [] }) :
    wp prompt readPacket Q H c w := by
  rw [readPacket, wp_bind, wp_ask]
  cases k with
  | zero =>
    have hw : w.incoming = [] := hw
    have hbare : ¬Bare body 0 := fun h => Nat.not_succ_le_zero 0 h.1
    simp only [answer, hw, List.take_nil, List.drop_nil, storeRead, wp_bind, wp_modify, List.length_nil]
    rw [if_pos (by decide)]
    exact hfails hbare _
  | succ k =>
    simp only [answer, hw, packet, List.cons_append, List.take_succ_cons, List.take_zero, List.drop_succ_cons,
      List.drop_zero, storeRead, wp_bind, wp_modify, List.length_singleton, ne_eq, not_true_eq_false, if_false]
    rcases Nat.lt_or_ge k (packetEncode body.length).length with hdigits | hdigits
    · obtain ⟨hmore, hvalue⟩ := packetEncode_take hbody hdigits
      have hin : (packetEncode body.length ++ body).take k = (packetEncode body.length).take k :=
        List.take_append_of_le_length (Nat.le_of_lt hdigits)
      have hlen : ((packetEncode body.length).take k).length ≤ 4 := by
        have hle := length_encode_le (k := 3) (n := body.length)
        rw [List.length_take, packetEncode_eq (by omega)]
        omega
      refine wp_decodePacket_cut hmore hlen hin ?_
      rw [hvalue, Nat.zero_add, Nat.one_mul]
      by_cases hzero : body.length % 128 ^ k = 0
      · have hfront : ((c.readbuf.write 0 [b]).write 1 (packetEncode 0)).Holds 0 (b :: packetEncode 0) :=
          Mem.Holds.append_write (Mem.holds_write _ _ _) _
        simp only [hzero, Nat.lt_irrefl, if_false, wp_bind, wp_get, wp_pure]
        rw [(Mem.holds_cons.1 hfront).1]
        refine hbare ⟨by omega, hdigits, hzero⟩ _ ?_
        rw [packet, List.length_nil, List.append_nil]
        exact hfront
      · have hbare : ¬Bare body (k + 1) := fun h => hzero h.2.2
        simp only [if_pos (Nat.pos_of_ne_zero hzero), wp_bind, wp_modify]
        rw [wp_ask]
        simp only [answer, List.take_nil, List.drop_nil, List.length_nil]
        rw [if_pos (Ne.symm hzero)]
        exact hfails hbare _
    · have hbare : ¬Bare body (k + 1) := fun h => by
        have := h.2.1
        omega
      have hpart : k - (packetEncode body.length).length < body.length := by
        simp only [packet, List.cons_append, List.length_cons, List.length_append] at hk
        omega
      have hin : (packetEncode body.length ++ body).take k =
          encode body.length ++ body.take (k - (packetEncode body.length).length) := by
        rw [List.take_append, List.take_of_length_le hdigits, packetEncode_eq (by omega)]
      refine wp_decodePacket (numeral_encode body.length) (length_encode_le.2 (by omega)) hin ?_
      rw [value_encode, Nat.zero_add, Nat.one_mul]
      simp only [if_pos (Nat.zero_lt_of_lt hpart), wp_bind, wp_modify]
      rw [wp_ask]
      have htake : (body.take (k - (packetEncode body.length).length)).take body.length =
          body.take (k - (packetEncode body.length).length) := List.take_of_length_le (List.length_take_le' _ _)
      have hdrop : (body.take (k - (packetEncode body.length).length)).drop body.length = [] :=
        List.drop_of_length_le (List.length_take_le' _ _)
      have hshort : (body.take (k - (packetEncode body.length).length)).length ≠ body.length := by
        rw [List.length_take]
        omega
      simp only [answer, htake, hdrop]
      rw [if_pos hshort]
      exact hfails hbare _

/-- A packet of which the first `k` bytes have come when the client looks is not read when the others come: its bytes
are gone. Where its length field has broken off with digits that are all 0, the reader returns its type all the
same, and elsewhere it fails. -/
theorem readPacket_cut (hbody : body.length < 2 ^ 28) (hk : k < (packet b body).length)
    (hw : w.incoming = (packet b body).take k) :
    wp prompt readPacket (fun rc c' w' => w' = { w with incoming := [] } ∧ c.Same c' ∧
      rc = if Bare body k then (typeOf b : ℤ) else failure) (fun _ _ => False) c w := by
  refine wp_readPacket_cut hbody hk hw (fun hbare readbuf _ => ?_) fun hbare readbuf => ?_
  · exact ⟨rfl, ⟨rfl, rfl, rfl, rfl, rfl⟩, (if_pos hbare).symm⟩
  · exact ⟨rfl, ⟨rfl, rfl, rfl, rfl, rfl⟩, (if_neg hbare).symm⟩

theorem readPacket_cut_one :
    wp prompt readPacket (fun rc c' w' => w' = ⟨[], [], []⟩ ∧ plainClient.Same c' ∧
      rc = if Bare [0, 1, 0x61] 1 then (typeOf 0x30 : ℤ) else failure) (fun _ _ => False) plainClient
      ⟨[0x30], [], []⟩ :=
  have hw : Wire.incoming ⟨[0x30], [], []⟩ = (packet 0x30 [0, 1, 0x61]).take 1 := rfl
  readPacket_cut (by decide) (by decide) hw

/-- A part of a PUBLISH packet: where its length field has broken off with digits that are all 0, the client goes on
with a topic name that has not been read. Elsewhere the message is lost: nothing is delivered and nothing is sent,
and the client reports success. -/
theorem mqttYield_cut (hb : typeOf b = msgPublish) (hbody : body.length < 2 ^ 28) (hk : k < (packet b body).length)
    (hw : w.incoming = (packet b body).take k) :
    wp prompt (mqttYield (turns + 2)) (fun rc c' w' => ¬Bare body k ∧ rc = successs ∧ w' = { w with incoming := [] } ∧
      c.Same c') (fun _ w' => Bare body k ∧ w' = { w with incoming := [] }) c w := by
  rw [mqttYield, cycle]
  refine (wp_bind _ _).2 ((wp_bind _ _).2 (wp_readPacket_cut hbody hk hw (fun hbare readbuf hread => ?_)
    fun hbare readbuf => ?_))
  · have htype : packetType (typeOf b) = msgPublish := (packetType_typeOf b).trans hb
    have hempty : ¬TopicInside [] := by
      rw [TopicInside, List.length_nil]
      omega
    simp only [htype, cycleSwitch, if_true]
    rw [wp_bind]
    exact wp_cyclePublish_unread hb hread hempty (by decide) ⟨hbare, rfl⟩
  · have htype : packetType failure = 65535 := by decide
    simp only [htype]
    rw [cycleSwitch, if_neg (by decide), if_neg (by decide), if_neg (by decide), wp_bind, wp_pure]
    simp only [Bool.false_eq_true, if_false]
    refine (wp_bind _ _).2 (wp_keepalive ?_)
    rw [wp_pure, if_pos trivial, wp_pure]
    exact ⟨hbare, if_neg (by decide), rfl, ⟨rfl, rfl, rfl, rfl, rfl⟩⟩

theorem mqttYield_cut_two :
    wp prompt (mqttYield 2) (fun rc c' w' => ¬Bare [0, 1, 0x61] 2 ∧ rc = successs ∧ w' = ⟨[], [], []⟩ ∧
      plainClient.Same c') (fun _ w' => Bare [0, 1, 0x61] 2 ∧ w' = ⟨[], [], []⟩) plainClient ⟨[0x30, 3], [], []⟩ :=
  have hw : Wire.incoming ⟨[0x30, 3], [], []⟩ = (packet 0x30 [0, 1, 0x61]).take 2 := rfl
  mqttYield_cut (by decide) (by decide) (by decide) hw

end cut

end IoLibrary.Mqtt
