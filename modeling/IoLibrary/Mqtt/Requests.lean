import IoLibrary.Mqtt.Session

/-! The requests of the client: what it waits for, and what it makes of the answer. -/
namespace IoLibrary.Mqtt
open Effects

section requests
variable {Q : ℤ → Client → Wire → Prop} {H : Client → Wire → Prop} {c : Client} {w : Wire} {turns n type packetid qos : ℕ}
  {p : Incoming} {others : List Incoming} {rest bytes : List Byte} {rc : ℤ}

/-- Packets that come before the one that is waited for. -/
def Before (type : ℕ) (others : List Incoming) : Prop := ∀ p ∈ others, p.WellFormed ∧ p.type ≠ type

/-- What a client leaves behind that has handled packets, the last of them `p`. -/
structure Awaited (c : Client) (w : Wire) (others : List Incoming) (p : Incoming) (rest : List Byte) (c' : Client)
    (w' : Wire) : Prop where
  same : c.Same c'
  wire : w' = ⟨rest, w.sent ++ (others.flatMap Incoming.answers ++ p.answers),
    w.delivered ++ (others.flatMap c.deliveries ++ c.deliveries p)⟩
  readbuf : c'.readbuf.Holds 0 p.bytes

/-- The packets before the one that is waited for are handled on the way. -/
lemma wp_waitforLoop (hothers : Before p.type others) (hp : p.WellFormed) (hbuf : 4 ≤ c.bufSize)
    (hw : w.incoming = others.flatMap Incoming.bytes ++ (p.bytes ++ rest)) (hn : others.length < n) :
    wp prompt (Prog.loop (waitforTurn (turns + 2) p.type) n rc)
      (fun rc c' w' => rc = p.type ∧ Awaited c w others p rest c' w') H c w := by
  induction others generalizing c w n rc with
  | nil =>
    obtain ⟨n, rfl⟩ := Nat.exists_eq_add_of_lt hn
    rw [List.length_nil, Nat.zero_add, Prog.loop]
    refine (wp_bind (waitforTurn (turns + 2) p.type rc) _).2 ?_
    rw [waitforTurn, wp_bind, wp_ask]
    refine (wp_bind _ _).2 (wp_mono (wp_cycle hp hbuf hw) ?_ fun _ _ => id)
    rintro rc c' w' ⟨rfl, hsame, rfl, hread⟩
    rw [if_pos rfl]
    exact ⟨rfl, hsame, rfl, hread⟩
  | cons q others ih =>
    obtain ⟨⟨hq, htype⟩, hothers⟩ := List.forall_mem_cons.1 hothers
    rw [List.length_cons] at hn
    rw [List.flatMap_cons, List.append_assoc] at hw
    obtain ⟨n, rfl⟩ := Nat.exists_eq_add_of_lt (Nat.lt_of_le_of_lt (Nat.zero_le _) hn)
    rw [Nat.zero_add, Prog.loop]
    refine (wp_bind (waitforTurn (turns + 2) p.type rc) _).2 ?_
    rw [waitforTurn, wp_bind, wp_ask]
    refine (wp_bind _ _).2 (wp_mono (wp_cycle hq hbuf hw) ?_ fun _ _ => id)
    rintro rc c' w' ⟨rfl, hsame, rfl, -⟩
    have hother : (q.type : ℤ) ≠ p.type := by exact_mod_cast htype
    rw [if_neg hother]
    change wp prompt (Prog.loop (waitforTurn (turns + 2) p.type) n q.type) _ _ _ _
    have hdeliveries : c'.deliveries = c.deliveries := funext hsame.deliveries
    refine wp_mono (ih hothers (by rw [hsame.bufSize]; exact hbuf) rfl (by omega)) ?_ fun _ _ => id
    rintro rc c'' w'' ⟨rfl, hsame', rfl, hread⟩
    refine ⟨rfl, hsame.trans hsame', ?_, hread⟩
    rw [hdeliveries, List.flatMap_cons, List.flatMap_cons]
    simp only [List.append_assoc]
    rfl

lemma wp_waitfor (hothers : Before p.type others) (hp : p.WellFormed) (hbuf : 4 ≤ c.bufSize)
    (hw : w.incoming = others.flatMap Incoming.bytes ++ (p.bytes ++ rest)) (hturns : others.length < turns + 2) :
    wp prompt (waitfor (turns + 2) p.type) (fun rc c' w' => rc = p.type ∧ Awaited c w others p rest c' w') H c w :=
  wp_waitforLoop hothers hp hbuf hw hturns

/-- The acknowledgement of a message as the server sends it. -/
def acknowledgement (qos packetid : ℕ) : Incoming :=
  .other (header (if qos = 1 then msgPuback else msgPubcomp) 0 0 0) (bytes16 packetid)

lemma acknowledgement_wellFormed (hqos : qos = 1 ∨ qos = 2) : (acknowledgement qos packetid).WellFormed := by
  have hshort : (acknowledgement qos packetid).body.length < 2 ^ 28 := by
    have hlen : (acknowledgement qos packetid).body.length = 2 := rfl
    omega
  rcases hqos with rfl | rfl
  · exact ⟨hshort, by decide, by decide⟩
  · exact ⟨hshort, by decide, by decide⟩

/-- What follows a wait runs after the packets that have come. -/
lemma wp_await {k : ClientProg ℤ} (htype : p.type = type) (hothers : Before p.type others) (hp : p.WellFormed)
    (hbuf : 4 ≤ c.bufSize) (hw : w.incoming = others.flatMap Incoming.bytes ++ (p.bytes ++ rest))
    (hturns : others.length < turns + 2)
    (hk : ∀ c' w', Awaited c w others p rest c' w' → wp prompt k Q H c' w') :
    wp prompt (do
      let answer ← waitfor (turns + 2) type
      if answer ≠ type then return failure
      k) Q H c w := by
  subst htype
  refine (wp_bind _ _).2 (wp_mono (wp_waitfor hothers hp hbuf hw hturns) ?_ fun _ _ h => h)
  rintro rc c' w' ⟨rfl, hawaited⟩
  rw [if_neg (not_not.2 rfl)]
  exact hk c' w' hawaited

lemma wp_waitAck (htype : p.type = type)
    (hack : ∃ type' < 16, p.bytes = header type' 0 0 0 :: packetEncode 2 ++ bytes16 packetid) (hid : packetid < 65536)
    (hothers : Before p.type others) (hp : p.WellFormed) (hbuf : 4 ≤ c.bufSize)
    (hw : w.incoming = others.flatMap Incoming.bytes ++ (p.bytes ++ rest)) (hturns : others.length < turns + 2)
    (h : ∀ c' w', Awaited c w others p rest c' w' → Q successs c' w') :
    wp prompt (waitAck (turns + 2) type) Q H c w := by
  refine wp_await htype hothers hp hbuf hw hturns fun c' w' hawaited => ?_
  obtain ⟨type', htype', hbytes⟩ := hack
  have hread := hawaited.readbuf
  rw [hbytes] at hread
  have hdeserialize := deserializeAck_holds htype' (by decide) hid hread
  rw [wp_bind, wp_get, hdeserialize, if_pos rfl]
  exact h c' w' hawaited

/-- A packet takes two bytes at least besides what its length counts. -/
lemma add_two_le_packetLen (rem : ℕ) : rem + 2 ≤ packetLen rem := by
  simp only [packetLen]
  split_ifs <;> omega

/-- What the environment and the client are after a request has been sent and answered. -/
lemma Awaited.sent (hdeliveries : c.deliveries p = []) (hanswers : p.answers = []) {c' : Client} {w' : Wire}
    (h : Awaited { c with nextPacketid := c.nextId, buf := c.buf.write 0 bytes }
      { w with sent := w.sent ++ [bytes] } others p rest c' w') :
    { c with nextPacketid := c.nextId }.Same c' ∧ w' = ⟨rest, w.sent ++ (bytes :: others.flatMap Incoming.answers),
      w.delivered ++ others.flatMap c.deliveries⟩ := by
  obtain ⟨hsame, rfl, -⟩ := h
  refine ⟨⟨hsame.1, hsame.2, hsame.3, hsame.4, hsame.5⟩, ?_⟩
  have hsent : Client.deliveries { c with nextPacketid := c.nextId, buf := c.buf.write 0 bytes } = c.deliveries := rfl
  rw [hsent, hdeliveries, hanswers, List.append_nil, List.append_nil, List.append_assoc, List.singleton_append]

/-- A message of quality 1 or 2 is reported as published with the first PUBACK or PUBCOMP that comes, whatever packet
id it has, and the packets before it are handled on the way. -/
theorem mqttPublish_acknowledged {topicName payload : List Byte} {retained message : ℕ}
    (hconnected : c.isconnected = true) (hqos : qos = 1 ∨ qos = 2)
    (hser : serializePublish c.bufSize 0 qos retained c.nextId (.ofC topicName) payload = .ok bytes)
    (hid : packetid < 65536) (hothers : Before (acknowledgement qos packetid).type others)
    (hw : w.incoming = others.flatMap Incoming.bytes ++ ((acknowledgement qos packetid).bytes ++ rest))
    (hturns : others.length < turns + 2) :
    wp prompt (mqttPublish (turns + 2) topicName qos retained message payload) (fun rc c' w' => rc = successs ∧
      { c with nextPacketid := c.nextId }.Same c' ∧ w' = ⟨rest, w.sent ++ (bytes :: others.flatMap Incoming.answers),
        w.delivered ++ others.flatMap c.deliveries⟩) (fun _ _ => False) c w := by
  obtain ⟨hfits, hbytes⟩ := ok_iff.1 hser
  have hbuf : 4 ≤ c.bufSize := by
    have hlarge := add_two_le_packetLen (publishLength qos (.ofC topicName) payload.length)
    have hlength : 4 ≤ publishLength qos (.ofC topicName) payload.length := by
      rw [publishLength, if_pos (by omega)]
      omega
    omega
  have hne : bytes ≠ [] := hbytes ▸ List.cons_ne_nil _ _
  have hwf : (acknowledgement qos packetid).WellFormed := acknowledgement_wellFormed hqos
  have hack : ∃ type' < 16, (acknowledgement qos packetid).bytes =
      header type' 0 0 0 :: packetEncode 2 ++ bytes16 packetid :=
    ⟨if qos = 1 then msgPuback else msgPubcomp, by split_ifs <;> decide, rfl⟩
  rw [mqttPublish, wp_bind, wp_get, if_neg (by simp [hconnected]), if_pos hqos, getNextPacketId, wp_bind, wp_bind,
    wp_modify, wp_bind, wp_get, wp_pure]
  simp only [hser]
  refine (wp_bind _ _).2 (wp_sendBytes hne ?_)
  rw [if_neg (not_not.2 rfl)]
  have hdone := fun c' w' (h : Awaited { c with nextPacketid := c.nextId, buf := c.buf.write 0 bytes }
    { w with sent := w.sent ++ [bytes] } others (acknowledgement qos packetid) rest c' w') => h.sent rfl rfl
  rcases hqos with rfl | rfl
  · exact wp_waitAck rfl hack hid hothers hwf hbuf hw hturns fun c' w' h => ⟨rfl, hdone c' w' h⟩
  · exact wp_waitAck rfl hack hid hothers hwf hbuf hw hturns fun c' w' h => ⟨rfl, hdone c' w' h⟩

/-- A client that has been connected and has nothing but a default handler. -/
def connectedClient : Client := { plainClient with isconnected := true }

theorem mqttPublish_acknowledged_other :
    wp prompt (mqttPublish 2 [0x61] 1 0 0 [9]) (fun rc c' w' => rc = successs ∧
      { connectedClient with nextPacketid := 2 }.Same c' ∧ w' = ⟨[], [[0x32, 6, 0, 1, 0x61, 0, 2, 9]],
        [(none, ⟨⟨0, 0, 0, some [0x62], none, some (5, 1)⟩, [8]⟩)]⟩) (fun _ _ => False)
      connectedClient ⟨[0x30, 4, 0, 1, 0x62, 8, 0x40, 2, 0, 5], [], []⟩ :=
  have hothers : Before msgPuback [.publish 0 0 0 0 [0x62] [8]] :=
    List.forall_mem_singleton.2 ⟨⟨by decide, by decide⟩, by decide⟩
  have hid : 5 < 65536 := by decide
  have hturns : [Incoming.publish 0 0 0 0 [0x62] [8]].length < 0 + 2 := by decide
  have hconnected : connectedClient.isconnected = true := rfl
  have hser : serializePublish connectedClient.bufSize 0 1 0 connectedClient.nextId (.ofC [0x61]) [9] =
    .ok [0x32, 6, 0, 1, 0x61, 0, 2, 9] := rfl
  have hw : Wire.incoming ⟨[0x30, 4, 0, 1, 0x62, 8, 0x40, 2, 0, 5], [], []⟩ =
    [Incoming.publish 0 0 0 0 [0x62] [8]].flatMap Incoming.bytes ++ ((acknowledgement 1 5).bytes ++ []) := rfl
  mqttPublish_acknowledged hconnected (.inl rfl) hser hid hothers hw hturns

/-- The answer of a server to a subscription. -/
def suback (packetid : ℕ) (granted : Byte) : Incoming := .other (header msgSuback 0 0 0) (bytes16 packetid ++ [granted])

/-- The granted quality as it stands in an `int` that a `char` was stored in. -/
def grantedOf (charSigned : Bool) (b : Byte) : ℤ := if charSigned then b.toInt else b.toNat

lemma grantedOf_eq (charSigned : Bool) (b : Byte) :
    grantedOf charSigned b = 0x80 ↔ b = 0x80 ∧ charSigned = false := by
  cases charSigned with
  | true =>
    have hlt := BitVec.toInt_lt (x := b)
    simp only [grantedOf, if_true]
    constructor
    · omega
    · rintro ⟨-, hfalse⟩
      cases hfalse
  | false =>
    simp only [grantedOf, Bool.false_eq_true, if_false, and_true]
    rw [← BitVec.toNat_inj]
    exact_mod_cast Iff.rfl

/-- A subscription is settled by the first SUBACK that comes, whatever packet id it has. A refusal is taken for a grant
where a `char` is signed: the handler is registered, and success is reported as long as there was a free place. -/
theorem mqttSubscribe_answered {charSigned fp : Bool} {topicFilter : List Byte} {granted : Byte}
    (hconnected : c.isconnected = true)
    (hser : serializeSubscribe c.bufSize 0 c.nextId [(.ofC topicFilter, qos)] = .ok bytes) (hid : packetid < 65536)
    (hothers : Before msgSuback others)
    (hw : w.incoming = others.flatMap Incoming.bytes ++ ((suback packetid granted).bytes ++ rest))
    (hturns : others.length < turns + 2) :
    wp prompt (mqttSubscribe charSigned (turns + 2) topicFilter qos fp) (fun rc c' w' =>
      (if granted = 0x80 ∧ charSigned = false then rc = 0x80 ∧ c'.messageHandlers = c.messageHandlers
        else rc = (if c.messageHandlers.any Option.isNone then 0 else grantedOf charSigned granted) ∧
          c'.messageHandlers = register ⟨topicFilter, fp⟩ c.messageHandlers) ∧
      w' = ⟨rest, w.sent ++ (bytes :: others.flatMap Incoming.answers), w.delivered ++ others.flatMap c.deliveries⟩)
      (fun _ _ => False) c w := by
  obtain ⟨hfits, hbytes⟩ := ok_iff.1 hser
  have hbuf : 4 ≤ c.bufSize := by
    have hlarge := add_two_le_packetLen (subscribeLength [(.ofC topicFilter, qos)])
    have hlength : 4 ≤ subscribeLength [(.ofC topicFilter, qos)] := by
      simp only [subscribeLength, List.map_cons, List.map_nil, List.sum_cons, List.sum_nil]
      omega
    omega
  have hne : bytes ≠ [] := by
    rw [← hbytes]
    exact List.cons_ne_nil _ _
  have hwf : (suback packetid granted).WellFormed := by
    have hlen : (suback packetid granted).body.length = 3 := rfl
    exact ⟨by omega, by decide, by decide⟩
  rw [mqttSubscribe, wp_bind, wp_get, if_neg (by simp [hconnected]), getNextPacketId, wp_bind, wp_bind, wp_modify,
    wp_bind, wp_get, wp_pure]
  simp only [hser]
  refine (wp_bind _ _).2 (wp_sendBytes hne ?_)
  rw [if_neg (not_not.2 rfl)]
  refine wp_await (p := suback packetid granted) rfl hothers hwf hbuf hw hturns fun c' w' hawaited => ?_
  obtain ⟨hsame, hwire⟩ := hawaited.sent rfl rfl
  have hshort : 2 + [granted].length < 2 ^ 28 := (by decide : 2 + 1 < 2 ^ 28)
  have hdeserialize : deserializeSuback c'.readbuf 1 = (1, some (packetid, [granted])) :=
    deserializeSuback_holds hid hshort hawaited.readbuf
  rw [wp_bind, wp_get, hdeserialize]
  have hgranted := grantedOf_eq charSigned granted
  simp only [Option.bind_some, List.head?_cons, Option.map_some, Option.getD_some]
  by_cases hrefused : granted = 0x80 ∧ charSigned = false
  · rw [← grantedOf, if_neg (not_not.2 (hgranted.2 hrefused)), wp_pure, if_pos hrefused]
    exact ⟨⟨hgranted.2 hrefused, hsame.messageHandlers⟩, hwire⟩
  · rw [← grantedOf, if_pos fun h => hrefused (hgranted.1 h), wp_bind, wp_modify, wp_pure, if_neg hrefused]
    have hhandlers : c'.messageHandlers = c.messageHandlers := hsame.messageHandlers
    simp only [hhandlers, true_and]
    exact hwire

theorem mqttSubscribe_answered_refused :
    wp prompt (mqttSubscribe true 2 [0x61] 1 true) (fun rc c' w' =>
      (if (0x80 : Byte) = 0x80 ∧ true = false then rc = 0x80 ∧ c'.messageHandlers = connectedClient.messageHandlers
        else rc = (if connectedClient.messageHandlers.any Option.isNone then 0 else grantedOf true 0x80) ∧
          c'.messageHandlers = register ⟨[0x61], true⟩ connectedClient.messageHandlers) ∧
      w' = ⟨[], [[0x82, 6, 0, 2, 0, 1, 0x61, 1]], []⟩) (fun _ _ => False)
      connectedClient ⟨[0x90, 3, 0, 9, 0x80], [], []⟩ :=
  have hothers : Before msgSuback [] := List.forall_mem_nil _
  have hid : 9 < 65536 := by decide
  have hturns : ([] : List Incoming).length < 0 + 2 := by decide
  have hconnected : connectedClient.isconnected = true := rfl
  have hser : serializeSubscribe connectedClient.bufSize 0 connectedClient.nextId [(.ofC [0x61], 1)] =
    .ok [0x82, 6, 0, 2, 0, 1, 0x61, 1] := rfl
  have hw : Wire.incoming ⟨[0x90, 3, 0, 9, 0x80], [], []⟩ =
    [].flatMap Incoming.bytes ++ ((suback 9 0x80).bytes ++ []) := rfl
  mqttSubscribe_answered hconnected hser hid hothers hw hturns

/-- The answer of a server to the end of a subscription. -/
def unsuback (packetid : ℕ) : Incoming := .other (header msgUnsuback 0 0 0) (bytes16 packetid)

/-- The end of a subscription is reported with the first UNSUBACK that comes, whatever packet id it has, and the
handler stays: nothing of the client is changed but the packet id. -/
theorem mqttUnsubscribe_answered {topicFilter : List Byte} (hconnected : c.isconnected = true)
    (hser : serializeUnsubscribe c.bufSize 0 c.nextId [.ofC topicFilter] = .ok bytes) (hid : packetid < 65536)
    (hothers : Before msgUnsuback others)
    (hw : w.incoming = others.flatMap Incoming.bytes ++ ((unsuback packetid).bytes ++ rest))
    (hturns : others.length < turns + 2) :
    wp prompt (mqttUnsubscribe (turns + 2) topicFilter) (fun rc c' w' => rc = 0 ∧
      { c with nextPacketid := c.nextId }.Same c' ∧ w' = ⟨rest, w.sent ++ (bytes :: others.flatMap Incoming.answers),
        w.delivered ++ others.flatMap c.deliveries⟩) (fun _ _ => False) c w := by
  obtain ⟨hfits, hbytes⟩ := ok_iff.1 hser
  have hbuf : 4 ≤ c.bufSize := by
    have hlarge := add_two_le_packetLen (unsubscribeLength [.ofC topicFilter])
    have hlength : 4 ≤ unsubscribeLength [.ofC topicFilter] := by
      simp only [unsubscribeLength, List.map_cons, List.map_nil, List.sum_cons, List.sum_nil]
      omega
    omega
  have hne : bytes ≠ [] := by
    rw [← hbytes]
    exact List.cons_ne_nil _ _
  have hwf : (unsuback packetid).WellFormed := by
    have hlen : (unsuback packetid).body.length = 2 := rfl
    exact ⟨by omega, by decide, by decide⟩
  rw [mqttUnsubscribe, wp_bind, wp_get, if_neg (by simp [hconnected]), getNextPacketId, wp_bind, wp_bind, wp_modify,
    wp_bind, wp_get, wp_pure]
  simp only [hser]
  refine (wp_bind _ _).2 (wp_sendBytes hne ?_)
  rw [if_neg (not_not.2 rfl)]
  refine wp_await (p := unsuback packetid) rfl hothers hwf hbuf hw hturns fun c' w' hawaited => ?_
  have hread : c'.readbuf.Holds 0 (header msgUnsuback 0 0 0 :: packetEncode 2 ++ bytes16 packetid) := hawaited.readbuf
  have hdeserialize : (deserializeUnsuback c'.readbuf).1 = 1 := by
    rw [deserializeUnsuback, deserializeAck_holds (by decide) (by decide) hid hread]
    rfl
  rw [wp_bind, wp_get, hdeserialize, if_pos rfl]
  exact ⟨rfl, hawaited.sent rfl rfl⟩

theorem mqttUnsubscribe_answered_two :
    wp prompt (mqttUnsubscribe 2 [0x61]) (fun rc c' w' => rc = 0 ∧
      { connectedClient with nextPacketid := 2 }.Same c' ∧ w' = ⟨[], [[0xa2, 5, 0, 2, 0, 1, 0x61]], []⟩)
      (fun _ _ => False) connectedClient ⟨[0xb0, 2, 0, 2], [], []⟩ :=
  have hothers : Before msgUnsuback [] := List.forall_mem_nil _
  have hid : 2 < 65536 := by decide
  have hturns : ([] : List Incoming).length < 0 + 2 := by decide
  have hconnected : connectedClient.isconnected = true := rfl
  have hser : serializeUnsubscribe connectedClient.bufSize 0 connectedClient.nextId [.ofC [0x61]] =
    .ok [0xa2, 5, 0, 2, 0, 1, 0x61] := rfl
  have hw : Wire.incoming ⟨[0xb0, 2, 0, 2], [], []⟩ =
    [].flatMap Incoming.bytes ++ ((unsuback 2).bytes ++ []) := rfl
  mqttUnsubscribe_answered hconnected hser hid hothers hw hturns

/-- The answer of a server to a connection request. -/
def connack (flags code : Byte) : Incoming := .other (header msgConnack 0 0 0) [flags, code]

lemma deserializeConnack_holds {m : Mem} {flags code : Byte}
    (hm : m.Holds 0 (header msgConnack 0 0 0 :: packetEncode 2 ++ [flags, code])) :
    deserializeConnack m = (1, some (sessionPresentOf flags, code.toNat)) := by
  obtain ⟨hheader, hdecode, hbody⟩ := holds_packet (by decide) hm
  obtain ⟨hflags, hcode⟩ := Mem.holds_cons.1 hbody
  have hplace : 2 + (packetEncode 2).length = 1 + (packetEncode 2).length + 1 := by omega
  simp only [deserializeConnack, hheader, hdecode, hflags, hplace, (Mem.holds_cons.1 hcode).1, typeOf_header]
  rfl

/-- A connection is settled by the first CONNACK that comes: its code is returned, and the client counts as connected
exactly when it is 0. A client that is connected sends nothing and fails. -/
theorem mqttConnect_answered {options : ConnectData} {flags code : Byte}
    (hser : serializeConnect c.bufSize options = .ok bytes) (hothers : Before msgConnack others)
    (hw : w.incoming = others.flatMap Incoming.bytes ++ ((connack flags code).bytes ++ rest))
    (hturns : others.length < turns + 2) :
    wp prompt (mqttConnect (turns + 2) options) (fun rc c' w' =>
      if c.isconnected then rc = failure ∧ c' = c ∧ w' = w
      else rc = code.toNat ∧ (c'.isconnected = true ↔ code = 0) ∧ c'.messageHandlers = c.messageHandlers ∧
        w' = ⟨rest, w.sent ++ (bytes :: others.flatMap Incoming.answers), w.delivered ++ others.flatMap c.deliveries⟩)
      (fun _ _ => False) c w := by
  obtain ⟨hfits, hbytes⟩ := ok_iff.1 hser
  have hbuf : 4 ≤ c.bufSize := by
    have hlarge := add_two_le_packetLen (connectLength options)
    have hlength : 2 ≤ connectLength options := by
      rw [connectLength]
      omega
    omega
  have hne : bytes ≠ [] := by
    rw [← hbytes]
    exact List.cons_ne_nil _ _
  have hwf : (connack flags code).WellFormed := by
    have hlen : (connack flags code).body.length = 2 := rfl
    exact ⟨by omega, by decide, by decide⟩
  rw [mqttConnect, wp_bind, wp_get]
  by_cases hconnected : c.isconnected = true
  · rw [if_pos hconnected, wp_pure, if_pos hconnected]
    exact ⟨rfl, rfl, rfl⟩
  · rw [if_neg hconnected, wp_bind, wp_modify, wp_bind, wp_ask]
    simp only [hser, if_neg hconnected]
    refine (wp_bind _ _).2 (wp_sendBytes hne ?_)
    rw [if_neg (not_not.2 rfl)]
    refine wp_await (p := connack flags code) rfl hothers hwf hbuf hw hturns fun c' w' hawaited => ?_
    have hdeserialize := deserializeConnack_holds (m := c'.readbuf) hawaited.readbuf
    obtain ⟨hsame, hwire, -⟩ := hawaited
    have hdone : w' = ⟨rest, w.sent ++ (bytes :: others.flatMap Incoming.answers),
        w.delivered ++ others.flatMap c.deliveries⟩ := by
      have hnone : ∀ c : Client, c.deliveries (connack flags code) = [] := fun _ => rfl
      have hsilent : (connack flags code).answers = [] := rfl
      rw [hwire, hnone, hsilent, List.append_nil, List.append_nil, List.append_assoc, List.singleton_append]
      rfl
    rw [wp_bind, wp_get, hdeserialize]
    have hcode : ((code.toNat : ℕ) : ℤ) = successs ↔ code = 0 := by
      rw [successs, ← BitVec.toNat_inj]
      exact_mod_cast Iff.rfl
    have hunconnected : c'.isconnected ≠ true := by rw [hsame.isconnected]; exact hconnected
    simp only [Option.map_some, Option.getD_some]
    split_ifs with haccepted
    · exact ⟨rfl, iff_of_true rfl (hcode.1 haccepted), hsame.messageHandlers, hdone⟩
    · exact ⟨rfl, iff_of_false hunconnected fun h => haccepted (hcode.2 h), hsame.messageHandlers, hdone⟩

theorem mqttConnect_answered_refused :
    wp prompt (mqttConnect 2 .initializer) (fun rc c' w' =>
      if plainClient.isconnected then rc = failure ∧ c' = plainClient ∧ w' = ⟨[0x20, 2, 0, 5], [], []⟩
      else rc = (5 : Byte).toNat ∧ (c'.isconnected = true ↔ (5 : Byte) = 0) ∧
        c'.messageHandlers = plainClient.messageHandlers ∧
        w' = ⟨[], [[0x10, 12, 0, 4, 0x4d, 0x51, 0x54, 0x54, 4, 2, 0, 60, 0, 0]], []⟩)
      (fun _ _ => False) plainClient ⟨[0x20, 2, 0, 5], [], []⟩ :=
  have hothers : Before msgConnack [] := List.forall_mem_nil _
  have hser : serializeConnect plainClient.bufSize .initializer =
    .ok [0x10, 12, 0, 4, 0x4d, 0x51, 0x54, 0x54, 4, 2, 0, 60, 0, 0] := rfl
  have hw : Wire.incoming ⟨[0x20, 2, 0, 5], [], []⟩ = [].flatMap Incoming.bytes ++ ((connack 0 5).bytes ++ []) := rfl
  have hturns : ([] : List Incoming).length < 0 + 2 := by decide
  mqttConnect_answered hser hothers hw hturns

end requests

end IoLibrary.Mqtt
