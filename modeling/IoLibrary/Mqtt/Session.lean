import IoLibrary.Mqtt.Client
import IoLibrary.Mqtt.Reading

/-! The client against a broker: what is delivered and what is answered to the packets that come. -/
namespace IoLibrary.Mqtt
open Effects Base128

/-- The bytes that have not been read yet, the packets sent, and the messages handed to the handlers. -/
structure Wire where
  incoming : List Byte
  sent : List (List Byte)
  delivered : List (Option ℕ × Message)

/-- A network that gives and takes all it is asked for, and timers that do not expire. -/
def answer (w : Wire) : (e : Io) → e.Res × Wire
  | .mqttread n => (w.incoming.take n, { w with incoming := w.incoming.drop n })
  | .mqttwrite data => ((data.length : ℤ), { w with sent := w.sent ++ [data] })
  | .timerIsExpired => (false, w)
  | .pingTimerIsExpired => (false, w)
  | .timerCountdown => ((), w)
  | .handler i message => ((), { w with delivered := w.delivered ++ [(i, message)] })
  | .unset => ((), w)

def prompt : Env Client Wire Io Io.Res := fun _ w e x w' => (x, w') = answer w e

/-- What a packet comes in: the messages and the PUBREC packets that the client answers, and the others. -/
inductive Incoming
  | publish (dup qos retained packetid : ℕ) (topic payload : List Byte)
  | pubrec (packetid : ℕ)
  | other (b : Byte) (body : List Byte)

namespace Incoming

def type : Incoming → ℕ
  | publish .. => msgPublish
  | pubrec _ => msgPubrec
  | other b _ => typeOf b

def headerByte : Incoming → Byte
  | publish dup qos retained _ _ _ => header msgPublish dup qos retained
  | pubrec _ => header msgPubrec 0 0 0
  | other b _ => b

def body : Incoming → List Byte
  | publish _ qos _ packetid topic payload =>
    writeMqttString (.ofLen topic) ++ (if 0 < qos then bytes16 packetid else []) ++ payload
  | pubrec packetid => bytes16 packetid
  | other _ body => body

def bytes (p : Incoming) : List Byte := packet p.headerByte p.body

structure WellFormed (p : Incoming) : Prop where
  short : p.body.length < 2 ^ 28
  fields : match p with
    | publish dup qos retained packetid topic _ =>
      dup < 2 ∧ qos < 3 ∧ retained < 2 ∧ packetid < 65536 ∧ topic.length < 65536
    | pubrec packetid => packetid < 65536
    | other b _ => typeOf b ≠ msgPublish ∧ typeOf b ≠ msgPubrec

/-- The acknowledgement that is due. -/
def answers : Incoming → List (List Byte)
  | publish _ qos _ packetid _ _ =>
    if qos = 1 then [header msgPuback 0 0 0 :: packetEncode 2 ++ bytes16 packetid]
    else if qos = 2 then [header msgPubrec 0 0 0 :: packetEncode 2 ++ bytes16 packetid]
    else []
  | pubrec packetid => [header msgPubrel 0 1 0 :: packetEncode 2 ++ bytes16 packetid]
  | other _ _ => []

/-- The message in a packet: its payload ends the packet. -/
def message : Incoming → Option (List Byte × Message)
  | p@(publish dup qos retained packetid topic payload) =>
    some (topic, ⟨⟨dup, qos, retained, some topic, if 0 < qos then some packetid else none,
      some (p.bytes.length - payload.length, payload.length)⟩, payload⟩)
  | _ => none

end Incoming

/-- The handlers from the `i`-th on that take a topic. -/
def hits (topicName : List Byte) : ℕ → List (Option Handler) → List (Option ℕ)
  | _, [] => []
  | i, h :: handlers =>
    if Handler.takes topicName h then some i :: hits topicName (i + 1) handlers else hits topicName (i + 1) handlers

/-- Who a message goes to: every handler that takes its topic, or else the default handler if there is one. -/
def Client.recipients (c : Client) (topicName : List Byte) : List (Option ℕ) :=
  if hits topicName 0 c.messageHandlers ≠ [] then hits topicName 0 c.messageHandlers
  else if c.defaultMessageHandler then [none] else []

def Client.deliveries (c : Client) (p : Incoming) : List (Option ℕ × Message) :=
  match p.message with
  | some (topic, message) => (c.recipients topic).map fun i => (i, message)
  | none => []

section session
variable {α : Type} {Q : α → Client → Wire → Prop} {H : Client → Wire → Prop} {c : Client} {w : Wire} {turns : ℕ}

lemma wp_ask {e : Io} {Q : e.Res → Client → Wire → Prop} :
    wp prompt (ask e) Q H c w ↔ Q (answer w e).1 c (answer w e).2 := by
  rw [wp_perform]
  exact ⟨fun h => h _ _ rfl, fun h x w' heq => by
    obtain ⟨rfl, rfl⟩ := Prod.ext_iff.1 heq
    exact h⟩

lemma wp_decodePacket {Q : ℕ → Client → Wire → Prop} {bytes rest : List Byte} {digits multiplier value : ℕ}
    (hnum : Numeral bytes) (hlen : bytes.length ≤ digits) (hw : w.incoming = bytes ++ rest)
    (h : Q (value + multiplier * Base128.value bytes) c { w with incoming := rest }) :
    wp prompt (decodePacket digits multiplier value) Q H c w := by
  induction bytes generalizing digits multiplier value w with
  | nil => exact absurd rfl hnum.ne_nil
  | cons b bytes ih =>
    cases digits with
    | zero => exact absurd hlen (Nat.not_succ_le_zero _)
    | succ digits =>
      rw [decodePacket, wp_bind, wp_ask]
      simp only [answer, hw, List.cons_append, List.take_succ_cons, List.take_zero, List.length_singleton, ne_eq,
        not_true_eq_false, if_false, List.getD_cons_zero, List.drop_succ_cons, List.drop_zero]
      rw [Base128.value] at h
      rcases bytes with _ | ⟨b', bytes⟩
      · rw [if_neg (Nat.not_le.2 hnum), wp_pure]
        rw [Base128.value, Nat.mul_zero, Nat.add_zero, Nat.mul_comm] at h
        exact h
      · rw [if_pos hnum.1]
        refine ih hnum.2 (Nat.le_of_succ_le_succ hlen) rfl ?_
        have hvalue : value + b.toNat % 128 * multiplier + multiplier * 128 * Base128.value (b' :: bytes) =
            value + multiplier * (b.toNat % 128 + 128 * Base128.value (b' :: bytes)) := by ring
        rwa [hvalue]

/-- A packet is read whole, and the buffer holds it. -/
lemma wp_readPacket {Q : ℤ → Client → Wire → Prop} {b : Byte} {body rest : List Byte} (hbody : body.length < 2 ^ 28)
    (hw : w.incoming = packet b body ++ rest)
    (h : ∀ readbuf : Mem, readbuf.Holds 0 (packet b body) →
      Q (typeOf b) { c with readbuf } { w with incoming := rest }) :
    wp prompt readPacket Q H c w := by
  have hencode := packetEncode_eq (n := body.length) (by omega)
  have hheader : (c.readbuf.write 0 [b]).Holds 0 [b] := Mem.holds_write _ _ _
  have hfront : ((c.readbuf.write 0 [b]).write 1 (packetEncode body.length)).Holds 0
      (b :: packetEncode body.length) :=
    hheader.append_write _
  have hlen : (b :: packetEncode body.length).length = 1 + (packetEncode body.length).length := by
    rw [List.length_cons, Nat.add_comm]
  rw [readPacket, wp_bind, wp_ask]
  simp only [answer, hw, packet, List.cons_append, List.take_succ_cons, List.take_zero, List.drop_succ_cons,
    List.drop_zero, storeRead, wp_bind, wp_modify, List.length_singleton, ne_eq, not_true_eq_false, if_false]
  have hin : packetEncode body.length ++ body ++ rest = encode body.length ++ (body ++ rest) := by
    rw [← hencode, List.append_assoc]
  refine wp_decodePacket (numeral_encode body.length) (length_encode_le.2 (by omega)) hin ?_
  rw [value_encode, Nat.zero_add, Nat.one_mul]
  by_cases hpos : 0 < body.length
  · simp only [if_pos hpos, wp_bind, wp_modify]
    rw [wp_ask]
    simp only [answer, List.take_left, List.drop_left, not_true_eq_false, if_false, wp_bind, wp_get, wp_pure]
    have hwhole := hfront.append_write body
    rw [hlen, Nat.zero_add] at hwhole
    have hb := (Mem.holds_cons.1 hwhole).1
    rw [hb]
    exact h _ hwhole
  · obtain rfl : body = [] := List.length_eq_zero_iff.1 (by omega)
    simp only [if_neg hpos, wp_bind, wp_get, wp_pure]
    have hb := (Mem.holds_cons.1 hfront).1
    rw [hb]
    refine h _ ?_
    rw [packet, List.append_nil]
    exact hfront

/-- The read buffer gets a packet of any length whole: the size that the client was given for it is not compared. -/
theorem readPacket_stores {b : Byte} {body rest : List Byte} (hbody : body.length < 2 ^ 28)
    (hw : w.incoming = packet b body ++ rest) :
    wp prompt readPacket (fun rc c' w' => rc = typeOf b ∧ w'.incoming = rest ∧
      ∀ i (hi : i < (packet b body).length), c'.readbuf i = (packet b body)[i]) (fun _ _ => False) c w := by
  refine wp_readPacket hbody hw fun readbuf hread => ⟨rfl, rfl, fun i hi => ?_⟩
  have hbyte := congrArg (fun bytes => bytes[i]?) hread
  simp only [List.getElem?_eq_getElem hi] at hbyte
  rw [Mem.slice, List.getElem?_map, List.getElem?_range' hi] at hbyte
  simpa using hbyte

/-- A client with nothing but a default handler. -/
def plainClient : Client := { mqttClientInit (fun _ => 0) 16 (fun _ => 0) 0 with defaultMessageHandler := true }

theorem readPacket_stores_four :
    wp prompt readPacket (fun rc c' w' => rc = typeOf 0xd0 ∧ w'.incoming = [] ∧
      ∀ i (hi : i < (packet 0xd0 [1, 2]).length), c'.readbuf i = (packet 0xd0 [1, 2])[i]) (fun _ _ => False)
      plainClient ⟨[0xd0, 2, 1, 2], [], []⟩ :=
  readPacket_stores (by decide) rfl

/-- A packet is sent with the first write; the second turn of the loop leaves it. -/
lemma wp_sendBytes {Q : ℤ → Client → Wire → Prop} {bytes : List Byte} (hbytes : bytes ≠ [])
    (h : Q successs { c with buf := c.buf.write 0 bytes } { w with sent := w.sent ++ [bytes] }) :
    wp prompt (sendBytes (turns + 2) (.ok bytes)) Q H c w := by
  have hpos := List.length_pos_of_ne_nil hbytes
  rw [sendBytes, wp_bind, wp_modify, sendPacket, wp_bind, Prog.loop]
  refine (wp_bind (sendTurn bytes.length 0) _).2 ?_
  rw [sendTurn, if_neg (by omega), wp_bind, wp_ask]
  simp only [answer, Bool.false_eq_true, if_false, wp_bind, wp_get]
  rw [wp_ask]
  have hslice : (c.buf.write 0 bytes).slice 0 bytes.length = bytes := Mem.holds_write _ _ _
  simp only [answer, hslice]
  have hrc : ¬(bytes.length : ℤ) < 0 := by omega
  rw [if_neg hrc, wp_pure]
  simp only [Int.toNat_natCast, Nat.zero_add]
  rw [Prog.loop]
  refine (wp_bind (sendTurn bytes.length bytes.length) _).2 ?_
  rw [sendTurn, if_pos (Nat.le_refl _), wp_pure, wp_ret, if_pos rfl, wp_bind, wp_ask, wp_pure]
  exact h

lemma wp_deliverLoop {topicName : List Byte} {message : Message} {handlers : List (Option Handler)} {i : ℕ}
    {Q : Bool → Client → Wire → Prop}
    (h : Q (decide (hits topicName i handlers ≠ [])) c
      { w with delivered := w.delivered ++ (hits topicName i handlers).map fun i => (i, message) }) :
    wp prompt (deliverLoop topicName message i handlers) Q H c w := by
  induction handlers generalizing i w Q with
  | nil => simpa [deliverLoop, hits] using h
  | cons handler handlers ih =>
    rw [deliverLoop]
    rw [hits] at h
    split_ifs at h ⊢ with htakes
    · rw [wp_bind, wp_ask]
      refine (wp_bind _ _).2 (ih ?_)
      rw [wp_pure]
      simpa [answer] using h
    · exact ih h

lemma wp_deliverMessage {topicName : List Byte} {message : Message} {Q : Unit → Client → Wire → Prop}
    (h : Q () c { w with delivered := w.delivered ++ (c.recipients topicName).map fun i => (i, message) }) :
    wp prompt (deliverMessage topicName message) Q H c w := by
  rw [deliverMessage, wp_bind, wp_get]
  refine (wp_bind _ _).2 (wp_deliverLoop ?_)
  rw [Client.recipients] at h
  split_ifs at h with hhits hdefault
  · rw [if_pos (by simpa using hhits), wp_pure]
    exact h
  · rw [if_neg (by simpa using hhits), if_pos hdefault, wp_ask]
    simpa [answer, not_not.1 hhits] using h
  · rw [if_neg (by simpa using hhits), if_neg hdefault, wp_pure]
    simpa [not_not.1 hhits] using h

lemma wp_keepalive {Q : Unit → Client → Wire → Prop} (h : Q () c w) : wp prompt (keepalive turns) Q H c w := by
  rw [keepalive, wp_bind, wp_get]
  by_cases hinterval : c.keepAliveInterval = 0
  · rw [if_pos hinterval]
    exact h
  · rw [if_neg hinterval, wp_bind, wp_ask]
    exact h

/-- What the client keeps through all its work on incoming packets. -/
structure Client.Same (c c' : Client) : Prop where
  bufSize : c'.bufSize = c.bufSize
  messageHandlers : c'.messageHandlers = c.messageHandlers
  defaultMessageHandler : c'.defaultMessageHandler = c.defaultMessageHandler
  nextPacketid : c'.nextPacketid = c.nextPacketid
  isconnected : c'.isconnected = c.isconnected

lemma Client.Same.trans {c' c'' : Client} (h : c.Same c') (h' : c'.Same c'') : c.Same c'' :=
  ⟨h'.1.trans h.1, h'.2.trans h.2, h'.3.trans h.3, h'.4.trans h.4, h'.5.trans h.5⟩

lemma Client.Same.deliveries {c' : Client} (h : c.Same c') (p : Incoming) : c'.deliveries p = c.deliveries p := by
  rw [Client.deliveries, Client.deliveries]
  simp only [Client.recipients, h.messageHandlers, h.defaultMessageHandler]

lemma wp_ackMessage {Q : ℤ → Client → Wire → Prop} {out : PublishOut} (hbuf : 4 ≤ c.bufSize) (hqos : out.qos < 3)
    (h : ∀ buf : Mem, Q successs { c with buf } { w with sent := w.sent ++
      if out.qos = 1 then [header msgPuback 0 0 0 :: packetEncode 2 ++ bytes16 (out.packetid.getD 0)]
      else if out.qos = 2 then [header msgPubrec 0 0 0 :: packetEncode 2 ++ bytes16 (out.packetid.getD 0)]
      else [] }) :
    wp prompt (ackMessage (turns + 2) out) Q H c w := by
  have hack : ∀ type, type ≠ msgPubrel → serializeAck c.bufSize type 0 (out.packetid.getD 0) =
      .ok (header type 0 0 0 :: packetEncode 2 ++ bytes16 (out.packetid.getD 0)) := by
    intro type htype
    rw [serializeAck, if_neg (by omega), if_neg htype]
  rw [ackMessage, wp_bind, wp_get]
  simp only
  split_ifs with hzero hone htwo
  · rw [if_neg (by omega), if_neg (by omega), List.append_nil] at h
    exact h c.buf
  · rw [if_pos hone] at h
    rw [hack _ (by decide)]
    exact wp_sendBytes (List.cons_ne_nil _ _) (h _)
  · rw [if_neg hone, if_pos htwo] at h
    rw [hack _ (by decide)]
    exact wp_sendBytes (List.cons_ne_nil _ _) (h _)
  · omega

variable {p : Incoming} {ps : List Incoming} {rest : List Byte}

lemma typeOf_headerByte (p : Incoming) : typeOf p.headerByte = p.type := by
  cases p with
  | publish dup qos retained packetid topic payload => exact typeOf_header _ _ _ _
  | pubrec packetid => exact typeOf_header _ _ _ _
  | other b body => rfl

lemma packetType_typeOf (b : Byte) : packetType (typeOf b) = typeOf b := by
  have hb := b.isLt
  rw [packetType, typeOf]
  omega

/-- A message in a packet is read as it is. -/
lemma deserializePublish_bytes {m : Mem} {dup qos retained packetid : ℕ} {topic payload : List Byte}
    (hp : (Incoming.publish dup qos retained packetid topic payload).WellFormed)
    (hm : m.Holds 0 (Incoming.publish dup qos retained packetid topic payload).bytes) :
    deserializePublish m = (1, some ⟨dup, qos, retained, some topic, if 0 < qos then some packetid else none,
      some ((Incoming.publish dup qos retained packetid topic payload).bytes.length - payload.length,
        payload.length)⟩) ∧
    m.slice ((Incoming.publish dup qos retained packetid topic payload).bytes.length - payload.length) payload.length =
      payload := by
  obtain ⟨hdup, hqos, hretained, hid, htopic⟩ := hp.fields
  have hshort := hp.short
  have hwritten : written (.ofLen topic) = topic := by cases topic <;> rfl
  have hwf : (MqttString.ofLen topic).WellFormed := ⟨.inl rfl, by rwa [hwritten]⟩
  have hrem : (Incoming.publish dup qos retained packetid topic payload).body.length =
      publishLength qos (.ofLen topic) payload.length := by
    rw [Incoming.body, List.length_append, List.length_append, length_writeMqttString hwf, length_packetid,
      publishLength]
    omega
  have hbytes : publishBytes dup qos retained packetid (.ofLen topic) payload =
      (Incoming.publish dup qos retained packetid topic payload).bytes := by
    rw [publishBytes, Incoming.bytes, packet, hrem, Incoming.body, ← List.append_assoc, ← List.append_assoc]
    rfl
  have hround := deserializePublish_holds hdup (by omega) hretained hid hwf (by rwa [← hrem]) hbytes hm
  rw [hwritten] at hround
  exact hround.2

/-- What a call of cycle does with the packet that comes. -/
structure Handled (c : Client) (w : Wire) (p : Incoming) (rest : List Byte) (rc : ℤ) (c' : Client) (w' : Wire) :
    Prop where
  rc : rc = p.type
  same : c.Same c'
  wire : w' = ⟨rest, w.sent ++ p.answers, w.delivered ++ c.deliveries p⟩
  readbuf : c'.readbuf.Holds 0 p.bytes

/-- The switch handles each kind of packet and lets keepalive follow. -/
lemma wp_cycleSwitch {Q : Bool × ℤ → Client → Wire → Prop} (hp : p.WellFormed) (hbuf : 4 ≤ c.bufSize)
    (hread : c.readbuf.Holds 0 p.bytes)
    (h : ∀ c', c.Same c' → c'.readbuf = c.readbuf →
      Q (false, successs) c' ⟨w.incoming, w.sent ++ p.answers, w.delivered ++ c.deliveries p⟩) :
    wp prompt (cycleSwitch (turns + 2) p.type) Q H c w := by
  cases p with
  | publish dup qos retained packetid topic payload =>
    obtain ⟨hdeserialize, hpayload⟩ := deserializePublish_bytes hp hread
    have hqos := hp.fields.2.1
    rw [cycleSwitch, Incoming.type, if_pos rfl, cyclePublish, wp_bind, wp_get, hdeserialize]
    simp only [ne_eq, not_true_eq_false, if_false, Int.toNat_natCast, hpayload]
    refine (wp_bind _ _).2 (wp_deliverMessage ?_)
    refine (wp_bind _ _).2 (wp_ackMessage hbuf hqos fun buf => ?_)
    have hgood := h { c with buf } ⟨rfl, rfl, rfl, rfl, rfl⟩ rfl
    rw [Incoming.answers] at hgood
    rw [wp_pure]
    have hid : (if qos = 1 then [header msgPuback 0 0 0 :: packetEncode 2 ++
          bytes16 ((if 0 < qos then some packetid else none).getD 0)]
        else if qos = 2 then [header msgPubrec 0 0 0 :: packetEncode 2 ++
          bytes16 ((if 0 < qos then some packetid else none).getD 0)] else []) =
        if qos = 1 then [header msgPuback 0 0 0 :: packetEncode 2 ++ bytes16 packetid]
        else if qos = 2 then [header msgPubrec 0 0 0 :: packetEncode 2 ++ bytes16 packetid] else [] := by
      split_ifs
      · rfl
      · omega
      · rfl
      · omega
      · rfl
    simp only [hid]
    exact hgood
  | pubrec packetid =>
    have hid := hp.fields
    have hbytes : c.readbuf.Holds 0 (header msgPubrec 0 0 0 :: packetEncode 2 ++ bytes16 packetid) := hread
    have hack := deserializeAck_holds (by decide) (by decide) hid hbytes
    have hrel : serializeAck c.bufSize msgPubrel 0 packetid =
        .ok (header msgPubrel 0 1 0 :: packetEncode 2 ++ bytes16 packetid) := by
      rw [serializeAck, if_neg (by omega), if_pos rfl]
    rw [cycleSwitch, Incoming.type, if_neg (by decide), if_pos rfl, cyclePubrec, wp_bind, wp_get, hack]
    simp only [ne_eq, not_true_eq_false, if_false, Option.getD_some, hrel]
    refine (wp_bind _ _).2 (wp_sendBytes (List.cons_ne_nil _ _) ?_)
    rw [wp_pure]
    have hgood := h { c with buf := c.buf.write 0 (header msgPubrel 0 1 0 :: packetEncode 2 ++ bytes16 packetid) }
      ⟨rfl, rfl, rfl, rfl, rfl⟩ rfl
    simpa [Incoming.answers, Client.deliveries, Incoming.message] using hgood
  | other b body =>
    obtain ⟨hpublish, hpubrec⟩ := hp.fields
    have hgood : ∀ c', c.Same c' → c'.readbuf = c.readbuf → Q (false, successs) c' w := by
      intro c' hsame hbuf
      simpa [Incoming.answers, Client.deliveries, Incoming.message] using h c' hsame hbuf
    rw [cycleSwitch, Incoming.type, if_neg hpublish, if_neg hpubrec]
    split_ifs
    · rw [wp_bind, wp_modify, wp_pure]
      exact hgood _ ⟨rfl, rfl, rfl, rfl, rfl⟩ rfl
    · exact hgood c ⟨rfl, rfl, rfl, rfl, rfl⟩ rfl

lemma wp_cycle (hp : p.WellFormed) (hbuf : 4 ≤ c.bufSize) (hw : w.incoming = p.bytes ++ rest) :
    wp prompt (cycle (turns + 2)) (Handled c w p rest) H c w := by
  rw [cycle]
  refine (wp_bind _ _).2 (wp_readPacket hp.short hw fun readbuf hread => ?_)
  have htype : packetType (typeOf p.headerByte) = p.type := (packetType_typeOf _).trans (typeOf_headerByte p)
  simp only [htype]
  refine (wp_bind _ _).2 (wp_cycleSwitch (c := { c with readbuf }) hp hbuf hread fun c' hsame hbuf' => ?_)
  simp only [Bool.false_eq_true, if_false]
  refine (wp_bind _ _).2 (wp_keepalive ?_)
  rw [wp_pure, if_pos trivial]
  exact ⟨rfl, ⟨hsame.1, hsame.2, hsame.3, hsame.4, hsame.5⟩, rfl, hbuf' ▸ hread⟩

/-- `n` calls of cycle, with what they return. -/
def cycles (turns : ℕ) : ℕ → ClientProg (List ℤ)
  | 0 => return []
  | n + 1 => do
    let rc ← cycle turns
    let rcs ← cycles turns n
    return rc :: rcs

/-- Every packet that a broker sends is handled once, in its order: the messages go to the handlers that take their
topics, a message of quality 1 is answered by PUBACK and one of quality 2 by PUBREC with its own packet id, a PUBREC
by PUBREL with its own; nothing else is sent or delivered, also not for a PUBREL. -/
theorem cycles_handle (hps : ∀ p ∈ ps, p.WellFormed) (hbuf : 4 ≤ c.bufSize)
    (hw : w.incoming = ps.flatMap Incoming.bytes ++ rest) :
    wp prompt (cycles (turns + 2) ps.length) (fun rcs c' w' => rcs = ps.map (fun p => (p.type : ℤ)) ∧ c.Same c' ∧
      w' = ⟨rest, w.sent ++ ps.flatMap Incoming.answers, w.delivered ++ ps.flatMap c.deliveries⟩) (fun _ _ => False)
      c w := by
  induction ps generalizing c w with
  | nil =>
    refine ⟨rfl, ⟨rfl, rfl, rfl, rfl, rfl⟩, ?_⟩
    rcases w with ⟨incoming, sent, delivered⟩
    simpa using hw
  | cons p ps ih =>
    obtain ⟨hp, hps⟩ := List.forall_mem_cons.1 hps
    rw [List.flatMap_cons, List.append_assoc] at hw
    refine (wp_bind _ _).2 (wp_mono (wp_cycle hp hbuf hw) ?_ fun _ _ => id)
    rintro rc c' w' ⟨rfl, hsame, rfl, -⟩
    have hdeliveries : c'.deliveries = c.deliveries := funext hsame.deliveries
    refine (wp_bind _ _).2 (wp_mono (ih hps (by rw [hsame.bufSize]; exact hbuf) rfl) ?_ fun _ _ => id)
    rintro rcs c'' w'' ⟨rfl, hsame', rfl⟩
    refine ⟨rfl, hsame.trans hsame', ?_⟩
    rw [hdeliveries, List.flatMap_cons, List.flatMap_cons, List.append_assoc, List.append_assoc]

theorem cycles_handle_two :
    wp prompt (cycles 2 2) (fun rcs c' w' => rcs = [3, 5] ∧ plainClient.Same c' ∧
      w' = ⟨[], [[0x40, 2, 0, 7], [0x62, 2, 0, 5]], [(none, ⟨⟨0, 1, 0, some [0x61], some 7, some (7, 1)⟩, [9]⟩)]⟩)
      (fun _ _ => False) plainClient ⟨[0x32, 6, 0, 1, 0x61, 0, 7, 9, 0x50, 2, 0, 5], [], []⟩ :=
  have hps : ∀ p ∈ [Incoming.publish 0 1 0 7 [0x61] [9], .pubrec 5], p.WellFormed :=
    List.forall_mem_cons.2 ⟨⟨by decide, by decide⟩, List.forall_mem_singleton.2 ⟨by decide, by decide⟩⟩
  cycles_handle hps (by decide) rfl

end session

end IoLibrary.Mqtt
