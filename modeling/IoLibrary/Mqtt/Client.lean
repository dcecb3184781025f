import IoLibrary.Effects.Wp
import IoLibrary.Mqtt.RoundTrips
import IoLibrary.Mqtt.Topics

/-! The MQTT client. Its environment is the network, the timers and the handlers of the messages. -/
namespace IoLibrary.Mqtt
open Effects

structure Handler where
  topicFilter : List Byte
  fp : Bool

structure Client where
  nextPacketid : ℕ
  bufSize : ℕ
  buf : Mem
  readbuf : Mem
  keepAliveInterval : ℕ
  pingOutstanding : Bool
  isconnected : Bool
  messageHandlers : List (Option Handler)
  defaultMessageHandler : Bool

/-- A message as a handler finds it: what the deserializer has written, and the bytes of the payload. -/
structure Message where
  out : PublishOut
  payload : List Byte
  deriving DecidableEq

/-- `unset` is a look at a topic name that the deserializer has not written. -/
inductive Io
  | mqttread (len : ℕ)
  | mqttwrite (data : List Byte)
  | timerIsExpired
  | pingTimerIsExpired
  | timerCountdown
  | handler (i : Option ℕ) (message : Message)
  | unset

/-- A read answers the bytes it has stored, none where it fails; a write answers its return code. -/
@[reducible] def Io.Res : Io → Type
  | .mqttread _ => List Byte
  | .mqttwrite _ => ℤ
  | .timerIsExpired => Bool
  | .pingTimerIsExpired => Bool
  | _ => Unit

abbrev ClientProg := Prog Client Io Io.Res

abbrev ask (e : Io) : ClientProg e.Res := Prog.perform e

def failure : ℤ := -1
def successs : ℤ := 0
def maxPacketId : ℕ := 65535
def maxMessageHandlers : ℕ := 5

/-- The keep-alive interval is left as it was. -/
def mqttClientInit (sendbuf : Mem) (sendbufSize : ℕ) (readbuf : Mem) (keepAliveInterval : ℕ) : Client where
  nextPacketid := 1
  bufSize := sendbufSize
  buf := sendbuf
  readbuf := readbuf
  keepAliveInterval := keepAliveInterval
  pingOutstanding := false
  isconnected := false
  messageHandlers := .replicate maxMessageHandlers none
  defaultMessageHandler := false

def Client.nextId (c : Client) : ℕ := if c.nextPacketid = maxPacketId then 1 else c.nextPacketid + 1

def getNextPacketId : ClientProg ℕ := do
  Prog.modify fun c => { c with nextPacketid := c.nextId }
  let c ← Prog.get
  return c.nextPacketid

/-- One turn of the loop of sendPacket: a write is asked to take `length` bytes from the place reached. -/
def sendTurn (length sent : ℕ) : ClientProg (Prog.Turn ℕ ℕ) := do
  if length ≤ sent then return .leave sent
  let expired ← ask .timerIsExpired
  if expired then return .leave sent
  let c ← Prog.get
  let rc ← ask (.mqttwrite (c.buf.slice sent length))
  if rc < 0 then return .leave sent
  return .again (sent + rc.toNat)

def sendPacket (turns length : ℕ) : ClientProg ℤ := do
  let sent ← Prog.loop (sendTurn length) turns 0
  if sent = length then
    ask .timerCountdown
    return successs
  return failure

/-- The loop of decodePacket with the number of digits that may still come. A read that fails ends it like a last
digit. -/
def decodePacket : ℕ → ℕ → ℕ → ClientProg ℕ
  | 0, _, value => return value
  | digits + 1, multiplier, value => do
    let data ← ask (.mqttread 1)
    if data.length ≠ 1 then return value
    let i := (data.getD 0 0).toNat
    let value := value + i % 128 * multiplier
    if 128 ≤ i then decodePacket digits (multiplier * 128) value else return value

def storeRead (p : ℕ) (data : List Byte) : ClientProg Unit :=
  Prog.modify fun c => { c with readbuf := c.readbuf.write p data }

def readPacket : ClientProg ℤ := do
  let data ← ask (.mqttread 1)
  storeRead 0 data
  if data.length ≠ 1 then return failure
  let rem ← decodePacket 4 1 0
  storeRead 1 (packetEncode rem)
  if 0 < rem then
    let data ← ask (.mqttread rem)
    storeRead (1 + (packetEncode rem).length) data
    if data.length ≠ rem then return failure
  let c ← Prog.get
  return typeOf (c.readbuf 0)

/-- Writes a serialized packet to the send buffer and sends it. -/
def sendBytes (turns : ℕ) (packet : Except ℤ (List Byte)) : ClientProg ℤ :=
  match packet with
  | .error _ => return failure
  | .ok bytes => do
    Prog.modify fun c => { c with buf := c.buf.write 0 bytes }
    sendPacket turns bytes.length

def Handler.takes (topicName : List Byte) (h : Option Handler) : Bool :=
  match h with
  | none => false
  | some h => (topicName = h.topicFilter || isTopicMatched h.topicFilter topicName) && h.fp

/-- The loop of deliverMessage from the `i`-th handler on; says whether one has been called. -/
def deliverLoop (topicName : List Byte) (message : Message) : ℕ → List (Option Handler) → ClientProg Bool
  | _, [] => return false
  | i, h :: handlers => do
    if Handler.takes topicName h then
      ask (.handler (some i) message)
      let _ ← deliverLoop topicName message (i + 1) handlers
      return true
    else deliverLoop topicName message (i + 1) handlers

def deliverMessage (topicName : List Byte) (message : Message) : ClientProg Unit := do
  let c ← Prog.get
  let called ← deliverLoop topicName message 0 c.messageHandlers
  if called then return
  if c.defaultMessageHandler then ask (.handler none message)

def keepalive (turns : ℕ) : ClientProg Unit := do
  let c ← Prog.get
  if c.keepAliveInterval = 0 then return
  let expired ← ask .pingTimerIsExpired
  if expired then
    if c.pingOutstanding = false then
      let rc ← sendBytes turns (serializeZero c.bufSize msgPingreq)
      if rc = successs then Prog.modify fun c => { c with pingOutstanding := true }

/-- The acknowledgement of a message; one of the quality 3 has none and fails. -/
def ackMessage (turns : ℕ) (out : PublishOut) : ClientProg ℤ := do
  let c ← Prog.get
  let id := out.packetid.getD 0
  if out.qos = 0 then return successs
  if out.qos = 1 then sendBytes turns (serializeAck c.bufSize msgPuback 0 id)
  else if out.qos = 2 then sendBytes turns (serializeAck c.bufSize msgPubrec 0 id)
  else return failure

def packetType (rc : ℤ) : ℕ := (rc % 65536).toNat

/-- Case PUBLISH: whether the switch is left by `goto exit`, and `rc`. -/
def cyclePublish (turns : ℕ) : ClientProg (Bool × ℤ) := do
  let c ← Prog.get
  match deserializePublish c.readbuf with
  | (rc, out) =>
    if rc ≠ 1 then return (true, successs)
    match out with
    | some ⟨dup, qos, retained, some topicName, packetid, some (p, payloadlen)⟩ =>
      let out : PublishOut := ⟨dup, qos, retained, some topicName, packetid, some (p, payloadlen)⟩
      deliverMessage topicName ⟨out, c.readbuf.slice p payloadlen.toNat⟩
      let rc ← ackMessage turns out
      return (rc = failure, rc)
    | _ =>
      ask .unset
      Prog.cut

def cyclePubrec (turns : ℕ) : ClientProg (Bool × ℤ) := do
  let c ← Prog.get
  match deserializeAck c.readbuf with
  | (rc, out) =>
    if rc ≠ 1 then return (true, failure)
    let rc ← sendBytes turns (serializeAck c.bufSize msgPubrel 0 (out.packetid.getD 0))
    return (rc ≠ successs, if rc ≠ successs then failure else rc)

def cycleSwitch (turns type : ℕ) : ClientProg (Bool × ℤ) := do
  if type = msgPublish then cyclePublish turns
  else if type = msgPubrec then cyclePubrec turns
  else if type = msgPingresp then
    Prog.modify fun c => { c with pingOutstanding := false }
    return (false, successs)
  else return (false, successs)

/-- The type of the packet is kept in an `unsigned short`: a read that has failed gives 65535. -/
def cycle (turns : ℕ) : ClientProg ℤ := do
  let read ← readPacket
  let type := packetType read
  let (leaves, rc) ← cycleSwitch turns type
  if leaves then return if rc = successs then type else rc
  keepalive turns
  return if rc = successs then type else rc

def mqttYield (turns : ℕ) : ClientProg ℤ := do
  let rc ← cycle turns
  return if rc = failure then failure else successs

def waitforTurn (turns type : ℕ) (rc : ℤ) : ClientProg (Prog.Turn ℤ ℤ) := do
  let expired ← ask .timerIsExpired
  if expired then return .leave rc
  let rc ← cycle turns
  return if rc = type then .leave rc else .again rc

def waitfor (turns type : ℕ) : ClientProg ℤ := Prog.loop (waitforTurn turns type) turns failure

def mqttConnect (turns : ℕ) (options : ConnectData) : ClientProg ℤ := do
  let c ← Prog.get
  if c.isconnected then return failure
  Prog.modify fun c => { c with keepAliveInterval := options.keepAliveInterval }
  ask .timerCountdown
  match serializeConnect c.bufSize options with
  | .error _ => return failure
  | .ok bytes =>
    let rc ← sendBytes turns (.ok bytes)
    if rc ≠ successs then return rc
    let rc ← waitfor turns msgConnack
    if rc ≠ msgConnack then return failure
    let c ← Prog.get
    match deserializeConnack c.readbuf with
    | (1, out) =>
      let rc : ℤ := (out.map Prod.snd).getD 255
      if rc = successs then Prog.modify fun c => { c with isconnected := true }
      return rc
    | _ => return failure

/-- A free place for a handler. -/
def register (h : Handler) : List (Option Handler) → List (Option Handler)
  | [] => []
  | none :: handlers => some h :: handlers
  | some h' :: handlers => some h' :: register h handlers

/-- `charSigned` says whether a `char` of the platform is signed: the granted quality is read into one. -/
def mqttSubscribe (charSigned : Bool) (turns : ℕ) (topicFilter : List Byte) (qos : ℕ) (fp : Bool) : ClientProg ℤ := do
  let c ← Prog.get
  if c.isconnected = false then return failure
  let id ← getNextPacketId
  match serializeSubscribe c.bufSize 0 id [(.ofC topicFilter, qos)] with
  | .error _ => return failure
  | .ok bytes =>
    let rc ← sendBytes turns (.ok bytes)
    if rc ≠ successs then return rc
    let answer ← waitfor turns msgSuback
    if answer ≠ msgSuback then return failure
    let c ← Prog.get
    let granted : Byte → ℤ := fun b => if charSigned then b.toInt else b.toNat
    let rc : ℤ := match deserializeSuback c.readbuf 1 with
      | (1, out) => ((out.bind fun o => o.2.head?).map granted).getD (-1)
      | _ => rc
    if rc ≠ 0x80 then
      Prog.modify fun c => { c with messageHandlers := register ⟨topicFilter, fp⟩ c.messageHandlers }
      return if c.messageHandlers.any Option.isNone then 0 else rc
    return rc

def mqttUnsubscribe (turns : ℕ) (topicFilter : List Byte) : ClientProg ℤ := do
  let c ← Prog.get
  if c.isconnected = false then return failure
  let id ← getNextPacketId
  match serializeUnsubscribe c.bufSize 0 id [.ofC topicFilter] with
  | .error _ => return failure
  | .ok bytes =>
    let rc ← sendBytes turns (.ok bytes)
    if rc ≠ successs then return rc
    let answer ← waitfor turns msgUnsuback
    if answer ≠ msgUnsuback then return failure
    let c ← Prog.get
    return if (deserializeUnsuback c.readbuf).1 = 1 then 0 else rc

/-- The wait for the acknowledgement of a message: its packet id is read and not compared. -/
def waitAck (turns type : ℕ) : ClientProg ℤ := do
  let answer ← waitfor turns type
  if answer ≠ type then return failure
  let c ← Prog.get
  return if (deserializeAck c.readbuf).1 = 1 then successs else failure

def mqttPublish (turns : ℕ) (topicName : List Byte) (qos retained id : ℕ) (payload : List Byte) : ClientProg ℤ := do
  let c ← Prog.get
  if c.isconnected = false then return failure
  let id ← if qos = 1 ∨ qos = 2 then getNextPacketId else pure id
  match serializePublish c.bufSize 0 qos retained id (.ofC topicName) payload with
  | .error _ => return failure
  | .ok bytes =>
    let rc ← sendBytes turns (.ok bytes)
    if rc ≠ successs then return rc
    if qos = 1 then waitAck turns msgPuback
    else if qos = 2 then waitAck turns msgPubcomp
    else return rc

def mqttDisconnect (turns : ℕ) : ClientProg ℤ := do
  let c ← Prog.get
  let rc ← sendBytes turns (serializeZero c.bufSize msgDisconnect)
  Prog.modify fun c => { c with isconnected := false }
  return rc

end IoLibrary.Mqtt
