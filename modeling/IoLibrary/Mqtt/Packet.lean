import IoLibrary.Base128
import IoLibrary.MessageBuffer

/-! The packets of the MQTT client: the serializers give the bytes they write from the start of the buffer, or the
error code; the deserializers walk over the memory from the start of the buffer on. -/
namespace IoLibrary.Mqtt

def bufferTooShort : ℤ := -2

def msgConnect : ℕ := 1
def msgConnack : ℕ := 2
def msgPublish : ℕ := 3
def msgPuback : ℕ := 4
def msgPubrec : ℕ := 5
def msgPubrel : ℕ := 6
def msgPubcomp : ℕ := 7
def msgSubscribe : ℕ := 8
def msgSuback : ℕ := 9
def msgUnsubscribe : ℕ := 10
def msgUnsuback : ℕ := 11
def msgPingreq : ℕ := 12
def msgPingresp : ℕ := 13
def msgDisconnect : ℕ := 14

/-! ### The header byte -/

def header (type dup qos retain : ℕ) : Byte :=
  BitVec.ofNat 8 (type % 16 * 16 + dup % 2 * 8 + qos % 4 * 2 + retain % 2)

def typeOf (b : Byte) : ℕ := b.toNat / 16
def dupOf (b : Byte) : ℕ := b.toNat / 8 % 2
def qosOf (b : Byte) : ℕ := b.toNat / 2 % 4
def retainOf (b : Byte) : ℕ := b.toNat % 2

section header
variable (type dup qos retain : ℕ)

lemma toNat_header :
    (header type dup qos retain).toNat = type % 16 * 16 + dup % 2 * 8 + qos % 4 * 2 + retain % 2 := by
  rw [header, BitVec.toNat_ofNat]
  omega

@[simp] lemma typeOf_header : typeOf (header type dup qos retain) = type % 16 := by
  rw [typeOf, toNat_header]
  omega

@[simp] lemma dupOf_header : dupOf (header type dup qos retain) = dup % 2 := by
  rw [dupOf, toNat_header]
  omega

@[simp] lemma qosOf_header : qosOf (header type dup qos retain) = qos % 4 := by
  rw [qosOf, toNat_header]
  omega

@[simp] lemma retainOf_header : retainOf (header type dup qos retain) = retain % 2 := by
  rw [retainOf, toNat_header]
  omega

end header

/-! ### The remaining length -/

def encodeLoop : ℕ → ℕ → List Byte
  | 0, _ => []
  | digits + 1, length =>
    if 0 < length / 128 then BitVec.ofNat 8 (length % 128 + 128) :: encodeLoop digits (length / 128)
    else [BitVec.ofNat 8 (length % 128)]

/-- An `int` has at most five digits. -/
def packetEncode (length : ℕ) : List Byte := encodeLoop 5 length

def decodeLoop (m : Mem) (p : ℕ) : ℕ → ℕ → ℕ → ℕ → ℕ × ℕ
  | 0, len, _, value => (len + 1, value)
  | digits + 1, len, multiplier, value =>
    let c := (m (p + len)).toNat
    let value := value + c % 128 * multiplier
    if 128 ≤ c then decodeLoop m p digits (len + 1) (multiplier * 128) value else (len + 1, value)

/-- The number of bytes that were asked for and the value; a fifth byte is counted and not read. -/
def packetDecodeBuf (m : Mem) (p : ℕ) : ℕ × ℕ := decodeLoop m p 4 0 1 0

/-- The size of a packet by its remaining length. The thresholds are compared with the size after the header byte. -/
def packetLen (rem : ℕ) : ℕ :=
  if rem + 1 < 128 then rem + 2
  else if rem + 1 < 16384 then rem + 3
  else if rem + 1 < 2097151 then rem + 4
  else rem + 5

/-! ### Strings -/

/-- A string of the caller: the characters of a C string, or the bytes of a string with a length. -/
structure MqttString where
  cstring : Option (List Byte)
  lenstring : Option (List Byte)
  deriving DecidableEq

namespace MqttString

def ofC (s : List Byte) : MqttString := ⟨some s, none⟩
def ofLen (s : List Byte) : MqttString := ⟨none, some s⟩
def initializer : MqttString := ⟨none, none⟩

def lenstringLen (s : MqttString) : ℕ := (s.lenstring.getD []).length

/-- `cstring || lenstring.data`. -/
def given (s : MqttString) : Bool := s.cstring.isSome || s.lenstring.isSome

end MqttString

/-- What `writeMQTTString` copies behind the length. -/
def written (s : MqttString) : List Byte :=
  if 0 < s.lenstringLen then s.lenstring.getD [] else s.cstring.getD []

def writeMqttString (s : MqttString) : List Byte := bytes16 (written s).length ++ written s

def mqttstrlen (s : MqttString) : ℕ := (s.cstring.map List.length).getD s.lenstringLen

/-- The string between `p` and `enddata`, and the place behind it. -/
def readMqttLenString (m : Mem) (p enddata : ℕ) : Option (List Byte × ℕ) :=
  if p + 1 < enddata ∧ p + 2 + get16 m p ≤ enddata then
    some (m.slice (p + 2) (get16 m p), p + 2 + get16 m p)
  else none

/-! ### Publishing -/

def publishLength (qos : ℕ) (topicName : MqttString) (payloadlen : ℕ) : ℕ :=
  2 + mqttstrlen topicName + payloadlen + if 0 < qos then 2 else 0

def serializePublish (buflen dup qos retained packetid : ℕ) (topicName : MqttString) (payload : List Byte) :
    Except ℤ (List Byte) :=
  let rem := publishLength qos topicName payload.length
  if buflen < packetLen rem then .error bufferTooShort
  else .ok (header msgPublish dup qos retained :: packetEncode rem ++ writeMqttString topicName ++
    (if 0 < qos then bytes16 packetid else []) ++ payload)

def serializeAck (buflen packettype dup packetid : ℕ) : Except ℤ (List Byte) :=
  if buflen < 4 then .error bufferTooShort
  else .ok (header packettype dup (if packettype = msgPubrel then 1 else 0) 0 :: packetEncode 2 ++ bytes16 packetid)

/-- What `MQTTDeserialize_publish` writes to its arguments; `none` is left as it was. The payload is its place and
its length. -/
structure PublishOut where
  dup : ℕ
  qos : ℕ
  retained : ℕ
  topicName : Option (List Byte)
  packetid : Option ℕ
  payload : Option (ℕ × ℤ)
  deriving DecidableEq

def deserializePublish (m : Mem) : ℤ × Option PublishOut :=
  let b := m 0
  if typeOf b ≠ msgPublish then (0, none)
  else
    let (rc, mylen) := packetDecodeBuf m 1
    let enddata := 1 + rc + mylen
    match readMqttLenString m (1 + rc) enddata with
    | none => (rc, some ⟨dupOf b, qosOf b, retainOf b, none, none, none⟩)
    | some (topic, p) =>
      if 0 < qosOf b then
        (1, some ⟨dupOf b, qosOf b, retainOf b, some topic, some (get16 m p), some (p + 2, (enddata : ℤ) - (p + 2))⟩)
      else (1, some ⟨dupOf b, qosOf b, retainOf b, some topic, none, some (p, (enddata : ℤ) - p)⟩)

structure AckOut where
  packettype : ℕ
  dup : ℕ
  packetid : Option ℕ
  deriving DecidableEq

def deserializeAck (m : Mem) : ℤ × AckOut :=
  let b := m 0
  let (rc, mylen) := packetDecodeBuf m 1
  if mylen < 2 then (rc, ⟨typeOf b, dupOf b, none⟩)
  else (1, ⟨typeOf b, dupOf b, some (get16 m (1 + rc))⟩)

/-! ### Connecting -/

structure WillOptions where
  topicName : MqttString
  message : MqttString
  retained : ℕ
  qos : ℕ
  deriving DecidableEq

structure ConnectData where
  mqttVersion : ℕ
  clientId : MqttString
  keepAliveInterval : ℕ
  cleansession : ℕ
  willFlag : Bool
  will : WillOptions
  username : MqttString
  password : MqttString
  deriving DecidableEq

def ConnectData.initializer : ConnectData where
  mqttVersion := 4
  clientId := .initializer
  keepAliveInterval := 60
  cleansession := 1
  willFlag := false
  will := ⟨.initializer, .initializer, 0, 0⟩
  username := .initializer
  password := .initializer

def connectLength (options : ConnectData) : ℕ :=
  (if options.mqttVersion = 3 then 12 else if options.mqttVersion = 4 then 10 else 0) +
    (mqttstrlen options.clientId + 2) +
    (if options.willFlag then mqttstrlen options.will.topicName + 2 + mqttstrlen options.will.message + 2 else 0) +
    (if options.username.given then mqttstrlen options.username + 2 else 0) +
    (if options.password.given then mqttstrlen options.password + 2 else 0)

/-- The flag byte: bit 0 is not used. -/
def connectFlags (options : ConnectData) : Byte :=
  BitVec.ofNat 8 (options.username.given.toNat * 128 + options.password.given.toNat * 64 +
    (if options.willFlag then options.will.retained % 2 * 32 + options.will.qos % 4 * 8 + 4 else 0) +
    options.cleansession % 2 * 2)

/-- The texts `MQIsdp` and `MQTT`. -/
def mqisdp : List Byte := [0x4d, 0x51, 0x49, 0x73, 0x64, 0x70]
def mqtt : List Byte := [0x4d, 0x51, 0x54, 0x54]

def serializeConnect (buflen : ℕ) (options : ConnectData) : Except ℤ (List Byte) :=
  let len := connectLength options
  if buflen < packetLen len then .error bufferTooShort
  else .ok (header msgConnect 0 0 0 :: packetEncode len ++
    (if options.mqttVersion = 4 then bytes16 4 ++ mqtt ++ [4] else bytes16 6 ++ mqisdp ++ [3]) ++
    connectFlags options :: bytes16 options.keepAliveInterval ++ writeMqttString options.clientId ++
    (if options.willFlag then writeMqttString options.will.topicName ++ writeMqttString options.will.message
      else []) ++
    (if options.username.given then writeMqttString options.username else []) ++
    (if options.password.given then writeMqttString options.password else []))

/-- Compares no more characters than the protocol name has. -/
def checkVersion (protocol : List Byte) (version : Byte) : Bool :=
  (version = 3 && protocol.take 6 = mqisdp.take protocol.length) ||
    (version = 4 && protocol.take 4 = mqtt.take protocol.length)

section connect
variable (m : Mem) (enddata : ℕ)

def readWill (flags : Byte) (data : ConnectData) (p : ℕ) : Option (ConnectData × ℕ) :=
  if flags.getLsbD 2 then do
    let (topicName, p) ← readMqttLenString m p enddata
    let (message, p) ← readMqttLenString m p enddata
    some (⟨data.mqttVersion, data.clientId, data.keepAliveInterval, data.cleansession, true,
      ⟨.ofLen topicName, .ofLen message, flags.toNat / 32 % 2, flags.toNat / 8 % 4⟩, data.username, data.password⟩, p)
  else some ({ data with willFlag := false }, p)

/-- The name and the password; three bytes at least must be left for each. -/
def readUser (flags : Byte) (data : ConnectData) (p : ℕ) : Option ConnectData :=
  if flags.getLsbD 7 then
    if enddata < p + 3 then none
    else do
      let (username, p) ← readMqttLenString m p enddata
      let data := { data with username := .ofLen username }
      if flags.getLsbD 6 then
        if enddata < p + 3 then none
        else do
          let (password, _) ← readMqttLenString m p enddata
          some { data with password := .ofLen password }
      else some data
  else if flags.getLsbD 6 then none
  else some data

/-- The data after a successful read. `enddata` is the end of the buffer here, whatever the remaining length says. -/
def deserializeConnect (data : ConnectData) : Option ConnectData :=
  if typeOf (m 0) ≠ msgConnect then none
  else do
    let (protocol, p) ← readMqttLenString m (1 + (packetDecodeBuf m 1).1) enddata
    if checkVersion protocol (m p) then
      let flags := m (p + 1)
      let (clientId, p') ← readMqttLenString m (p + 4) enddata
      let data := { data with
        cleansession := flags.toNat / 2 % 2, keepAliveInterval := get16 m (p + 2), clientId := .ofLen clientId }
      let (data, p') ← readWill m enddata flags data p'
      readUser m enddata flags data p'
    else none

end connect

def sessionPresentOf (flags : Byte) : ℕ := flags.toNat / 128

def serializeConnack (buflen connackRc sessionPresent : ℕ) : Except ℤ (List Byte) :=
  if buflen < 2 then .error bufferTooShort
  else .ok (header msgConnack 0 0 0 :: packetEncode 2 ++
    [BitVec.ofNat 8 (sessionPresent % 2 * 128), BitVec.ofNat 8 connackRc])

/-- The session-present flag and the return code. -/
def deserializeConnack (m : Mem) : ℤ × Option (ℕ × ℕ) :=
  if typeOf (m 0) ≠ msgConnack then (0, none)
  else
    let (rc, mylen) := packetDecodeBuf m 1
    if mylen < 2 then (rc, none)
    else (1, some (sessionPresentOf (m (1 + rc)), (m (2 + rc)).toNat))

def serializeZero (buflen packettype : ℕ) : Except ℤ (List Byte) :=
  if buflen < 2 then .error bufferTooShort else .ok (header packettype 0 0 0 :: packetEncode 0)

/-! ### Subscribing -/

def subscribeLength (topicFilters : List (MqttString × ℕ)) : ℕ :=
  2 + (topicFilters.map fun f => 2 + mqttstrlen f.1 + 1).sum

/-- The topic filters with the qualities that are asked for. -/
def serializeSubscribe (buflen dup packetid : ℕ) (topicFilters : List (MqttString × ℕ)) : Except ℤ (List Byte) :=
  let rem := subscribeLength topicFilters
  if buflen < packetLen rem then .error bufferTooShort
  else .ok (header msgSubscribe dup 1 0 :: packetEncode rem ++ bytes16 packetid ++
    topicFilters.flatMap fun f => writeMqttString f.1 ++ [BitVec.ofNat 8 f.2])

def unsubscribeLength (topicFilters : List MqttString) : ℕ := 2 + (topicFilters.map fun f => 2 + mqttstrlen f).sum

def serializeUnsubscribe (buflen dup packetid : ℕ) (topicFilters : List MqttString) : Except ℤ (List Byte) :=
  let rem := unsubscribeLength topicFilters
  if buflen < packetLen rem then .error bufferTooShort
  else .ok (header msgUnsubscribe dup 1 0 :: packetEncode rem ++ bytes16 packetid ++
    topicFilters.flatMap writeMqttString)

def serializeSuback (buflen packetid : ℕ) (grantedQoSs : List ℕ) : Except ℤ (List Byte) :=
  if buflen < 2 + grantedQoSs.length then .error bufferTooShort
  else .ok (header msgSuback 0 0 0 :: packetEncode (2 + grantedQoSs.length) ++ bytes16 packetid ++
    grantedQoSs.map (BitVec.ofNat 8))

def serializeUnsuback (buflen packetid : ℕ) : Except ℤ (List Byte) :=
  if buflen < 2 then .error bufferTooShort
  else .ok (header msgUnsuback 0 0 0 :: packetEncode 2 ++ bytes16 packetid)

/-- The loop over the granted qualities: the test comes before each one is stored, and lets one more pass than the
array has places. -/
def subackLoop (m : Mem) (maxcount : ℕ) : ℕ → ℕ → List Byte → ℤ × List Byte
  | 0, _, granted => (1, granted)
  | left + 1, p, granted =>
    if maxcount < granted.length then (-1, granted) else subackLoop m maxcount left (p + 1) (granted ++ [m p])

/-- The packet id and the bytes stored in the array. -/
def deserializeSuback (m : Mem) (maxcount : ℕ) : ℤ × Option (ℕ × List Byte) :=
  if typeOf (m 0) ≠ msgSuback then (0, none)
  else
    let (rc, mylen) := packetDecodeBuf m 1
    if mylen < 2 then (rc, none)
    else
      let (rc', granted) := subackLoop m maxcount (mylen - 2) (3 + rc) []
      (rc', some (get16 m (1 + rc), granted))

/-- The loops over the topic filters. `quality` says whether a byte for the quality follows each one; the number of
turns is bounded by the bytes that are left. -/
def filterLoop (m : Mem) (quality : Bool) (rc : ℤ) (enddata : ℕ) :
    ℕ → ℕ → List (List Byte × Option Byte) → ℤ × List (List Byte × Option Byte)
  | 0, _, filters => (rc, filters)
  | turns + 1, p, filters =>
    if enddata ≤ p then (1, filters)
    else match readMqttLenString m p enddata with
      | none => (rc, filters)
      | some (topic, p) =>
        if quality then
          if enddata ≤ p then (rc, filters)
          else filterLoop m quality rc enddata turns (p + 1) (filters ++ [(topic, some (m p))])
        else filterLoop m quality rc enddata turns p (filters ++ [(topic, none)])

structure FiltersOut where
  dup : ℕ
  packetid : ℕ
  topicFilters : List (List Byte × Option Byte)
  deriving DecidableEq

def deserializeFilters (type : ℕ) (quality : Bool) (other : ℤ) (m : Mem) : ℤ × Option FiltersOut :=
  let b := m 0
  if typeOf b ≠ type then (other, none)
  else
    let (rc, mylen) := packetDecodeBuf m 1
    let (rc', filters) := filterLoop m quality rc (1 + rc + mylen) (mylen + 1) (3 + rc) []
    (rc', some ⟨dupOf b, get16 m (1 + rc), filters⟩)

def deserializeSubscribe : Mem → ℤ × Option FiltersOut := deserializeFilters msgSubscribe true (-1)
def deserializeUnsubscribe : Mem → ℤ × Option FiltersOut := deserializeFilters msgUnsubscribe false 0

/-- The return code and the packet id. -/
def deserializeUnsuback (m : Mem) : ℤ × Option ℕ :=
  let (rc, out) := deserializeAck m
  (if out.packettype = msgUnsuback then 1 else rc, out.packetid)

end IoLibrary.Mqtt
