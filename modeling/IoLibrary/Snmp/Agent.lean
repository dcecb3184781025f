import IoLibrary.Effects.Faults
import IoLibrary.MessageBuffer

/-! snmp.c: the agent, which reads a request and builds the response while it goes on. An int32_t
is an integer, brought back into its range where the source can leave it. -/
namespace IoLibrary.Snmp
open Effects

def maxSnmpmsgLen : ℕ := 512
def maxOid : ℕ := 12

def noSuchName : Byte := 2
def badValue : Byte := 3

def getRequest : Byte := 0xA0
def getNextRequest : Byte := 0xA1
def getResponse : Byte := 0xA2
def setRequest : Byte := 0xA3

def ValidRequest (reqType : Byte) : Prop :=
  reqType = getRequest ∨ reqType = getNextRequest ∨ reqType = setRequest

instance (reqType : Byte) : Decidable (ValidRequest reqType) := by
  unfold ValidRequest
  infer_instance

def snmpdtypeInteger : Byte := 0x02
def snmpdtypeOctetString : Byte := 0x04
def snmpdtypeObjId : Byte := 0x06
def snmpdtypeSequence : Byte := 0x30
def snmpdtypeCounter : Byte := 0x41
def snmpdtypeGauge : Byte := 0x42
def snmpdtypeTimeTicks : Byte := 0x43

def snmpV1 : Byte := 0

/-- COMMUNITY, without the zeros behind it. -/
def community : List Byte := [0x70, 0x75, 0x62, 0x6C, 0x69, 0x63]

/-- The value of an entry. It is a union in the source, used as the type of the entry says. -/
structure Value where
  octetstring : Vector Byte 64
  intval : BitVec 32
  dataLen : Byte

/-- An entry of the table. What its setfunction does is not the agent's, only whether there is one. -/
structure DataEntry where
  oid : List Byte
  dataType : Byte
  value : Value
  getfunction : Option (Value → Value)
  setfunction : Bool
  short : oid.length ≤ maxOid

/-- `outside` stands for what C leaves undefined: an access outside an object, or the use of a
variable that has not been set. `endless` stops a loop that has taken all its turns. -/
inductive Fault
  | outside
  | endless
  deriving DecidableEq

/-- request_msg.buffer with the bytes that may be read from it, and request_msg.len. -/
structure Request where
  buffer : Mem
  len : ℕ
  limit : ℕ
  bound : limit ≤ maxSnmpmsgLen

/-- The other globals: request_msg.index, response_msg, the error and the table snmpData; and the
calls of set functions so far, with the number of the entry and the value. -/
structure Agent where
  index : ℤ
  response : Mem
  respIndex : ℕ
  errorStatus : Byte
  errorIndex : Byte
  snmpData : List DataEntry
  called : List (ℕ × BitVec 32)

abbrev Parser := StateT Agent (Except Fault)

def int32 (x : ℤ) : ℤ := x.bmod (2 ^ 32)

/-- An access is inside its object. -/
def need (c : Prop) [Decidable c] : Parser Unit := if c then pure () else throw .outside

def Request.byte (m : Request) (i : ℤ) : Parser Byte := do
  need (0 ≤ i ∧ i < m.limit)
  return m.buffer i.toNat

/-- `n` bytes of the request from `i` on. -/
def Request.bytes (m : Request) (i : ℤ) (n : ℕ) : Parser (List Byte) := do
  need (n = 0 ∨ 0 ≤ i ∧ i + n ≤ m.limit)
  return m.buffer.slice i.toNat n

def Mem.put (r : Mem) (i : ℕ) (data : List Byte) : Mem := fun k =>
  if i ≤ k ∧ k < i + data.length then data.getD (k - i) 0 else r k

/-- Write `data` at `i` of response_msg.buffer. -/
def put (i : ℤ) (data : List Byte) : Parser Unit := do
  need (data = [] ∨ 0 ≤ i ∧ i + data.length ≤ maxSnmpmsgLen)
  modify fun a => { a with response := Mem.put a.response i.toNat data }

/-- The loop of parseLength. -/
def moreOctets (m : Request) : ℕ → ℤ → BitVec 32 → Parser (BitVec 32)
  | 0, _, len => return len
  | tlen + 1, i, len => do
    let b ← m.byte i
    moreOctets m tlen (i + 1) (len <<< 8 ||| b.setWidth 32)

/-- How many octets the length at `i` takes, and the length. The counter of 0x80 begins at -1 and
comes to zero after the whole range of an int32_t. -/
def parseLength (m : Request) (i : ℤ) : Parser (ℤ × ℤ) := do
  let b ← m.byte i
  if b &&& 0x80 ≠ 0 then
    let tlen : BitVec 32 := (b &&& 0x7F).setWidth 32 - 1
    let first ← m.byte (i + 1)
    let len ← moreOctets m tlen.toNat (i + 2) (first.setWidth 32)
    return (tlen.toNat + 2, len.toInt)
  else return (1, b.toNat)

structure Tlv where
  start : ℤ
  len : ℤ
  vstart : ℤ
  nstart : ℤ

/-- The tags whose content is parsed next. -/
def constructed (tag : Byte) : Prop :=
  tag = snmpdtypeSequence ∨ tag = getRequest ∨ tag = getNextRequest ∨ tag = setRequest

instance (tag : Byte) : Decidable (constructed tag) := by unfold constructed; infer_instance

def parseTLV (m : Request) (index : ℤ) : Parser Tlv := do
  let (llen, len) ← parseLength m (index + 1)
  let vstart := index + llen + 1
  let tag ← m.byte index
  return ⟨index, len, vstart, if constructed tag then vstart else int32 (vstart + len)⟩

/-- The whole TLV, and its tag with its length. -/
def Tlv.size (t : Tlv) : ℤ := int32 (t.nstart - t.start)
def Tlv.header (t : Tlv) : ℤ := t.vstart - t.start

/-- COPY_SEGMENT; a negative length is a huge one to memcpy. -/
def copySegment (m : Request) (t : Tlv) (seglen : ℤ) : Parser Unit := do
  let a ← get
  need (0 ≤ seglen ∧ 0 ≤ t.start ∧ t.start + seglen ≤ m.limit ∧
    a.respIndex + seglen ≤ maxSnmpmsgLen)
  modify fun a =>
    { a with
      index := int32 (a.index + seglen)
      response := Mem.put a.response a.respIndex (m.buffer.slice t.start.toNat seglen.toNat)
      respIndex := a.respIndex + seglen.toNat }

/-- The octets of a size, as the loop of insertRespLen computes them from the last one on. -/
def respLenOctets (size : BitVec 32) : ℕ → BitVec 32 → ℕ → List Byte
  | 0, _, _ => []
  | lenLength + 1, mask, shift =>
    respLenOctets size lenLength (mask <<< (shift + 8)) (shift + 8) ++
      [((size &&& mask) >>> shift).setWidth 8]

def insertRespLen (m : Request) (reqStart respStart size : ℤ) : Parser Unit := do
  let b ← m.byte (reqStart + 1)
  if b &&& 0x80 ≠ 0 then
    put (respStart + 2) (respLenOctets (BitVec.ofInt 32 size) (b &&& 0x7F).toNat 0xFF 0)
  else put (respStart + 1) [BitVec.ofInt 8 size]

/-- The entry with this OID, from number `i` on, or OID_NOT_FOUND. -/
def findEntry (m : Request) (oid len : ℤ) : List DataEntry → ℤ → Parser ℤ
  | [], _ => return -1
  | e :: snmpData, i => do
    if len = e.oid.length then
      let bytes ← m.bytes oid e.oid.length
      if bytes = e.oid then return i
      findEntry m oid len snmpData (i + 1)
    else findEntry m oid len snmpData (i + 1)

def Value.strlen (v : Value) : ℕ := v.octetstring.toList.findIdx (· = 0)

def DataEntry.isString (e : DataEntry) : Prop :=
  e.dataType = snmpdtypeOctetString ∨ e.dataType = snmpdtypeObjId

def DataEntry.isInteger (e : DataEntry) : Prop :=
  e.dataType = snmpdtypeInteger ∨ e.dataType = snmpdtypeTimeTicks ∨
    e.dataType = snmpdtypeCounter ∨ e.dataType = snmpdtypeGauge

instance (e : DataEntry) : Decidable e.isString := by unfold DataEntry.isString; infer_instance
instance (e : DataEntry) : Decidable e.isInteger := by unfold DataEntry.isInteger; infer_instance

/-- The value once the entry's function has refreshed it. -/
def DataEntry.refreshed (e : DataEntry) : Value :=
  match e.getfunction with
  | some f => f e.value
  | none => e.value

def setValue (id : ℕ) (e : DataEntry) (v : Value) : Parser Unit :=
  modify fun a => { a with snmpData := a.snmpData.set id { e with value := v } }

/-- Write the value of an entry at `ptr`; the result is its type and length. For an entry of another
type the length is not set, and the caller uses it. A shift by more bits than the value has, which
a length above 4 asks for, takes the sign. -/
def getEntry (id : ℕ) (ptr : ℤ) : Parser (Byte × ℕ) := do
  let a ← get
  match a.snmpData[id]? with
  | none => throw .outside
  | some e =>
    let v := e.refreshed
    if e.isString then
      need (e.dataType = snmpdtypeOctetString → v.strlen < 64)
      let v := if e.dataType = snmpdtypeOctetString then
          { v with dataLen := BitVec.ofNat 8 v.strlen } else v
      setValue id e v
      need (v.dataLen.toNat ≤ 64)
      put ptr (v.octetstring.toList.take v.dataLen.toNat)
      return (e.dataType, v.dataLen.toNat)
    else if e.isInteger then
      setValue id e v
      let len := if v.dataLen ≠ 0 then v.dataLen.toNat else 4
      put ptr ((List.range len).map fun j =>
        (v.intval.sshiftRight ((len - j - 1) * 8)).setWidth 8)
      return (e.dataType, len)
    else throw .outside

def getValue (bytes : List Byte) : BitVec 32 :=
  bytes.foldl (fun value b => value <<< 8 ||| b.setWidth 32) 0

def setEntry (m : Request) (id : ℕ) (val vlen : ℤ) (dataType : Byte) (index : ℤ) : Parser Unit := do
  let a ← get
  match a.snmpData[id]? with
  | none => throw .outside
  | some e =>
    if e.dataType ≠ dataType then
      modify fun a => { a with errorStatus := badValue, errorIndex := BitVec.ofInt 8 index }
    else if e.isString then
      let bytes ← m.bytes val vlen.toNat
      need (vlen ≤ 64)
      setValue id e
        { e.value with
          octetstring := .ofFn fun j => if j.val < bytes.length then byteAt bytes j else e.value.octetstring[j]
          dataLen := BitVec.ofInt 8 vlen }
    else if e.isInteger then
      let bytes ← m.bytes val vlen.toNat
      setValue id e { e.value with intval := getValue bytes, dataLen := BitVec.ofInt 8 vlen }
      if e.setfunction then
        modify fun a => { a with called := a.called ++ [(id, getValue bytes)] }
    else return ()

/-- The object identifier of entry `id`, its length in front. -/
def getOID (id : ℕ) (oid len : ℤ) : Parser Unit := do
  let a ← get
  match a.snmpData[id]? with
  | none => throw .outside
  | some e =>
    put len [BitVec.ofNat 8 e.oid.length]
    put oid e.oid

def advance (seglen : ℤ) : Parser Unit :=
  modify fun a => { a with index := int32 (a.index + seglen) }

/-- The name of a binding: the entry that answers and the size of the name in the response. -/
def answerName (m : Request) (reqType : Byte) (name : Tlv) (id : ℤ) : Parser (ℤ × ℤ) := do
  if reqType = getRequest ∨ reqType = setRequest then
    copySegment m name name.size
    return (id, name.size)
  else if reqType = getNextRequest then
    let a ← get
    let tag ← m.byte name.start
    put a.respIndex [tag]
    if a.snmpData.length ≤ id + 1 then
      copySegment m name name.size
      return (-1, name.size)
    else
      advance name.size
      getOID (id + 1).toNat (a.respIndex + 2) (a.respIndex + 1)
      let a ← get
      let seglen := (a.response (a.respIndex + 1)).toNat + 2
      set { a with respIndex := a.respIndex + seglen }
      return (id + 1, seglen)
  else return (id, 0)

/-- The value of a binding, and its size in the response. -/
def answerValue (m : Request) (reqType : Byte) (index : ℤ) (value : Tlv) (id : ℤ) : Parser ℤ := do
  if id ≠ -1 then
    if reqType = getRequest ∨ reqType = getNextRequest then
      let a ← get
      let (dataType, len) ← getEntry id.toNat (a.respIndex + 2)
      put a.respIndex [dataType]
      put (a.respIndex + 1) [BitVec.ofNat 8 len]
      modify fun a => { a with respIndex := a.respIndex + (2 + len) }
      advance value.size
      return 2 + len
    else
      let tag ← m.byte value.start
      setEntry m id.toNat value.vstart value.len tag index
      copySegment m value value.size
      return value.size
  else
    copySegment m value value.size
    modify fun a => { a with errorIndex := BitVec.ofInt 8 index, errorStatus := noSuchName }
    return value.size

def parseVarBind (m : Request) (reqType : Byte) (index : ℤ) : Parser ℤ := do
  let a ← get
  let name ← parseTLV m a.index
  let tag ← m.byte name.start
  if tag ≠ snmpdtypeObjId then return -1
  let id ← findEntry m name.vstart name.len a.snmpData 0
  let (id, size) ← answerName m reqType name id
  let a ← get
  let value ← parseTLV m a.index
  let seglen ← answerValue m reqType index value id
  return size + seglen

def parseSequence (m : Request) (reqType : Byte) (index : ℤ) : Parser ℤ := do
  let a ← get
  let seq ← parseTLV m a.index
  let tag ← m.byte seq.start
  if tag ≠ snmpdtypeSequence then return -1
  copySegment m seq seq.header
  let size ← parseVarBind m reqType index
  insertRespLen m seq.start a.respIndex size
  return size + seq.header

/-- The loop over the bindings, stopped after `turns` turns. -/
def parseBindings (m : Request) (reqType : Byte) : ℕ → ℤ → ℤ → Parser ℤ
  | 0, _, _ => throw .endless
  | turns + 1, index, size => do
    let a ← get
    if a.index < m.len then
      let ret ← parseSequence m reqType index
      parseBindings m reqType turns (index + 1) (size + ret)
    else return size

def parseSequenceOf (m : Request) (turns : ℕ) (reqType : Byte) : Parser ℤ := do
  let a ← get
  let seqof ← parseTLV m a.index
  let tag ← m.byte seqof.start
  if tag ≠ snmpdtypeSequence then return -1
  copySegment m seqof seqof.header
  let size ← parseBindings m reqType turns 0 0
  insertRespLen m seqof.start a.respIndex size
  return size

/-- A TLV that is copied as a whole. -/
def copyTLV (m : Request) : Parser Tlv := do
  let a ← get
  let tlv ← parseTLV m a.index
  copySegment m tlv tlv.size
  return tlv

def parseRequest (m : Request) (turns : ℕ) : Parser ℤ := do
  let a ← get
  let snmpreq ← parseTLV m a.index
  let reqType ← m.byte snmpreq.start
  if ¬ ValidRequest reqType then return -1
  copySegment m snmpreq snmpreq.header
  put snmpreq.start [getResponse]
  let requestid ← copyTLV m
  let errStatus ← copyTLV m
  let errIndex ← copyTLV m
  let ret ← parseSequenceOf m turns reqType
  if ret = -1 then return -1
  let size := snmpreq.header + requestid.size + errStatus.size + errIndex.size + ret
  insertRespLen m snmpreq.start snmpreq.start size
  let a ← get
  if a.errorStatus ≠ 0 then
    put errStatus.vstart [a.errorStatus]
    put errIndex.vstart [a.errorIndex + 1]
  return size

def parseCommunity (m : Request) (turns : ℕ) : Parser ℤ := do
  let a ← get
  let tlv ← parseTLV m a.index
  let tag ← m.byte tlv.start
  if ¬ (tag = snmpdtypeOctetString ∧ tlv.len = community.length) then return -1
  let bytes ← m.bytes tlv.vstart community.length
  if bytes = community then
    copySegment m tlv tlv.size
    let size ← parseRequest m turns
    return tlv.size + size
  else return -1

def parseVersion (m : Request) (turns : ℕ) : Parser ℤ := do
  let a ← get
  let tlv ← parseTLV m a.index
  let tag ← m.byte tlv.start
  if tag ≠ snmpdtypeInteger then return -1
  let version ← m.byte tlv.vstart
  if version ≠ snmpV1 then return -1
  copySegment m tlv tlv.size
  let size ← parseCommunity m turns
  if size = -1 then return -1
  return size + tlv.size

def parseSNMPMessage (m : Request) (turns : ℕ) : Parser ℤ := do
  let a ← get
  let tlv ← parseTLV m a.index
  let tag ← m.byte tlv.start
  if tag ≠ snmpdtypeSequence then return -1
  copySegment m tlv tlv.header
  let size ← parseVersion m turns
  if size = -1 then return -1
  insertRespLen m tlv.start tlv.start (size + tlv.header)
  return 0

/-- The state in which snmpd_run has the request parsed. -/
def Agent.start (snmpData : List DataEntry) : Agent where
  index := 0
  response := fun _ => 0
  respIndex := 0
  errorStatus := 0
  errorIndex := 0
  snmpData := snmpData
  called := []

end IoLibrary.Snmp
