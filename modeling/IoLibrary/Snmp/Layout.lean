import IoLibrary.Snmp.Agent

/-! Where the TLVs of a request lie, and when they and the response are inside their buffers. -/
namespace IoLibrary.Snmp
open Effects

section tlv
variable (m : Request)

def Request.tag (p : ℤ) : Byte := m.buffer p.toNat

/-- The first octet of the length of the TLV at `p`. -/
def Request.lengthOctet (p : ℤ) : Byte := m.buffer (p + 1).toNat

/-- How many octets follow it. -/
def Request.octets (p : ℤ) : ℕ :=
  if m.lengthOctet p &&& 0x80 ≠ 0 then (m.lengthOctet p &&& 0x7F).toNat else 0

/-- The tag and the length are inside, and the length is not the indefinite one. -/
def Request.Readable (p : ℤ) : Prop :=
  0 ≤ p ∧ m.lengthOctet p ≠ 0x80 ∧ p + 2 + m.octets p ≤ m.limit

/-- The last 32 bits of a number of `n` octets from `i` on. -/
def Request.number (n : ℕ) (i : ℤ) : BitVec 32 := getValue (m.buffer.slice i.toNat n)

def Request.length (p : ℤ) : ℤ :=
  if m.lengthOctet p &&& 0x80 ≠ 0 then (m.number (m.octets p) (p + 2)).toInt
  else (m.lengthOctet p).toNat

def Request.tlv (p : ℤ) : Tlv where
  start := p
  len := m.length p
  vstart := p + 2 + m.octets p
  nstart :=
    if constructed (m.tag p) then p + 2 + m.octets p else int32 (p + 2 + m.octets p + m.length p)

/-- What is copied is inside the request, and has room behind the first `q` bytes of the response. -/
def Request.Copied (t : Tlv) (seglen : ℤ) (q : ℕ) : Prop :=
  0 ≤ seglen ∧ t.start + seglen ≤ m.limit ∧ q + seglen ≤ maxSnmpmsgLen

end tlv

/-- Where the agent is in the request and in the response, the table, and whether the response
already carries an error. -/
structure Place where
  p : ℤ
  q : ℕ
  snmpData : List DataEntry
  failed : Bool

/-- `n` bytes further in the request, and `k` in the response. -/
def Place.go (s : Place) (n : ℤ) (k : ℕ) : Place := { s with p := s.p + n, q := s.q + k }

def Place.setValue (s : Place) (id : ℕ) (e : DataEntry) (v : Value) : Place :=
  { s with snmpData := s.snmpData.set id { e with value := v } }

/-- The number of the entry with this OID, from `i` on, or OID_NOT_FOUND. -/
def Request.find (m : Request) (oid len : ℤ) : List DataEntry → ℤ → ℤ
  | [], _ => -1
  | e :: snmpData, i =>
    if len = e.oid.length ∧ m.buffer.slice oid.toNat e.oid.length = e.oid then i
    else m.find oid len snmpData (i + 1)

section binding
variable (m : Request) (reqType : Byte)

/-- The search reads the name as far as an entry is as long, and stops at the entry it finds. -/
def Request.Searched (oid len : ℤ) : List DataEntry → Prop
  | [] => True
  | e :: snmpData =>
    if len = e.oid.length then
      (e.oid.length = 0 ∨ oid + e.oid.length ≤ m.limit) ∧
        (m.buffer.slice oid.toNat e.oid.length = e.oid ∨ Request.Searched oid len snmpData)
    else Request.Searched oid len snmpData

/-- The answer to the name fits when its search gave `id`; `K` holds of the entry that answers and
of the place behind. -/
def Request.Named (s : Place) (name : Tlv) (id : ℤ) (K : ℤ → Place → Prop) : Prop :=
  if reqType = getNextRequest then
    s.q < maxSnmpmsgLen ∧
      if s.snmpData.length ≤ id + 1 then
        m.Copied name name.size s.q ∧ K (-1) (s.go name.size name.size.toNat)
      else
        match s.snmpData[(id + 1).toNat]? with
        | none => False
        | some e =>
          s.q + 2 + e.oid.length ≤ maxSnmpmsgLen ∧
            K (id + 1) { s with p := int32 (s.p + name.size), q := s.q + (e.oid.length + 2) }
  else m.Copied name name.size s.q ∧ K id (s.go name.size name.size.toNat)

/-- The name can be looked up and answered. -/
def Request.Name (s : Place) (K : ℤ → Place → Prop) : Prop :=
  let name := m.tlv s.p
  m.Searched name.vstart name.len s.snmpData ∧
    m.Named reqType s name (m.find name.vstart name.len s.snmpData 0) K

/-- The value of an entry can be read and fits behind `q`; `K` holds of its length and of it. -/
def DataEntry.Fits (e : DataEntry) (q : ℕ) (K : ℕ → Value → Prop) : Prop :=
  let v := e.refreshed
  if e.dataType = snmpdtypeOctetString then
    v.strlen < 64 ∧ q + 2 + v.strlen ≤ maxSnmpmsgLen ∧
      K v.strlen { v with dataLen := BitVec.ofNat 8 v.strlen }
  else if e.dataType = snmpdtypeObjId then
    v.dataLen.toNat ≤ 64 ∧ q + 2 + v.dataLen.toNat ≤ maxSnmpmsgLen ∧ K v.dataLen.toNat v
  else if e.isInteger then
    let len := if v.dataLen ≠ 0 then v.dataLen.toNat else 4
    q + 2 + len ≤ maxSnmpmsgLen ∧ K len v
  else False

/-- The value of an entry is replaced by the one of the request, if it is of the entry's type. -/
def Request.Replaced (t : Tlv) (id : ℕ) (s : Place) (K : Place → Prop) : Prop :=
  match s.snmpData[id]? with
  | none => False
  | some e =>
    if e.dataType ≠ m.tag t.start then K { s with failed := true }
    else if e.isString then
      (t.len ≤ 0 ∨ t.vstart + t.len ≤ m.limit) ∧ t.len ≤ 64 ∧
        K (s.setValue id e
          { e.value with
            octetstring := .ofFn fun j =>
              if j.val < t.len.toNat then byteAt (m.buffer.slice t.vstart.toNat t.len.toNat) j
              else e.value.octetstring.get j
            dataLen := BitVec.ofInt 8 t.len })
    else if e.isInteger then
      (t.len ≤ 0 ∨ t.vstart + t.len ≤ m.limit) ∧
        K (s.setValue id e
          { e.value with
            intval := getValue (m.buffer.slice t.vstart.toNat t.len.toNat)
            dataLen := BitVec.ofInt 8 t.len })
    else K s

/-- The value's answer fits. -/
def Request.Value (id : ℤ) (s : Place) (K : Place → Prop) : Prop :=
  let value := m.tlv s.p
  m.Readable s.p ∧
    if id = -1 then
      m.Copied value value.size s.q ∧
        K { s.go value.size value.size.toNat with failed := true }
    else if reqType = setRequest then
      m.Replaced value id.toNat s fun s =>
        m.Copied value value.size s.q ∧ K (s.go value.size value.size.toNat)
    else
      match s.snmpData[id.toNat]? with
      | none => False
      | some e => e.Fits s.q fun len v =>
          K { s.setValue id.toNat e v with p := int32 (s.p + value.size), q := s.q + (2 + len) }

/-- One binding is inside, and its answer: a sequence of a name and a value. A name of another type
ends it behind its header. -/
def Request.Binding (s : Place) (K : Place → Prop) : Prop :=
  let seq := m.tlv s.p
  m.Copied seq seq.header s.q ∧
    let s := s.go seq.header seq.header.toNat
    m.Readable s.p ∧
      if m.tag s.p ≠ snmpdtypeObjId then K s
      else m.Name reqType s fun id s => m.Value reqType id s K

end binding

/-- The bindings are inside, as far as `turns` turns of the loop get: `more` when it would go on,
and `done` where the request ends. A binding that is no sequence is looked at for ever. -/
def Request.Bindings (m : Request) (reqType : Byte) (more : Prop) (done : Place → Prop) :
    ℕ → Place → Prop
  | 0, _ => more
  | turns + 1, s =>
    if s.p < m.len then
      m.Readable s.p ∧ (if m.tag s.p ≠ snmpdtypeSequence then more
        else m.Binding reqType s (m.Bindings reqType more done turns))
    else done s

/-- A TLV that is copied as a whole, to the same place of the response. -/
def Request.Whole (m : Request) (p : ℤ) (K : ℤ → Prop) : Prop :=
  m.Copied (m.tlv p) (m.tlv p).size p.toNat ∧ K (p + (m.tlv p).size)

/-- The header of a TLV whose content is parsed next. -/
def Request.Header (m : Request) (p : ℤ) (K : ℤ → Prop) : Prop :=
  m.Copied (m.tlv p) (m.tlv p).header p.toNat ∧ K (p + (m.tlv p).header)

section message
variable (m : Request) (more : Prop) (turns : ℕ) (snmpData : List DataEntry)

/-- The PDU: three TLVs and the list of the bindings. An error is written into the second and the
third. -/
def Request.Pdu (p : ℤ) : Prop :=
  let reqType := m.tag p
  m.Readable p ∧
    (ValidRequest reqType →
      m.Header p fun id => m.Readable id ∧
        m.Whole id fun status => m.Readable status ∧
          m.Whole status fun index => m.Readable index ∧
            m.Whole index fun list => m.Readable list ∧ (m.tag list = snmpdtypeSequence →
              m.Header list fun first =>
                m.Bindings reqType more (fun s => s.failed →
                  (m.tlv status).vstart < maxSnmpmsgLen ∧ (m.tlv index).vstart < maxSnmpmsgLen)
                  turns ⟨first, first.toNat, snmpData, false⟩))

/-- The community, and the PDU if it is the agent's. -/
def Request.Community (p : ℤ) : Prop :=
  m.Readable p ∧
    (m.tag p = snmpdtypeOctetString ∧ (m.tlv p).len = community.length →
      (m.tlv p).vstart + community.length ≤ m.limit ∧
        (m.buffer.slice (m.tlv p).vstart.toNat community.length = community →
          m.Whole p (m.Pdu more turns snmpData)))

def Request.Version (p : ℤ) : Prop :=
  m.Readable p ∧
    (m.tag p = snmpdtypeInteger →
      (m.tlv p).vstart < m.limit ∧
        (m.tag (m.tlv p).vstart = snmpV1 → m.Whole p (m.Community more turns snmpData)))

/-- The whole request, as far as the agent accepts it, is inside. -/
def Request.Message : Prop :=
  m.Readable 0 ∧ (m.tag 0 = snmpdtypeSequence → m.Header 0 (m.Version more turns snmpData))

end message

section addressed
variable (m : Request)

def Request.OwnCommunity (p : ℤ) : Prop :=
  m.tag p = snmpdtypeOctetString ∧ (m.tlv p).len = community.length ∧
    m.buffer.slice (m.tlv p).vstart.toNat community.length = community

def Request.OwnVersion (p : ℤ) : Prop :=
  m.tag p = snmpdtypeInteger ∧ m.tag (m.tlv p).vstart = snmpV1 ∧
    m.OwnCommunity (p + (m.tlv p).size)

/-- The request begins as a message of the agent's version and community. -/
def Request.Addressed : Prop :=
  m.tag 0 = snmpdtypeSequence ∧ m.OwnVersion (0 + (m.tlv 0).header)

end addressed

end IoLibrary.Snmp
