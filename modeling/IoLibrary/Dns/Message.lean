import IoLibrary.MessageBuffer

/-! The message formats of dns.c. The parser never looks at the length of the message. -/
namespace IoLibrary.Dns

def maxDomainName : ℕ := 128
def maxCname : ℕ := maxDomainName + maxDomainName / 2
def maxDnsBufSize : ℕ := 256
def maxDnsRetry : ℕ := 2
def dnsWaitTime : ℕ := 3

def typeA : ℕ := 1
def typeNs : ℕ := 2
def typeCname : ℕ := 5
def typeSoa : ℕ := 6
def typeMb : ℕ := 7
def typeMg : ℕ := 8
def typeMr : ℕ := 9
def typePtr : ℕ := 12
def typeHinfo : ℕ := 13
def typeMx : ℕ := 15

def dot : Byte := 0x2E

def put16 (i : ℕ) : List Byte := bytes16 i

/-- The length octet at `cp`, behind one indirection if there is one: the length, the place of
the bytes after it and whether an indirection was followed. -/
def segment (msg : Mem) (cp : ℕ) : ℕ × ℕ × Bool :=
  let slen := (msg cp).toNat
  if slen &&& 0xC0 = 0xC0 then
    let target := ((slen &&& 0x3F) <<< 8) + (msg (cp + 1)).toNat
    ((msg target).toNat, target + 1, true)
  else (slen, cp + 1, false)

/-- parse_name from its loop on: `none` for -1, else the length of the compressed name and the
bytes that are written to the buffer. -/
def parseNameLoop (msg : Mem) (cp len clen : ℕ) (indirect : Bool) (nseg : ℕ) (buf : List Byte) :
    Option (ℕ × List Byte) :=
  let (slen, next, followed) := segment msg cp
  -- an indirection counts for its two octets, what is behind it does not count
  let clen := if indirect then clen else if followed then clen + 2 else clen + 1
  if slen = 0 then
    some (clen, if nseg = 0 then buf ++ [dot, 0] else buf ++ [0])
  else if len < slen + 1 then none
  else
    parseNameLoop msg (next + slen) (len - (slen + 1))
      (if indirect || followed then clen else clen + slen) (indirect || followed) (nseg + 1)
      (buf ++ msg.slice next slen ++ [dot])
termination_by len
decreasing_by omega

def parseName (msg : Mem) (compressed len : ℕ) : Option (ℕ × List Byte) :=
  parseNameLoop msg compressed len 0 false 0 []

/-- The place after the question record at `cp`; `none` for a null pointer. -/
def dnsQuestion (msg : Mem) (cp : ℕ) : Option ℕ :=
  match parseName msg cp maxCname with
  | none => none
  | some (len, _) => some (cp + len + 4)

/-- The place after a name in the data of a record. -/
def afterName (msg : Mem) (cp : ℕ) : Option ℕ :=
  match parseName msg cp maxCname with
  | none => none
  | some (len, _) => some (cp + len)

/-- The place of the data of the answer record at `cp`, and its type. -/
def answerHead (msg : Mem) (cp : ℕ) : Option (ℕ × ℕ) :=
  match parseName msg cp maxCname with
  | none => none
  | some (len, _) => some (cp + len + 10, get16 msg (cp + len))

/-- What dns_answer skips of the data at `cp` of a record of the type. Records of a type that
the parser ignores keep their data. -/
def answerData (msg : Mem) (type cp : ℕ) : Option ℕ :=
  if type = typeA then some (cp + 4)
  else if type = typeCname ∨ type = typeMb ∨ type = typeMg ∨ type = typeMr ∨ type = typeNs ∨
      type = typePtr then afterName msg cp
  else if type = typeHinfo then
    let cp := cp + 1 + (msg cp).toNat
    some (cp + 1 + (msg cp).toNat)
  else if type = typeMx then afterName msg (cp + 2)
  else if type = typeSoa then do
    let cp ← afterName msg cp
    let cp ← afterName msg cp
    some (cp + 20)
  else some cp

/-- The place after the answer record at `cp`, and ip_from_dns. -/
def dnsAnswer (msg : Mem) (cp : ℕ) (ip : Ip) : Option ℕ × Ip :=
  match answerHead msg cp with
  | none => (none, ip)
  | some (data, type) => (answerData msg type data, if type = typeA then ipAt msg data else ip)

structure Dhdr where
  id : ℕ
  qr : Bool
  opcode : ℕ
  aa : Bool
  tc : Bool
  rd : Bool
  ra : Bool
  rcode : ℕ
  qdcount : ℕ
  ancount : ℕ
  nscount : ℕ
  arcount : ℕ

def dhdr (msg : Mem) : Dhdr :=
  let tmp := get16 msg 2
  { id := get16 msg 0
    qr := tmp.testBit 15
    opcode := tmp / 2 ^ 11 % 16
    aa := tmp.testBit 10
    tc := tmp.testBit 9
    rd := tmp.testBit 8
    ra := tmp.testBit 7
    rcode := tmp % 16
    qdcount := get16 msg 4
    ancount := get16 msg 6
    nscount := get16 msg 8
    arcount := get16 msg 10 }

/-- The loop over the question section, from `cp` on. -/
def questions (msg : Mem) : ℕ → ℕ → Option ℕ
  | 0, cp => some cp
  | n + 1, cp =>
    match dnsQuestion msg cp with
    | none => none
    | some cp => questions msg n cp

/-- The loop over the answer section, from `cp` on. -/
def answers (msg : Mem) : ℕ → ℕ → Ip → Option ℕ × Ip
  | 0, cp, ip => (some cp, ip)
  | n + 1, cp, ip =>
    match dnsAnswer msg cp ip with
    | (none, ip) => (none, ip)
    | (some cp, ip) => answers msg n cp ip

/-- parseDNSMSG: its result and ip_from_dns. -/
def parseDnsMsg (msg : Mem) (ip : Ip) : ℤ × Ip :=
  let hdr := dhdr msg
  match questions msg hdr.qdcount 12 with
  | none => (-1, ip)
  | some cp =>
    match answers msg hdr.ancount cp ip with
    | (none, ip) => (-1, ip)
    | (some _, ip) => (if hdr.rcode = 0 then 1 else 0, ip)

/-- The question name that dns_makequery writes for the C string `dname`. -/
def queryName (dname : List Byte) : List Byte :=
  let label := dname.takeWhile (· ≠ dot)
  let len := BitVec.ofNat 8 label.length
  if label = [] then [len]
  else if h : label.length < dname.length then
    len :: label ++ queryName (dname.drop (label.length + 1))
  else len :: label ++ [0]
termination_by dname.length
decreasing_by
  rw [List.length_drop]
  omega

/-- dns_makequery: the message for the incremented message id. -/
def dnsMakequery (msgId op : ℕ) (name : List Byte) : List Byte :=
  put16 msgId ++ put16 ((op <<< 11) ||| 0x0100) ++ put16 1 ++ put16 0 ++ put16 0 ++ put16 0 ++
    queryName name ++ put16 0x0001 ++ put16 0x0001

/-- The int16_t that dns_makequery returns for `n` bytes. -/
def int16 (n : ℕ) : ℤ := ((n + 2 ^ 15) % 2 ^ 16 : ℕ) - 2 ^ 15

end IoLibrary.Dns
