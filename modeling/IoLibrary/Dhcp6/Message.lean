import IoLibrary.Dhcp.Run

/-! The messages of dhcpv6.c. -/
namespace IoLibrary.Dhcp6
open Dhcp (Mac zeros)

abbrev Ip6 := Vector Byte 16

def ip6At (m : Mem) (p : ℕ) : Ip6 := .ofFn fun i => m (p + i.val)

def dhcp6Solicit : Byte := 1
def dhcp6Advertise : Byte := 2
def dhcp6Reply : Byte := 7
def dhcp6InfoRequest : Byte := 11

def optClientid : Byte := 1
def optServerid : Byte := 2
def optIana : Byte := 3
def optIata : Byte := 4
def optIaaddr : Byte := 5
def optRequest : Byte := 6
def optStatusCode : Byte := 13
def dnsRecursiveNameServer : Byte := 23
def domainSearchList : Byte := 24
def optLifetime : Byte := 32

def dhcp6ServerPort : ℕ := 547
def dhcp6ClientPort : ℕ := 546

/-- What the options of a message say, in the globals that the parser fills. -/
structure Options where
  clientidLen : ℕ
  serveridLen : ℕ
  duidTypeS : ℕ
  enterpriseNumS : ℕ
  hardwareTypeS : ℕ
  timeS : Vector Byte 4
  serverMac : Mac
  ianaLen : ℕ
  iaid : Vector Byte 4
  t1 : Vector Byte 4
  t2 : Vector Byte 4
  iaaddrLen : ℕ
  recvIp : Ip6
  preLifeTime : ℕ
  validLifeTime : ℕ
  statuscodeLen : ℕ
  lstatuscodeLen : ℕ
  code : ℕ
  dns6Address : Ip6

def get32 (m : Mem) (p : ℕ) : ℕ := get16 m p * 2 ^ 16 + get16 m (p + 2)

def bytes4At (m : Mem) (p : ℕ) : Vector Byte 4 := .ofFn fun i => m (p + i.val)

def macAt (m : Mem) (p : ℕ) : Mac := .ofFn fun i => m (p + i.val)

/-- The end of the option at `p`: its code and its length take two bytes each. -/
def optionEnd (m : Mem) (p : ℕ) : ℕ := p + 4 + get16 m (p + 2)

/-- The options inside an IA_NA option, up to `e`. An address takes 24 bytes whatever its length
says; the high byte of a code is not read. -/
def parseIana (m : Mem) (p e : ℕ) (opts : Options) : ℕ × Options :=
  if p < e then
    if m (p + 1) = optIaaddr then
      parseIana m (p + 28) e { opts with
        iaaddrLen := get16 m (p + 2)
        recvIp := ip6At m (p + 4)
        preLifeTime := get32 m (p + 20)
        validLifeTime := get32 m (p + 24) }
    else if m (p + 1) = optStatusCode then
      parseIana m (optionEnd m p) e { opts with
        statuscodeLen := get16 m (p + 2)
        lstatuscodeLen := get16 m (p + 2)
        code := get16 m (p + 4) }
    else parseIana m (optionEnd m p) e opts
  else (p, opts)
termination_by e - p
decreasing_by
  · omega
  · simp only [optionEnd]
    omega
  · simp only [optionEnd]
    omega

lemma le_parseIana (m : Mem) (p e : ℕ) (opts : Options) : p ≤ (parseIana m p e opts).1 := by
  induction p, opts using parseIana.induct m e with
  | case1 p opts hlt hcode ih =>
    rw [parseIana, if_pos hlt, if_pos hcode]
    omega
  | case2 p opts hlt hcode hstatus ih =>
    rw [parseIana, if_pos hlt, if_neg hcode, if_pos hstatus]
    simp only [optionEnd] at ih ⊢
    omega
  | case3 p opts hlt hcode hstatus ih =>
    rw [parseIana, if_pos hlt, if_neg hcode, if_neg hstatus]
    simp only [optionEnd] at ih ⊢
    omega
  | case4 p opts hlt =>
    have hend : (parseIana m p e opts).1 = p := by rw [parseIana, if_neg hlt]
    exact Nat.le_of_eq hend.symm

/-- The server identifier: an enterprise number or a hardware type, the time where the type has
one, and an address. -/
def parseServerid (m : Mem) (p : ℕ) (opts : Options) : Options :=
  let duidType := get16 m (p + 4)
  if duidType = 2 then
    { opts with
      serveridLen := get16 m (p + 2)
      duidTypeS := duidType
      enterpriseNumS := get32 m (p + 6)
      serverMac := macAt m (p + 10) }
  else if duidType = 1 then
    { opts with
      serveridLen := get16 m (p + 2)
      duidTypeS := duidType
      hardwareTypeS := get16 m (p + 6)
      timeS := bytes4At m (p + 8)
      serverMac := macAt m (p + 12) }
  else
    { opts with
      serveridLen := get16 m (p + 2)
      duidTypeS := duidType
      hardwareTypeS := get16 m (p + 6)
      serverMac := macAt m (p + 8) }

/-- The option at `p`: the place after it and what it says. -/
def parseOption (m : Mem) (p : ℕ) (opts : Options) : ℕ × Options :=
  if m (p + 1) = optClientid then
    (optionEnd m p, { opts with clientidLen := get16 m (p + 2) })
  else if m (p + 1) = optIana then
    parseIana m (p + 16) (optionEnd m p) { opts with
      ianaLen := get16 m (p + 2)
      iaid := bytes4At m (p + 4)
      t1 := bytes4At m (p + 8)
      t2 := bytes4At m (p + 12) }
  else if m (p + 1) = optServerid then (optionEnd m p, parseServerid m p opts)
  else if m (p + 1) = dnsRecursiveNameServer then
    (max (p + 20) (optionEnd m p), { opts with dns6Address := ip6At m (p + 4) })
  else (optionEnd m p, opts)

lemma lt_parseOption (m : Mem) (p : ℕ) (opts : Options) : p < (parseOption m p opts).1 := by
  have hend : p < optionEnd m p := by
    simp only [optionEnd]
    omega
  rw [parseOption]
  split_ifs
  · exact hend
  · have hle := le_parseIana m (p + 16) (optionEnd m p) { opts with
      ianaLen := get16 m (p + 2)
      iaid := bytes4At m (p + 4)
      t1 := bytes4At m (p + 8)
      t2 := bytes4At m (p + 12) }
    omega
  · exact hend
  · exact Nat.lt_of_lt_of_le hend (Nat.le_max_right _ _)
  · exact hend

/-- The loop over the options from `p` on, up to `e`. -/
def parseOptions (m : Mem) (p e : ℕ) (opts : Options) : Options :=
  if p < e then
    parseOptions m (parseOption m p opts).1 e (parseOption m p opts).2
  else opts
termination_by e - p
decreasing_by
  have := lt_parseOption m p opts
  omega

/-- An option of a message. -/
def option (code : Byte) (content : List Byte) : List Byte :=
  [0, code] ++ bytes16 content.length ++ content

/-- The client identifier: its type, the hardware type and the address. -/
def clientId (chaddr : Mac) : List Byte := option optClientid ([0, 3, 0, 1] ++ chaddr.toList)

/-- The transaction identifier in a message: the low 24 bits. -/
def xidBytes (xid : ℕ) : List Byte :=
  [BitVec.ofNat 8 (xid / 2 ^ 16), BitVec.ofNat 8 (xid / 2 ^ 8), BitVec.ofNat 8 xid]

/-- A SOLICIT. Its identifier is the second byte of DHCP6_XID and two zeros: each of its bytes is
taken under the mask of the first. -/
def solicitMsg (chaddr : Mac) (xid : ℕ) : List Byte :=
  [dhcp6Solicit] ++ xidBytes (xid &&& 0x00FF0000) ++ clientId chaddr ++
    option optIana ([0x03, 0x00, 0x08, 0xdc] ++ zeros 8)

def infoRequestMsg (chaddr : Mac) (xid : ℕ) : List Byte :=
  [dhcp6InfoRequest] ++ xidBytes xid ++ clientId chaddr ++
    option optRequest [0, dnsRecursiveNameServer, 0, domainSearchList, 0, optLifetime]

/-- Where the client sends to: ff02::1:2, as the source writes it. -/
def serversIp : Ip6 := #v[0xff, 0x02, 0, 0, 0, 0, 0, 0, 0, 0, 0, 0, 0, 0x01, 0x00, 0x02]

def options (opts : List (Byte × List Byte)) : List Byte := opts.flatMap fun o => option o.1 o.2

/-- A REPLY with the transaction identifier `xid`, one of whose IA_NA options grants the address
`ip`. -/
def IsReply (xid : ℕ) (ip : Ip6) (bytes : List Byte) : Prop :=
  ∃ before inside rest after : List (Byte × List Byte), ∃ head lifetimes : List Byte,
    head.length = 12 ∧ lifetimes.length = 8 ∧
    bytes = [dhcp6Reply] ++ xidBytes xid ++ options (before ++ [(optIana, head ++
      options (inside ++ [(optIaaddr, ip.toList ++ lifetimes)] ++ rest))] ++ after)

end IoLibrary.Dhcp6
