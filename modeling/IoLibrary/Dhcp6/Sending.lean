import IoLibrary.Dhcp6.Run
import IoLibrary.WideTlv
import Mathlib.Data.List.Induction

/-! What send_DHCP6_SOLICIT, send_DHCP6_REQUEST and send_DHCP_INFOREQ send: the bytes that they append,
and a count of them that begins at a constant. -/
namespace IoLibrary.Dhcp6
open Dhcp (Mac zeros bytes32)
open WideTlv

def dhcp6Request : Byte := 3

/-- The buffer of the options, with `size` and `num`. -/
structure Appending where
  opt : Mem
  size : ℕ
  num : ℕ

def initDhcp6Option (opt : Mem) (asize : ℕ) : Appending := ⟨opt, asize, 0⟩

def appendDhcp6Option (a : Appending) (value : Byte) : Appending :=
  { opt := Function.update a.opt a.num value
    size := if a.size < a.num + 1 then a.size + 1 else a.size
    num := a.num + 1 }

/-- What is sent has the size that was counted, as a uint8_t. -/
def Appending.sent (a : Appending) : List Byte := a.opt.slice 0 (a.size % 0x100)

/-- The bytes after one another. -/
def appendBytes (a : Appending) (values : List Byte) : Appending := values.foldl appendDhcp6Option a

def solicitBytes (c : Client) : List Byte :=
  [dhcp6Solicit, BitVec.ofNat 8 ((c.xid &&& 0x00FF0000) / 2 ^ 16), BitVec.ofNat 8 ((c.xid &&& 0x00FF0000) / 2 ^ 8),
    BitVec.ofNat 8 (c.xid &&& 0x00FF0000)] ++
  [0x00, optClientid, 0x00, 0x0a, 0x00, 0x03, 0x00, 0x01] ++ c.chaddr.toList ++
  [0x00, optIana, 0x00, 0x0c, 0x03, 0x00, 0x08, 0xdc, 0x00, 0x00, 0x00, 0x00, 0x00, 0x00, 0x00, 0x00]

/-- DHCP6_XID, each of its bytes under a mask of its own. -/
def maskedXid (xid : ℕ) : List Byte :=
  [BitVec.ofNat 8 ((xid &&& 0x00FF0000) / 2 ^ 16), BitVec.ofNat 8 ((xid &&& 0x0000FF00) / 2 ^ 8),
    BitVec.ofNat 8 (xid &&& 0x000000FF)]

def requestBytes (c : Client) : List Byte :=
  [dhcp6Request] ++ maskedXid c.xid ++
  [0x00, optIana] ++ bytes16 c.options.ianaLen ++ c.options.iaid.toList ++ c.options.t1.toList ++
    c.options.t2.toList ++
  [0x00, optIaaddr] ++ bytes16 c.options.iaaddrLen ++ c.options.recvIp.toList ++
    bytes32 c.options.preLifeTime ++ bytes32 c.options.validLifeTime ++
  [0x00, optClientid, 0x00, 0x0a, 0x00, 0x03, 0x00, 0x01] ++ c.chaddr.toList ++
  [0x00, optServerid] ++ bytes16 c.options.serveridLen ++ bytes16 c.options.duidTypeS ++
    bytes16 c.options.hardwareTypeS ++ c.options.serverMac.toList

def inforeqBytes (c : Client) : List Byte :=
  [dhcp6InfoRequest] ++ maskedXid c.xid ++
  [0x00, optClientid, 0x00, 0x0a, 0x00, 0x03, 0x00, 0x01] ++ c.chaddr.toList ++
  [0x00, optRequest, 0x00, 0x06, 0x00, dnsRecursiveNameServer, 0x00, domainSearchList, 0x00, optLifetime]

inductive Sender
  | solicit
  | request
  | inforeq
  deriving DecidableEq

/-- The bytes that a sender appends, and the size that it begins with. -/
def Sender.bytes (c : Client) : Sender → List Byte
  | .solicit => solicitBytes c
  | .request => requestBytes c
  | .inforeq => inforeqBytes c

def Sender.asize : Sender → ℕ
  | .solicit => 34
  | .request => 60
  | .inforeq => 30

/-- What a sender gives to sendto. send_DHCP6_REQUEST returns at once where no IA was learned. -/
def send (c : Client) (sender : Sender) : Option (List Byte) :=
  if sender = .request ∧ c.options.ianaLen = 0 then none
  else some (appendBytes (initDhcp6Option c.msg sender.asize) (sender.bytes c)).sent

/-- A message as a receiver reads it. -/
structure Message where
  type : Byte
  xid : List Byte
  options : List Item
  deriving DecidableEq

def readMessage : List Byte → Option Message
  | type :: x₂ :: x₁ :: x₀ :: rest => (decode rest).map fun items => ⟨type, [x₂, x₁, x₀], items⟩
  | _ => none

def clientItem (c : Client) : Item := ⟨1, [0, 3, 0, 1] ++ c.chaddr.toList⟩

def addressItem (c : Client) : Item :=
  ⟨5, c.options.recvIp.toList ++ bytes32 c.options.preLifeTime ++ bytes32 c.options.validLifeTime⟩

def serverItem (c : Client) : Item :=
  ⟨2, bytes16 c.options.duidTypeS ++ bytes16 c.options.hardwareTypeS ++ c.options.serverMac.toList⟩

def ianaItem (c : Client) (inside : List Byte) : Item :=
  ⟨3, c.options.iaid.toList ++ c.options.t1.toList ++ c.options.t2.toList ++ inside⟩

/-- The options that a sender puts together. The address of a REQUEST is inside the IA_NA or behind it. -/
def Sender.sequences (c : Client) : Sender → List (List Item)
  | .solicit => [[clientItem c, ⟨3, [0x03, 0x00, 0x08, 0xdc] ++ zeros 8⟩]]
  | .request =>
    [[ianaItem c (addressItem c).bytes, clientItem c, serverItem c],
      [ianaItem c [], addressItem c, clientItem c, serverItem c]]
  | .inforeq => [[clientItem c, ⟨6, [0, 23, 0, 24, 0, 32]⟩]]

def Sender.type : Sender → Byte
  | .solicit => dhcp6Solicit
  | .request => dhcp6Request
  | .inforeq => dhcp6InfoRequest

/-- A receiver reads the type, the low 24 bits of DHCP6_XID and the options, up to the last byte. -/
def Sent (c : Client) (sender : Sender) (bytes : List Byte) : Prop :=
  ∃ items ∈ sender.sequences c, readMessage bytes = some ⟨sender.type, xidBytes c.xid, items⟩

/-- The lengths that were learned are those of the options that are sent. -/
structure Learned (opts : Options) : Prop where
  ianaLen : opts.ianaLen = 40 ∨ opts.ianaLen = 12
  iaaddrLen : opts.iaaddrLen = 24
  serveridLen : opts.serveridLen = 10

/-- The lengths are in a uint16_t. -/
structure Options.Sized (opts : Options) : Prop where
  ianaLen : opts.ianaLen < 65536
  iaaddrLen : opts.iaaddrLen < 65536
  serveridLen : opts.serveridLen < 65536

/-- When each message is well formed. A SOLICIT has only the highest byte of the identifier, and an
INFORMATION-REQUEST is sent with two more bytes than it has. -/
def Sender.Fits (c : Client) : Sender → Prop
  | .solicit => c.xid % 2 ^ 16 = 0
  | .request => c.options.ianaLen = 0 ∨ Learned c.options
  | .inforeq => False

section appending
variable {opt : Mem} {asize : ℕ} {values rest : List Byte} {c : Client}

lemma fill_append (v : Byte) : Function.update (opt.fill values) values.length v = opt.fill (values ++ [v]) := by
  funext i
  rw [Function.update_apply, Mem.fill, Mem.fill, List.getD_eq_getElem?_getD, List.getD_eq_getElem?_getD]
  split_ifs with hi
  · rw [hi, List.getElem?_concat_length, Option.getD_some]
  · by_cases hlt : i < values.length
    · rw [List.getElem?_append_left hlt]
    · rw [List.getElem?_eq_none (by omega), List.getElem?_eq_none (by simp; omega)]

/-- The bytes are in the buffer one after the other, and the size is that of the bytes where these are
more than it began with. -/
lemma appendBytes_init : appendBytes (initDhcp6Option opt asize) values =
    ⟨opt.fill values, max asize values.length, values.length⟩ := by
  induction values using List.reverseRecOn with
  | nil =>
    rw [List.length_nil, Nat.max_zero]
    rfl
  | append_singleton values v ih =>
    have hsnoc : appendBytes (initDhcp6Option opt asize) (values ++ [v]) =
        appendDhcp6Option (appendBytes (initDhcp6Option opt asize) values) v := by
      rw [appendBytes, List.foldl_append]
      rfl
    rw [hsnoc, ih, appendDhcp6Option, fill_append, List.length_append, List.length_singleton]
    simp only [Appending.mk.injEq, true_and, and_true]
    split_ifs <;> omega

lemma length_solicitBytes : (solicitBytes c).length = 34 := by simp [solicitBytes]

lemma length_requestBytes : (requestBytes c).length = 76 := by simp [requestBytes, maskedXid, bytes16, bytes32]

lemma length_inforeqBytes : (inforeqBytes c).length = 28 := by simp [inforeqBytes, maskedXid]

lemma masked (x k : ℕ) : BitVec.ofNat 8 ((x &&& 255 <<< k) / 2 ^ k) = BitVec.ofNat 8 (x / 2 ^ k) := by
  rw [← Nat.shiftRight_eq_div_pow, Nat.shiftRight_and_distrib, Nat.shiftLeft_shiftRight,
    ← Nat.shiftRight_eq_div_pow, show 255 = 2 ^ 8 - 1 from rfl, Nat.and_two_pow_sub_one_eq_mod]
  apply BitVec.eq_of_toNat_eq
  rw [BitVec.toNat_ofNat, BitVec.toNat_ofNat, Nat.mod_mod]

lemma maskedXid_eq (xid : ℕ) : maskedXid xid = xidBytes xid := by
  have h16 := masked xid 16
  have h8 := masked xid 8
  have h0 := masked xid 0
  simp only [Nat.pow_zero, Nat.div_one] at h0
  rw [maskedXid, xidBytes]
  exact congrArg₂ List.cons h16 (congrArg₂ List.cons h8 (congrArg₂ List.cons h0 rfl))

lemma sent_init (hlength : max asize values.length = values.length) (hshort : values.length < 0x100) :
    (appendBytes (initDhcp6Option opt asize) values).sent = values := by
  rw [appendBytes_init, Appending.sent, hlength, Nat.mod_eq_of_lt hshort, Mem.slice_fill]

/-- What stands in front of two options is read for what it is. -/
lemma readMessage_iff {type x₂ x₁ x₀ : Byte} {msg : Message} (h : ∀ item ∈ msg.options, item.WellFormed) :
    readMessage (type :: x₂ :: x₁ :: x₀ :: rest) = some msg ↔
      type = msg.type ∧ [x₂, x₁, x₀] = msg.xid ∧ rest = encode msg.options := by
  rw [readMessage, Option.map_eq_some_iff, ← decode_iff h]
  obtain ⟨type', xid', items'⟩ := msg
  simp only [Message.mk.injEq]
  constructor
  · rintro ⟨items, hitems, rfl, rfl, rfl⟩
    exact ⟨rfl, rfl, hitems⟩
  · rintro ⟨rfl, rfl, hitems⟩
    exact ⟨items', hitems, rfl, rfl, rfl⟩

lemma sequences_wellFormed (c : Client) (sender : Sender) :
    ∀ items ∈ sender.sequences c, ∀ item ∈ items, item.WellFormed := by
  have hinside : (addressItem c).bytes.length = 28 := by simp [addressItem, Item.bytes, bytes16, bytes32]
  have hclient : (clientItem c).WellFormed := ⟨by simp [clientItem], by simp [clientItem]⟩
  have haddress : (addressItem c).WellFormed := ⟨by simp [addressItem], by simp [addressItem, bytes32]⟩
  have hserver : (serverItem c).WellFormed := ⟨by simp [serverItem], by simp [serverItem, bytes16]⟩
  cases sender with
  | solicit =>
    refine List.forall_mem_singleton.2 (List.forall_mem_cons.2 ⟨hclient, List.forall_mem_singleton.2 ?_⟩)
    exact ⟨by decide, by decide⟩
  | request =>
    refine List.forall_mem_cons.2 ⟨List.forall_mem_cons.2 ⟨?_, ?_⟩,
      List.forall_mem_singleton.2 (List.forall_mem_cons.2 ⟨?_, ?_⟩)⟩
    · exact ⟨by simp [ianaItem], by simp [ianaItem, hinside]⟩
    · exact List.forall_mem_cons.2 ⟨hclient, List.forall_mem_singleton.2 hserver⟩
    · exact ⟨by simp [ianaItem], by simp [ianaItem]⟩
    · exact List.forall_mem_cons.2 ⟨haddress, List.forall_mem_cons.2 ⟨hclient, List.forall_mem_singleton.2 hserver⟩⟩
  | inforeq =>
    refine List.forall_mem_singleton.2 (List.forall_mem_cons.2 ⟨hclient, List.forall_mem_singleton.2 ?_⟩)
    exact ⟨by decide, by decide⟩

lemma bytes16_inj {v w : ℕ} (hv : v < 65536) (hw : w < 65536) : bytes16 v = bytes16 w ↔ v = w := by
  constructor
  · intro h
    obtain ⟨hhi, htail⟩ := List.cons.inj h
    rw [← word16_bytes16 hv, ← word16_bytes16 hw, hhi, (List.cons.inj htail).1]
  · rintro rfl
    rfl

lemma clientItem_bytes (c : Client) : (clientItem c).bytes =
    [0x00, optClientid, 0x00, 0x0a, 0x00, 0x03, 0x00, 0x01] ++ c.chaddr.toList := by
  have hlength : (clientItem c).value.length = 10 := by simp [clientItem]
  rw [Item.bytes, hlength, clientItem]
  simp only [List.append_assoc, List.cons_append, List.nil_append]
  rfl

lemma clientId_eq (c : Client) : clientId c.chaddr = (clientItem c).bytes := by
  have hlength : ([0, 3, 0, 1] ++ c.chaddr.toList).length = 10 := by simp
  rw [clientItem_bytes, clientId, option, hlength]
  simp only [List.cons_append, List.nil_append]
  rfl

/-- The options of a SOLICIT are those that it appends. -/
lemma encode_solicit (c : Client) : solicitBytes c =
    dhcp6Solicit :: BitVec.ofNat 8 ((c.xid &&& 0x00FF0000) / 2 ^ 16) ::
      BitVec.ofNat 8 ((c.xid &&& 0x00FF0000) / 2 ^ 8) :: BitVec.ofNat 8 (c.xid &&& 0x00FF0000) ::
        encode [clientItem c, ⟨3, [0x03, 0x00, 0x08, 0xdc] ++ zeros 8⟩] := by
  rw [encode, List.flatMap_cons, clientItem_bytes, solicitBytes]
  simp only [List.cons_append, List.nil_append]
  rfl

lemma encode_inforeq (c : Client) :
    inforeqBytes c = dhcp6InfoRequest ::
      (maskedXid c.xid ++ encode [clientItem c, ⟨6, [0, 23, 0, 24, 0, 32]⟩]) := by
  rw [encode, List.flatMap_cons, clientItem_bytes, inforeqBytes]
  simp only [List.cons_append, List.nil_append, List.append_assoc]
  rfl

/-- The options of a REQUEST, with their lengths. -/
def requestOptions (c : Client) (ianaLen iaaddrLen serveridLen : ℕ) : List Byte :=
  [0x00, optIana] ++ bytes16 ianaLen ++ c.options.iaid.toList ++ c.options.t1.toList ++ c.options.t2.toList ++
  [0x00, optIaaddr] ++ bytes16 iaaddrLen ++ c.options.recvIp.toList ++
    bytes32 c.options.preLifeTime ++ bytes32 c.options.validLifeTime ++
  [0x00, optClientid, 0x00, 0x0a, 0x00, 0x03, 0x00, 0x01] ++ c.chaddr.toList ++
  [0x00, optServerid] ++ bytes16 serveridLen ++ bytes16 c.options.duidTypeS ++
    bytes16 c.options.hardwareTypeS ++ c.options.serverMac.toList

lemma requestBytes_eq (c : Client) : requestBytes c = dhcp6Request :: (maskedXid c.xid ++
    requestOptions c c.options.ianaLen c.options.iaaddrLen c.options.serveridLen) := by
  simp only [requestBytes, requestOptions, List.append_assoc, List.cons_append, List.nil_append]

lemma requestOptions_inj {a b s a' b' s' : ℕ} : requestOptions c a b s = requestOptions c a' b' s' ↔
    bytes16 a = bytes16 a' ∧ bytes16 b = bytes16 b' ∧ bytes16 s = bytes16 s' := by
  have happend {v w : ℕ} {rest rest' : List Byte} :
      bytes16 v ++ rest = bytes16 w ++ rest' ↔ bytes16 v = bytes16 w ∧ rest = rest' := by
    constructor
    · exact fun heq => List.append_inj heq rfl
    · rintro ⟨hlength, rfl⟩
      rw [hlength]
  simp only [requestOptions, List.append_assoc, List.append_cancel_left_eq, happend, and_true]

lemma addressItem_bytes (c : Client) : (addressItem c).bytes = [0x00, optIaaddr] ++ bytes16 24 ++
    c.options.recvIp.toList ++ bytes32 c.options.preLifeTime ++ bytes32 c.options.validLifeTime := by
  have hlength : (addressItem c).value.length = 24 := by simp [addressItem, bytes32]
  rw [Item.bytes, hlength, addressItem]
  simp only [List.append_assoc]
  rfl

lemma serverItem_bytes (c : Client) : (serverItem c).bytes = [0x00, optServerid] ++ bytes16 10 ++
    bytes16 c.options.duidTypeS ++ bytes16 c.options.hardwareTypeS ++ c.options.serverMac.toList := by
  have hlength : (serverItem c).value.length = 10 := by simp [serverItem, bytes16]
  rw [Item.bytes, hlength, serverItem]
  simp only [List.append_assoc]
  rfl

/-- The address is a part of what the length of the IA_NA counts. -/
lemma encode_inside (c : Client) :
    encode [ianaItem c (addressItem c).bytes, clientItem c, serverItem c] = requestOptions c 40 24 10 := by
  have hlength : (ianaItem c (addressItem c).bytes).value.length = 40 := by
    rw [ianaItem, addressItem_bytes]
    simp [bytes16, bytes32]
  rw [encode, List.flatMap_cons, List.flatMap_cons, List.flatMap_singleton, clientItem_bytes, serverItem_bytes,
    Item.bytes, hlength, ianaItem, addressItem_bytes, requestOptions]
  simp only [List.append_assoc]
  rfl

lemma encode_behind (c : Client) :
    encode [ianaItem c [], addressItem c, clientItem c, serverItem c] = requestOptions c 12 24 10 := by
  have hlength : (ianaItem c []).value.length = 12 := by simp [ianaItem]
  rw [encode, List.flatMap_cons, List.flatMap_cons, List.flatMap_cons, List.flatMap_singleton, clientItem_bytes,
    serverItem_bytes, addressItem_bytes, Item.bytes, hlength, ianaItem, requestOptions]
  simp only [List.append_assoc, List.nil_append]
  rfl

/-- The identifier of a SOLICIT. -/
lemma solicit_xid (xid : ℕ) :
    [BitVec.ofNat 8 ((xid &&& 0x00FF0000) / 2 ^ 16), BitVec.ofNat 8 ((xid &&& 0x00FF0000) / 2 ^ 8),
      BitVec.ofNat 8 (xid &&& 0x00FF0000)] = xidBytes xid ↔ xid % 2 ^ 16 = 0 := by
  have hlow : (xid &&& 0x00FF0000) % 2 ^ 16 = 0 := by
    rw [Nat.and_mod_two_pow]
    exact Nat.and_zero _
  rw [xidBytes, show (xid &&& 0x00FF0000) = xid &&& 255 <<< 16 from rfl, masked] at *
  generalize xid &&& 255 <<< 16 = masked at hlow ⊢
  simp only [List.cons.injEq, true_and, and_true, ← BitVec.toNat_inj, BitVec.toNat_ofNat]
  omega

/-- What send_DHCP_INFOREQ sends ends with two bytes that the buffer had. -/
lemma sent_inforeq : (appendBytes (initDhcp6Option c.msg 30) (inforeqBytes c)).sent =
    inforeqBytes c ++ c.msg.slice 28 2 := by
  have hfront : (c.msg.fill (inforeqBytes c)).slice 0 28 = inforeqBytes c := by
    rw [← length_inforeqBytes (c := c), Mem.slice_fill]
  have hbehind : (c.msg.fill (inforeqBytes c)).slice 28 2 = c.msg.slice 28 2 := by
    refine Mem.slice_congr fun i hi _ => ?_
    rw [Mem.fill, List.getD_eq_getElem?_getD, List.getElem?_eq_none (by rw [length_inforeqBytes]; exact hi),
      Option.getD_none]
  rw [appendBytes_init, Appending.sent, length_inforeqBytes]
  change (c.msg.fill (inforeqBytes c)).slice 0 (28 + 2) = _
  rw [Mem.slice_add, hfront, hbehind]

lemma send_solicit (c : Client) : send c .solicit = some (solicitBytes c) := by
  have hlength : (Sender.solicit.bytes c).length = 34 := length_solicitBytes
  rw [send, if_neg (by simp), sent_init (by rw [hlength]; rfl) (by rw [hlength]; decide)]
  rfl

lemma send_request (hiana : c.options.ianaLen ≠ 0) : send c .request = some (requestBytes c) := by
  have hlength : (Sender.request.bytes c).length = 76 := length_requestBytes
  rw [send, if_neg (by simp [hiana]), sent_init (by rw [hlength]; rfl) (by rw [hlength]; decide)]
  rfl

lemma send_inforeq (c : Client) : send c .inforeq = some (inforeqBytes c ++ c.msg.slice 28 2) := by
  rw [send, if_neg (by simp), ← sent_inforeq]
  rfl

/-- DHCP6_run sends what the SOLICIT appends. -/
lemma sendDhcp6Solicit_send (c : Client) :
    (sendDhcp6Solicit c).2 = (send c .solicit).toList.map (.sendto · serversIp) := by
  have hmsg : solicitMsg c.chaddr c.xid = solicitBytes c := by
    rw [encode_solicit, encode, List.flatMap_cons, solicitMsg, clientId_eq]
    simp only [xidBytes, List.cons_append, List.nil_append]
    rfl
  rw [send_solicit, sendDhcp6Solicit, hmsg]
  rfl

lemma sendDhcpInforeq_send (c : Client) :
    (sendDhcpInforeq c).2 = (send c .inforeq).toList.map (.sendto · serversIp) := by
  have hmsg : infoRequestMsg c.chaddr c.xid = inforeqBytes c := by
    rw [encode_inforeq, maskedXid_eq, encode, List.flatMap_cons, infoRequestMsg, clientId_eq]
    simp only [List.append_assoc, List.cons_append, List.nil_append]
    rfl
  have hsent : (c.msg.fill (inforeqBytes c)).slice 0 30 = inforeqBytes c ++ c.msg.slice 28 2 := by
    rw [← sent_inforeq, appendBytes_init, Appending.sent, length_inforeqBytes]
    rfl
  rw [send_inforeq, sendDhcpInforeq, hmsg]
  exact congrArg (fun bytes => [Action.sendto bytes serversIp]) hsent

end appending

/-- Each message is well formed exactly where its identifier, or the lengths that were learned, fit. -/
theorem sent_iff (c : Client) (sender : Sender) (h : c.options.Sized) :
    (∀ bytes, send c sender = some bytes → Sent c sender bytes) ↔ sender.Fits c := by
  cases sender with
  | solicit =>
    have hwell := sequences_wellFormed c .solicit _ List.mem_cons_self
    simp only [send_solicit, Option.some.injEq, forall_eq', Sent, Sender.sequences, List.mem_singleton, exists_eq_left]
    rw [encode_solicit, readMessage_iff hwell]
    simp only [Sender.type, true_and, and_true]
    exact solicit_xid c.xid
  | request =>
    by_cases hiana : c.options.ianaLen = 0
    · rw [send, if_pos ⟨rfl, hiana⟩]
      exact ⟨fun _ => .inl hiana, fun _ => nofun⟩
    have hinside := sequences_wellFormed c .request _ List.mem_cons_self
    have hbehind := sequences_wellFormed c .request _ (List.mem_cons_of_mem _ List.mem_cons_self)
    simp only [send_request hiana, Option.some.injEq, forall_eq', Sent, Sender.sequences, List.mem_cons,
      List.not_mem_nil, or_false, exists_eq_or_imp, exists_eq_left]
    rw [requestBytes_eq, maskedXid_eq, xidBytes]
    simp only [List.cons_append, List.nil_append]
    rw [readMessage_iff hinside, readMessage_iff hbehind, encode_inside, encode_behind, requestOptions_inj,
      requestOptions_inj, bytes16_inj h.ianaLen (by decide), bytes16_inj h.ianaLen (by decide),
      bytes16_inj h.iaaddrLen (by decide), bytes16_inj h.serveridLen (by decide)]
    simp only [Sender.type, Sender.Fits, hiana, false_or, true_and]
    rw [← or_and_right]
    exact ⟨fun hlengths => ⟨hlengths.1, hlengths.2.1, hlengths.2.2⟩,
      fun hlearned => ⟨hlearned.ianaLen, hlearned.iaaddrLen, hlearned.serveridLen⟩⟩
  | inforeq =>
    have hwell := sequences_wellFormed c .inforeq _ List.mem_cons_self
    simp only [send_inforeq, Option.some.injEq, forall_eq', Sent, Sender.sequences, List.mem_singleton, exists_eq_left]
    rw [encode_inforeq, maskedXid_eq, xidBytes]
    simp only [List.cons_append, List.nil_append]
    rw [readMessage_iff hwell]
    refine ⟨fun hread => ?_, False.elim⟩
    -- two bytes are left over
    have hlength := congrArg List.length hread.2.2
    simp at hlength

/-- A client after DHCP6_init that has learned an address and a server of the type DUID-LL. -/
def learned : Client :=
  { boot with
    xid := 0x515789
    options :=
      { boot.options with
        ianaLen := 40
        iaaddrLen := 24
        serveridLen := 10
        duidTypeS := 3
        hardwareTypeS := 1 } }

theorem request_sent : learned.options.Sized ∧
    ∀ bytes, send learned .request = some bytes → Sent learned .request bytes := by
  have hsized : learned.options.Sized := ⟨by decide, by decide, by decide⟩
  have hlearned : Learned learned.options := ⟨.inl rfl, rfl, rfl⟩
  exact ⟨hsized, (sent_iff learned .request hsized).2 (.inr hlearned)⟩

/-- The SOLICIT of a client has another identifier than the client. -/
theorem solicit_masked : ¬ ∀ c : Client, c.options.Sized → ∀ sender bytes, send c sender = some bytes →
    Sent c sender bytes := by
  intro hall
  have hsized : learned.options.Sized := ⟨by decide, by decide, by decide⟩
  obtain ⟨items, -, hread⟩ := hall learned hsized .solicit _ (send_solicit learned)
  rw [encode_solicit, readMessage, Option.map_eq_some_iff] at hread
  obtain ⟨_, -, hmsg⟩ := hread
  exact absurd ((solicit_xid _).1 (congrArg Message.xid hmsg)) (by decide)

end IoLibrary.Dhcp6
