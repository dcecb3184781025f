import IoLibrary.Dhcp.Reading

/-! send_DHCP_REQUEST as it fills the option area, for any host name. -/
namespace IoLibrary.Dhcp

/-- The option area OPT and the running index k into it. -/
structure Area where
  opt : Mem
  k : ℕ

def Area.put (b : Area) (x : Byte) : Area := ⟨Function.update b.opt b.k x, b.k + 1⟩

def Area.puts (b : Area) (xs : List Byte) : Area := xs.foldl Area.put b

/-- OPT[k - (n + 1)] = n -/
def Area.patch (b : Area) (n : ℕ) : Area := { b with opt := Function.update b.opt (b.k - (n + 1)) (BitVec.ofNat 8 n) }

/-- The zeros from k on to the end of the area. -/
def Area.fillZeros (b : Area) : Area := { b with opt := fun i => if b.k ≤ i ∧ i < optSize then 0 else b.opt i }

/-- What NibbleToHex makes of the last three octets of the hardware address. -/
def macDigits (chaddr : Mac) : List Byte :=
  [getElem chaddr 3 three_lt_six, getElem chaddr 4 four_lt_six, getElem chaddr 5 five_lt_six].flatMap fun b => [nibbleToHex (b.toNat / 16), nibbleToHex b.toNat]

/-- The options of the REQUEST to `ip`; `name` is HOST_NAME up to its end. -/
def requestArea (c : Client) (name : List Byte) (ip : Ip) (opt : Mem) : Area :=
  let b : Area := ⟨opt, 4⟩
  let b := b.puts [dhcpMessageType, 0x01, dhcpRequest]
  let b := b.puts ([dhcpClientIdentifier, 0x07, 0x01] ++ c.chaddr.toList)
  let b := if ip[3] = 255 then
      (b.puts (addressOption dhcpRequestedIPaddr c.ip)).puts (addressOption dhcpServerIdentifier c.data.sip)
    else b
  let b := b.puts [hostName, 0]
  let b := b.puts name
  let b := b.puts (macDigits c.chaddr)
  let b := b.patch (name.length + 6)
  let b := b.puts [dhcpParamRequest, 0x08, subnetMask, routersOnSubnet, dns, domainName, dhcpT1value, dhcpT2value,
    performRouterDiscovery, staticRoute, endOption]
  b.fillZeros

/-- The REQUEST renews the lease. -/
def Client.Renewing (c : Client) : Prop := c.state = .leased ∨ c.state = .rerequest

instance (c : Client) : Decidable c.Renewing := inferInstanceAs (Decidable (_ ∨ _))

/-- send_DHCP_REQUEST: the message and where it goes. `opt` is what the option area holds before. -/
def sendDhcpRequestMsg (c : Client) (name : List Byte) (opt : Mem) : List Byte × Ip :=
  let ip := if c.Renewing then c.data.sip else broadcastIp
  let head := if c.Renewing then makeDhcpMsg c dhcpFlagsunicast c.ip else makeDhcpMsg c dhcpFlagsbroadcast zeroIp
  (head ++ (requestArea c name ip opt).opt.slice 4 (optSize - 4), ip)

/-- The host name option has one octet for its length. -/
def NameFits (name : List Byte) : Prop := name.length + 6 < 256

instance (name : List Byte) : Decidable (NameFits name) := inferInstanceAs (Decidable (_ < _))

/-- The options of the REQUEST. -/
def requestItems (c : Client) (name : List Byte) (ip : Ip) : List Tlv.Item :=
  [⟨dhcpMessageType, [dhcpRequest]⟩, ⟨dhcpClientIdentifier, 0x01 :: c.chaddr.toList⟩] ++
    (if ip[3] = 255 then [⟨dhcpRequestedIPaddr, c.ip.toList⟩, ⟨dhcpServerIdentifier, c.data.sip.toList⟩] else []) ++
    [⟨hostName, name ++ macDigits c.chaddr⟩, ⟨dhcpParamRequest, [subnetMask, routersOnSubnet, dns, domainName, dhcpT1value,
      dhcpT2value, performRouterDiscovery, staticRoute]⟩]

/-- What a REQUEST must look like. -/
structure RequestForm (c : Client) (msg : List Byte) (ip : Ip) : Prop where
  size : msg.length = ripMsgSize
  options : ∃ items, Tlv.decode optionFormat (msg.drop 240) = some items ∧
    if c.Renewing then ip = c.data.sip ∧ (msg.drop 12).take 4 = c.ip.toList ∧ (msg.drop 10).take 2 = bytes16 dhcpFlagsunicast ∧
      Tlv.last dhcpRequestedIPaddr items = none ∧ Tlv.last dhcpServerIdentifier items = none
    else ip = broadcastIp ∧ (msg.drop 12).take 4 = zeroIp.toList ∧
      Tlv.last dhcpRequestedIPaddr items = some c.ip.toList ∧ Tlv.last dhcpServerIdentifier items = some c.data.sip.toList

section area
variable {b : Area} {bytes : List Byte}

/-- The area holds the bytes between the magic cookie and the running index. -/
structure Area.Holds (b : Area) (bytes : List Byte) : Prop where
  index : b.k = 4 + bytes.length
  bytes : b.opt.slice 4 bytes.length = bytes

lemma Area.Holds.put (h : b.Holds bytes) (x : Byte) : (b.put x).Holds (bytes ++ [x]) := by
  refine ⟨?_, ?_⟩
  · rw [Area.put, h.index, List.length_append]
    rfl
  · have hold : (b.put x).opt.slice 4 bytes.length = b.opt.slice 4 bytes.length := by
      refine Mem.slice_congr fun i _ hi => Function.update_of_ne ?_ _ _
      rw [h.index]
      omega
    have hnew : (b.put x).opt (4 + bytes.length) = x := by
      rw [← h.index]
      exact Function.update_self _ _ _
    rw [List.length_append, Mem.slice_add, hold, h.bytes, List.length_singleton, Mem.slice_succ, Mem.slice_zero, hnew]

lemma Area.Holds.puts (h : b.Holds bytes) (xs : List Byte) : (b.puts xs).Holds (bytes ++ xs) := by
  induction xs generalizing b bytes with
  | nil => rwa [List.append_nil]
  | cons x xs ih =>
    have hrest := ih (h.put x)
    rwa [List.append_assoc, List.singleton_append] at hrest

lemma Area.Holds.ite (h : b.Holds bytes) (p : Prop) [Decidable p] (xs ys : List Byte) :
    (if p then (b.puts xs).puts ys else b).Holds (bytes ++ if p then xs ++ ys else []) := by
  by_cases hp : p
  · rw [if_pos hp, if_pos hp, ← List.append_assoc]
    exact (h.puts xs).puts ys
  · rw [if_neg hp, if_neg hp, List.append_nil]
    exact h

/-- The octet that is patched stands before the last `n` bytes. -/
lemma Area.Holds.patch {pre post : List Byte} {x : Byte} (h : b.Holds (pre ++ x :: post)) :
    (b.patch post.length).Holds (pre ++ BitVec.ofNat 8 post.length :: post) := by
  have hk : b.k - (post.length + 1) = 4 + pre.length := by
    rw [h.index, List.length_append, List.length_cons]
    omega
  have hbytes := h.bytes
  refine ⟨h.index.trans (by simp), ?_⟩
  rw [List.length_append, List.length_cons, Mem.slice_add, Mem.slice_succ] at hbytes ⊢
  obtain ⟨hpre, hpost⟩ := List.append_inj hbytes (by simp)
  have hold {a n : ℕ} (ha : ∀ i, a ≤ i → i < a + n → i ≠ 4 + pre.length) :
      (b.patch post.length).opt.slice a n = b.opt.slice a n := by
    refine Mem.slice_congr fun i hle hlt => Function.update_of_ne ?_ _ _
    rw [hk]
    exact ha i hle hlt
  have hnew : (b.patch post.length).opt (4 + pre.length) = BitVec.ofNat 8 post.length := by
    rw [← hk]
    exact Function.update_self _ _ _
  rw [hold (by omega), hold (by omega), hnew, hpre, (List.cons.inj hpost).2]

lemma Area.Holds.fillZeros (h : b.Holds bytes) (hfit : bytes.length ≤ optSize - 4) :
    b.fillZeros.opt.slice 4 (optSize - 4) = bytes ++ zeros (optSize - (4 + bytes.length)) := by
  obtain ⟨n, hn⟩ := Nat.exists_eq_add_of_le hfit
  have hlow : b.fillZeros.opt.slice 4 bytes.length = b.opt.slice 4 bytes.length := by
    refine Mem.slice_congr fun i _ hi => if_neg fun hhigh => ?_
    have hk := h.index
    omega
  have hhigh : b.fillZeros.opt.slice (4 + bytes.length) n = zeros n := by
    have hzero : b.fillZeros.opt.slice (4 + bytes.length) n = Mem.slice (fun _ => 0) (4 + bytes.length) n := by
      refine Mem.slice_congr fun i hle hlt => if_pos ?_
      have hk := h.index
      omega
    rw [hzero, Mem.slice, List.map_const', List.length_range', zeros]
  rw [hn, Mem.slice_add, hlow, h.bytes, hhigh, show optSize - (4 + bytes.length) = n by omega]

end area

section request
variable (c : Client) {name : List Byte} (ip : Ip) (opt : Mem)

lemma length_macDigits (chaddr : Mac) : (macDigits chaddr).length = 6 := rfl

lemma length_requestItems (hname : NameFits name) :
    ((requestItems c name ip).flatMap Tlv.Item.bytes ++ [endOption]).length ≤ optSize - 4 := by
  rw [NameFits] at hname
  rw [requestItems, optSize]
  by_cases hlast : ip[3] = 255
  · rw [if_pos hlast]
    simp [Tlv.Item.bytes, length_macDigits]
    omega
  · rw [if_neg hlast]
    simp [Tlv.Item.bytes, length_macDigits]
    omega

lemma requestItems_bytes (c : Client) (name : List Byte) (ip : Ip) : (requestItems c name ip).flatMap Tlv.Item.bytes ++ [endOption] =
    [dhcpMessageType, 0x01, dhcpRequest] ++ ([dhcpClientIdentifier, 0x07, 0x01] ++ c.chaddr.toList) ++
      (if ip[3] = 255 then addressOption dhcpRequestedIPaddr c.ip ++ addressOption dhcpServerIdentifier c.data.sip else []) ++
      [hostName] ++ BitVec.ofNat 8 (name ++ macDigits c.chaddr).length :: (name ++ macDigits c.chaddr) ++
      [dhcpParamRequest, 0x08, subnetMask, routersOnSubnet, dns, domainName, dhcpT1value, dhcpT2value,
        performRouterDiscovery, staticRoute, endOption] := by
  rw [requestItems]
  by_cases hlast : ip[3] = 255
  · rw [if_pos hlast, if_pos hlast]
    simp [Tlv.Item.bytes, addressOption]
  · rw [if_neg hlast, if_neg hlast]
    simp [Tlv.Item.bytes]

/-- The area behind the magic cookie holds the items. -/
lemma requestArea_slice (hname : NameFits name) : (requestArea c name ip opt).opt.slice 4 (optSize - 4) =
    (requestItems c name ip).flatMap Tlv.Item.bytes ++ [endOption] ++
      zeros (optSize - (4 + ((requestItems c name ip).flatMap Tlv.Item.bytes ++ [endOption]).length)) := by
  have hstart : Area.Holds ⟨opt, 4⟩ [] := ⟨rfl, rfl⟩
  have hselect := ((hstart.puts [dhcpMessageType, 0x01, dhcpRequest]).puts
    ([dhcpClientIdentifier, 0x07, 0x01] ++ c.chaddr.toList)).ite (ip[3] = 255) (addressOption dhcpRequestedIPaddr c.ip)
      (addressOption dhcpServerIdentifier c.data.sip)
  have hhost := ((hselect.puts [hostName, 0]).puts name).puts (macDigits c.chaddr)
  generalize hpre : [] ++ [dhcpMessageType, 0x01, dhcpRequest] ++ ([dhcpClientIdentifier, 0x07, 0x01] ++ c.chaddr.toList) ++
    (if ip[3] = 255 then addressOption dhcpRequestedIPaddr c.ip ++ addressOption dhcpServerIdentifier c.data.sip else []) =
      pre at hhost
  rw [show pre ++ [hostName, 0] ++ name ++ macDigits c.chaddr = (pre ++ [hostName]) ++ 0 :: (name ++ macDigits c.chaddr) by simp]
    at hhost
  have hall := hhost.patch.puts [dhcpParamRequest, 0x08, subnetMask, routersOnSubnet, dns, domainName, dhcpT1value, dhcpT2value,
    performRouterDiscovery, staticRoute, endOption]
  have hbytes := requestItems_bytes c name ip
  rw [List.nil_append] at hpre
  rw [hpre] at hbytes
  rw [← hbytes, List.length_append, length_macDigits] at hall
  exact hall.fillZeros (length_requestItems c ip hname)

/-- With the default host name it is the message that DHCP_run is modelled with. -/
lemma sendDhcpRequestMsg_default : sendDhcpRequestMsg c hostNameBytes opt = requestMsg c := by
  have hfits : NameFits hostNameBytes := by decide
  rw [sendDhcpRequestMsg, requestMsg]
  simp only [requestArea_slice c _ opt hfits, requestItems_bytes, ripMsg, Client.Renewing, List.append_assoc]
  rfl

lemma decode_requestItems (hname : NameFits name) (rest : List Byte) :
    Tlv.decode optionFormat ((requestItems c name ip).flatMap Tlv.Item.bytes ++ [endOption] ++ rest) =
      some (requestItems c name ip) := by
  have hform : ∀ item ∈ requestItems c name ip, item.WellFormed optionFormat := by
    have hitem (code : Byte) (value : List Byte) (hpad : code ≠ padOption) (hstop : code ≠ endOption)
        (hshort : value.length < 256) : (⟨code, value⟩ : Tlv.Item).WellFormed optionFormat := ⟨hpad, hstop, hshort⟩
    refine List.forall_mem_append.2 ⟨List.forall_mem_append.2 ⟨?_, ?_⟩, ?_⟩
    · exact List.forall_mem_cons.2 ⟨by decide, List.forall_mem_singleton.2 (hitem _ _ (by decide) (by decide) (by simp))⟩
    · by_cases hlast : ip[3] = 255
      · rw [if_pos hlast]
        exact List.forall_mem_cons.2 ⟨hitem _ _ (by decide) (by decide) (by simp),
          List.forall_mem_singleton.2 (hitem _ _ (by decide) (by decide) (by simp))⟩
      · rw [if_neg hlast]
        exact List.forall_mem_nil _
    · refine List.forall_mem_cons.2 ⟨hitem _ _ (by decide) (by decide) ?_, List.forall_mem_singleton.2 (by decide)⟩
      rw [List.length_append, length_macDigits]
      exact hname
  rw [List.append_assoc, Tlv.decode_items hform, List.singleton_append, show endOption = optionFormat.stop from rfl,
    Tlv.decode_stop, Option.map_some, List.append_nil]

lemma last_requestItems (c : Client) (name : List Byte) (ip : Ip) :
    Tlv.last dhcpRequestedIPaddr (requestItems c name ip) = (if ip[3] = 255 then some c.ip.toList else none) ∧
    Tlv.last dhcpServerIdentifier (requestItems c name ip) = if ip[3] = 255 then some c.data.sip.toList else none := by
  rw [requestItems]
  by_cases hlast : ip[3] = 255
  · rw [if_pos hlast, if_pos hlast, if_pos hlast]
    exact ⟨rfl, rfl⟩
  · rw [if_neg hlast, if_neg hlast, if_neg hlast]
    exact ⟨rfl, rfl⟩

lemma length_makeDhcpMsg (flags : ℕ) (ciaddr : Ip) : (makeDhcpMsg c flags ciaddr).length = 240 := by
  simp only [makeDhcpMsg, bytes32, bytes16, zeros, List.length_append, List.length_cons, List.length_nil, List.length_replicate,
    Vector.length_toList]

lemma fields_makeDhcpMsg (flags : ℕ) (ciaddr : Ip) (rest : List Byte) :
    ((makeDhcpMsg c flags ciaddr ++ rest).drop 12).take 4 = ciaddr.toList ∧
      ((makeDhcpMsg c flags ciaddr ++ rest).drop 10).take 2 = bytes16 flags := by
  have hflags : (makeDhcpMsg c flags ciaddr ++ rest).drop 10 = bytes16 flags ++ (ciaddr.toList ++ (zeros 12 ++ c.chaddr.toList ++
      zeros (10 + 64 + 128) ++ bytes32 magicCookie ++ rest)) := by
    simp only [makeDhcpMsg, List.append_assoc]
    rfl
  have hciaddr : (makeDhcpMsg c flags ciaddr ++ rest).drop 12 = ciaddr.toList ++ (zeros 12 ++ c.chaddr.toList ++
      zeros (10 + 64 + 128) ++ bytes32 magicCookie ++ rest) := by
    rw [← List.drop_drop (i := 2) (j := 10), hflags]
    rfl
  rw [hciaddr, hflags]
  exact ⟨List.take_left' ciaddr.length_toList, List.take_left' rfl⟩

lemma requestMsg_decode (hname : NameFits name) (flags : ℕ) (ciaddr : Ip) :
    (makeDhcpMsg c flags ciaddr ++ (requestArea c name ip opt).opt.slice 4 (optSize - 4)).length = ripMsgSize ∧
      Tlv.decode optionFormat ((makeDhcpMsg c flags ciaddr ++
        (requestArea c name ip opt).opt.slice 4 (optSize - 4)).drop 240) = some (requestItems c name ip) := by
  refine ⟨?_, ?_⟩
  · rw [List.length_append, length_makeDhcpMsg, Mem.length_slice]
    rfl
  · rw [List.drop_left' (length_makeDhcpMsg c flags ciaddr), requestArea_slice c ip opt hname]
    exact decode_requestItems c ip hname _

variable {c}

/-- The test of the address makes such a renewal ask for an address, as if it were broadcast. -/
lemma not_requestForm (hname : NameFits name) (hrenew : c.Renewing) (hlast : c.data.sip[3] = 255) :
    ¬ RequestForm c (sendDhcpRequestMsg c name opt).1 (sendDhcpRequestMsg c name opt).2 := by
  rw [sendDhcpRequestMsg]
  simp only [if_pos hrenew]
  rintro ⟨-, items, hitems, hform⟩
  obtain rfl := Option.some.inj ((requestMsg_decode c _ opt hname _ _).2.symm.trans hitems)
  rw [if_pos hrenew, (last_requestItems c name _).1, if_pos hlast] at hform
  cases hform.2.2.2.1

/-- The REQUEST has its form, but for a renewal from a server whose address ends in 255. -/
theorem requestForm_iff (hname : NameFits name) :
    RequestForm c (sendDhcpRequestMsg c name opt).1 (sendDhcpRequestMsg c name opt).2 ↔
      ¬ (c.Renewing ∧ c.data.sip[3] = 255) := by
  refine ⟨fun hform hbad => not_requestForm opt hname hbad.1 hbad.2 hform, fun hgood => ?_⟩
  rw [sendDhcpRequestMsg]
  by_cases hrenew : c.Renewing
  · simp only [if_pos hrenew]
    have hlast : ¬ c.data.sip[3] = 255 := fun hlast => hgood ⟨hrenew, hlast⟩
    obtain ⟨hsize, hdecode⟩ := requestMsg_decode c c.data.sip opt hname dhcpFlagsunicast c.ip
    obtain ⟨hciaddr, hflags⟩ := fields_makeDhcpMsg c dhcpFlagsunicast c.ip
      ((requestArea c name c.data.sip opt).opt.slice 4 (optSize - 4))
    obtain ⟨hip, hsip⟩ := last_requestItems c name c.data.sip
    rw [if_neg hlast] at hip hsip
    refine ⟨hsize, _, hdecode, ?_⟩
    rw [if_pos hrenew]
    exact ⟨rfl, hciaddr, hflags, hip, hsip⟩
  · simp only [if_neg hrenew]
    obtain ⟨hsize, hdecode⟩ := requestMsg_decode c broadcastIp opt hname dhcpFlagsbroadcast zeroIp
    obtain ⟨hciaddr, -⟩ := fields_makeDhcpMsg c dhcpFlagsbroadcast zeroIp
      ((requestArea c name broadcastIp opt).opt.slice 4 (optSize - 4))
    obtain ⟨hip, hsip⟩ := last_requestItems c name broadcastIp
    rw [if_pos (show broadcastIp[3] = 255 from rfl)] at hip hsip
    refine ⟨hsize, _, hdecode, ?_⟩
    rw [if_neg hrenew]
    exact ⟨rfl, hciaddr, hip, hsip⟩

end request

/-- A client that renews its lease from the server. -/
def renewing (server : Ip) : Client :=
  { started with state := .leased, ip := offeredIp, data := { started.data with sip := server } }

theorem renewal_formed : RequestForm (renewing server) (sendDhcpRequestMsg (renewing server) hostNameBytes fun _ => 0).1
    (sendDhcpRequestMsg (renewing server) hostNameBytes fun _ => 0).2 :=
  (requestForm_iff (fun _ => 0) (by decide)).2 (by decide)

theorem renewal_from_255 : ¬ RequestForm (renewing #v[10, 0, 1, 255])
    (sendDhcpRequestMsg (renewing #v[10, 0, 1, 255]) hostNameBytes fun _ => 0).1
    (sendDhcpRequestMsg (renewing #v[10, 0, 1, 255]) hostNameBytes fun _ => 0).2 :=
  not_requestForm (fun _ => 0) (by decide) (.inl rfl) rfl

end IoLibrary.Dhcp
