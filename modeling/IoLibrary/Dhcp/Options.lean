import IoLibrary.Dhcp.LeaseData
import IoLibrary.Tlv

/-! The options of a reply as a list of items, and what the parser makes of them. -/
namespace IoLibrary.Dhcp

def optionFormat : Tlv.Format := ⟨padOption, endOption⟩

/-- The lengths that the options of a reply have. -/
structure Expected (item : Tlv.Item) : Prop where
  type : item.code = dhcpMessageType → item.value.length = 1
  four : item.code = subnetMask ∨ item.code = dhcpIPaddrLeaseTime ∨ item.code = dhcpServerIdentifier →
    item.value.length = 4
  addresses : item.code = routersOnSubnet ∨ item.code = dns → 0 < item.value.length ∧ item.value.length % 4 = 0

instance (item : Tlv.Item) : Decidable (Expected item) :=
  decidable_of_iff ((item.code = dhcpMessageType → item.value.length = 1) ∧
      (item.code = subnetMask ∨ item.code = dhcpIPaddrLeaseTime ∨ item.code = dhcpServerIdentifier → item.value.length = 4) ∧
      (item.code = routersOnSubnet ∨ item.code = dns → 0 < item.value.length ∧ item.value.length % 4 = 0))
    ⟨fun h => ⟨h.1, h.2.1, h.2.2⟩, fun h => ⟨h.type, h.four, h.addresses⟩⟩

/-- The address at the beginning of a value. -/
def address (value : List Byte) : Ip := Vector.ofFn fun i => value.getD i 0

def number (value : List Byte) : ℕ := value.foldl (fun n b => n * 256 + b.toNat) 0

/-- The type of the message: that of its last option 53. -/
def messageType (items : List Tlv.Item) (type : Byte) : Byte :=
  (Tlv.last dhcpMessageType items).elim type fun value => value.getD 0 0

/-- The lease data behind a message from `svrAddr`: for each field the value of the last option for it, the
old one where there is none. -/
def leaseOf (items : List Tlv.Item) (svrAddr : Ip) (data : LeaseData) : LeaseData where
  sn := (Tlv.last subnetMask items).elim data.sn address
  gw := (Tlv.last routersOnSubnet items).elim data.gw address
  dns := (Tlv.last dns items).elim data.dns address
  leaseTime := (Tlv.last dhcpIPaddrLeaseTime items).elim data.leaseTime number
  sip := (Tlv.last dhcpServerIdentifier items).elim data.sip address
  realSip := (Tlv.last dhcpServerIdentifier items).elim data.realSip fun _ => svrAddr

/-- The datagram comes from the server port, is for the client, and comes from its server if it has one. -/
structure FromServer (c : Client) (d : Datagram) : Prop where
  port : d.port = dhcpServerPort
  chaddr : d.field 28 6 = c.chaddr.toList
  source : c.data.sip = zeroIp ∨ d.addr = c.data.sip ∨ d.addr = c.data.realSip

lemma FromServer.passes {c : Client} {d : Datagram} (h : FromServer c d) : passes c d := by
  refine ⟨h.port, ?_, h.source⟩
  have hlen := congrArg List.length h.chaddr
  rw [Datagram.field, List.length_take, List.length_drop, Vector.length_toList] at hlen
  have hslice : (c.msg.fill d.bytes).slice 28 6 = c.chaddr.toList := by
    rw [← Mem.take_slice _ _ (d.bytes.length - 28) _ (by omega), Mem.slice_fill_drop]
    exact h.chaddr
  apply Vector.toList_inj.1
  rw [← hslice]
  rfl

section walk
variable {msg : Mem} {p n : ℕ} {items : List Tlv.Item} {svrAddr : Ip} {data : LeaseData} {type : Byte}

/-- The first item of the bytes from `p` on, in the memory. -/
lemma decode_slice (hend : msg p ≠ endOption) (hpad : msg p ≠ padOption)
    (h : Tlv.decode optionFormat (msg.slice p (n + 1)) = some items) :
    ∃ rest, items = ⟨msg p, msg.slice (p + 2) (msg (p + 1)).toNat⟩ :: rest ∧
      Tlv.decode optionFormat (msg.slice (p + 2 + (msg (p + 1)).toNat) (n - 1 - (msg (p + 1)).toNat)) = some rest := by
  rw [Mem.slice_succ, Tlv.decode.eq_def] at h
  dsimp only at h
  rw [if_neg (show ¬ msg p = optionFormat.stop from hend), if_neg (show ¬ msg p = optionFormat.pad from hpad)] at h
  cases n with
  | zero => cases h
  | succ n =>
    rw [Mem.slice_succ] at h
    dsimp only at h
    split_ifs at h with hlen
    rw [Mem.length_slice] at hlen
    rw [Mem.drop_slice, Mem.take_slice _ _ _ _ hlen, Option.map_eq_some_iff] at h
    obtain ⟨rest, hrest, rfl⟩ := h
    exact ⟨rest, rfl, hrest⟩

lemma address_slice {k : ℕ} (h : 4 ≤ k) : address (msg.slice p k) = ipAt msg p := by
  obtain ⟨rest, rfl⟩ := Nat.exists_eq_add_of_le h
  rw [Mem.slice_add]
  rfl

lemma number_slice : number (msg.slice p 4) = word32 msg p := by
  simp only [number, Mem.slice_succ, Mem.slice_zero, List.foldl_cons, List.foldl_nil, word32, Nat.add_assoc, Nat.reduceAdd]
  omega

lemma optionEnd_of_expected (hpad : msg p ≠ padOption) (h : Expected ⟨msg p, msg.slice (p + 2) (msg (p + 1)).toNat⟩) :
    optionEnd msg p = p + 2 + (msg (p + 1)).toNat := by
  have htype := h.type
  have hfour := h.four
  simp only [Mem.length_slice] at htype hfour
  rw [optionEnd, if_neg hpad]
  split_ifs with h53 h4
  · rw [htype h53]
  · rw [hfour h4]
  · rfl

lemma elim_last_cons {α : Type} {code : Byte} {item : Tlv.Item} (x : α) (f : List Byte → α) :
    (Tlv.last code (item :: items)).elim x f = (Tlv.last code items).elim (if item.code = code then f item.value else x) f := by
  rw [Tlv.last_cons]
  cases Tlv.last code items with
  | some value => rfl
  | none =>
    by_cases h : item.code = code
    · simp [h]
    · simp [h]

lemma messageType_cons (h : Expected ⟨msg p, msg.slice (p + 2) (msg (p + 1)).toNat⟩) :
    messageType (⟨msg p, msg.slice (p + 2) (msg (p + 1)).toNat⟩ :: items) type = messageType items (optionType msg p type) := by
  rw [messageType, messageType, elim_last_cons, optionType]
  by_cases htype : msg p = dhcpMessageType
  · have hlen := h.type htype
    rw [Mem.length_slice] at hlen
    simp [htype, hlen, Mem.slice_succ]
  · simp [htype]

lemma realSip_optionData : (optionData msg svrAddr p data).realSip =
    if msg p = dhcpServerIdentifier then svrAddr else data.realSip := by
  simp only [optionData, subnetMask, routersOnSubnet, dns, dhcpIPaddrLeaseTime, dhcpServerIdentifier]
  grind

lemma leaseOf_cons (h : Expected ⟨msg p, msg.slice (p + 2) (msg (p + 1)).toNat⟩) :
    leaseOf (⟨msg p, msg.slice (p + 2) (msg (p + 1)).toNat⟩ :: items) svrAddr data =
      leaseOf items svrAddr (optionData msg svrAddr p data) := by
  have four : msg p = subnetMask ∨ msg p = dhcpIPaddrLeaseTime ∨ msg p = dhcpServerIdentifier → (msg (p + 1)).toNat = 4 := by
    simpa using h.four
  have addresses (hcode : msg p = routersOnSubnet ∨ msg p = dns) : 4 ≤ (msg (p + 1)).toNat := by
    have hlen := h.addresses hcode
    rw [Mem.length_slice] at hlen
    omega
  have hsn := snField_lawful msg svrAddr p data
  have hgw := gwField_lawful msg svrAddr p data
  have hdns := dnsField_lawful msg svrAddr p data
  have hleaseTime := leaseTimeField_lawful msg svrAddr p data
  have hsip := sipField_lawful msg svrAddr p data
  simp only [snField, gwField, dnsField, leaseTimeField, sipField] at hsn hgw hdns hleaseTime hsip
  simp only [leaseOf, elim_last_cons, hsn, hgw, hdns, hleaseTime, hsip, realSip_optionData, LeaseData.mk.injEq]
  refine ⟨?_, ?_, ?_, ?_, ?_, trivial⟩
  · congr 1
    exact ite_congr rfl (fun hcode => address_slice (Nat.le_of_eq (four (.inl hcode)).symm)) fun _ => rfl
  · congr 1
    exact ite_congr rfl (fun hcode => address_slice (addresses (.inl hcode))) fun _ => rfl
  · congr 1
    exact ite_congr rfl (fun hcode => address_slice (addresses (.inr hcode))) fun _ => rfl
  · congr 1
    refine ite_congr rfl (fun hcode => ?_) fun _ => rfl
    rw [four (.inr (.inl hcode))]
    exact number_slice
  · congr 1
    exact ite_congr rfl (fun hcode => address_slice (Nat.le_of_eq (four (.inr (.inr hcode))).symm)) fun _ => rfl

/-- The loop over the options reads the items one by one. -/
lemma parseOptions_decode (e : ℕ) (h : Tlv.decode optionFormat (msg.slice p (e - p)) = some items)
    (hexpected : ∀ item ∈ items, Expected item) :
    parseOptions msg svrAddr p e data type = (leaseOf items svrAddr data, messageType items type) := by
  fun_induction parseOptions msg svrAddr p e data type generalizing items with
  | case1 p data type hlt hend =>
    obtain ⟨n, hn⟩ : ∃ n, e - p = n + 1 := ⟨e - p - 1, by omega⟩
    rw [hn, Mem.slice_succ, hend, show endOption = optionFormat.stop from rfl, Tlv.decode_stop] at h
    obtain rfl := Option.some.inj h
    rfl
  | case2 p data type hlt hend ih =>
    obtain ⟨n, hn⟩ : ∃ n, e - p = n + 1 := ⟨e - p - 1, by omega⟩
    rw [hn] at h
    by_cases hpad : msg p = padOption
    · have hnext : optionEnd msg p = p + 1 := by rw [optionEnd, if_pos hpad]
      have hdata : optionData msg svrAddr p data = data := by
        rw [optionData, hpad]
        rfl
      have htype : optionType msg p type = type := by
        rw [optionType, hpad]
        rfl
      rw [Mem.slice_succ, hpad, show padOption = optionFormat.pad from rfl, Tlv.decode_pad (by decide)] at h
      rw [hnext, hdata, htype] at ih ⊢
      exact ih (by rwa [show e - (p + 1) = n by omega]) hexpected
    · obtain ⟨rest, rfl, hrest⟩ := decode_slice hend hpad h
      have hfirst := hexpected _ List.mem_cons_self
      have hnext := optionEnd_of_expected hpad hfirst
      rw [leaseOf_cons hfirst, messageType_cons hfirst]
      refine ih ?_ fun item hitem => hexpected item (List.mem_cons_of_mem _ hitem)
      rw [hnext, show e - (p + 2 + (msg (p + 1)).toNat) = n - 1 - (msg (p + 1)).toNat by omega]
      exact hrest
  | case3 p data type hge =>
    rw [Nat.sub_eq_zero_of_le (Nat.le_of_not_lt hge), Mem.slice_zero, Tlv.decode_nil] at h
    obtain rfl := Option.some.inj h
    rfl

end walk

/-- parseDHCPMSG is the walk over the items: it returns the type of the message and leaves the values of the
last option for each field. -/
theorem parseDhcpMsg_items {c : Client} {d : Datagram} {items : List Tlv.Item} (hfrom : FromServer c d)
    (hitems : Tlv.decode optionFormat (d.bytes.drop 240) = some items) (hexpected : ∀ item ∈ items, Expected item) :
    parseDhcpMsg c (some d) =
      ({ c with msg := c.msg.fill d.bytes, data := leaseOf items d.addr c.data }, messageType items 0) := by
  have hparsed : parsed c d = (leaseOf items d.addr c.data, messageType items 0) := by
    refine parseOptions_decode _ ?_ hexpected
    rwa [Mem.slice_fill_drop]
  rw [parseDhcpMsg, if_pos hfrom.passes, hparsed]

def twoRouters : List Tlv.Item :=
  [⟨routersOnSubnet, [10, 0, 0, 1, 10, 0, 0, 2]⟩, ⟨domainName, [0x6C, 0x61, 0x6E]⟩, ⟨routersOnSubnet, [10, 0, 0, 3]⟩]

/-- An ACK with these options behind a pad octet. -/
def twoRoutersAck : Datagram :=
  ⟨serverMsg started dhcpAck server (padOption :: twoRouters.flatMap Tlv.Item.bytes), server, dhcpServerPort⟩

theorem two_routers_read : (parseDhcpMsg started (some twoRoutersAck)).2 = dhcpAck ∧
    (parseDhcpMsg started (some twoRoutersAck)).1.data.gw = #v[10, 0, 0, 3] := by
  have hitems : Tlv.decode optionFormat (twoRoutersAck.bytes.drop 240) = some (⟨dhcpMessageType, [dhcpAck]⟩ :: twoRouters) := by
    have hbytes : twoRoutersAck.bytes.drop 240 = (⟨dhcpMessageType, [dhcpAck]⟩ : Tlv.Item).bytes ++
        padOption :: twoRouters.flatMap Tlv.Item.bytes ++ [endOption] := by decide +kernel
    rw [hbytes, List.append_assoc, Tlv.decode_item (by decide), List.cons_append, show padOption = optionFormat.pad from rfl,
      Tlv.decode_pad (by decide), Tlv.decode_items (by decide), show endOption = optionFormat.stop from rfl, Tlv.decode_stop]
    rfl
  rw [parseDhcpMsg_items ⟨rfl, by decide +kernel, .inl rfl⟩ hitems (by decide)]
  exact ⟨rfl, rfl⟩

end IoLibrary.Dhcp
