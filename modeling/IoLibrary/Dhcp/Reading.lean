import IoLibrary.Dhcp.Options
import IoLibrary.Effects.Faults

/-! parseDHCPMSG load by load: what it needs of recvfrom so as to stay inside the message. -/
namespace IoLibrary.Dhcp
open Effects

def ripMsgSize : ℕ := 236 + optSize

/-- The size that the chip reports, and what recvfrom does: the value that it returns, the bytes that it
stores at the beginning of the message buffer, and the source, if it sets it. -/
structure Arrival where
  size : ℕ
  ret : ℤ
  stored : List Byte
  source : Option (Ip × ℕ)

/-- What the parser must not do: let recvfrom store more than the buffer holds, load a byte that recvfrom has not
stored, or use a source that it has not set. -/
inductive Fault
  | overlong
  | undelivered
  | unset

abbrev Parse := StateT LeaseData (Except Fault)

section program
variable (a : Arrival)

def Arrival.byte (i : ℕ) : Parse Byte :=
  match a.stored[i]? with
  | some b => return b
  | none => throw .undelivered

def Arrival.ip (i : ℕ) : Parse Ip := do
  let b₀ ← a.byte i
  let b₁ ← a.byte (i + 1)
  let b₂ ← a.byte (i + 2)
  let b₃ ← a.byte (i + 3)
  return #[b₀, b₁, b₂, b₃].toVector

/-- svr_addr and svr_port -/
def Arrival.svr : Parse (Ip × ℕ) :=
  match a.source with
  | some svr => return svr
  | none => throw .unset

/-- Whether the bytes from `i` on differ from the given ones; the first difference ends the comparison. -/
def Arrival.differs : List Byte → ℕ → Parse Bool
  | [], _ => return false
  | x :: rest, i => do
    let b ← a.byte i
    if b ≠ x then return true else Arrival.differs rest (i + 1)

/-- A turn of the switch for the option at `p`, with this code: the place after it and the type. -/
def parseOption (svrAddr : Ip) (code : Byte) (p : ℕ) (type : Byte) : Parse (ℕ × Byte) :=
  if code = padOption then return (p + 1, type)
  else if code = dhcpMessageType then do
    let type ← a.byte (p + 2)
    return (p + 3, type)
  else if code = subnetMask then do
    let sn ← a.ip (p + 2)
    modify fun data => { data with sn := sn }
    return (p + 6, type)
  else if code = routersOnSubnet then do
    let optLen ← a.byte (p + 1)
    let gw ← a.ip (p + 2)
    modify fun data => { data with gw := gw }
    return (p + 2 + optLen.toNat, type)
  else if code = dns then do
    let optLen ← a.byte (p + 1)
    let dns ← a.ip (p + 2)
    modify fun data => { data with dns := dns }
    return (p + 2 + optLen.toNat, type)
  else if code = dhcpIPaddrLeaseTime then do
    let _ ← a.byte (p + 1)
    let time ← a.ip (p + 2)
    modify fun data => { data with leaseTime := number time.toList }
    return (p + 6, type)
  else if code = dhcpServerIdentifier then do
    let _ ← a.byte (p + 1)
    let sip ← a.ip (p + 2)
    modify fun data => { data with sip := sip, realSip := svrAddr }
    return (p + 6, type)
  else do
    let optLen ← a.byte (p + 1)
    return (p + 2 + optLen.toNat, type)

/-- The loop over the options, with at most `turns` turns. -/
def parseLoop (svrAddr : Ip) (e : ℕ) : ℕ → ℕ → Byte → Parse Byte
  | 0, _, type => return type
  | turns + 1, p, type =>
    if p < e then do
      let code ← a.byte p
      if code = endOption then return type
      else
        let (p, type) ← parseOption a svrAddr code p type
        parseLoop svrAddr e turns p type
    else return type

/-- The server is another than the one chosen. -/
def Refuses (data : LeaseData) (svrAddr : Ip) : Prop :=
  data.sip ≠ zeroIp ∧ svrAddr ≠ data.sip ∧ svrAddr ≠ data.realSip

instance (data : LeaseData) (svrAddr : Ip) : Decidable (Refuses data svrAddr) := inferInstanceAs (Decidable (_ ∧ _ ∧ _))

/-- The uint16_t that the result of recvfrom is put in. -/
def Arrival.len : ℕ := (a.ret % 2 ^ 16).toNat

/-- parseDHCPMSG; every turn of its loop steps over a byte at least. -/
def parseArrival (chaddr : Mac) : Parse Byte := do
  if a.size = 0 then return 0
  else if ripMsgSize < a.size then throw .overlong
  else
    let (svrAddr, svrPort) ← a.svr
    if svrPort ≠ dhcpServerPort then return 0
    else if ← a.differs chaddr.toList 28 then return 0
    else if Refuses (← get) svrAddr then return 0
    else parseLoop a svrAddr a.len a.len 240 0

end program

/-- The bytes that the parser loads behind the code of an option. -/
def loaded (code : Byte) : ℕ :=
  if code = dhcpMessageType then 2
  else if code = subnetMask ∨ code = routersOnSubnet ∨ code = dns ∨ code = dhcpIPaddrLeaseTime ∨ code = dhcpServerIdentifier then 5
  else 1

/-- The bytes behind the code that it steps over. -/
def span (code : Byte) (rest : List Byte) : ℕ :=
  if code = dhcpMessageType then 2
  else if code = subnetMask ∨ code = dhcpIPaddrLeaseTime ∨ code = dhcpServerIdentifier then 5
  else 1 + (rest.headD 0).toNat

/-- Of the options in the first `n` bytes, up to an end option, what is loaded is in the list. -/
def Contained : ℕ → List Byte → Prop
  | 0, _ => True
  | _ + 1, [] => False
  | n + 1, code :: rest =>
    if code = endOption then True
    else if code = padOption then Contained n rest
    else loaded code ≤ rest.length ∧ Contained (n - span code rest) (rest.drop (span code rest))
termination_by n => n
decreasing_by
  · omega
  · omega

/-- Nothing has been received; or the size is within the buffer, the source is set, and the message is
turned down by bytes that have been delivered, or its options are in them. -/
def Safe (chaddr : Mac) (data : LeaseData) (a : Arrival) : Prop :=
  a.size = 0 ∨ a.size ≤ ripMsgSize ∧ ∃ svrAddr svrPort, a.source = some (svrAddr, svrPort) ∧
    (svrPort = dhcpServerPort → (a.stored.drop 28).take 6 <+: chaddr.toList →
      (a.stored.drop 28).take 6 = chaddr.toList ∧ (¬ Refuses data svrAddr → Contained (a.len - 240) (a.stored.drop 240)))

section loads
variable {a : Arrival} {m : Mem} {data : LeaseData} {svrAddr : Ip} {type : Byte} {p : ℕ}

lemma lands_byte (m : Mem) {i : ℕ} {Q : Byte → LeaseData → Prop} :
    lands (fun _ => False) (a.byte i) Q data ↔ i < a.stored.length ∧ Q (m.fill a.stored i) data := by
  rw [Arrival.byte]
  by_cases h : i < a.stored.length
  · simp [Mem.fill, h]
  · simp [h]

lemma lands_ip (m : Mem) {i : ℕ} {Q : Ip → LeaseData → Prop} :
    lands (fun _ => False) (a.ip i) Q data ↔ i + 3 < a.stored.length ∧ Q (ipAt (m.fill a.stored) i) data := by
  simp only [Arrival.ip, lands_bind, lands_byte m, lands_pure, ← and_assoc]
  refine and_congr ?_ Iff.rfl
  omega

/-- The comparison stays inside as long as a difference is inside. -/
lemma lands_differs {expected : List Byte} {i : ℕ} {Q : Bool → LeaseData → Prop} :
    lands (fun _ => False) (a.differs expected i) Q data ↔
      if (a.stored.drop i).take expected.length = expected then Q false data
      else ¬ (a.stored.drop i).take expected.length <+: expected ∧ Q true data := by
  induction expected generalizing i with
  | nil => simp [Arrival.differs]
  | cons x rest ih =>
    rw [Arrival.differs, lands_bind, lands_byte (fun _ => 0)]
    by_cases hi : i < a.stored.length
    · have hdrop : a.stored.drop i = (Mem.fill (fun _ => 0) a.stored i) :: a.stored.drop (i + 1) := by
        rw [List.drop_eq_getElem_cons hi]
        simp [Mem.fill, hi]
      rw [and_iff_right hi, hdrop, List.length_cons, List.take_succ_cons, lands_ite]
      generalize Mem.fill (fun _ => 0) a.stored i = b
      by_cases hb : b = x
      · subst hb
        rw [if_neg (not_not.2 rfl), ih]
        simp [List.cons_prefix_cons]
      · rw [if_pos hb]
        simp [hb, List.cons_prefix_cons]
    · have hdrop : a.stored.drop i = [] := List.drop_eq_nil_of_le (Nat.le_of_not_lt hi)
      simp [hi, hdrop]

lemma number_ip (m : Mem) (i : ℕ) : number (ipAt m i).toList = word32 m i :=
  number_slice

/-- A turn of the switch loads what `loaded` says, and does what the parser does. -/
lemma lands_parseOption (m : Mem) {Q : ℕ × Byte → LeaseData → Prop} :
    lands (fun _ => False) (parseOption a svrAddr (m.fill a.stored p) p type) Q data ↔
      (m.fill a.stored p = padOption ∨ p + loaded (m.fill a.stored p) < a.stored.length) ∧
        Q (optionEnd (m.fill a.stored) p, optionType (m.fill a.stored) p type)
          (optionData (m.fill a.stored) svrAddr p data) := by
  generalize hcode : m.fill a.stored p = code
  have hfive {P : Prop} : p + 2 + 3 < a.stored.length ∧ P ↔ p + 5 < a.stored.length ∧ P := Iff.rfl
  have hsix {P : Prop} : p + 1 < a.stored.length ∧ p + 2 + 3 < a.stored.length ∧ P ↔ p + 5 < a.stored.length ∧ P := by
    rw [← and_assoc]
    exact and_congr (by omega) Iff.rfl
  simp only [parseOption, lands_ite, lands_bind, lands_byte m, lands_ip m, lands_pure, lands_modify, number_ip, hsix, hfive,
    optionEnd, optionType, optionData, hcode, loaded]
  by_cases hpad : code = padOption
  · subst hpad
    simp [padOption, dhcpMessageType, subnetMask, routersOnSubnet, dns, dhcpIPaddrLeaseTime, dhcpServerIdentifier]
  by_cases htype : code = dhcpMessageType
  · subst htype
    simp [padOption, dhcpMessageType, subnetMask, routersOnSubnet, dns, dhcpIPaddrLeaseTime, dhcpServerIdentifier]
  by_cases hsn : code = subnetMask
  · subst hsn
    simp [padOption, dhcpMessageType, subnetMask]
  by_cases hgw : code = routersOnSubnet
  · subst hgw
    simp [padOption, dhcpMessageType, subnetMask, routersOnSubnet, dhcpIPaddrLeaseTime, dhcpServerIdentifier]
  by_cases hdns : code = dns
  · subst hdns
    simp [padOption, dhcpMessageType, subnetMask, routersOnSubnet, dns, dhcpIPaddrLeaseTime, dhcpServerIdentifier]
  by_cases htime : code = dhcpIPaddrLeaseTime
  · subst htime
    simp [padOption, dhcpMessageType, subnetMask, routersOnSubnet, dns, dhcpIPaddrLeaseTime]
  by_cases hsip : code = dhcpServerIdentifier
  · subst hsip
    simp [padOption, dhcpMessageType, subnetMask, routersOnSubnet, dns, dhcpIPaddrLeaseTime, dhcpServerIdentifier]
  · simp [hpad, htype, hsn, hgw, hdns, htime, hsip]

/-- The option at `p`, in the bytes and in the memory. -/
lemma contained_drop (m : Mem) (n : ℕ) (hp : p < a.stored.length) : Contained (n + 1) (a.stored.drop p) ↔
    m.fill a.stored p = endOption ∨
      (m.fill a.stored p = padOption ∨ p + loaded (m.fill a.stored p) < a.stored.length) ∧
        Contained (p + (n + 1) - optionEnd (m.fill a.stored) p) (a.stored.drop (optionEnd (m.fill a.stored) p)) := by
  have hcode : m.fill a.stored p = a.stored[p] := by simp [Mem.fill, hp]
  have hone {code : Byte} : 1 ≤ loaded code := by
    rw [loaded]
    split_ifs <;> omega
  rw [List.drop_eq_getElem_cons hp, Contained, ← hcode, List.length_drop, List.drop_drop]
  by_cases hend : m.fill a.stored p = endOption
  · rw [if_pos hend]
    exact iff_of_true trivial (.inl hend)
  rw [if_neg hend, or_iff_right hend]
  by_cases hpad : m.fill a.stored p = padOption
  · have hnext : optionEnd (m.fill a.stored) p = p + 1 := by rw [optionEnd, if_pos hpad]
    rw [if_pos hpad, and_iff_right (.inl hpad), hnext, show p + (n + 1) - (p + 1) = n by omega]
  · rw [if_neg hpad, or_iff_right hpad]
    have hinside : loaded (m.fill a.stored p) ≤ a.stored.length - (p + 1) ↔ p + loaded (m.fill a.stored p) < a.stored.length := by
      omega
    rw [hinside]
    refine and_congr_right fun hloaded => ?_
    have hlength : (a.stored.drop (p + 1)).headD 0 = m.fill a.stored (p + 1) := by
      have hp' : p + 1 < a.stored.length := Nat.lt_of_le_of_lt (Nat.add_le_add_left hone p) hloaded
      rw [List.drop_eq_getElem_cons hp']
      simp [Mem.fill, hp']
    have hnext : optionEnd (m.fill a.stored) p = p + 1 + span (m.fill a.stored p) (a.stored.drop (p + 1)) := by
      rw [optionEnd, if_neg hpad, span, hlength]
      split_ifs <;> omega
    rw [hnext, show p + (n + 1) - (p + 1 + span (m.fill a.stored p) (a.stored.drop (p + 1))) =
      n - span (m.fill a.stored p) (a.stored.drop (p + 1)) by omega]

/-- The loop stays inside as long as its options do, and does what the parser does. -/
lemma lands_parseLoop (m : Mem) {e turns : ℕ} (hturns : e ≤ p + turns) {Q : Byte → LeaseData → Prop} :
    lands (fun _ => False) (parseLoop a svrAddr e turns p type) Q data ↔ Contained (e - p) (a.stored.drop p) ∧
      Q (parseOptions (m.fill a.stored) svrAddr p e data type).2 (parseOptions (m.fill a.stored) svrAddr p e data type).1 := by
  induction turns generalizing p type data with
  | zero =>
    have hle : e ≤ p := hturns
    rw [parseLoop, lands_pure, Nat.sub_eq_zero_of_le hle, Contained, true_and, parseOptions, if_neg (Nat.not_lt.2 hle)]
  | succ turns ih =>
    rw [parseLoop, lands_ite, parseOptions]
    by_cases hlt : p < e
    · obtain ⟨n, rfl⟩ : ∃ n, e = p + (n + 1) := ⟨e - p - 1, by omega⟩
      rw [if_pos hlt, if_pos hlt, Nat.add_sub_cancel_left, lands_bind, lands_byte m]
      by_cases hp : p < a.stored.length
      · rw [and_iff_right hp, lands_ite, contained_drop m n hp]
        by_cases hend : m.fill a.stored p = endOption
        · simp [hend]
        · rw [if_neg hend, if_neg hend, or_iff_right hend, lands_bind, lands_parseOption m, and_assoc]
          refine and_congr_right fun _ => ih ?_
          have hstep := lt_optionEnd (m.fill a.stored) p
          omega
      · rw [List.drop_eq_nil_of_le (Nat.le_of_not_lt hp), Contained]
        simp [hp]
    · rw [if_neg hlt, if_neg hlt, Nat.sub_eq_zero_of_le (Nat.le_of_not_lt hlt), Contained, true_and, lands_pure]

end loads

section arrivals
variable (m : Mem) (chaddr : Mac) (data : LeaseData) (a : Arrival)

/-- What the parser leaves of the lease data, and the type that it returns. -/
def answer : LeaseData × Byte :=
  match a.source with
  | none => (data, 0)
  | some (svrAddr, svrPort) =>
    if a.size ≠ 0 ∧ svrPort = dhcpServerPort ∧ (a.stored.drop 28).take 6 = chaddr.toList ∧ ¬ Refuses data svrAddr then
      parseOptions (m.fill a.stored) svrAddr 240 a.len data 0
    else (data, 0)

lemma lands_parseArrival {Q : Byte → LeaseData → Prop} : lands (fun _ => False) (parseArrival a chaddr) Q data ↔
    Safe chaddr data a ∧ Q (answer m chaddr data a).2 (answer m chaddr data a).1 := by
  rw [Safe, parseArrival, lands_ite, answer]
  by_cases hsize : a.size = 0
  · cases a.source with
    | none => simp [hsize]
    | some svr => simp [hsize]
  rw [if_neg hsize, or_iff_right hsize, lands_ite]
  by_cases hlong : ripMsgSize < a.size
  · rw [if_pos hlong, lands_throw]
    exact iff_of_false id fun h => Nat.not_le.2 hlong h.1.1
  rw [if_neg hlong, and_iff_right (Nat.le_of_not_lt hlong), lands_bind, Arrival.svr]
  cases hsource : a.source with
  | none => simp
  | some svr =>
    obtain ⟨svrAddr, svrPort⟩ := svr
    simp only [Option.some.injEq, Prod.mk.injEq, lands_pure, lands_ite, lands_bind, lands_get, lands_differs]
    have hexists {P : Ip → ℕ → Prop} : (∃ addr port, (svrAddr = addr ∧ svrPort = port) ∧ P addr port) ↔ P svrAddr svrPort := by
      constructor
      · rintro ⟨_, _, ⟨rfl, rfl⟩, h⟩
        exact h
      · exact fun h => ⟨_, _, ⟨rfl, rfl⟩, h⟩
    rw [hexists, Vector.length_toList]
    by_cases hport : svrPort = dhcpServerPort
    · rw [if_neg (not_not.2 hport), forall_prop_of_true hport]
      by_cases hmac : (a.stored.drop 28).take 6 = chaddr.toList
      · have hprefix : (a.stored.drop 28).take 6 <+: chaddr.toList := hmac ▸ List.prefix_rfl
        rw [if_pos hmac, if_neg Bool.false_ne_true, forall_prop_of_true hprefix, and_iff_right hmac]
        by_cases hrefuses : Refuses data svrAddr
        · simp [hrefuses]
        · rw [if_neg hrefuses, forall_prop_of_true hrefuses, lands_parseLoop m (by omega),
            if_pos ⟨hsize, hport, hmac, hrefuses⟩]
      · rw [if_neg hmac, if_pos trivial, if_neg fun h => hmac h.2.2.1]
        refine and_congr_left fun _ => ⟨fun h hprefix => absurd hprefix h, fun h hprefix => hmac (h hprefix).1⟩
    · rw [if_pos hport, if_neg fun h => hport h.2.1]
      exact (and_iff_right fun h => absurd h hport).symm

/-- The parser stays inside the message exactly for the safe arrivals. -/
theorem arrival_inside_iff : (∃ type data', parseArrival a chaddr data = .ok (type, data')) ↔ Safe chaddr data a := by
  rw [← lands_returns, lands_parseArrival (fun _ => 0), and_true]

/-- recvfrom has failed, and nothing is set. -/
def failedRecv : Arrival := ⟨300, -7, [], none⟩

theorem failed_recv_used : ¬ ∀ chaddr data a, ∃ type data', parseArrival a chaddr data = .ok (type, data') := by
  intro hall
  obtain ⟨type, data', h⟩ := hall started.chaddr started.data failedRecv
  cases h

end arrivals

/-- Inside the message the parser is the one that DHCP_run is modelled with. -/
lemma parseDhcpMsg_of_parseArrival {c : Client} {a : Arrival} {svrAddr : Ip} {svrPort : ℕ} {type : Byte} {data : LeaseData}
    (hsize : a.size ≠ 0) (hsource : a.source = some (svrAddr, svrPort)) (hret : a.ret = a.stored.length)
    (hlt : a.stored.length < 2 ^ 16) (h : parseArrival a c.chaddr c.data = .ok (type, data)) :
    parseDhcpMsg c (some ⟨a.stored, svrAddr, svrPort⟩) = ({ c with msg := c.msg.fill a.stored, data := data }, type) := by
  have hlands : lands (fun _ => False) (parseArrival a c.chaddr) (fun t d => t = type ∧ d = data) c.data :=
    lands_iff.2 ⟨type, data, h, rfl, rfl⟩
  obtain ⟨hsafe, htype, hdata⟩ := (lands_parseArrival c.msg c.chaddr c.data a).1 hlands
  have hlen : a.len = a.stored.length := by
    rw [Arrival.len, hret]
    omega
  have hpasses : passes c ⟨a.stored, svrAddr, svrPort⟩ ↔ a.size ≠ 0 ∧ svrPort = dhcpServerPort ∧
      (a.stored.drop 28).take 6 = c.chaddr.toList ∧ ¬ Refuses c.data svrAddr := by
    have hsource' : ¬ Refuses c.data svrAddr ↔ c.data.sip = zeroIp ∨ svrAddr = c.data.sip ∨ svrAddr = c.data.realSip := by
      simp only [Refuses, ne_eq, not_and_or, not_not]
    rw [hsource', and_iff_right hsize]
    refine ⟨fun hp => ⟨hp.1, ?_, hp.2.2⟩, fun hp => FromServer.passes ⟨hp.1, hp.2.1, hp.2.2⟩⟩
    -- the bytes that are delivered agree with the address, and so all of them are delivered
    have hprefix : (a.stored.drop 28).take 6 <+: c.chaddr.toList := by
      rw [← hp.2.1]
      exact c.msg.take_drop_prefix a.stored 6 28
    obtain hzero | ⟨-, addr, port, hsvr, hsafe⟩ := hsafe
    · exact absurd hzero hsize
    · rw [hsource, Option.some.injEq, Prod.mk.injEq] at hsvr
      exact (hsafe (hsvr.2 ▸ hp.1) hprefix).1
  rw [answer, hsource] at htype hdata
  rw [parseDhcpMsg]
  by_cases hp : passes c ⟨a.stored, svrAddr, svrPort⟩
  · rw [if_pos hp]
    simp only [if_pos (hpasses.1 hp), hlen] at htype hdata
    rw [← htype, ← hdata]
    rfl
  · rw [if_neg hp]
    simp only [if_neg (hpasses.not.1 hp)] at htype hdata
    rw [← htype, ← hdata]

end IoLibrary.Dhcp
