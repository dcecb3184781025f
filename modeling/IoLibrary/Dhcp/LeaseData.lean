import IoLibrary.Dhcp.Foreign

/-! Where the lease data come from: the options of the messages that pass the checks of the
parser, and the DISCOVERs, which forget the server. -/
namespace IoLibrary.Dhcp

/-- The places of the options that the parser comes to, from `p` on, up to `e`. -/
def optionPlaces (msg : Mem) (p e : ℕ) : List ℕ :=
  if p < e then if msg p = endOption then [] else p :: optionPlaces msg (optionEnd msg p) e
  else []
termination_by e - p
decreasing_by
  have := lt_optionEnd msg p
  omega

/-- A field of the lease data and the option that brings it. -/
structure Field (α : Type) where
  get : LeaseData → α
  code : Byte
  read : Mem → ℕ → α

def snField : Field Ip := ⟨LeaseData.sn, subnetMask, fun msg p => ipAt msg (p + 2)⟩
def gwField : Field Ip := ⟨LeaseData.gw, routersOnSubnet, fun msg p => ipAt msg (p + 2)⟩
def dnsField : Field Ip := ⟨LeaseData.dns, dns, fun msg p => ipAt msg (p + 2)⟩
def leaseTimeField : Field ℕ :=
  ⟨LeaseData.leaseTime, dhcpIPaddrLeaseTime, fun msg p => word32 msg (p + 2)⟩
def sipField : Field Ip := ⟨LeaseData.sip, dhcpServerIdentifier, fun msg p => ipAt msg (p + 2)⟩

/-- The option, and no other, sets the field. -/
def Field.Lawful {α : Type} (f : Field α) : Prop := ∀ msg svrAddr p data,
  f.get (optionData msg svrAddr p data) = if msg p = f.code then f.read msg p else f.get data

/-- The call reads a message that passes the checks and has an option for the field with the
value `v`. -/
def Field.Carried {α : Type} (f : Field α) (c : Client) (i : Input) (v : α) : Prop :=
  ∃ d, i.received = some d ∧ passes c d ∧
    ∃ p ∈ optionPlaces (c.msg.fill d.bytes) 240 d.bytes.length,
      (c.msg.fill d.bytes) p = f.code ∧ v = f.read (c.msg.fill d.bytes) p

lemma snField_lawful : snField.Lawful := by
  intro msg svrAddr p data
  simp only [snField, optionData, subnetMask, routersOnSubnet, dns, dhcpIPaddrLeaseTime,
    dhcpServerIdentifier]
  grind

lemma gwField_lawful : gwField.Lawful := by
  intro msg svrAddr p data
  simp only [gwField, optionData, subnetMask, routersOnSubnet, dns, dhcpIPaddrLeaseTime,
    dhcpServerIdentifier]
  grind

lemma dnsField_lawful : dnsField.Lawful := by
  intro msg svrAddr p data
  simp only [dnsField, optionData, subnetMask, routersOnSubnet, dns, dhcpIPaddrLeaseTime,
    dhcpServerIdentifier]
  grind

lemma leaseTimeField_lawful : leaseTimeField.Lawful := by
  intro msg svrAddr p data
  simp only [leaseTimeField, optionData, subnetMask, routersOnSubnet, dns, dhcpIPaddrLeaseTime,
    dhcpServerIdentifier]
  grind

lemma sipField_lawful : sipField.Lawful := by
  intro msg svrAddr p data
  simp only [sipField, optionData, subnetMask, routersOnSubnet, dns, dhcpIPaddrLeaseTime,
    dhcpServerIdentifier]
  grind

section walk
variable {α : Type} {f : Field α}

/-- A field is kept, or it is that of an option on the way. -/
lemma parseOptions_field (hf : f.Lawful) (msg : Mem) (svrAddr : Ip) (p e : ℕ) (data : LeaseData)
    (type : Byte) :
    f.get (parseOptions msg svrAddr p e data type).1 = f.get data ∨
      ∃ q ∈ optionPlaces msg p e, msg q = f.code ∧
        f.get (parseOptions msg svrAddr p e data type).1 = f.read msg q := by
  fun_induction parseOptions msg svrAddr p e data type with
  | case1 p data type hlt hend => exact .inl rfl
  | case2 p data type hlt hend ih =>
    rw [optionPlaces, if_pos hlt, if_neg hend]
    rcases ih with hkept | ⟨q, hq, hcode, hread⟩
    · rw [hkept, hf msg svrAddr p data]
      by_cases hp : msg p = f.code
      · rw [if_pos hp]
        exact .inr ⟨p, List.mem_cons_self, hp, rfl⟩
      · rw [if_neg hp]
        exact .inl rfl
    · exact .inr ⟨q, List.mem_cons_of_mem p hq, hcode, hread⟩
  | case3 p data type hge => exact .inl rfl

/-- What the parser leaves of a field. -/
lemma parseDhcpMsg_field (hf : f.Lawful) (c : Client) (i : Input) :
    f.get (parseDhcpMsg c i.received).1.data = f.get c.data ∨
      f.Carried c i (f.get (parseDhcpMsg c i.received).1.data) := by
  cases hd : i.received with
  | none => exact .inl rfl
  | some d =>
    by_cases hpasses : passes c d
    · rw [parseDhcpMsg, if_pos hpasses]
      rcases parseOptions_field hf (c.msg.fill d.bytes) d.addr 240 d.bytes.length c.data 0 with
        hkept | hcarried
      · exact .inl hkept
      · exact .inr ⟨d, hd, hpasses, hcarried⟩
    · rw [parseDhcpMsg, if_neg hpasses]
      exact .inl rfl

end walk

/-- The call sends a DISCOVER. -/
def SendsDiscover (out : Outcome) : Prop :=
  ∃ c, .sendto (discoverMsg c) broadcastIp ∈ out.actions

/-- What a call does to the lease data: each field is kept or brought by an option, and the
server may be forgotten. -/
structure Changes (c : Client) (i : Input) : Prop where
  sn : (dhcpRun c i).client.data.sn = c.data.sn ∨
    snField.Carried c i (dhcpRun c i).client.data.sn
  gw : (dhcpRun c i).client.data.gw = c.data.gw ∨
    gwField.Carried c i (dhcpRun c i).client.data.gw
  dns : (dhcpRun c i).client.data.dns = c.data.dns ∨
    dnsField.Carried c i (dhcpRun c i).client.data.dns
  leaseTime : (dhcpRun c i).client.data.leaseTime = c.data.leaseTime ∨
    leaseTimeField.Carried c i (dhcpRun c i).client.data.leaseTime
  sip : (dhcpRun c i).client.data.sip = c.data.sip ∨
    sipField.Carried c i (dhcpRun c i).client.data.sip ∨
    (dhcpRun c i).client.data.sip = zeroIp ∧ SendsDiscover (dhcpRun c i)

lemma sendsDiscover_checkDhcpTimeout {c : Client} (h : c.Restarts) :
    SendsDiscover (checkDhcpTimeout c) := by
  rw [checkDhcpTimeout]
  rcases h with ⟨hstate, hretry, htick⟩ | ⟨hstate, hretry⟩
  · rw [if_pos hretry, if_pos htick, hstate]
    exact ⟨c, List.mem_singleton.2 rfl⟩
  · rw [if_neg (Nat.not_lt.2 hretry)]
    rcases hstate with hstate | hstate
    · rw [hstate]
      exact ⟨c, List.mem_singleton.2 rfl⟩
    · rw [hstate]
      exact ⟨c, List.mem_singleton.2 rfl⟩

lemma sendsDiscover_dhcpSwitch {c : Client} {type : Byte} (h : c.Discovers type) :
    SendsDiscover (dhcpSwitch c type) := by
  rw [dhcpSwitch]
  rcases h with hinit | ⟨hacts, hrestarts⟩
  · rw [hinit]
    exact ⟨_, List.mem_singleton.2 rfl⟩
  · have hsends := sendsDiscover_checkDhcpTimeout hrestarts
    have hstates : c.state = .discover ∨ c.state = .request ∨ c.state = .rerequest := by
      rcases hrestarts with ⟨hstate, -⟩ | ⟨hstate, -⟩
      · exact .inl hstate
      · exact .inr hstate
    rcases hstates with hstate | hstate | hstate
    · have hoffer : type ≠ dhcpOffer := fun htype => hacts (.inl ⟨hstate, htype⟩)
      simpa [hstate, hoffer] using hsends
    · have hack : type ≠ dhcpAck := fun htype => hacts (.inr ⟨.inl hstate, .inl htype⟩)
      have hnak : type ≠ dhcpNak := fun htype => hacts (.inr ⟨.inl hstate, .inr htype⟩)
      simpa [hstate, hack, hnak] using hsends
    · have hack : type ≠ dhcpAck := fun htype => hacts (.inr ⟨.inr hstate, .inl htype⟩)
      have hnak : type ≠ dhcpNak := fun htype => hacts (.inr ⟨.inr hstate, .inr htype⟩)
      simpa [hstate, hack, hnak] using hsends

/-- A call leaves the data of the parser, or forgets the server and sends a DISCOVER. -/
lemma dhcpRun_data (c : Client) (i : Input) :
    (dhcpRun c i).client.data = c.data ∨
    (dhcpRun c i).client.data = (parseDhcpMsg c i.received).1.data ∨
    (dhcpRun c i).client.data = (parseDhcpMsg c i.received).1.data.forget ∧
      SendsDiscover (dhcpRun c i) := by
  by_cases hstop : c.state = .stop
  · rw [dhcpRun_stop i hstop]
    exact .inl rfl
  · have hcore := dhcpRun_core i hstop
    rw [dhcpSwitch_core] at hcore
    have hdata := congrArg Core.data hcore
    by_cases hdiscovers : (parseDhcpMsg c i.received).1.Discovers (parseDhcpMsg c i.received).2
    · rw [if_pos hdiscovers] at hdata
      refine .inr (.inr ⟨hdata, ?_⟩)
      obtain ⟨sender, hmem⟩ := sendsDiscover_dhcpSwitch hdiscovers
      rw [dhcpRun, if_neg hstop]
      exact ⟨sender, List.mem_append_right _ hmem⟩
    · rw [if_neg hdiscovers] at hdata
      exact .inr (.inl hdata)

lemma dhcpRun_field {α : Type} {f : Field α} (hf : f.Lawful)
    (hforget : ∀ data, f.get (LeaseData.forget data) = f.get data) (c : Client) (i : Input) :
    f.get (dhcpRun c i).client.data = f.get c.data ∨
      f.Carried c i (f.get (dhcpRun c i).client.data) := by
  have hparsed := parseDhcpMsg_field hf c i
  rcases dhcpRun_data c i with hdata | hdata | ⟨hdata, -⟩
  · rw [hdata]
    exact .inl rfl
  · rw [hdata]
    exact hparsed
  · rw [hdata, hforget]
    exact hparsed

lemma dhcpRun_sip (c : Client) (i : Input) :
    (dhcpRun c i).client.data.sip = c.data.sip ∨
      sipField.Carried c i (dhcpRun c i).client.data.sip ∨
      (dhcpRun c i).client.data.sip = zeroIp ∧ SendsDiscover (dhcpRun c i) := by
  rcases dhcpRun_data c i with hdata | hdata | ⟨hdata, hsends⟩
  · rw [hdata]
    exact .inl rfl
  · rw [hdata]
    exact (parseDhcpMsg_field sipField_lawful c i).imp_right .inl
  · rw [hdata]
    exact .inr (.inr ⟨rfl, hsends⟩)

lemma changes (c : Client) (i : Input) : Changes c i where
  sn := dhcpRun_field snField_lawful (fun _ => rfl) c i
  gw := dhcpRun_field gwField_lawful (fun _ => rfl) c i
  dns := dhcpRun_field dnsField_lawful (fun _ => rfl) c i
  leaseTime := dhcpRun_field leaseTimeField_lawful (fun _ => rfl) c i
  sip := dhcpRun_sip c i

/-- `P` of the client before each operation of a run, and the operation. -/
def EachOp (start : Client) (ops : List Op) (P : Client → Op → Prop) : Prop :=
  ∀ before op after, ops = before ++ op :: after → P (start.after before) op

/-- What an operation does to the lease data: DHCP_run as `Changes` says, the others nothing. -/
def OpChanges (c : Client) : Op → Prop
  | .run i => Changes c i
  | op => (c.step op).data = c.data

/-- Options as a server writes them, up to the end option, of at most `n` bytes. -/
def optionsWellFormed : ℕ → List Byte → Bool
  | 0, _ => false
  | _ + 1, [] => false
  | n + 1, code :: rest =>
    if code = endOption then true
    else if code = padOption then optionsWellFormed n rest
    else match rest with
      | [] => false
      | len :: body => len.toNat ≤ body.length && optionsWellFormed n (body.drop len.toNat)

/-- A reply of the chosen server to the client, with well-formed options. -/
def Datagram.WellFormed (d : Datagram) (c : Client) : Prop :=
  ¬ Foreign c d ∧ optionsWellFormed d.bytes.length (d.bytes.drop 240) = true

/-- The call accepts an OFFER in DISCOVER or an ACK in REQUEST or REREQUEST. -/
def Accepts (c : Client) (i : Input) : Prop :=
  c.state = .discover ∧ (parseDhcpMsg c i.received).2 = dhcpOffer ∨
    (c.state = .request ∨ c.state = .rerequest) ∧ (parseDhcpMsg c i.received).2 = dhcpAck

/-- The claim on a run: where all datagrams are well formed, the data change only in the calls
that accept a lease. -/
def ChangesOnAccept (start : Client) (ops : List Op) : Prop :=
  EachRead start ops (fun c _ d => d.WellFormed c) →
    EachOp start ops fun c op => ∀ i, op = .run i → ¬ Accepts c i →
      let data := (dhcpRun c i).client.data
      (data.sn, data.gw, data.dns, data.leaseTime, data.sip) =
        (c.data.sn, c.data.gw, c.data.dns, c.data.leaseTime, c.data.sip)

section computed

instance (c : Client) (d : Datagram) : Decidable (Foreign c d) := by
  unfold Foreign
  infer_instance

instance (d : Datagram) (c : Client) : Decidable (d.WellFormed c) :=
  inferInstanceAs (Decidable (_ ∧ _))

instance (c : Client) (i : Input) : Decidable (Accepts c i) := inferInstanceAs (Decidable (_ ∨ _))

def readWellFormed (c : Client) : Op → Bool
  | .run i => i.received.all fun d => decide (d.WellFormed c)
  | _ => true

/-- All datagrams that a run reads are well formed, computed along the run. -/
def readsWellFormed : Client → List Op → Bool
  | _, [] => true
  | c, op :: ops => readWellFormed c op && readsWellFormed (c.step op) ops

lemma eachRead_of_readsWellFormed {start : Client} {ops : List Op}
    (h : readsWellFormed start ops = true) : EachRead start ops fun c _ d => d.WellFormed c := by
  induction ops generalizing start with
  | nil =>
    intro before i after d hops
    exact absurd hops.symm (by simp)
  | cons op ops ih =>
    intro before i after d hops hd
    obtain ⟨hfirst, hrest⟩ := Bool.and_eq_true_iff.1 h
    cases before with
    | nil =>
      obtain ⟨rfl, -⟩ := List.cons.inj hops
      rw [readWellFormed, hd] at hfirst
      exact of_decide_eq_true hfirst
    | cons first before =>
      obtain ⟨rfl, htail⟩ := List.cons.inj hops
      exact ih hrest before i after d htail hd

end computed

/-- A NAK with a subnet mask, in REQUEST. -/
def nakWithMask : List Op :=
  [reading dhcpNak zeroIp (addressOption subnetMask #v[255, 255, 0, 0])]

def idle : Op := .run ⟨true, none⟩

/-- No answer to the REQUEST until the retries are over. -/
def unanswered : List Op :=
  List.replicate 11 .tick ++ [idle] ++ List.replicate 11 .tick ++ [idle]

end IoLibrary.Dhcp
