import IoLibrary.Dhcp6.Run

/-! Where a lease comes from: DHCP6_run takes one as soon as it is in REQUEST, and reads no message
with the parser of DHCPv6. -/
namespace IoLibrary.Dhcp6
open Effects
open Dhcp (Mac)

/-- The call has parsed, in REQUEST, a reply to the client that grants `ip`. -/
def Outcome.Grants (out : Outcome) (ip : Ip6) : Prop :=
  ∃ m, out.parsed = some m ∧ m.state = .request ∧ IsReply m.xid ip m.bytes

/-- A call of DHCP6_run reports a lease, and writes an address, only once a reply has granted that
address. The calls before it are recorded. -/
def FromReply (s : Client × List Outcome) : Op → Prop
  | .run i =>
    let out := (dhcp6Run s.1 i).2
    out.ret = dhcp6IpLeased ∨ out.gua ≠ none →
      ∃ ip, (∃ o ∈ s.2 ++ [out], o.Grants ip) ∧ ∀ given, out.gua = some given → given = ip
  | _ => True

/-- The type that parseDHCPMSG gives to the call. -/
def typeRead (c : Client) (i : Input) : Byte := (Dhcp.parseDhcpMsg c.dhcp i.received).2

/-- The call is not made in REQUEST, and does not take the code of a lease for the result of
send_DHCP_REQUEST. -/
def KeepsOut (c : Client) : Op → Prop
  | .run i => c.state ≠ .request ∧
      ¬ (c.state = .solicit ∧ typeRead c i = dhcp6Advertise ∧ i.left = dhcp6IpLeased)
  | _ => True

/-- The operation is not a call of the other client of dhcpv6.c. -/
def Op.OfRun : Op → Prop
  | .run2 _ _ => False
  | _ => True

lemma dhcp6Run_parsed (c : Client) (i : Input) : (dhcp6Run c i).2.parsed = none := by
  rw [dhcp6Run]
  split
  · rfl
  · simp only [dhcp6Switch]
    split
    · rfl
    · split
      · split
        · rfl
        · rfl
      · rfl
    · rfl
    · rfl

/-- A call takes a lease exactly where it is made in REQUEST or is misled by the result of
send_DHCP_REQUEST. -/
lemma dhcp6Run_leases (c : Client) (i : Input) :
    ((dhcp6Run c i).2.ret = dhcp6IpLeased ∨ (dhcp6Run c i).2.gua ≠ none) ↔
      ¬ KeepsOut c (.run i) := by
  have hcodes : dhcp6Running ≠ dhcp6IpLeased ∧ dhcp6Stopped ≠ dhcp6IpLeased ∧
    0#8 ≠ dhcp6IpLeased ∧ 9#8 ≠ dhcp6IpLeased := by decide
  cases hstate : c.state with
  | solicit =>
    by_cases htype : typeRead c i = dhcp6Advertise
    · have htype' := htype
      rw [typeRead] at htype'
      by_cases hleft : i.left = 9#8
      · simp [dhcp6Run, dhcp6Switch, KeepsOut, Outcome.empty, hstate, htype, htype', hleft, hcodes]
      · simp [dhcp6Run, dhcp6Switch, KeepsOut, Outcome.empty, hstate, htype, htype', hleft]
    · have htype' := htype
      rw [typeRead] at htype'
      simp [dhcp6Run, dhcp6Switch, KeepsOut, Outcome.empty, hstate, htype, htype', hcodes]
  | request => simp [dhcp6Run, dhcp6Switch, KeepsOut, Outcome.empty, hstate]
  | stop => simp [dhcp6Run, KeepsOut, Outcome.empty, hstate, hcodes]
  | init => simp [dhcp6Run, dhcp6Switch, KeepsOut, Outcome.empty, hstate, hcodes]
  | leased => simp [dhcp6Run, dhcp6Switch, KeepsOut, Outcome.empty, hstate, hcodes]
  | rerequest => simp [dhcp6Run, dhcp6Switch, KeepsOut, Outcome.empty, hstate, hcodes]
  | release => simp [dhcp6Run, dhcp6Switch, KeepsOut, Outcome.empty, hstate, hcodes]

/-- No call has parsed a message of DHCPv6. -/
def Unread (s : Client × List Outcome) : Prop := ∀ out ∈ s.2, out.parsed = none

lemma unread_step {s : Client × List Outcome} {op : Op} (hop : op.OfRun) (h : Unread s) :
    Unread (client.recorded s op).1 := by
  have hlast : (client s.1 op).2.parsed = none := by
    cases op with
    | run i => exact dhcp6Run_parsed s.1 i
    | run2 udp received => exact hop.elim
    | init shar buf => rfl
    | stop => rfl
    | dhcp op => rfl
  intro out hout
  rcases List.mem_append.1 hout with hout | hout
  · exact h out hout
  · rw [List.mem_singleton.1 hout]
    exact hlast

lemma fromReply_iff {s : Client × List Outcome} (h : Unread s) (op : Op) :
    FromReply s op ↔ KeepsOut s.1 op := by
  cases op with
  | run i =>
    have hnone (ip : Ip6) : ¬ ∃ o ∈ s.2 ++ [(dhcp6Run s.1 i).2], o.Grants ip := by
      rintro ⟨o, ho, m, hm, -⟩
      have hunread : o.parsed = none := by
        rcases List.mem_append.1 ho with ho | ho
        · exact h o ho
        · rw [List.mem_singleton.1 ho]
          exact dhcp6Run_parsed s.1 i
      rw [hunread] at hm
      cases hm
    constructor
    · intro hreply
      by_contra hnot
      obtain ⟨ip, hgrant, -⟩ := hreply ((dhcp6Run_leases s.1 i).2 hnot)
      exact hnone ip hgrant
    · intro hkeeps hleases
      exact absurd hkeeps ((dhcp6Run_leases s.1 i).1 hleases)
  | run2 udp received => simp [FromReply, KeepsOut]
  | init shar buf => simp [FromReply, KeepsOut]
  | stop => simp [FromReply, KeepsOut]
  | dhcp op => simp [FromReply, KeepsOut]

lemma each_fromReply (c : Client) {ops : List Op} (hops : ∀ op ∈ ops, op.OfRun) :
    client.recorded.Each (c, []) ops FromReply ↔ client.Each c ops KeepsOut := by
  rw [← Machine.each_recorded (P := KeepsOut) []]
  apply Machine.each_congr Unread
  · intro out hout
    simp at hout
  · intro s op hop h hkeeps
    exact unread_step (hops op hop) h
  · intro s op hop h
    exact fromReply_iff h op

/-- The leases of a run of DHCP6_run come from replies exactly where the run keeps out of
REQUEST. -/
theorem leases_from_replies (shar : Mac) (buf : Mem) (c : Client) (ops : List Op)
    (hops : ∀ op ∈ ops, op.OfRun) :
    client.recorded.Each (dhcp6Init shar buf c, []) ops FromReply ↔
      client.Each (dhcp6Init shar buf c) ops KeepsOut :=
  each_fromReply _ hops

def shar : Mac := #[0x00, 0x08, 0xdc, 0x00, 0x00, 0x01].toVector

/-- A DHCP server offers an IPv4 address to the client of dhcp.c. -/
def offer : Dhcp.Datagram where
  bytes := Dhcp.serverMsg (Dhcp.dhcpInit shar (fun _ => 0) Dhcp.boot) Dhcp.dhcpOffer
    #[10, 0, 0, 5].toVector (Dhcp.addressOption Dhcp.dhcpServerIdentifier #[10, 0, 0, 1].toVector)
  addr := #[10, 0, 0, 1].toVector
  port := Dhcp.dhcpServerPort

/-- The client leaves SOLICIT on the offer, whose code is that of an ADVERTISE. -/
def soliciting : List Op :=
  [.dhcp (.init shar fun _ => 0), .run ⟨true, none, 1⟩, .run ⟨true, some offer, 1⟩]

theorem leases_witness :
    client.recorded.Each (dhcp6Init shar (fun _ => 0) boot, []) soliciting FromReply ↔
      client.Each (dhcp6Init shar (fun _ => 0) boot) soliciting KeepsOut :=
  leases_from_replies shar (fun _ => 0) boot soliciting (by simp [soliciting, Op.OfRun])

theorem lease_without_reply : ¬ ∀ shar buf c ops, (∀ op ∈ ops, Op.OfRun op) →
    client.recorded.Each (dhcp6Init shar buf c, []) ops FromReply := by
  intro hall
  let last : Op := .run ⟨true, none, 1⟩
  have hops : ∀ op ∈ soliciting ++ [last], op.OfRun := by simp [soliciting, last, Op.OfRun]
  have hkeeps := (each_fromReply _ hops).1 (hall shar (fun _ => 0) boot _ hops)
  exact (hkeeps soliciting last [] rfl).1 (by decide +kernel)

end IoLibrary.Dhcp6
