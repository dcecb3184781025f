import IoLibrary.Dhcp.Foreign

/-! How long the client waits for a reply to what it has sent. -/
namespace IoLibrary.Dhcp

/-- A call of DHCP_run or of DHCP_time_handler. -/
inductive Event
  | poll (i : Input)
  | tick

/-- The client, and the ticks since it has sent a message last. -/
structure Watch where
  client : Client
  since : Option ℕ

def Outcome.sends (out : Outcome) : Bool := out.actions.any fun
  | .sendto _ _ => true
  | _ => false

def Watch.step (w : Watch) : Event → Watch
  | .poll i => ⟨(dhcpRun w.client i).client, if (dhcpRun w.client i).sends then some 0 else w.since⟩
  | .tick => ⟨dhcpTimeHandler w.client, w.since.map (· + 1)⟩

/-- `P` of each poll of a run. -/
def EachPoll (P : Watch → Input → Prop) : Watch → List Event → Prop
  | _, [] => True
  | w, .poll i :: events => P w i ∧ EachPoll P (w.step (.poll i)) events
  | w, .tick :: events => EachPoll P (w.step .tick) events

instance EachPoll.decidable {P : Watch → Input → Prop} [∀ w i, Decidable (P w i)] :
    ∀ w events, Decidable (EachPoll P w events)
  | _, [] => isTrue trivial
  | w, .poll i :: events => @instDecidableAnd _ _ _ (EachPoll.decidable (w.step (.poll i)) events)
  | w, .tick :: events => EachPoll.decidable (w.step .tick) events

/-- The client waits for a reply. -/
def Client.Awaits (c : Client) : Prop := c.state = .discover ∨ c.state = .request ∨ c.state = .rerequest

instance (c : Client) : Decidable c.Awaits := inferInstanceAs (Decidable (_ ∨ _))

/-- The call sends again what the client waits for a reply to. -/
def Resends (c : Client) (i : Input) : Prop :=
  c.Awaits ∧ (dhcpRun c i).client.state = c.state ∧ (dhcpRun c i).sends

instance (c : Client) (i : Input) : Decidable (Resends c i) := inferInstanceAs (Decidable (_ ∧ _))

/-- The call leaves the exchange, and not for a NAK. -/
def Abandons (c : Client) (i : Input) : Prop :=
  c.Awaits ∧ ((dhcpRun c i).client.state = .init ∨ (dhcpRun c i).client.state = .discover ∧ c.state ≠ .discover) ∧
    (parseDhcpMsg c i.received).2 ≠ dhcpNak

instance (c : Client) (i : Input) : Decidable (Abandons c i) := inferInstanceAs (Decidable (_ ∧ _))

/-- More than the waiting time has passed where the call sends again or leaves the exchange. -/
def Patient (w : Watch) (i : Input) : Prop :=
  Resends w.client i ∨ Abandons w.client i → ∀ n ∈ w.since, dhcpWaitTime < n

instance (w : Watch) (i : Input) : Decidable (Patient w i) := inferInstanceAs (Decidable (_ → _))

/-- The first DISCOVER, and the REQUEST for an OFFER, are sent before any tick since the timer was set; and the
retries are not over, or the timer has expired, where the call checks the timer. -/
structure Timely (c : Client) (type : Byte) : Prop where
  init : c.state = .init → c.tick = 0
  offer : c.state = .discover → type = dhcpOffer → c.tick = 0
  check : c.Awaits → ¬ c.Acts type → c.retry < maxDhcpRetry ∨ c.tickNext < c.tick

instance (c : Client) (type : Byte) : Decidable (Timely c type) :=
  decidable_of_iff ((c.state = .init → c.tick = 0) ∧ (c.state = .discover → type = dhcpOffer → c.tick = 0) ∧
      (c.Awaits → ¬ c.Acts type → c.retry < maxDhcpRetry ∨ c.tickNext < c.tick))
    ⟨fun h => ⟨h.1, h.2.1, h.2.2⟩, fun h => ⟨h.init, h.offer, h.check⟩⟩

/-- What a call does to the timer. -/
structure Switched (c : Client) (type : Byte) (out : Outcome) : Prop where
  next : c.tickNext = dhcpWaitTime → out.client.tickNext = dhcpWaitTime
  sent : out.sends → out.client.Awaits → out.client.tick = 0
  kept : ¬ out.sends → out.client.Awaits → out.client.tick = 0 ∨ c.Awaits ∧ out.client.tick = c.tick
  resends : c.Awaits → out.client.state = c.state → out.sends → c.tickNext < c.tick
  abandons : c.Awaits → out.client.state = .init ∨ out.client.state = .discover ∧ c.state ≠ .discover → type ≠ dhcpNak →
    c.tickNext < c.tick

section switch
variable {c : Client} {type : Byte}

/-- A call that leaves an exchange that is not there, or has none left behind it. -/
lemma switched_quiet {out : Outcome} (hc : ¬ c.Awaits) (next : c.tickNext = dhcpWaitTime → out.client.tickNext = dhcpWaitTime)
    (tick : out.client.Awaits → out.client.tick = 0) : Switched c type out :=
  ⟨next, fun _ => tick, fun _ h => .inl (tick h), fun h => absurd h hc, fun h => absurd h hc⟩

/-- The reply that the client waits for; a NAK sends it back to DISCOVER. -/
lemma switched_reply {out : Outcome} (next : c.tickNext = dhcpWaitTime → out.client.tickNext = dhcpWaitTime)
    (tick : out.client.Awaits → out.client.tick = 0) (state : out.client.state ≠ c.state)
    (nak : out.client.state = .init ∨ out.client.state = .discover → type = dhcpNak) : Switched c type out :=
  ⟨next, fun _ => tick, fun _ h => .inl (tick h), fun _ h => absurd h state,
    fun _ h hnak => absurd (nak (h.imp_right And.left)) hnak⟩

lemma switched_checkDhcpTimeout (hawaits : c.Awaits) (hcheck : c.retry < maxDhcpRetry ∨ c.tickNext < c.tick) :
    Switched c type (checkDhcpTimeout c) := by
  rw [checkDhcpTimeout]
  by_cases hretry : c.retry < maxDhcpRetry
  · rw [if_pos hretry]
    by_cases htick : c.tickNext < c.tick
    · rw [if_pos htick]
      exact ⟨fun _ => rfl, fun _ _ => rfl, fun _ _ => .inl rfl, fun _ _ _ => htick, fun _ _ _ => htick⟩
    · rw [if_neg htick]
      refine ⟨id, fun hsends => ?_, fun _ h => .inr ⟨h, rfl⟩, fun _ _ hsends => ?_, fun _ h _ => ?_⟩
      · cases hsends
      · cases hsends
      · obtain hinit | ⟨hdiscover, hother⟩ := h
        · obtain h | h | h := hawaits <;> cases h.symm.trans hinit
        · exact absurd hdiscover hother
  · have htick : c.tickNext < c.tick := hcheck.resolve_left hretry
    rw [if_neg hretry]
    refine ⟨fun _ => ?_, fun _ _ => ?_, fun _ _ => .inl ?_, fun _ _ _ => htick, fun _ _ _ => htick⟩
    all_goals
      obtain h | h | h := hawaits <;> rw [h] <;> rfl

lemma switched_dhcpSwitch (h : Timely c type) : Switched c type (dhcpSwitch c type) := by
  rw [dhcpSwitch]
  cases hstate : c.state with
  | init =>
    have hc : ¬ c.Awaits := by simp [Client.Awaits, hstate]
    exact switched_quiet hc id fun _ => h.init hstate
  | discover =>
    have hawaits : c.Awaits := .inl hstate
    by_cases htype : type = dhcpOffer
    · simp only [if_pos htype]
      exact switched_reply id (fun _ => h.offer hstate htype) (by simp [hstate]) (by simp)
    · simp only [if_neg htype]
      exact switched_checkDhcpTimeout hawaits (h.check hawaits (by simp [Client.Acts, hstate, htype]))
  | request =>
    have hawaits : c.Awaits := .inr (.inl hstate)
    by_cases hack : type = dhcpAck
    · simp only [if_pos hack]
      exact switched_reply (fun _ => rfl) (fun _ => rfl) (by simp [checkDhcpLeasedIp, resetDhcpTimeout, hstate])
        (by simp [checkDhcpLeasedIp, resetDhcpTimeout])
    · by_cases hnak : type = dhcpNak
      · simp only [if_neg hack, if_pos hnak]
        exact switched_reply (fun _ => rfl) (fun _ => rfl) (by simp [resetDhcpTimeout, hstate]) fun _ => hnak
      · simp only [if_neg hack, if_neg hnak]
        exact switched_checkDhcpTimeout hawaits (h.check hawaits (by simp [Client.Acts, hstate, hack, hnak]))
  | leased =>
    have hc : ¬ c.Awaits := by simp [Client.Awaits, hstate]
    by_cases hrenews : c.data.leaseTime ≠ infiniteLeasetime ∧ c.data.leaseTime / 2 < c.tick
    · simp only [if_pos hrenews]
      exact switched_quiet hc (fun _ => rfl) fun _ => rfl
    · simp only [if_neg hrenews]
      exact switched_quiet hc id fun hout => absurd hout hc
  | rerequest =>
    have hawaits : c.Awaits := .inr (.inr hstate)
    by_cases hack : type = dhcpAck
    · simp only [if_pos hack]
      by_cases hip : c.oldIp ≠ c.ip
      · simp only [if_pos hip]
        exact switched_reply (fun _ => rfl) (fun _ => rfl) (by simp [resetDhcpTimeout, hstate]) (by simp [resetDhcpTimeout])
      · simp only [if_neg hip]
        exact switched_reply (fun _ => rfl) (fun _ => rfl) (by simp [resetDhcpTimeout, hstate]) (by simp [resetDhcpTimeout])
    · by_cases hnak : type = dhcpNak
      · simp only [if_neg hack, if_pos hnak]
        exact switched_reply (fun _ => rfl) (fun _ => rfl) (by simp [resetDhcpTimeout, hstate]) fun _ => hnak
      · simp only [if_neg hack, if_neg hnak]
        exact switched_checkDhcpTimeout hawaits (h.check hawaits (by simp [Client.Acts, hstate, hack, hnak]))
  | release | stop =>
    have hc : ¬ c.Awaits := by simp [Client.Awaits, hstate]
    exact switched_quiet hc id fun hout => absurd hout hc

end switch

/-- The timer shows no more ticks than have passed since the last message. -/
structure Watch.Inv (w : Watch) : Prop where
  next : w.client.tickNext = dhcpWaitTime
  tick : w.client.Awaits → ∀ n, w.since = some n → w.client.tick ≤ n

section runs
variable {w : Watch} {i : Input}

/-- A poll on a client that waits or starts is the automaton on what the parser has left. -/
lemma switched_dhcpRun {c : Client} (h : Timely c (parseDhcpMsg c i.received).2) :
    Switched c (parseDhcpMsg c i.received).2 (dhcpRun c i) := by
  by_cases hstop : c.state = .stop
  · rw [dhcpRun_stop i hstop]
    have hc : ¬ c.Awaits := by simp [Client.Awaits, hstop]
    exact switched_quiet hc id fun hout => absurd hout hc
  · obtain ⟨msg, data, hparse⟩ := parseDhcpMsg_frame c i.received
    have hrun : dhcpRun c i = { dhcpSwitch { c with msg := msg, data := data } (parseDhcpMsg c i.received).2 with
        actions := (if i.udp then [] else [.socket]) ++
          (dhcpSwitch { c with msg := msg, data := data } (parseDhcpMsg c i.received).2).actions } := by
      rw [dhcpRun, if_neg hstop, ← hparse]
    generalize (parseDhcpMsg c i.received).2 = type at h hrun ⊢
    obtain ⟨next, sent, kept, resends, abandons⟩ := switched_dhcpSwitch (c := { c with msg := msg, data := data })
      ⟨h.init, h.offer, h.check⟩
    rw [hrun]
    generalize dhcpSwitch { c with msg := msg, data := data } type = out at next sent kept resends abandons ⊢
    have hsends : Outcome.sends { out with actions := (if i.udp then [] else [.socket]) ++ out.actions } = out.sends := by
      rw [Outcome.sends, Outcome.sends, List.any_append]
      cases i.udp <;> rfl
    refine ⟨next, fun hs => ?_, fun hs => ?_, fun hawaits hstate hs => ?_, abandons⟩
    · exact sent (hsends ▸ hs)
    · exact kept (hsends ▸ hs)
    · exact resends hawaits hstate (hsends ▸ hs)

lemma Watch.Inv.poll (hinv : w.Inv) (h : Timely w.client (parseDhcpMsg w.client i.received).2) :
    (w.step (.poll i)).Inv ∧ Patient w i := by
  obtain ⟨next, sent, kept, resends, abandons⟩ := switched_dhcpRun h
  refine ⟨⟨next hinv.next, fun hawaits n hn => ?_⟩, ?_⟩
  · rw [Watch.step] at hn hawaits ⊢
    by_cases hsends : (dhcpRun w.client i).sends
    · exact Nat.le_trans (Nat.le_of_eq (sent hsends hawaits)) (Nat.zero_le n)
    · rw [if_neg hsends] at hn
      obtain hzero | ⟨hbefore, htick⟩ := kept hsends hawaits
      · exact Nat.le_trans (Nat.le_of_eq hzero) (Nat.zero_le n)
      · exact Nat.le_trans (Nat.le_of_eq htick) (hinv.tick hbefore n hn)
  · intro hpatient n hn
    have hfired : w.client.Awaits ∧ w.client.tickNext < w.client.tick := by
      obtain ⟨hawaits, hstate, hsends⟩ | ⟨hawaits, hstate, hnak⟩ := hpatient
      · exact ⟨hawaits, resends hawaits hstate hsends⟩
      · exact ⟨hawaits, abandons hawaits hstate hnak⟩
    calc dhcpWaitTime = w.client.tickNext := hinv.next.symm
      _ < w.client.tick := hfired.2
      _ ≤ n := hinv.tick hfired.1 n hn

lemma Watch.Inv.tick_step (hinv : w.Inv) : (w.step .tick).Inv := by
  refine ⟨hinv.next, fun hawaits n hn => ?_⟩
  obtain ⟨k, hk, rfl⟩ := Option.map_eq_some_iff.1 hn
  have hle := hinv.tick hawaits k hk
  have hwrap := Nat.mod_le (w.client.tick + 1) (2 ^ 32)
  exact Nat.le_trans hwrap (Nat.succ_le_succ hle)

/-- In a run whose polls are timely the client waits after each message. -/
theorem waits (shar : Mac) (buf : Mem) (c : Client) (events : List Event)
    (h : EachPoll (fun w i => Timely w.client (parseDhcpMsg w.client i.received).2) ⟨dhcpInit shar buf c, none⟩ events) :
    EachPoll Patient ⟨dhcpInit shar buf c, none⟩ events := by
  have hstart : (⟨dhcpInit shar buf c, none⟩ : Watch).Inv := ⟨rfl, fun _ _ hn => by cases hn⟩
  generalize (⟨dhcpInit shar buf c, none⟩ : Watch) = w at h hstart ⊢
  induction events generalizing w with
  | nil => trivial
  | cons e events ih =>
    cases e with
    | poll i =>
      obtain ⟨hinv, hpatient⟩ := hstart.poll h.1
      exact ⟨hpatient, ih _ h.2 hinv⟩
    | tick => exact ih _ h hstart.tick_step

end runs

/-- A poll that reads nothing. -/
def emptyPoll : Event := .poll ⟨true, none⟩

def ticks (n : ℕ) : List Event := List.replicate n .tick

/-- The DISCOVER is sent again once it has not been answered for 11 ticks. -/
theorem waits_discover : EachPoll Patient ⟨started, none⟩ (emptyPoll :: (ticks 11 ++ [emptyPoll])) :=
  waits #v[0x00, 0x08, 0xDC, 0x00, 0x00, 0x01] (fun _ => 0) boot _ (by decide +kernel)

/-- The OFFER comes behind the last DISCOVER, and the REQUEST for it is given up at once. -/
def lateOffer : List Event :=
  emptyPoll :: (ticks 11 ++ emptyPoll :: (ticks 11 ++ [emptyPoll,
    .poll ⟨true, some ⟨serverMsg started dhcpOffer offeredIp [], server, dhcpServerPort⟩⟩, emptyPoll]))

theorem request_given_up : ¬ ∀ shar buf c events, EachPoll Patient ⟨dhcpInit shar buf c, none⟩ events := by
  intro hall
  have h := hall #v[0x00, 0x08, 0xDC, 0x00, 0x00, 0x01] (fun _ => 0) boot lateOffer
  exact absurd h (by decide +kernel)

end IoLibrary.Dhcp
