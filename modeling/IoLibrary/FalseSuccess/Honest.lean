import IoLibrary.ConfigFaults
import IoLibrary.FalseSuccess.Obliging

/-! What a success after a failed transfer tells: that the call was one that drops a status. -/
namespace IoLibrary.FalseSuccess
open Effects Nonblocking

section results
variable {b : Build} {sn : ℕ}

/-- A phase ends in an error, which is not positive, or in `P`. -/
def Outcome {β : Type} (P : β → Prop) : Except ℤ β → Prop
  | .error e => e ≤ 0
  | .ok v => P v

lemma outcome_waitRegister (a : Addr) (wanted : Byte) (d : ℕ) :
    Gives (fun r => r ≠ sockOk → r ≤ 0) (waitRegister b sn a wanted d) := by
  refine gives_then fun poll => gives_pollLoop (gives_then fun v => ?_) (gives_then fun _ => ?_)
  · exact gives_ite (fun _ => looked_result fun hne => absurd rfl hne) fun _ => nofun
  · exact fun _ => show sockerrTimeout ≤ 0 by decide

lemma outcome_wizchipRead16 (a : Addr) :
    Gives (fun r => ∀ v, r = some v → v < 65536) (wizchipRead16 b a) := by
  refine gives_then fun x => gives_then fun r v hv => ?_
  split at hv
  · cases hv
    exact word16_lt _ _
  · cases hv

/-- A size that is read is one of 16 bits. -/
lemma outcome_stableSize (a : Addr) : Gives (Outcome (· < 65536)) (stableSize b a) := by
  have late : Outcome (· < 65536) (.error sockerrDeadline : Except ℤ ℕ) := show sockerrDeadline ≤ 0 by decide
  have failed : ∀ r : Except ℤ ℕ, some (.error sockerrIo) = some r → Outcome (· < 65536) r :=
    looked_result (show sockerrIo ≤ 0 by decide)
  refine gives_then fun opened => gives_clockLoop ?_ late
  refine gives_then fun first => ?_
  cases first with
  | none => exact failed
  | some first =>
    refine gives_bind (outcome_wizchipRead16 a) fun second hsecond => ?_
    cases second with
    | none => exact failed
    | some second =>
      refine gives_ite (fun _ => looked_result (hsecond _ rfl)) fun _ => ?_
      refine gives_bind (outcome_wizchipRead16 a) fun third hthird => ?_
      cases third with
      | none => exact failed
      | some third => exact gives_ite (fun _ => looked_result (hthird _ rfl)) fun _ => nofun

lemma outcome_sendWaitFree (len : ℕ) (nonblocking : Bool) (d : ℕ) :
    Gives (Outcome fun _ => len < 65536) (sendWaitFree b sn len nonblocking d) := by
  have late : Outcome (fun _ => len < 65536) (.error sockerrTimeout : Except ℤ Unit) :=
    show sockerrTimeout ≤ 0 by decide
  refine gives_then fun poll => gives_pollLoop ?_ late
  refine gives_bind (outcome_stableSize _) fun r hr => ?_
  cases r with
  | error e => exact looked_result hr
  | ok size =>
    refine gives_then fun sr => gives_ite (fun _ => gives_ite (fun _ => ?_) fun _ => ?_) fun _ => ?_
    · exact gives_then fun _ => looked_result (show sockerrSockstatus ≤ 0 by decide)
    · exact looked_result (show sockerrSockstatus ≤ 0 by decide)
    · refine gives_ite (fun _ => looked_result (show sockBusy ≤ 0 by decide)) fun _ => ?_
      exact gives_ite (fun hfits => looked_result (Nat.lt_of_le_of_lt hfits hr)) fun _ => nofun

lemma outcome_recvWait (nonblocking : Bool) (d : ℕ) :
    Gives (Outcome fun _ => True) (recvWait b sn nonblocking d) := by
  have late : Outcome (fun _ => True) (.error sockerrTimeout : Except ℤ ℕ) := show sockerrTimeout ≤ 0 by decide
  refine gives_then fun poll => gives_pollLoop ?_ late
  refine gives_bind (outcome_stableSize _) fun r hr => ?_
  cases r with
  | error e => exact looked_result hr
  | ok size =>
    refine gives_then fun sr => gives_ite (fun _ => gives_ite (fun _ => looked_result trivial) fun _ => ?_)
      fun _ => gives_ite (fun _ => ?_) fun _ => ?_
    · refine gives_bind (outcome_stableSize _) fun r hr => ?_
      cases r with
      | error e => exact looked_result hr
      | ok free =>
        refine gives_then fun m => gives_ite (fun _ => ?_) fun _ => nofun
        exact gives_then fun _ => looked_result (show sockerrSockstatus ≤ 0 by decide)
    · exact gives_then fun _ => looked_result (show sockerrSockstatus ≤ 0 by decide)
    · refine gives_ite (fun _ => looked_result trivial) fun _ => ?_
      exact gives_ite (fun _ => looked_result (show sockBusy ≤ 0 by decide)) fun _ => nofun

lemma outcome_recvfromWait (nonblocking : Bool) (d : ℕ) :
    Gives (Outcome fun _ => True) (recvfromWait b sn nonblocking d) := by
  have late : Outcome (fun _ => True) (.error sockerrTimeout : Except ℤ ℕ) := show sockerrTimeout ≤ 0 by decide
  refine gives_then fun poll => gives_pollLoop ?_ late
  refine gives_bind (outcome_stableSize _) fun r hr => ?_
  cases r with
  | error e => exact looked_result hr
  | ok size =>
    refine gives_then fun sr => gives_ite (fun _ => looked_result (show sockerrSockclosed ≤ 0 by decide)) fun _ => ?_
    refine gives_ite (fun _ => looked_result trivial) fun _ => ?_
    exact gives_ite (fun _ => looked_result (show sockBusy ≤ 0 by decide)) fun _ => nofun

/-- sendto goes past its address phase only when the address passes the checks. -/
lemma outcome_sendtoAddress (mode : Byte) (addr : Vector Byte 4) (port addrlen : ℕ) :
    Gives (Outcome fun _ => AddressOk mode addr port addrlen) (sendtoAddress b sn mode addr port addrlen) := by
  have statusCheck (hmode : Datagram mode)
      (hlen : mode ≠ snMrMacraw → addrlen = 4 ∧ mode ≠ snMrUdp6 ∧ mode ≠ snMrIpraw6)
      (hport : mode &&& 0x03 = 0x02 → port ≠ 0) :
      Gives (Outcome fun _ => AddressOk mode addr port addrlen)
        (sendtoAddress.statusCheck b sn mode addr port (mode &&& 0x0F)) := by
    refine gives_ite (fun hm => ⟨hmode, hlen, hport, fun hne => absurd hm hne⟩) fun _ => ?_
    refine gives_ite (fun _ => show sockerrIpinvalid ≤ 0 by decide) fun hz => ?_
    refine gives_ite (fun _ => show sockerrPortzero ≤ 0 by decide) fun hp => gives_then fun sr => ?_
    refine gives_ite (fun _ => show sockerrSockstatus ≤ 0 by decide) fun _ => ?_
    refine gives_then fun _ => gives_then fun _ => ⟨hmode, hlen, hport, fun _ hne => ⟨?_, ?_⟩⟩
    · exact Bool.eq_false_iff.2 fun hall => hz ⟨hall, hne⟩
    · exact fun h0 => hp ⟨h0, hne⟩
  have portCheck (hmode : Datagram mode)
      (hlen : mode ≠ snMrMacraw → addrlen = 4 ∧ mode ≠ snMrUdp6 ∧ mode ≠ snMrIpraw6) :
      Gives (Outcome fun _ => AddressOk mode addr port addrlen)
        (sendtoAddress.portCheck b sn mode addr port (mode &&& 0x0F)) := by
    refine gives_ite (fun _ => gives_ite (fun hne => ?_) fun _ => ?_) fun hudp => ?_
    · exact gives_then fun _ => statusCheck hmode hlen fun _ => hne
    · exact show sockerrPortzero ≤ 0 by decide
    · exact statusCheck hmode hlen fun h => absurd h hudp
  refine gives_ite (fun _ => show sockerrSockmode ≤ 0 by decide) fun hd => ?_
  have hmode : Datagram mode := by
    simp only [Datagram]
    tauto
  refine gives_ite (fun _ => ?_) fun hmac => portCheck hmode fun hne => absurd hne hmac
  refine gives_ite (fun _ => show sockerrSockmode ≤ 0 by decide) fun _ => ?_
  refine gives_ite (fun h4 => ?_) fun _ => show sockerrIpinvalid ≤ 0 by decide
  refine gives_ite (fun _ => show sockerrSockmode ≤ 0 by decide) fun h6 => gives_then fun _ => ?_
  exact portCheck hmode fun _ => ⟨h4, fun h => h6 (.inl h), fun h => h6 (.inr h)⟩

lemma outcome_sendtoWaitFree (len : ℕ) (isMacraw nonblocking : Bool) (timeout : ℕ) :
    Gives (Outcome fun _ => isMacraw = true ∨ len < 65536)
      (sendtoWaitFree b sn len isMacraw nonblocking timeout) := by
  refine gives_ite (fun hm => gives_then fun sr => ?_) fun _ => ?_
  · change Outcome _ (if sr = sockClosed then .error sockerrSockclosed else .ok ())
    split
    · exact show sockerrSockclosed ≤ 0 by decide
    · exact .inl hm
  · have late : Outcome (fun _ => isMacraw = true ∨ len < 65536) (.error sockerrTimeout : Except ℤ Unit) :=
      show sockerrTimeout ≤ 0 by decide
    refine gives_then fun d => gives_then fun poll => gives_pollLoop ?_ late
    refine gives_bind (outcome_stableSize _) fun r hr => ?_
    cases r with
    | error e => exact looked_result hr
    | ok size =>
      refine gives_then fun sr => gives_ite (fun _ => looked_result (show sockerrSockclosed ≤ 0 by decide)) fun _ => ?_
      refine gives_ite (fun hfits => looked_result (.inr (Nat.lt_of_le_of_lt hfits hr))) fun _ => ?_
      exact gives_ite (fun _ => looked_result (show sockBusy ≤ 0 by decide)) fun _ => nofun

/-- A sendto that commits reports a positive count only in blocking mode. -/
lemma outcome_sendtoCommit (data : List Byte) (nonblocking : Bool) :
    Gives (fun r => 0 < r → nonblocking = false ∧ data.length ≠ 0) (sendtoCommit b sn data nonblocking) := by
  have fails {e : ℤ} (he : e ≤ 0) : 0 < e → nonblocking = false ∧ data.length ≠ 0 :=
    fun h => absurd h (Int.not_lt.2 he)
  have sent (hio : nonblocking = false) :
      Gives (fun r => ∀ a, r = some a → 0 < a → nonblocking = false ∧ data.length ≠ 0)
        (sendtoSentLook b sn data.length) := by
    refine gives_then fun ir => gives_ite (fun _ => gives_then fun _ => ?_) fun _ => ?_
    · exact looked_result fun hpos => ⟨hio, by omega⟩
    · exact gives_ite (fun _ => gives_then fun _ => looked_result (fails (by decide))) fun _ => nofun
  refine gives_then fun _ => gives_then fun _ => gives_then fun _ => gives_then fun m => gives_then fun d => ?_
  cases d with
  | none => exact gives_then fun _ => fails (by decide)
  | some d =>
    refine gives_bind (outcome_waitRegister _ _ _) fun r hr => ?_
    refine gives_ite (fun hne => gives_then fun _ => fails (hr hne)) fun _ => gives_then fun _ => ?_
    refine gives_ite (fun _ => gives_then fun _ => fails (by decide)) fun hio => gives_then fun d => ?_
    refine gives_then fun poll => gives_pollLoop (sent (Bool.eq_false_iff.2 hio)) ?_
    exact gives_then fun _ => fails (by decide)

end results

section checks
variable {α : Type} {b : Build} {sn : ℕ} {m : Driver} {g : Globals} {t t₁ : IoTrace} {D : Prop}
  {S : α → Prop}

/-- Success after a failed transfer tells `D`. -/
abbrev Tells (t : IoTrace) (D : Prop) (S : α → Prop) (p : Drv α) (g : Globals) (t₁ : IoTrace) : Prop :=
  wpg (traceEnv fun _ _ _ => True) p (fun r _ t' => Marred t t' → S r → D) (fun _ _ => True) g t₁

/-- The same over the whole memory. -/
abbrev TellsFrom (t : IoTrace) (D : Prop) (S : α → Prop) (p : Drv α) (m : Driver) (t₁ : IoTrace) : Prop :=
  wp anyChip p (fun r _ t' => Marred t t' → S r → D) (fun _ _ => True) m t₁

lemma tells_of (h : D) {p : Drv α} : Tells t D S p g t₁ :=
  wpv_any (fun _ _ _ _ _ => h) fun _ _ => trivial

lemma tells_of_gives {p : Drv α} (h : Gives (fun r => S r → D) p) : Tells t D S p g t₁ :=
  wpv_mono (wpv_of_gives h) (fun _ _ _ hr _ => hr) fun _ _ _ => trivial

lemma tells_fails {r : α} (h : ¬ S r) : Tells t D S (pure r) g t₁ := fun _ hr => absurd hr h

lemma tells_ite {c : Prop} [Decidable c] {p q : Drv α} (hp : c → Tells t D S p g t₁)
    (hq : ¬ c → Tells t D S q g t₁) : Tells t D S (if c then p else q) g t₁ := (wpv_ite _ _ _).2 ⟨hp, hq⟩

lemma tells_get {f : Driver → Drv α} (h : ∀ m, m.toGlobals = g → Tells t D S (f m) g t₁) :
    Tells t D S (Prog.get >>= f) g t₁ := (wpv_bind _ _).2 (wpv_get.2 h)

/-- A register read leaves the globals alone. -/
lemma tells_getSnSR {f : Byte → Drv α} (h : ∀ v t₁, Tells t D S (f v) g t₁) :
    Tells t D S (getSnSR b sn >>= f) g t₁ :=
  (wpv_bind _ _).2 (wpg_getSnSR.2 fun x _ _ => h x.1 _)

lemma tells_deadlineAbs {f : ℕ → Drv α} (timeout : ℕ) (h : ∀ d t₁, Tells t D S (f d) g t₁) :
    Tells t D S (wizchipDeadlineAbs timeout >>= f) g t₁ :=
  (wpv_bind _ _).2 ((timed_deadlineAbs timeout).wpg (I := fun _ => True) (fun _ _ _ _ _ _ _ => trivial)
    trivial fun d t₁ _ => h d t₁)

lemma tellsFrom_fails {r : α} (h : ¬ S r) : TellsFrom t D S (pure r) m t₁ := fun _ hr => absurd hr h

lemma tellsFrom_ite {c : Prop} [Decidable c] {p q : Drv α} (hp : c → TellsFrom t D S p m t₁)
    (hq : ¬ c → TellsFrom t D S q m t₁) : TellsFrom t D S (if c then p else q) m t₁ :=
  (wp_ite _ _ _).2 ⟨hp, hq⟩

lemma tellsFrom_get {f : Driver → Drv α} (h : TellsFrom t D S (f m) m t₁) :
    TellsFrom t D S (Prog.get >>= f) m t₁ := (wp_bind _ _).2 (wp_get.2 h)

lemma tellsFrom_view {p : Drv α} (h : Tells t D S p m.toGlobals t₁) : TellsFrom t D S p m t₁ := wp_of_wpg h

lemma tellsFrom_map {β : Type} {p : Drv β} {f : β → α}
    (h : TellsFrom t D (fun r => S (f r)) p m t₁) :
    TellsFrom t D S (do let r ← p; return f r) m t₁ := (wp_bind _ _).2 h

/-- A last call that is no transfer does not mar the trace. -/
lemma marred_of_snoc {t' : IoTrace} {v : Event Globals Io Io.Res} (h : Marred t (t' ++ [v]))
    (hv : ¬ Failed v.call v.answer) : Marred t t' := by
  obtain ⟨added, hadded, u, hu, hfailed⟩ := h
  rcases List.eq_nil_or_concat added with rfl | ⟨init, last, rfl⟩
  · exact absurd hu List.not_mem_nil
  rw [List.concat_eq_append, ← List.append_assoc] at hadded
  obtain ⟨rfl, hlast⟩ := List.append_inj' hadded rfl
  obtain rfl := List.head_eq_of_cons_eq hlast
  refine ⟨init, rfl, u, ?_, hfailed⟩
  rw [List.concat_eq_append] at hu
  rcases List.mem_append.1 hu with hinit | hlast'
  · exact hinit
  · rw [List.mem_singleton.1 hlast'] at hfailed
    exact absurd hfailed hv

lemma tellsFrom_locked {p : Drv α} (h : ∀ x, TellsFrom t D S p m (t₁ ++ [⟨m.toGlobals, .sockLock sn, x⟩])) :
    TellsFrom t D S (locked sn p) m t₁ := by
  simp only [locked, sockLock, sockUnlock, wp_bind, wp_perform, wp_pure]
  rintro x _ ⟨-, rfl⟩
  refine wp_mono (h x) ?_ fun _ _ => id
  rintro r m' t' hr y _ ⟨-, rfl⟩ hmarred
  exact hr (marred_of_snoc hmarred id)

/-- Nothing has failed since `t`. -/
abbrev Clear (t t' : IoTrace) : Prop := Extends (fun v => ¬ Failed v.call v.answer) t t'

lemma not_marred_of_clear {t' : IoTrace} (h : Clear t t') : ¬ Marred t t' := by
  rintro ⟨added, rfl, v, hv, hfailed⟩
  obtain ⟨added', hadded, hclear⟩ := h
  obtain rfl := List.append_cancel_left hadded
  exact hclear v hv hfailed

lemma ticks_clear : Ticks (traceEnv fun _ _ _ => True) g (Clear t) := by
  rintro w _ x _ (rfl | rfl) hw ⟨-, rfl⟩
  · exact hw.snoc id
  · exact hw.snoc id

lemma tells_clear {r : α} (h : Clear t t₁) : Tells t D S (pure r) g t₁ :=
  fun hmarred _ => absurd hmarred (not_marred_of_clear h)

end checks

section told
variable {b : Build} {sn : ℕ} {m : Driver} {g : Globals} {t t₁ : IoTrace} {D : Prop}

lemma told_socket (protocol flag : Byte) (port : ℕ) :
    TellsFrom t (Drops sn m (.socket protocol port flag)) (· = (sn : ℤ))
      (IoLibrary.socket b sn protocol port flag) m t := by
  have negative {r : ℤ} (hr : r < 0) : ¬ r = (sn : ℤ) := by omega
  by_cases hbudgets : m.deadlineConfigValid
  · unfold IoLibrary.socket
    cases hargs : socketArgCheck sn protocol flag with
    | some e => exact tellsFrom_fails (negative (socketArgCheck_neg hargs))
    | none =>
      refine tellsFrom_get (tellsFrom_ite (fun _ => ?_) fun hready => tellsFrom_view ?_)
      · exact fun _ hr => absurd hr (negative (by decide))
      by_cases hhealthy : (m.sock sn).health = .faulted
      · refine tells_getSnSR fun status t₁ => (wpv_bind _ _).2 ?_
        have source : wpg (traceEnv fun _ _ _ => True) (sourcePort port) (fun _ g' _ => g'.sock = m.sock)
            (fun g' _ => g'.sock = m.sock) m.toGlobals t₁ := by
          refine wpv_of_within (within_sourcePort port) (fun (g' : Globals) _ => g'.sock = m.sock)
            (fun f hf m' _ h' => ?_) (fun _ _ _ _ _ _ h' _ => h') rfl
          obtain ⟨p, hp⟩ := hf m'
          rw [hp]
          exact h'
        refine wpv_mono source (fun port g' t₂ hsock => (wpg_locked sn _).2 fun x t₃ _ => ?_) fun _ _ _ => trivial
        refine (wpv_bind _ _).2 (wpv_get.2 fun m' hm' => (wpv_ite _ _ _).2 ⟨fun _ => ?_, fun hne => ?_⟩)
        · exact fun _ _ _ _ hr => absurd hr (negative (by decide))
        · rw [hm', hsock] at hne
          exact absurd hhealthy hne
      · exact tells_of ⟨hargs, not_not.1 hready, hhealthy, hbudgets⟩
  · refine tellsFrom_view (wpv_mono (ConfigFaults.refused_socket hbudgets protocol flag port .refl) ?_ fun _ _ _ => trivial)
    exact fun r _ _ hr _ hsn => absurd hsn (negative hr.1)

lemma tells_closeInternal (hsn : sn < sockNum) (hclear : Clear t t₁)
    (h : (g.sock sn).health ≠ .faulted → D) (hbudgets : g.deadlineConfigValid) :
    Tells t D (· = sockOk) (closeInternal b sn 0) g t₁ := by
  by_cases hhealthy : (g.sock sn).health = .faulted
  · refine wpg_closeInternal (P := fun _ t' => Clear t t') ticks_clear hclear hsn 0 (fun d t' ht' => ?_)
      (fun hinvalid => absurd hbudgets hinvalid) fun _ _ ht' hmarred _ => ?_
    · refine (wpv_bind _ _).2 (wpv_get.2 fun m hm => (wpv_ite _ _ _).2 ⟨fun _ => ?_, fun hne => ?_⟩)
      · exact ⟨⟨id, by simp [Globals.setSock]⟩, ht'⟩
      · exact absurd (hm ▸ hhealthy) hne
    · exact absurd hmarred (not_marred_of_clear ht')
  · exact tells_of (h hhealthy)

lemma told_close : TellsFrom t (Drops sn m .close) (· = sockOk) (IoLibrary.close b sn) m t := by
  by_cases hbudgets : m.deadlineConfigValid
  · refine tellsFrom_ite (fun _ => tellsFrom_fails (by decide)) fun hsn => tellsFrom_locked fun x => tellsFrom_view ?_
    have hlt : sn < sockNum := Nat.not_le.1 hsn
    exact tells_closeInternal hlt (Extends.refl.snoc id) (fun hhealthy => ⟨hlt, hhealthy, hbudgets⟩) hbudgets
  · refine tellsFrom_view (wpv_mono (ConfigFaults.refused_close hbudgets .refl) ?_ fun _ _ _ => trivial)
    rintro r _ _ hr - rfl
    exact absurd hr.1 (by decide)

lemma told_listen : TellsFrom t (Drops sn m .listen) (· = sockOk) (IoLibrary.listen b sn) m t := by
  refine tellsFrom_ite (fun _ => tellsFrom_fails (by decide)) fun hsn => tellsFrom_locked fun x => tellsFrom_view ?_
  by_cases hstop : (m.sock sn).health = .faulted ∨ ¬ m.deadlineConfigValid
  · refine wpv_mono (Gate.stopped_listen hstop .refl) ?_ fun _ _ _ => trivial
    rintro r _ _ hr - rfl
    exact absurd hr.1 (by decide)
  · obtain ⟨hhealthy, hbudgets⟩ := not_or.1 hstop
    exact tells_of ⟨Nat.not_le.1 hsn, hhealthy, not_not.1 hbudgets⟩

lemma keeps_all : Nonblocking.Keeps (traceEnv fun _ _ _ => True) g fun _ => True :=
  fun _ _ _ _ _ _ _ => trivial

lemma told_connect (addr : Option (Vector Byte 4)) (port addrlen : ℕ) :
    TellsFrom t (Drops sn m (.connect addr port addrlen)) (· = sockOk)
      (IoLibrary.connect b sn addr port addrlen) m t := by
  refine tellsFrom_ite (fun _ => tellsFrom_fails (by decide)) fun hsn => ?_
  cases addr with
  | none => exact tellsFrom_fails (by decide)
  | some addr =>
    refine tellsFrom_ite (fun _ => tellsFrom_fails (by decide)) fun hport => ?_
    refine tellsFrom_ite (fun _ => tellsFrom_fails (by decide)) fun hlen => ?_
    refine tellsFrom_ite (fun _ => tellsFrom_fails (by decide)) fun haddr => tellsFrom_locked fun x => ?_
    refine tellsFrom_get (tellsFrom_ite (fun _ => tellsFrom_fails (by decide)) fun hready => ?_)
    refine tellsFrom_ite (fun _ => tellsFrom_fails (by decide)) fun hhealthy => ?_
    refine tellsFrom_ite (fun _ => tellsFrom_fails (by decide)) fun htcp => tellsFrom_view ?_
    refine tells_getSnSR fun sr t₁ => tells_ite (fun _ => tells_fails (by decide)) fun _ => ?_
    refine tells_ite (fun _ => tells_fails (by decide)) fun h16 => ?_
    have h4 : addrlen = 4 := by
      by_contra hne
      exact hlen ⟨hne, h16⟩
    by_cases hbudgets : m.deadlineConfigValid
    · refine tells_of ⟨⟨Nat.not_le.1 hsn, not_not.1 hready, hhealthy, hbudgets, not_not.1 htcp⟩, hport, h4, ?_⟩
      exact ⟨addr, rfl, fun hbad => haddr ⟨h4, hbad⟩⟩
    · refine (wpv_bind _ _).2 (wpg_setSnDPORT_keep keeps_all trivial port fun t _ => (wpv_bind _ _).2 ?_)
      refine wpg_writeBuf_keep keeps_all trivial _ _ fun t _ => (wpv_bind _ _).2 ((wpg_setSnCR _).2 fun y t' _ => ?_)
      refine tells_get fun m' hm' => tells_ite (fun _ => tells_fails (by decide)) fun hv => ?_
      rw [hm'] at hv
      exact absurd hbudgets hv

lemma told_disconnect : TellsFrom t (Drops sn m .disconnect) (· = sockOk) (IoLibrary.disconnect b sn) m t := by
  refine tellsFrom_ite (fun _ => tellsFrom_fails (by decide)) fun hsn => tellsFrom_locked fun x => ?_
  refine tellsFrom_get (tellsFrom_ite (fun _ => tellsFrom_fails (by decide)) fun hready => ?_)
  refine tellsFrom_ite (fun _ => tellsFrom_fails (by decide)) fun hhealthy => ?_
  refine tellsFrom_ite (fun _ => tellsFrom_fails (by decide)) fun htcp => tellsFrom_view (tells_of ?_)
  exact ⟨Nat.not_le.1 hsn, not_not.1 hready, hhealthy, not_not.1 htcp⟩

lemma tells_sendReady {buf : List Byte} {len : ℕ} (hbuf : buf.length = len)
    (h : min len (g.txmaxCache sn) ≠ 0 → min len (g.txmaxCache sn) < 65536 → D) :
    Tells t D (fun r : ℤ => 0 < r) (sendReady b sn buf len) g t₁ := by
  refine tells_get ?_
  rintro m rfl
  refine tells_of_gives (gives_then fun d => gives_bind (outcome_sendWaitFree _ _ _) fun r hr => ?_)
  cases r with
  | error e => exact fun hpos => absurd hpos (Int.not_lt.2 hr)
  | ok _ =>
    refine gives_then fun _ => gives_then fun _ => gives_then fun d => ?_
    refine gives_bind (outcome_waitRegister _ _ _) fun r hw => gives_ite (fun hne => ?_) fun _ => ?_
    · exact gives_then fun _ hpos => absurd hpos (Int.not_lt.2 (hw hne))
    · refine gives_then fun _ hpos => h ?_ hr
      rw [List.length_take, hbuf] at hpos
      omega

lemma tells_sendLocked {buf : List Byte} {len : ℕ} (hbuf : buf.length = len)
    (h : (g.sock sn).health ≠ .faulted → g.deadlineConfigValid → (g.sock sn).mode &&& 0x03 = 0x01 →
      min len (g.txmaxCache sn) ≠ 0 → min len (g.txmaxCache sn) < 65536 → D) :
    Tells t D (fun r : ℤ => 0 < r) (sendLocked b sn buf len) g t₁ := by
  refine tells_get ?_
  rintro m rfl
  refine tells_ite (fun _ => tells_fails (by decide)) fun hhealthy => ?_
  refine tells_ite (fun _ => tells_fails (by decide)) fun hbudgets => ?_
  refine tells_ite (fun _ => tells_fails (by decide)) fun htcp => tells_getSnSR fun sr t₁ => ?_
  have hD := h hhealthy (not_not.1 hbudgets) (not_not.1 htcp)
  refine tells_ite (fun _ => tells_fails (by decide)) fun _ => tells_ite (fun _ => ?_) fun _ => ?_
  · refine tells_deadlineAbs _ fun d t₁ => (wpv_bind _ _).2 ?_
    refine wpg_sendWaitSent (I := fun _ => True) keeps_all.ticks trivial d ⟨?_, ?_, ?_⟩ ?_ fun _ _ => trivial
    · exact fun _ _ _ _ _ _ _ _ _ => tells_sendReady hbuf hD
    · exact fun _ _ _ _ _ _ _ _ _ _ => tells_fails (by decide)
    · intro _ _ _ _ _ _ _ _ _ _
      refine ⟨fun _ e he => ?_, fun _ => ⟨trivial, fun _ => tells_fails (by decide)⟩⟩
      rcases he with rfl | rfl
      · exact tells_fails (by decide)
      · exact tells_fails (by decide)
    · exact fun _ _ => tells_fails (by decide)
  · exact tells_sendReady hbuf hD

lemma told_send {len : ℕ} (buf : Option (Vector Byte len)) :
    TellsFrom t (Drops sn m (.send len buf)) (fun r : ℤ => 0 < r) (IoLibrary.send b sn len buf) m t := by
  refine tellsFrom_ite (fun _ => tellsFrom_fails (by decide)) fun hlen => ?_
  cases buf with
  | none => exact tellsFrom_fails (by decide)
  | some buf =>
    refine tellsFrom_ite (fun _ => tellsFrom_fails (by decide)) fun hsn => ?_
    refine tellsFrom_get (tellsFrom_ite (fun _ => tellsFrom_fails (by decide)) fun hready => ?_)
    refine tellsFrom_locked fun x => tellsFrom_view (tells_sendLocked Vector.length_toList ?_)
    intro hhealthy hbudgets htcp hpos hfits
    exact ⟨⟨⟨Nat.not_le.1 hsn, not_not.1 hready, hhealthy, hbudgets, htcp⟩, hlen, nofun⟩, hpos, hfits⟩

lemma tells_recvLocked {len : ℕ} (h : (g.sock sn).health ≠ .faulted → g.deadlineConfigValid →
      (g.sock sn).mode &&& 0x03 = 0x01 → g.rxmaxCache sn ≠ 0 → D) :
    Tells t D (fun r : ℤ × List Byte => 0 < r.1) (recvLocked b sn len) g t₁ := by
  refine tells_get ?_
  rintro m rfl
  refine tells_ite (fun _ => tells_fails (by decide)) fun hhealthy => ?_
  refine tells_ite (fun _ => tells_fails (by decide)) fun hbudgets => ?_
  refine tells_ite (fun _ => tells_fails (by decide)) fun htcp => ?_
  refine tells_of_gives (gives_then fun d => gives_bind (outcome_recvWait _ _) fun r hr => ?_)
  cases r with
  | error e => exact fun hpos => absurd hpos (Int.not_lt.2 hr)
  | ok size =>
    refine gives_then fun data => gives_then fun _ => gives_then fun d => ?_
    refine gives_bind (outcome_waitRegister _ _ _) fun r hw => gives_ite (fun hne => ?_) fun _ => ?_
    · exact gives_then fun _ hpos => absurd hpos (Int.not_lt.2 (hw hne))
    · intro hpos
      refine h hhealthy (not_not.1 hbudgets) (not_not.1 htcp) fun hmax => ?_
      rw [hmax] at hpos
      simp at hpos

lemma told_recv (buf : Bool) (len : ℕ) :
    TellsFrom t (Drops sn m (.recv buf len)) (fun r : ℤ => 0 < r) ((Op.recv buf len).run b sn) m t := by
  refine tellsFrom_map (tellsFrom_ite (fun _ => tellsFrom_fails (by decide)) fun hlen => ?_)
  refine tellsFrom_ite (fun _ => tellsFrom_fails (by decide)) fun hbuf => ?_
  refine tellsFrom_ite (fun _ => tellsFrom_fails (by decide)) fun hsn => ?_
  refine tellsFrom_get (tellsFrom_ite (fun _ => tellsFrom_fails (by decide)) fun hready => ?_)
  refine tellsFrom_locked fun x => tellsFrom_view (tells_recvLocked ?_)
  intro hhealthy hbudgets htcp hmax
  exact ⟨⟨⟨Nat.not_le.1 hsn, not_not.1 hready, hhealthy, hbudgets, htcp⟩, hlen, not_not.1 hbuf⟩, hmax⟩

lemma tells_sendtoIdle (hbudgets : g.deadlineConfigValid) {buf : List Byte} {len : ℕ} (hbuf : buf.length = len)
    (addr : Vector Byte 4) (port addrlen : ℕ)
    (h : AddressOk (g.sock sn).mode addr port addrlen → (g.sock sn).ioMode = false →
      min len (g.txmaxCache sn) ≠ 0 →
      ((g.sock sn).mode &&& 0x0F = snMrMacraw ∨ min len (g.txmaxCache sn) < 65536) → D) :
    Tells t D (fun r : ℤ => 0 < r) (sendtoIdle b sn buf len addr port addrlen) g t₁ := by
  refine tells_get ?_
  rintro m rfl
  refine tells_of_gives (gives_bind (outcome_sendtoAddress _ _ _ _) fun r haddr => ?_)
  cases r with
  | error e => exact fun hpos => absurd hpos (Int.not_lt.2 haddr)
  | ok _ =>
    refine gives_bind (outcome_sendtoWaitFree _ _ _ _) fun r hfits => ?_
    cases r with
    | error e => exact fun hpos => absurd hpos (Int.not_lt.2 hfits)
    | ok _ =>
      refine gives_mono (outcome_sendtoCommit _ _) fun r hr hpos => ?_
      obtain ⟨hio, hlength⟩ := hr hpos
      rw [List.length_take, hbuf] at hlength
      exact h haddr hio (by omega) (hfits.imp of_decide_eq_true id)

lemma told_sendto {len : ℕ} (buf : Option (Vector Byte len)) (addr : Vector Byte 4) (port addrlen : ℕ) :
    TellsFrom t (Drops sn m (.sendto len buf addr port addrlen)) (fun r : ℤ => 0 < r)
      (IoLibrary.sendto b sn len buf addr port addrlen) m t := by
  refine tellsFrom_ite (fun _ => tellsFrom_fails (by decide)) fun hlen => ?_
  cases buf with
  | none => exact tellsFrom_fails (by decide)
  | some buf =>
    refine tellsFrom_ite (fun _ => tellsFrom_fails (by decide)) fun hsn => tellsFrom_locked fun x => ?_
    refine tellsFrom_get (tellsFrom_ite (fun _ => tellsFrom_fails (by decide)) fun hfault => ?_)
    refine tellsFrom_ite (fun _ => tellsFrom_fails (by decide)) fun hhealthy => ?_
    refine tellsFrom_ite (fun _ => tellsFrom_fails (by decide)) fun hbudgets => ?_
    have hvalid : m.deadlineConfigValid := not_not.1 hbudgets
    refine tellsFrom_ite (fun hpending => tellsFrom_view ?_) fun hidle => tellsFrom_view ?_
    · refine wpg_sendtoPending.2 fun x t₁ _ => ⟨fun _ y t₂ _ _ hpos => ?_, fun _ _ y t₂ _ _ hpos => ?_, ?_⟩
      · refine ⟨⟨Nat.not_le.1 hsn, hlen, nofun, hfault, hhealthy, hvalid, fun hne => absurd hpending hne⟩, ?_⟩
        rw [if_pos hpending]
        omega
      · exact absurd hpos (by decide)
      · exact fun _ _ _ hpos => absurd hpos (by decide)
    · refine tells_sendtoIdle hvalid Vector.length_toList addr port addrlen fun haddr hio hpos hfits => ?_
      refine ⟨⟨Nat.not_le.1 hsn, hlen, nofun, hfault, hhealthy, hvalid, fun _ => haddr⟩, ?_⟩
      rw [if_neg hidle]
      exact ⟨hio, hpos, hfits⟩

lemma tells_recvfromLocked {len : ℕ} {addrPort : Bool}
    (h : (g.sock sn).health ≠ .faulted → g.deadlineConfigValid → Datagram (g.sock sn).mode →
      addrPort = true → D) :
    Tells t D (fun r : Received => 0 < r.ret) (recvfromLocked b sn len addrPort) g t₁ := by
  refine tells_get ?_
  rintro m rfl
  refine tells_ite (fun _ => tells_fails (by decide)) fun hhealthy => ?_
  refine tells_ite (fun _ => tells_fails (by decide)) fun hbudgets => ?_
  refine tells_ite (fun _ => tells_fails (by decide)) fun hmode => ?_
  have hdatagram : Datagram (m.sock sn).mode := by
    simp only [Datagram]
    tauto
  cases addrPort with
  | true => exact tells_of (h hhealthy (not_not.1 hbudgets) hdatagram rfl)
  | false =>
    have packet (packLen : ℕ) (mode : Byte) (nonblocking : Bool) :
        Gives (fun r : Received => 0 < r.ret → D) (recvfromPacket b sn len packLen mode nonblocking false) :=
      gives_ite (fun _ hpos => absurd hpos (by decide)) fun hnot => absurd Bool.false_ne_true hnot
    refine tells_of_gives (gives_ite (fun _ => gives_then fun d => ?_) fun _ => packet _ _ _)
    refine gives_bind (outcome_recvfromWait _ _) fun r hr => ?_
    cases r with
    | error e => exact fun hpos => absurd hpos (Int.not_lt.2 hr)
    | ok size => exact packet _ _ _

lemma told_recvfrom (buf : Bool) (len : ℕ) (addrPort : Bool) :
    TellsFrom t (Drops sn m (.recvfrom buf len addrPort)) (fun r : ℤ => 0 < r)
      ((Op.recvfrom buf len addrPort).run b sn) m t := by
  refine tellsFrom_map (tellsFrom_ite (fun _ => tellsFrom_fails (by decide)) fun hlen => ?_)
  refine tellsFrom_ite (fun _ => tellsFrom_fails (by decide)) fun hbuf => ?_
  refine tellsFrom_ite (fun _ => tellsFrom_fails (by decide)) fun hsn => ?_
  refine tellsFrom_locked fun x => tellsFrom_view (tells_recvfromLocked ?_)
  intro hhealthy hbudgets hmode haddrPort
  exact ⟨⟨Nat.not_le.1 hsn, hlen, not_not.1 hbuf, hhealthy, hbudgets, hmode⟩, haddrPort⟩

lemma told_ctlsocket (cstype : CtlsockType) (arg : Option ArgMem) :
    TellsFrom t (Drops sn m (.ctlsocket cstype arg)) (· = sockOk) ((Op.ctlsocket cstype arg).run b sn) m t := by
  refine tellsFrom_map (tellsFrom_ite (fun _ => tellsFrom_fails (by decide)) fun hsn => ?_)
  cases arg with
  | none => exact tellsFrom_fails (by decide)
  | some arg =>
    refine tellsFrom_locked fun x => tellsFrom_view (tells_get ?_)
    have hclear : Clear t (t ++ [⟨m.toGlobals, .sockLock sn, x⟩]) := Extends.refl.snoc id
    intro m' hm'
    refine tells_ite (fun _ => tells_clear hclear) fun _ => tells_ite (fun _ => tells_fails (by decide)) fun hhealthy => ?_
    rw [hm'] at hhealthy
    cases cstype with
    | setIomode =>
      refine tells_ite (fun _ => ?_) fun _ => tells_ite (fun _ => ?_) fun _ => tells_fails (by decide)
      · exact (wpv_bind _ _).2 ((wpg_modifySock _ _).2 (tells_clear hclear))
      · exact (wpv_bind _ _).2 ((wpg_modifySock _ _).2 (tells_clear hclear))
    | getIomode | getMaxtxbuf | getMaxrxbuf => exact tells_clear hclear
    | clrInterrupt | setIntmask =>
      refine tells_ite (fun _ => tells_fails (by decide)) fun hle => tells_of ?_
      exact ⟨Nat.not_le.1 hsn, hhealthy, arg, rfl, Nat.not_lt.1 hle⟩
    | getInterrupt | getIntmask => exact tells_of ⟨Nat.not_le.1 hsn, hhealthy, arg, rfl, trivial⟩
    | setPrefer | getPrefer | getTxState => exact tells_fails (by decide)

lemma told_setsockopt (sotype : SockoptType) (arg : Option ArgMem) :
    TellsFrom t (Drops sn m (.setsockopt sotype arg)) (· = sockOk) (IoLibrary.setsockopt b sn sotype arg) m t := by
  refine tellsFrom_ite (fun _ => tellsFrom_fails (by decide)) fun hsn => ?_
  refine tellsFrom_ite (fun _ => tellsFrom_fails (by decide)) fun hnull => tellsFrom_locked fun x => tellsFrom_view ?_
  refine tells_get fun m' hm' => tells_ite (fun _ => tells_fails (by decide)) fun hhealthy => ?_
  rw [hm'] at hhealthy
  have hlt := Nat.not_le.1 hsn
  have present (hne : sotype ≠ .keepalivesend) : arg ≠ none := by
    rintro rfl
    exact hnull ⟨rfl, hne⟩
  cases sotype with
  | ttl | tos | mss | destip | destport => exact tells_of ⟨hlt, hhealthy, present nofun⟩
  | keepaliveauto =>
    refine tells_ite (fun _ => tells_fails (by decide)) fun htcp => tells_of ⟨hlt, hhealthy, present nofun, ?_⟩
    exact hm' ▸ not_not.1 htcp
  | keepalivesend =>
    refine tells_get fun m₁ hm₁ => tells_ite (fun _ => tells_fails (by decide)) fun htcp => (wpv_bind _ _).2 ?_
    refine (wpg_wizchipRead _ _).2 fun x t₁ _ => tells_ite (fun _ => tells_fails (by decide)) fun _ => ?_
    refine tells_get fun m₂ hm₂ => tells_ite (fun _ => tells_fails (by decide)) fun hbudgets => tells_of ?_
    exact ⟨hlt, hhealthy, hm₁ ▸ not_not.1 htcp, hm₂ ▸ not_not.1 hbudgets⟩
  | flag | sendbuf | recvbuf | status | extstatus | mode | remainsize | packinfo =>
    exact tells_fails (by decide)

/-- The size reads consult the status of every frame. -/
lemma tells_sizeOption (hsafe : b.safeSpi) (hclear : Clear t t₁) (a : Addr) :
    Tells t D (fun r : ℤ × ArgOut => r.1 = sockOk) (sizeOption (stableSize b a)) g t₁ := by
  refine (wpv_bind _ _).2 (wpg_stableSize ticks_clear hclear b a ?_ (fun _ _ => tells_fails (by decide))
    fun _ _ => trivial)
  rintro t' x _ ht' ⟨-, rfl⟩
  refine ⟨fun hok => ?_, fun _ => tells_fails (by decide)⟩
  have hnext : Clear t (t' ++ [⟨g, .readBuf a 2, x⟩]) := ht'.snoc fun hfailed => hok ⟨hsafe, hfailed⟩
  exact ⟨hnext, tells_clear hnext⟩

/-- The mode register is read only when the cached mode is zero. -/
lemma tells_mode {α : Type} {S : α → Prop} {f : Byte → Drv α} (hD : (g.sock sn).mode = 0 → D)
    (h : (g.sock sn).mode ≠ 0 → Tells t D S (f (g.sock sn).mode) g t₁) :
    Tells t D S (do let mode ← sockModeCachedOrRead b sn; f mode) g t₁ := by
  by_cases hmode : (g.sock sn).mode = 0
  · exact tells_of (hD hmode)
  · refine (wpv_bind _ _).2 ((wpv_bind _ _).2 (wpv_get.2 ?_))
    rintro m rfl
    exact (wpv_ite _ _ _).2 ⟨fun h0 => absurd h0 hmode, fun _ => h hmode⟩

lemma told_getsockopt (hsafe : b.safeSpi) (sotype : SockoptType) (arg : Bool) :
    TellsFrom t (Drops sn m (.getsockopt sotype arg)) (· = sockOk) ((Op.getsockopt sotype arg).run b sn) m t := by
  refine tellsFrom_map (tellsFrom_ite (fun _ => tellsFrom_fails (by decide)) fun hsn => ?_)
  refine tellsFrom_ite (fun _ => tellsFrom_fails (by decide)) fun harg => tellsFrom_locked fun x => tellsFrom_view ?_
  have hclear : Clear t (t ++ [⟨m.toGlobals, .sockLock sn, x⟩]) := Extends.refl.snoc id
  have hlt := Nat.not_le.1 hsn
  have hgiven := not_not.1 harg
  refine tells_get fun m' hm' => tells_ite (fun _ => tells_fails (by decide)) fun hstop => ?_
  have hhealthy (hne : sotype ≠ .status) : (m.sock sn).health ≠ .faulted :=
    fun hf => hstop ⟨hm' ▸ hf, hne⟩
  cases sotype with
  | status => exact tells_of ⟨hlt, hgiven, trivial⟩
  | ttl | tos | mss | destip | destport => exact tells_of ⟨hlt, hgiven, hhealthy nofun⟩
  | keepaliveauto =>
    refine tells_ite (fun _ => tells_fails (by decide)) fun htcp => tells_of ⟨hlt, hgiven, hhealthy nofun, ?_⟩
    exact hm' ▸ not_not.1 htcp
  | sendbuf | recvbuf => exact tells_sizeOption hsafe hclear _
  | flag => exact tells_mode (fun h0 => ⟨hlt, hgiven, hhealthy nofun, h0⟩) fun _ => tells_clear hclear
  | remainsize =>
    refine tells_mode (fun h0 => ⟨hlt, hgiven, hhealthy nofun, h0⟩) fun _ => tells_ite (fun _ => ?_) fun _ => ?_
    · exact tells_sizeOption hsafe hclear _
    · exact tells_clear hclear
  | packinfo =>
    refine tells_mode (fun h0 => ⟨hlt, hgiven, hhealthy nofun, h0⟩) fun _ => tells_ite (fun _ => ?_) fun _ => ?_
    · exact tells_fails (by decide)
    · exact tells_clear hclear
  | keepalivesend | extstatus | mode => exact tells_fails (by decide)

lemma told_op (hsafe : b.safeSpi) (op : Op) :
    TellsFrom t (Drops sn m op) (fun r => op.Succeeds sn r) (op.run b sn) m t := by
  cases op with
  | socket protocol port flag => exact told_socket protocol flag port
  | close => exact told_close
  | listen => exact told_listen
  | connect addr port addrlen => exact told_connect addr port addrlen
  | disconnect => exact told_disconnect
  | send len buf => exact told_send buf
  | recv buf len => exact told_recv buf len
  | sendto len buf addr port addrlen => exact told_sendto buf addr port addrlen
  | recvfrom buf len addrPort => exact told_recvfrom buf len addrPort
  | ctlsocket cstype arg => exact told_ctlsocket cstype arg
  | setsockopt sotype arg => exact told_setsockopt sotype arg
  | getsockopt sotype arg => exact told_getsockopt hsafe sotype arg

end told

/-- With every transfer followed by a look at its status, a call is honest just when it drops none
on a way to success. -/
theorem honest_iff {b : Build} (hsafe : b.safeSpi) {sn : ℕ} {op : Op} {m : Driver} :
    Honest b sn op m ↔ ¬ Drops sn m op := by
  constructor
  · exact fun honest hdrops => dishonest_of_drops hdrops honest
  · intro hnot t r m' t' hrun hmarred hsucceeds
    exact hnot (wp_returns (told_op hsafe op) hrun hmarred hsucceeds)

/-- A connected socket 0 whose transmit buffer is of 2 KiB. -/
def connected : Driver :=
  { (Driver.boot 1000 1000).setSock 0 fun s => { s with mode := snMrTcp } with
    chipState := .ready, txmaxCache := fun _ => 2048 }

theorem honest_iff_send : Honest .oneTurn 0 (.send 1 (some #v[7])) connected ↔
    ¬ Drops 0 connected (.send 1 (some #v[7])) := honest_iff rfl

/-- send reports its byte as sent though the copy of it to the chip has failed. -/
theorem send_drops_failure : ¬ ∀ (b : Build) (sn : ℕ) (op : Op) (m : Driver), b.safeSpi →
    Honest b sn op m := by
  intro claim
  have hstream : Stream 0 connected := ⟨by decide, rfl, by decide, by decide, by decide⟩
  have hdrops : Drops 0 connected (.send 1 (some #v[7])) :=
    ⟨⟨hstream, by decide, nofun⟩, by decide, by decide⟩
  exact dishonest_of_drops hdrops (claim .oneTurn 0 (.send 1 (some #v[7])) connected rfl)

end IoLibrary.FalseSuccess
