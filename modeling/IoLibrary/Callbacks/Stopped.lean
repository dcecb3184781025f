import IoLibrary.Callbacks.Silent
import IoLibrary.Nonblocking

/-! The calls that reach a wait, by their arguments and the state before them. The others wait
through no callback, whatever is registered. -/
namespace IoLibrary.Callbacks
open Effects LockDiscipline

/-- The lengths fit their type, uint16_t. -/
def Fits : PublicCall → Prop
  | .on _ (.send len _) | .on _ (.sendto len _ _ _ _) => len < 2 ^ 16
  | _ => True

/-- The socket is healthy and the deadline budgets are configured. -/
structure Usable (sn : ℕ) (g : Globals) : Prop where
  healthy : (g.sock sn).health ≠ .faulted
  budgets : g.deadlineConfigValid

/-- The call passes its checks, and has a wait that may have to poll more than once. -/
def Reaches (m : Driver) : PublicCall → Prop
  | .on sn (.socket protocol _ flag) =>
      socketArgCheck sn protocol flag = none ∧ m.chipState = .ready ∧ Usable sn m.toGlobals
  | .on sn .close | .on sn .listen => sn < sockNum ∧ Usable sn m.toGlobals
  | .on sn (.sendto len buf addr port addrlen) =>
      Nonblocking.Begins sn m (.sendto len buf addr port addrlen) ∧ (m.sock sn).txState ≠ .dgramPending
  | .on sn (.recvfrom buf len addrPort) => Nonblocking.Begins sn m (.recvfrom buf len addrPort) ∧
      ((m.sock sn).ioMode = false ∧ ((m.sock sn).remainedSize = 0 ∨ addrPort = true) ∨
        (m.sock sn).mode &&& 0x0F = snMrMacraw ∧ (m.sock sn).remainedSize = 0 ∧ addrPort = true)
  | .on sn (.setsockopt .keepalivesend _) => sn < sockNum ∧ Usable sn m.toGlobals ∧
      (m.sock sn).mode &&& 0x03 = 0x01
  | .on sn op => Nonblocking.Begins sn m op
  | .ctlwizchip .resetPhy => True
  | .ctlwizchip (.setPhyconf (some c)) => c.valid
  | .ctlwizchip (.setPhypowmode (some pmode)) => pmode = phyPowerNorm ∨ pmode = phyPowerDown
  | _ => False

/-- No callback of the application was called. -/
def AllCalm (t : IoTrace) : Prop := ∀ v ∈ t, Calm v.call

abbrev anyGlobals : Env Globals IoTrace Io Io.Res := traceEnv fun _ _ _ => True

/-- No run from these globals adds a callback. -/
abbrev Calmly {α : Type} (p : Drv α) (g : Globals) (t : IoTrace) : Prop :=
  wpg anyGlobals p (fun _ _ t' => AllCalm t') (fun _ t' => AllCalm t') g t

/-- The same from this memory. -/
abbrev CalmRun {α : Type} (p : Drv α) (m : Driver) (t : IoTrace) : Prop :=
  wp anyChip p (fun _ _ t' => AllCalm t') (fun _ t' => AllCalm t') m t

section calm
variable {b : Build} {α β : Type} {sn : ℕ} {g : Globals} {m : Driver} {t : IoTrace} {p : Drv α}

lemma allCalm_nil : AllCalm [] := fun _ hv => absurd hv List.not_mem_nil

lemma AllCalm.snoc {e : Io} {x : e.Res} (h : AllCalm t) (he : Calm e) : AllCalm (t ++ [⟨g, e, x⟩]) := by
  intro v hv
  rcases List.mem_append.1 hv with hv | hv
  · exact h v hv
  · obtain rfl := List.mem_singleton.1 hv
    exact he

lemma calmRun_of_view (h : Calmly p m.toGlobals t) : CalmRun p m t := wp_of_wpg h

lemma calmly_within {U : (Driver → Driver) → Prop} (hp : Within U Calm p) (h : AllCalm t) : Calmly p g t :=
  wpv_of_within hp (fun _ t => AllCalm t) (fun _ _ _ _ h => h)
    (fun _ he _ _ _ _ h hx => hx.2 ▸ h.snoc he) h

lemma calmRun_within {U : (Driver → Driver) → Prop} (hp : Within U Calm p) (h : AllCalm t) :
    CalmRun p m t := calmRun_of_view (calmly_within hp h)

/-- A step that the globals do not show. -/
lemma calmly_bind {f : α → Drv β} (hp : Within Noise Calm p) (h : AllCalm t)
    (next : ∀ a t, AllCalm t → Calmly (f a) g t) : Calmly (p >>= f) g t := by
  have step : wpg anyGlobals p (fun _ g' t' => g' = g ∧ AllCalm t') (fun g' t' => g' = g ∧ AllCalm t') g t := by
    refine wpv_of_within hp (fun g' t => g' = g ∧ AllCalm t) (fun f hf m t h => ?_) ?_ ⟨rfl, h⟩
    · exact ⟨(hf m).1.trans h.1, h.2⟩
    · exact fun _ he _ _ _ _ h hx => ⟨h.1, hx.2 ▸ h.2.snoc he⟩
  refine (wpv_bind _ _).2 (wpv_mono step ?_ fun _ _ h => h.2)
  rintro a _ t' ⟨rfl, h⟩
  exact next a t' h

lemma calmly_get {f : Driver → Drv α} (next : ∀ m, m.toGlobals = g → Calmly (f m) g t) :
    Calmly (Prog.get >>= f) g t := (wpv_bind _ _).2 (wpv_get.2 next)

lemma calmly_ite {c : Prop} [Decidable c] {q : Drv α} (hp : c → Calmly p g t) (hq : ¬ c → Calmly q g t) :
    Calmly (if c then p else q) g t := (wpv_ite _ _ _).2 ⟨hp, hq⟩

lemma calmRun_ite {c : Prop} [Decidable c] {q : Drv α} (hp : c → CalmRun p m t)
    (hq : ¬ c → CalmRun q m t) : CalmRun (if c then p else q) m t := (wp_ite _ _ _).2 ⟨hp, hq⟩

lemma calmRun_locked (hbody : ∀ t, AllCalm t → CalmRun p m t) (h : AllCalm t) :
    CalmRun (locked sn p) m t := by
  simp only [CalmRun, locked, sockLock, sockUnlock, ask, wp_bind, wp_perform, wp_pure]
  rintro x _ ⟨-, rfl⟩
  refine wp_mono (hbody _ (h.snoc id)) ?_ fun _ _ => id
  rintro r m' t' h y _ ⟨-, rfl⟩
  exact h.snoc id

lemma calmly_locked (hbody : ∀ t, AllCalm t → Calmly p g t) (h : AllCalm t) : Calmly (locked sn p) g t := by
  refine (wpg_locked sn p).2 ?_
  rintro x _ ⟨-, rfl⟩
  refine wpv_mono (hbody _ (h.snoc id)) ?_ fun _ _ => id
  rintro r g' t' h y _ ⟨-, rfl⟩
  exact h.snoc id

lemma noise_read (a : Addr) : Within Noise Calm (wizchipRead b a) := within_wizchipRead (fun _ => id) b id

lemma noise_write (a : Addr) (v : Byte) : Within Noise Calm (wizchipWrite b a v) :=
  within_wizchipWrite (fun _ => id) b id

lemma noise_writeBuf (b : Build) (a : Addr) (data : List Byte) : Within Noise Calm (wizchipWriteBuf b a data) :=
  within_wizchipWriteBuf (fun _ => id) b id

lemma noise_setSnDPORT (b : Build) (port : ℕ) : Within Noise Calm (setSnDPORT b sn port) :=
  within_bind (within_wizchipWriteBufChecked (fun _ => id) b id) fun _ => within_pure _

/-- A deadline is not opened while the budgets are not configured. -/
lemma calmly_sockDeadlineBegin {f : Option ℕ → Drv α} {budget : ℕ} (hinvalid : ¬ g.deadlineConfigValid)
    (next : Calmly (f none) g t) : Calmly (sockDeadlineBegin budget >>= f) g t := by
  rw [sockDeadlineBegin, bind_assoc]
  refine calmly_get fun m hm => ?_
  rw [if_neg (by rwa [hm])]
  exact next

end calm

section operations
variable (b : Build) {sn : ℕ} {g : Globals} {m : Driver} {t : IoTrace}

lemma plain_closeClearState (r : ℤ) : Plain (closeClearState sn r) := by
  refine within_bind (plain_modifySock _) fun _ => within_ite ?_ (within_pure _)
  exact within_bind (plain_modifySock _) fun _ => within_pure _

/-- A faulted socket is closed without a command, and without budgets none is waited for. -/
lemma calmly_closeInternal (hstop : ¬ Usable sn g) (h : AllCalm t) : Calmly (closeInternal b sn 0) g t := by
  refine calmly_ite (fun _ => h) fun _ => calmly_ite (fun _ => ?_) fun hne => absurd rfl hne
  refine calmly_get fun m hm => ?_
  by_cases hvalid : g.deadlineConfigValid
  · refine calmly_bind (within_sockDeadlineBegin (fun _ => id) id _) h fun d t h => ?_
    cases d with
    | none => exact calmly_within (plain_closeClearState _) h
    | some d =>
      simp only [closeCommand, bind_assoc]
      refine calmly_get fun m hm => ?_
      rw [if_pos (not_not.1 fun hhealthy => hstop ⟨hm ▸ hhealthy, hvalid⟩)]
      exact calmly_within (plain_closeClearState _) h
  · exact calmly_sockDeadlineBegin hvalid (calmly_within (plain_closeClearState _) h)

lemma calm_socket {protocol flag : Byte} {port : ℕ}
    (hstop : ¬ Reaches m (.on sn (.socket protocol port flag))) (h : AllCalm t) :
    CalmRun (socket b sn protocol port flag) m t := by
  have body (status : Byte) (port : ℕ) {g : Globals} (hg : ¬ Usable sn g) {t : IoTrace}
      (h : AllCalm t) : Calmly (locked sn (socketLocked b sn protocol flag port status)) g t := by
    refine calmly_locked (fun t h => calmly_get fun m hm => calmly_ite (fun _ => h) fun hhealthy => ?_) h
    exact calmly_sockDeadlineBegin (fun hvalid => hg ⟨hm ▸ hhealthy, hvalid⟩) h
  unfold socket
  cases hcheck : socketArgCheck sn protocol flag with
  | some e => exact h
  | none =>
    refine calmRun_ite (fun _ => h) fun hready => calmRun_of_view ?_
    have hg : ¬ Usable sn m.toGlobals := fun hg => hstop ⟨hcheck, not_not.1 hready, hg⟩
    refine calmly_bind (noise_read _) h fun status t h => ?_
    rw [sourcePort]
    split
    · exact body status port hg h
    · simp only [globalLock, globalUnlock, Calmly, wpv_bind, wpv_perform, wpv_get, wpv_modify, wpv_pure]
      rintro x _ ⟨-, rfl⟩ m' hm m₂ hm₂ y _ ⟨-, rfl⟩
      refine body status _ (fun hu => hg ?_) ((h.snoc id).snoc id)
      rw [hm₂] at hu
      exact ⟨hu.healthy, hu.budgets⟩

lemma calm_close (hstop : ¬ Reaches m (.on sn .close)) (h : AllCalm t) : CalmRun (close b sn) m t := by
  refine calmRun_ite (fun _ => h) fun hsn => calmRun_of_view (calmly_locked (fun t h => ?_) h)
  exact calmly_closeInternal b (fun hg => hstop ⟨Nat.lt_of_not_le hsn, hg⟩) h

lemma calm_listen (hstop : ¬ Reaches m (.on sn .listen)) (h : AllCalm t) : CalmRun (listen b sn) m t := by
  refine calmRun_ite (fun _ => h) fun hsn => calmRun_of_view (calmly_locked (fun t h => ?_) h)
  refine calmly_get fun m' hm => calmly_ite (fun _ => h) fun hhealthy => ?_
  refine calmly_bind (noise_read _) h fun sr t h => calmly_ite (fun _ => h) fun _ => ?_
  refine calmly_get fun m'' _ => calmly_sockDeadlineBegin (fun hvalid => hstop ?_) h
  exact ⟨Nat.lt_of_not_le hsn, hm ▸ hhealthy, hvalid⟩

lemma calm_connect {addr : Option (Vector Byte 4)} {port addrlen : ℕ}
    (hstop : ¬ Reaches m (.on sn (.connect addr port addrlen))) (h : AllCalm t) :
    CalmRun (connect b sn addr port addrlen) m t := by
  refine calmRun_ite (fun _ => h) fun hsn => ?_
  cases addr with
  | none => exact h
  | some addr =>
    refine calmRun_ite (fun _ => h) fun hport => calmRun_ite (fun _ => h) fun hlen => ?_
    refine calmRun_ite (fun _ => h) fun haddr => calmRun_locked (fun t h => ?_) h
    refine calmRun_ite (fun _ => h) fun hready => calmRun_ite (fun _ => h) fun hhealthy => ?_
    refine calmRun_ite (fun _ => h) fun htcp => calmRun_of_view ?_
    refine calmly_bind (noise_read _) h fun sr t h => calmly_ite (fun _ => h) fun _ => ?_
    refine calmly_ite (fun _ => h) fun h16 => ?_
    have h4 : addrlen = 4 := not_not.1 fun h4 => hlen ⟨h4, h16⟩
    have hvalid : ¬ m.deadlineConfigValid := fun hvalid => hstop
      ⟨⟨Nat.lt_of_not_le hsn, not_not.1 hready, hhealthy, hvalid, not_not.1 htcp⟩, hport, h4, addr, rfl,
        fun hbad => haddr ⟨h4, hbad⟩⟩
    refine calmly_bind (noise_setSnDPORT b _) h fun _ t h => ?_
    refine calmly_bind (noise_writeBuf b _ _) h fun _ t h => ?_
    refine calmly_bind (noise_write _ _) h fun _ t h => calmly_get fun m' hm => ?_
    rw [if_pos (by rwa [hm])]
    exact h

lemma calm_disconnect (hstop : ¬ Reaches m (.on sn .disconnect)) (h : AllCalm t) :
    CalmRun (disconnect b sn) m t := by
  refine calmRun_ite (fun _ => h) fun hsn => calmRun_locked (fun t h => ?_) h
  refine calmRun_ite (fun _ => h) fun hready => calmRun_ite (fun _ => h) fun hhealthy => ?_
  refine calmRun_ite (fun _ => h) fun htcp => calmRun_of_view ?_
  have hvalid : ¬ m.deadlineConfigValid := fun hvalid => hstop
    ⟨Nat.lt_of_not_le hsn, not_not.1 hready, hhealthy, hvalid, not_not.1 htcp⟩
  refine calmly_bind (noise_read _) h fun tmp t h => calmly_ite (fun _ => h) fun _ => ?_
  refine calmly_ite (fun _ => ?_) fun _ => ?_
  · simp only [disconnectCommand, bind_assoc]
    refine calmly_bind (noise_write _ _) h fun _ t h => calmly_get fun m' hm => ?_
    rw [if_pos (by rwa [hm])]
    exact h
  · refine (wpv_bind _ _).2 ((wpg_modifySock _ _).2 (calmly_get fun m' hm => ?_))
    rw [if_pos (by rwa [hm])]
    exact h

lemma calm_send {len : ℕ} {buf : Option (Vector Byte len)} (hstop : ¬ Reaches m (.on sn (.send len buf)))
    (h : AllCalm t) : CalmRun (send b sn len buf) m t := by
  refine calmRun_ite (fun _ => h) fun hlen => ?_
  cases buf with
  | none => exact h
  | some buf =>
    refine calmRun_ite (fun _ => h) fun hsn => calmRun_ite (fun _ => h) fun hready => ?_
    refine calmRun_locked (fun t h => calmRun_ite (fun _ => h) fun hhealthy => ?_) h
    refine calmRun_ite (fun _ => h) fun hvalid => calmRun_ite (fun _ => h) fun htcp => absurd ?_ hstop
    exact ⟨⟨Nat.lt_of_not_le hsn, not_not.1 hready, hhealthy, not_not.1 hvalid, not_not.1 htcp⟩, hlen,
      Option.some_ne_none buf⟩

lemma calm_recv {buf : Bool} {len : ℕ} (hstop : ¬ Reaches m (.on sn (.recv buf len))) (h : AllCalm t) :
    CalmRun (recv b sn buf len) m t := by
  refine calmRun_ite (fun _ => h) fun hlen => calmRun_ite (fun _ => h) fun hbuf => ?_
  refine calmRun_ite (fun _ => h) fun hsn => calmRun_ite (fun _ => h) fun hready => ?_
  refine calmRun_locked (fun t h => calmRun_ite (fun _ => h) fun hhealthy => ?_) h
  refine calmRun_ite (fun _ => h) fun hvalid => calmRun_ite (fun _ => h) fun htcp => absurd ?_ hstop
  exact ⟨⟨Nat.lt_of_not_le hsn, not_not.1 hready, hhealthy, not_not.1 hvalid, not_not.1 htcp⟩, hlen,
    not_not.1 hbuf⟩

/-- sendto goes on after its address checks only when they pass. -/
lemma gives_sendtoAddress (mode : Byte) (addr : Vector Byte 4) (port addrlen : ℕ) :
    Gives (fun r => r = .ok () → Nonblocking.AddressOk mode addr port addrlen)
      (sendtoAddress b sn mode addr port addrlen) := by
  have statusCheck (hmode : Datagram mode)
      (hlen : mode ≠ snMrMacraw → addrlen = 4 ∧ mode ≠ snMrUdp6 ∧ mode ≠ snMrIpraw6)
      (hudp : mode &&& 0x03 = 0x02 → port ≠ 0) :
      Gives (fun r => r = .ok () → Nonblocking.AddressOk mode addr port addrlen)
        (sendtoAddress.statusCheck b sn mode addr port (mode &&& 0x0F)) := by
    refine gives_ite (fun hm _ => ⟨hmode, hlen, hudp, fun hne => absurd hm hne⟩) fun hm => ?_
    refine gives_ite (fun _ => nofun) fun hzero => gives_ite (fun _ => nofun) fun hport => ?_
    refine gives_then fun sr => gives_ite (fun _ => nofun) fun _ => gives_then fun _ => gives_then fun _ => ?_
    refine fun _ => ⟨hmode, hlen, hudp, fun _ hne => ⟨?_, fun hp => hport ⟨hp, hne⟩⟩⟩
    exact Bool.eq_false_of_not_eq_true fun hall => hzero ⟨hall, hne⟩
  have portCheck (hmode : Datagram mode)
      (hlen : mode ≠ snMrMacraw → addrlen = 4 ∧ mode ≠ snMrUdp6 ∧ mode ≠ snMrIpraw6) :
      Gives (fun r => r = .ok () → Nonblocking.AddressOk mode addr port addrlen)
        (sendtoAddress.portCheck b sn mode addr port (mode &&& 0x0F)) := by
    refine gives_ite (fun _ => gives_ite (fun hport => gives_then fun _ => ?_) fun _ => nofun) fun hudp => ?_
    · exact statusCheck hmode hlen fun _ => hport
    · exact statusCheck hmode hlen fun h => absurd h hudp
  refine gives_ite (fun _ => nofun) fun hmode => ?_
  have hmode : Datagram mode := by
    simp only [Datagram]
    tauto
  refine gives_ite (fun _ => gives_ite (fun _ => nofun) fun _ => gives_ite (fun h4 => ?_) fun _ => nofun) ?_
  · refine gives_ite (fun _ => nofun) fun h6 => gives_then fun _ => portCheck hmode fun _ => ?_
    exact ⟨h4, not_or.1 h6⟩
  · exact fun hmac => portCheck hmode fun hne => absurd hne hmac

lemma calm_sendto {len : ℕ} {buf : Option (Vector Byte len)} {addr : Vector Byte 4} {port addrlen : ℕ}
    (hstop : ¬ Reaches m (.on sn (.sendto len buf addr port addrlen))) (h : AllCalm t) :
    CalmRun (sendto b sn len buf addr port addrlen) m t := by
  refine calmRun_ite (fun _ => h) fun hlen => ?_
  cases buf with
  | none => exact h
  | some buf =>
    refine calmRun_ite (fun _ => h) fun hsn => calmRun_locked (fun t h => ?_) h
    refine calmRun_ite (fun _ => h) fun hfault => calmRun_ite (fun _ => h) fun hhealthy => ?_
    refine calmRun_ite (fun _ => h) fun hvalid => calmRun_ite (fun _ => ?_) fun hidle => ?_
    · exact calmRun_within (plain_sendtoPending b sn) h
    have hbad : ¬ Nonblocking.AddressOk (m.sock sn).mode addr port addrlen := fun hok => hstop
      ⟨⟨Nat.lt_of_not_le hsn, hlen, Option.some_ne_none buf, hfault, hhealthy, not_not.1 hvalid,
        fun _ => hok⟩, hidle⟩
    refine calmRun_of_view (calmly_get fun m' hm => (wpv_bind _ _).2 ?_)
    refine wpv_mono (wpv_and (calmly_within (plain_sendtoAddress b sn _ addr port addrlen) h)
      (wpv_of_gives (gives_sendtoAddress b _ addr port addrlen))) ?_ fun _ _ hcut => hcut.1
    rintro r g' t' ⟨h, hok⟩
    cases r with
    | error e => exact h
    | ok u =>
      rw [show m'.sock sn = m.sock sn from congrFun (congrArg Globals.sock hm) sn] at hok
      exact absurd (hok rfl) hbad

section nonblocking

lemma plain_waitDatagramCrAccepted (us : ℕ) : Plain (waitDatagramCrAccepted b sn us true) := by
  refine within_bind (plain_crOrTimeoutLook b) fun r => ?_
  cases r with
  | some r => exact within_pure _
  | none => exact within_pure _

lemma plain_recvHeader (n : ℕ) : Plain (recvHeader b sn n true) := by
  refine within_bind plain_get fun m => within_bind (plain_wizRecvData b _) fun head => ?_
  refine within_bind (plain_write b _ _) fun _ => ?_
  exact within_bind (plain_waitDatagramCrAccepted b _) fun ret => within_pure _

lemma plain_recvfromFinish (packLen : ℕ) (out : Received) : Plain (recvfromFinish b sn packLen true out) := by
  refine within_bind (plain_write b _ _) fun _ => within_bind plain_get fun m => ?_
  refine within_bind (plain_waitDatagramCrAccepted b _) fun ret => within_ite (within_pure _) ?_
  exact within_bind (plain_modifySock _) fun _ => within_pure _

lemma plain_recvfromChunk (len : ℕ) (out : Received) : Plain (recvfromChunk b sn len true out) :=
  within_bind plain_get fun _ => within_bind (plain_wizRecvData b _) fun _ => plain_recvfromFinish b _ _

lemma plain_recvfromUdp (len : ℕ) : Plain (recvfromUdp b sn len true) := by
  refine within_bind plain_get fun m => within_ite ?_ (plain_recvfromChunk b _ _)
  refine within_bind (plain_recvHeader b 8) fun r => within_ite (within_pure _) ?_
  exact within_bind (plain_modifySock _) fun _ => plain_recvfromChunk b _ _

lemma plain_recvfromIpraw (len packLen : ℕ) : Plain (recvfromIpraw b sn len packLen true) := by
  have payload (out : Received) : Plain (recvfromIpraw.payload b sn len packLen true out) :=
    within_bind plain_get fun m => within_ite (plain_recvfromChunk b _ _) (plain_recvfromFinish b _ _)
  refine within_bind plain_get fun m => within_ite ?_ (payload _)
  refine within_bind (plain_recvHeader b 6) fun r => within_ite (within_pure _) ?_
  exact within_bind (plain_modifySock _) fun _ => payload _

/-- The rest of a packet is copied without a header, so without a close. -/
lemma calmly_recvfromPacket {len packLen : ℕ} {mode : Byte} {addrPort : Bool}
    (hrest : mode &&& 0x07 = snMrMacraw → addrPort = true → (g.sock sn).remainedSize ≠ 0)
    (h : AllCalm t) : Calmly (recvfromPacket b sn len packLen mode true addrPort) g t := by
  refine calmly_ite (fun _ => h) fun haddr => ?_
  refine calmly_ite (fun _ => calmly_within (plain_recvfromUdp b len) h) fun _ => ?_
  refine calmly_ite (fun hmac => ?_) fun _ => calmly_within (plain_recvfromIpraw b len packLen) h
  refine calmly_get fun m hm => ?_
  rw [if_neg (hm ▸ hrest hmac (not_not.1 haddr))]
  exact calmly_within (plain_recvfromChunk b _ _) h

/-- In non-blocking mode the first look ends the wait for a packet. -/
lemma calmly_recvfromWait (d : ℕ) (h : AllCalm t) : Calmly (recvfromWait b sn true d) g t := by
  have ends : Gives (fun r => ∃ a, r = some a) (recvfromLook b sn true) := by
    refine gives_then fun r => ?_
    cases r with
    | error e => exact ⟨_, rfl⟩
    | ok packLen =>
      refine gives_then fun sr => gives_ite (fun _ => ⟨_, rfl⟩) fun _ => ?_
      exact gives_ite (fun _ => ⟨_, rfl⟩) fun _ => ⟨_, rfl⟩
  refine calmly_bind (within_waitPollInit (fun _ => id) id) h fun poll t h => wpg_pollLoop_first ?_
  refine wpv_mono (wpv_and (calmly_within (plain_recvfromLook b sn true) h) (wpv_of_gives ends)) ?_
    fun _ _ hcut => hcut.1
  rintro _ g' t' ⟨h, a, rfl⟩
  exact ⟨a, rfl, h⟩

end nonblocking

/-- The low three bits tell MACRAW from the other datagram modes. -/
lemma macraw_of_datagram {mode : Byte} (h : Datagram mode) (hmac : mode &&& 0x07 = snMrMacraw) :
    mode &&& 0x0F = snMrMacraw := by
  have low : mode &&& 0x0F &&& 0x07 = mode &&& 0x07 := by
    rw [BitVec.and_assoc]
    rfl
  rw [hmac] at low
  rcases h with h | h | h | h
  all_goals rw [h] at low ⊢
  all_goals first | rfl | exact absurd low (by decide)

lemma calm_recvfrom {buf : Bool} {len : ℕ} {addrPort : Bool}
    (hstop : ¬ Reaches m (.on sn (.recvfrom buf len addrPort))) (h : AllCalm t) :
    CalmRun (recvfrom b sn buf len addrPort) m t := by
  refine calmRun_ite (fun _ => h) fun hlen => calmRun_ite (fun _ => h) fun hbuf => ?_
  refine calmRun_ite (fun _ => h) fun hsn => calmRun_locked (fun t h => ?_) h
  refine calmRun_ite (fun _ => h) fun hhealthy => calmRun_ite (fun _ => h) fun hvalid => ?_
  refine calmRun_ite (fun _ => h) fun hmode => ?_
  have hmode : Datagram (m.sock sn).mode := by
    simp only [Datagram]
    tauto
  have hnot := fun hwaits => hstop ⟨⟨Nat.lt_of_not_le hsn, hlen, not_not.1 hbuf, hhealthy, not_not.1 hvalid,
    hmode⟩, hwaits⟩
  cases hio : (m.sock sn).ioMode with
  | true =>
    refine calmRun_ite (fun hempty => calmRun_of_view ?_) fun hrest => calmRun_of_view ?_
    · refine calmly_bind (within_wizchipDeadlineAbs (fun _ => id) id _) h fun d t h => ?_
      refine (wpv_bind _ _).2 (wpv_mono (calmly_recvfromWait b d h) ?_ fun _ _ => id)
      intro r g' t' h
      cases r with
      | error e => exact h
      | ok packLen =>
        refine calmly_recvfromPacket b (fun hmac haddr => absurd (.inr ?_) hnot) h
        exact ⟨macraw_of_datagram hmode hmac, hempty, haddr⟩
    · exact calmly_recvfromPacket b (fun _ _ => hrest) h
  | false =>
    have hrest : (m.sock sn).remainedSize ≠ 0 := fun hempty => hnot (.inl ⟨hio, .inl hempty⟩)
    have haddr : ¬ addrPort = true := fun haddr => hnot (.inl ⟨hio, .inr haddr⟩)
    refine calmRun_ite (fun hempty => absurd hempty hrest) fun _ => ?_
    refine calmRun_ite (fun _ => h) fun haddr' => absurd (not_not.1 haddr') haddr

lemma calm_setsockopt {sotype : SockoptType} {arg : Option ArgMem}
    (hstop : ¬ Reaches m (.on sn (.setsockopt sotype arg))) (h : AllCalm t) :
    CalmRun (setsockopt b sn sotype arg) m t := by
  by_cases hkeep : sotype = .keepalivesend
  · subst hkeep
    refine calmRun_ite (fun _ => h) fun hsn => calmRun_ite (fun _ => h) fun _ => ?_
    refine calmRun_of_view (calmly_locked (fun t h => calmly_get fun m' hm => ?_) h)
    refine calmly_ite (fun _ => h) fun hhealthy => calmly_get fun m'' hm' => calmly_ite (fun _ => h) fun htcp => ?_
    refine calmly_bind (noise_read _) h fun v t h => calmly_ite (fun _ => h) fun _ => ?_
    refine calmly_get fun m₃ hm₃ => calmly_ite (fun _ => h) fun hvalid => absurd ?_ hstop
    exact ⟨Nat.lt_of_not_le hsn, ⟨hm ▸ hhealthy, hm₃ ▸ not_not.1 hvalid⟩, hm' ▸ not_not.1 htcp⟩
  · exact calmRun_within (plain_setsockopt b sn hkeep arg) h

lemma calm_op {op : Op} (hstop : ¬ Reaches m (.on sn op)) (h : AllCalm t) : CalmRun (op.run b sn) m t := by
  cases op with
  | socket protocol port flag => exact calm_socket b hstop h
  | close => exact calm_close b hstop h
  | listen => exact calm_listen b hstop h
  | connect addr port addrlen => exact calm_connect b hstop h
  | disconnect => exact calm_disconnect b hstop h
  | send len buf => exact calm_send b hstop h
  | recv buf len => exact (wp_bind _ _).2 (calm_recv b hstop h)
  | sendto len buf addr port addrlen => exact calm_sendto b hstop h
  | recvfrom buf len addrPort => exact (wp_bind _ _).2 (calm_recvfrom b hstop h)
  | ctlsocket cstype arg => exact (wp_bind _ _).2 (calmRun_within (plain_ctlsocket b sn cstype arg) h)
  | setsockopt sotype arg => exact calm_setsockopt b hstop h
  | getsockopt sotype arg => exact (wp_bind _ _).2 (calmRun_within (plain_getsockopt b sn sotype arg) h)

end operations

section controls
variable (b : Build) {m : Driver} {t : IoTrace}

lemma calm_of_transfer {e : Io} (h : Transfer e ∨ Locks e) : Calm e := by
  cases e with
  | wait | phyLink => exact absurd h (by simp [Transfer, Locks])
  | _ => exact id

lemma calmRun_tidy {α : Type} {p : Drv α} (hp : Tidy Calm p) (h : AllCalm t) : CalmRun p m t :=
  calmRun_within (within_of_orderly hp) h

lemma calm_ctlwizchip {cwtype : CtlwizchipType} (hlink : cwtype ≠ .getPhylink true)
    (hstop : ¬ Reaches m (.ctlwizchip cwtype)) (h : AllCalm t) : CalmRun (ctlwizchip b cwtype) m t := by
  have settled (hset : cwtype.Settled) : CalmRun (ctlwizchip b cwtype) m t :=
    calmRun_tidy (tidy_ctlwizchip (fun _ => calm_of_transfer) b hset) h
  cases cwtype with
  | resetPhy => exact absurd trivial hstop
  | setPhyconf arg =>
    cases arg with
    | none => exact h
    | some c => exact (wp_bind _ _).2 (calmRun_ite (fun _ => h) fun hvalid => absurd (not_not.1 hvalid) hstop)
  | setPhypowmode arg =>
    cases arg with
    | none => exact settled trivial
    | some pmode =>
      refine (wp_bind _ _).2 (calmRun_ite (fun _ => h) fun hpmode => absurd ?_ hstop)
      simp only [Reaches]
      tauto
  | getPhylink arg =>
    cases arg with
    | false => exact settled trivial
    | true => exact absurd rfl hlink
  | _ => exact settled trivial

/-- A call that is stopped before its waits, or has none, waits through no callback. -/
lemma calm_call {c : PublicCall} (hlink : c ≠ .ctlwizchip (.getPhylink true)) (hstop : ¬ Reaches m c)
    (h : AllCalm t) : CalmRun (c.run b) m t := by
  have any : ∀ e, Transfer e ∨ Locks e → Calm e := fun _ => calm_of_transfer
  cases c with
  | on sn op => exact calm_op b hstop h
  | socketStateResetOne sn =>
    exact (wp_bind _ _).2 (calmRun_tidy (tidy_transfers any (transfers_wizchipSocketStateResetOne sn)) h)
  | socketStateReset =>
    exact (wp_bind _ _).2 (calmRun_tidy (tidy_transfers any transfers_wizchipSocketStateReset) h)
  | ctlwizchip cwtype =>
    exact (wp_bind _ _).2 (calm_ctlwizchip b (fun hlink' => hlink (hlink' ▸ rfl)) hstop h)
  | ctlnetwork cntype => exact (wp_bind _ _).2 (calmRun_tidy (tidy_ctlnetwork any b cntype) h)
  | init txsize rxsize => exact calmRun_tidy (tidy_wizchipInit any b txsize rxsize) h
  | swReset => exact calmRun_tidy (tidy_wizchipSwReset any b) h
  | setTxBufSize sn sizeKb => exact calmRun_tidy (tidy_wizchipSetBufSize any b .tx sn sizeKb) h
  | setRxBufSize sn sizeKb => exact calmRun_tidy (tidy_wizchipSetBufSize any b .rx sn sizeKb) h
  | setOperationTimeoutUs timeoutUs => exact calmRun_tidy (tidy_setOperationTimeoutUs any b timeoutUs) h
  | setTimeoutConfig config => exact calmRun_tidy (tidy_setTimeoutConfig any b config) h
  | timeoutConfigSet timeoutUs => exact calmRun_tidy (tidy_timeoutConfigSet any timeoutUs) h
  | settimeout nettime =>
    exact (wp_bind _ _).2 (calmRun_tidy (tidy_globalLocked any (transfers_settimeout b nettime)) h)

lemma calmRun_mute {α : Type} {p : Drv α} (hp : Mute p) (hm : Unregistered m) (h : AllCalm t) :
    CalmRun p m t := by
  refine wp_of_under hp AllCalm (fun e he m t x t' h hx => ?_) hm h
  rw [hx.2]
  exact h.snoc he

/-- With no wait callback registered no call waits through one. -/
lemma calm_unregistered {c : PublicCall} (hlink : c ≠ .ctlwizchip (.getPhylink true)) (hm : Unregistered m)
    (h : AllCalm t) : CalmRun (c.run b) m t := by
  by_cases hstop : Reaches m c
  · cases c with
    | on sn op => exact calmRun_mute (mute_op b sn op) hm h
    | ctlwizchip cwtype =>
      refine calmRun_mute (mute_map _ ?_) hm h
      cases cwtype with
      | resetPhy => exact mute_map _ (mute_wizphyReset b)
      | setPhyconf arg => exact mute_map _ (mute_wizphySetphyconf b arg)
      | setPhypowmode arg =>
        cases arg with
        | none => exact mute_pure _
        | some pmode => exact mute_map _ (mute_wizphySetphypmode b pmode)
      | _ => exact hstop.elim
    | _ => exact hstop.elim
  · exact calm_call b hlink hstop h

end controls

end IoLibrary.Callbacks
