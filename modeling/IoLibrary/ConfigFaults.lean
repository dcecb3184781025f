import IoLibrary.Chips
import IoLibrary.Gate

/-! What the operations that issue commands do without a time source or with a zero budget. -/
namespace IoLibrary.ConfigFaults
open Effects Gate

/-- The operations that issue a command. -/
def Issues : Op → Prop
  | .ctlsocket _ _ | .getsockopt _ _ => False
  | .setsockopt sotype _ => sotype = .keepalivesend
  | _ => True

/-- The values that the events have read from Sn_SR. -/
def statusReads (sn : ℕ) (added : IoTrace) : List Byte :=
  added.filterMap fun
    | ⟨_, .read8 a, x⟩ => if a = Reg.snSR sn then some x.1 else none
    | _ => none

/-- connect and disconnect get to the status of the socket. -/
def Asks (sn : ℕ) (m : Driver) : Prop :=
  sn < sockNum ∧ m.chipState = .ready ∧ (m.sock sn).health ≠ .faulted ∧
    (m.sock sn).mode &&& 0x03 = 0x01

/-- The calls that go on to a register or to a success: there is no check of the configuration on
their way. -/
def Unchecked (sn : ℕ) (m : Driver) (added : IoTrace) : Op → Prop
  | .connect addr port addrlen => Asks sn m ∧
      (∃ a, addr = some a ∧ ¬ (a.all (· = 0xFF) ∨ a.all (· = 0))) ∧ port ≠ 0 ∧ addrlen = 4 ∧
      sockInit ∈ statusReads sn added
  | .disconnect => Asks sn m ∧ ∃ status ∈ statusReads sn added,
      status = sockClosed ∨ status = sockEstablished ∨ status = sockCloseWait
  | .send len _ | .recv _ len | .sendto len _ _ _ _ | .recvfrom _ len _ => len = 0
  | _ => False

section refused
variable {b : Build} {sn : ℕ} {g : Globals} {t t₁ : IoTrace}

lemma refused_socketLocked (hinvalid : ¬ g.deadlineConfigValid) (protocol flag status : Byte)
    (port : ℕ) (ht₁ : Clean t t₁) :
    WpgRefused (socketLocked b sn protocol flag port status) g t t₁ := by
  simp only [WpgRefused, socketLocked, wpv_bind, wpv_get, wpv_ite, wpv_pure]
  rintro m rfl
  refine ⟨fun _ => ⟨by decide, ht₁⟩, fun _ => ?_⟩
  refine wpg_sockDeadlineBegin ticks_clean ht₁ _ (fun hvalid => absurd hvalid hinvalid) fun _ => ?_
  exact ⟨by decide, ht₁⟩

lemma wpgRefused_locked {body : Drv ℤ} (h : ∀ t₁, Clean t t₁ → WpgRefused body g t t₁)
    (ht₁ : Clean t t₁) : WpgRefused (locked sn body) g t t₁ := by
  have hlock : ¬ Writes (.sockLock sn) := id
  have hunlock : ¬ Writes (.sockUnlock sn) := id
  refine (wpg_locked sn body).2 ?_
  rintro x _ ⟨-, rfl⟩
  refine wpv_mono (h _ (ht₁.snoc hlock)) ?_ fun _ _ => id
  rintro r g' t' ⟨hr, ht'⟩ y _ ⟨-, rfl⟩
  exact ⟨hr, ht'.snoc hunlock⟩

lemma refused_socket (hinvalid : ¬ g.deadlineConfigValid) (protocol flag : Byte) (port : ℕ)
    (ht₁ : Clean t t₁) : WpgRefused (socket b sn protocol port flag) g t t₁ := by
  have hstatus : ¬ Writes (.read8 (Reg.snSR sn)) := id
  unfold socket
  cases hcheck : socketArgCheck sn protocol flag with
  | some e => exact ⟨socketArgCheck_neg hcheck, ht₁⟩
  | none =>
    simp only [WpgRefused, wpv_bind, wpv_get, wpv_ite, wpv_modify, wpv_pure, wpg_getSnSR]
    rintro m rfl
    refine ⟨fun _ m' _ => ⟨by decide, ht₁⟩, ?_⟩
    rintro _ x _ ⟨-, rfl⟩
    have source : wpg (traceEnv fun _ _ _ => True) (sourcePort port)
        (fun _ g' t' => ¬ g'.deadlineConfigValid ∧ Clean t t')
        (fun g' t' => ¬ g'.deadlineConfigValid ∧ Clean t t') m.toGlobals
        (t₁ ++ [⟨m.toGlobals, .read8 (Reg.snSR sn), x⟩]) := by
      refine wpv_of_within (within_sourcePort port)
        (fun (g' : Globals) t' => ¬ g'.deadlineConfigValid ∧ Clean t t') (fun f hf m' t' h' => ?_)
        (fun e he g' t' y _ h' hy => ?_) ⟨hinvalid, ht₁.snoc hstatus⟩
      · obtain ⟨p, hp⟩ := hf m'
        rw [hp]
        exact h'
      · obtain ⟨-, rfl⟩ := hy
        rcases he with rfl | rfl
        · exact ⟨h'.1, h'.2.snoc id⟩
        · exact ⟨h'.1, h'.2.snoc id⟩
    refine wpv_mono source (fun p g' t' h' => ?_) fun _ _ h => h.2
    exact wpgRefused_locked (fun t₂ ht₂ => refused_socketLocked h'.1 _ _ _ _ ht₂) h'.2

lemma refused_close (hinvalid : ¬ g.deadlineConfigValid) (ht₁ : Clean t t₁) :
    WpgRefused (close b sn) g t t₁ := by
  simp only [WpgRefused, close, wpv_ite, wpv_pure]
  refine ⟨fun _ => ⟨by decide, ht₁⟩, fun hsn => wpgRefused_locked (fun t₂ ht₂ => ?_) ht₁⟩
  have hlt : sn < sockNum := Nat.not_le.1 hsn
  simp only [WpgRefused, closeInternal, wpv_ite, wpv_bind, wpv_pure, wpv_get]
  refine ⟨fun hle => absurd hlt (Nat.not_lt.2 hle), fun _ => ⟨fun _ m hm => ?_, fun h => ?_⟩⟩
  · subst hm
    refine wpg_sockDeadlineBegin ticks_clean ht₂ _ (fun hvalid => absurd hvalid hinvalid) fun _ => ?_
    have hid : m.toGlobals.setSock sn id = m.toGlobals := by simp [Globals.setSock]
    have hclear : WpgRefused (closeClearState sn sockerrTimeout) (m.toGlobals.setSock sn id) t t₂ :=
      wpg_closeClearState sockerrTimeout id ⟨by decide, ht₂⟩
    rwa [hid] at hclear
  · exact absurd trivial h

lemma refused_listen (hinvalid : ¬ g.deadlineConfigValid) (ht₁ : Clean t t₁) :
    WpgRefused (listen b sn) g t t₁ := by
  simp only [WpgRefused, listen, wpv_ite, wpv_pure]
  refine ⟨fun _ => ⟨by decide, ht₁⟩, fun _ => wpgRefused_locked (fun t₂ ht₂ => ?_) ht₁⟩
  exact stopped_listen (.inr hinvalid) ht₂

lemma refused_send (hinvalid : ¬ g.deadlineConfigValid) {len : ℕ} (hlen : len ≠ 0)
    (buf : Option (Vector Byte len)) (ht₁ : Clean t t₁) : WpgRefused (send b sn len buf) g t t₁ := by
  simp only [WpgRefused, send, wpv_ite]
  refine ⟨fun h => absurd h hlen, fun _ => ?_⟩
  cases buf with
  | none => exact ⟨by decide, ht₁⟩
  | some buf =>
    simp only [wpv_bind, wpv_get, wpv_ite, wpv_pure]
    refine ⟨fun _ => ⟨by decide, ht₁⟩, fun _ m hm => ⟨fun _ => ⟨by decide, ht₁⟩, fun _ => ?_⟩⟩
    refine wpgRefused_locked (fun t₂ ht₂ => ?_) ht₁
    simp only [WpgRefused, sendLocked, wpv_bind, wpv_get, wpv_ite, wpv_pure]
    rintro m rfl
    refine ⟨fun _ => ⟨by decide, ht₂⟩, fun _ => ⟨fun _ => ⟨by decide, ht₂⟩, fun hvalid => ?_⟩⟩
    exact absurd hinvalid hvalid

lemma refused_recv (hinvalid : ¬ g.deadlineConfigValid) {len : ℕ} (hlen : len ≠ 0) (buf : Bool)
    (ht₁ : Clean t t₁) : WpgRefused ((Op.recv buf len).run b sn) g t t₁ := by
  simp only [WpgRefused, Op.run, recv, wpv_bind, wpv_get, wpv_ite, wpv_pure]
  refine ⟨fun h => absurd h hlen, fun _ => ⟨fun _ => ⟨by decide, ht₁⟩, fun _ => ?_⟩⟩
  refine ⟨fun _ => ⟨by decide, ht₁⟩, fun _ m hm => ⟨fun _ => ⟨by decide, ht₁⟩, fun _ => ?_⟩⟩
  have hlock : ¬ Writes (.sockLock sn) := id
  have hunlock : ¬ Writes (.sockUnlock sn) := id
  refine (wpg_locked sn _).2 ?_
  rintro x _ ⟨-, rfl⟩
  have ht₂ := ht₁.snoc (v := ⟨g, .sockLock sn, x⟩) hlock
  simp only [recvLocked, wpv_bind, wpv_get, wpv_ite, wpv_pure]
  rintro m rfl
  refine ⟨fun _ y _ hy => ?_, fun _ => ⟨fun _ y _ hy => ?_, fun hvalid => absurd hinvalid hvalid⟩⟩
  · obtain ⟨-, rfl⟩ := hy
    exact ⟨by decide, ht₂.snoc hunlock⟩
  · obtain ⟨-, rfl⟩ := hy
    exact ⟨by decide, ht₂.snoc hunlock⟩

lemma refused_sendto (hinvalid : ¬ g.deadlineConfigValid) {len : ℕ} (hlen : len ≠ 0)
    (buf : Option (Vector Byte len)) (addr : Vector Byte 4) (port addrlen : ℕ) (ht₁ : Clean t t₁) :
    WpgRefused (sendto b sn len buf addr port addrlen) g t t₁ := by
  simp only [WpgRefused, sendto, wpv_ite]
  refine ⟨fun h => absurd h hlen, fun _ => ?_⟩
  cases buf with
  | none => exact ⟨by decide, ht₁⟩
  | some buf =>
    simp only [wpv_ite, wpv_pure]
    refine ⟨fun _ => ⟨by decide, ht₁⟩, fun _ => wpgRefused_locked (fun t₂ ht₂ => ?_) ht₁⟩
    exact stopped_sendto (.inr (.inr (.inl hinvalid))) _ _ _ _ ht₂

lemma refused_recvfrom (hinvalid : ¬ g.deadlineConfigValid) {len : ℕ} (hlen : len ≠ 0)
    (buf addrPort : Bool) (ht₁ : Clean t t₁) :
    WpgRefused ((Op.recvfrom buf len addrPort).run b sn) g t t₁ := by
  have hlock : ¬ Writes (.sockLock sn) := id
  have hunlock : ¬ Writes (.sockUnlock sn) := id
  simp only [WpgRefused, Op.run, recvfrom, wpv_bind, wpv_ite, wpv_pure]
  refine ⟨fun h => absurd h hlen, fun _ => ⟨fun _ => ⟨by decide, ht₁⟩, fun _ => ?_⟩⟩
  refine ⟨fun _ => ⟨by decide, ht₁⟩, fun _ => (wpg_locked sn _).2 ?_⟩
  rintro x _ ⟨-, rfl⟩
  refine wpv_mono (stopped_recvfrom (.inr (.inl hinvalid)) len (ht₁.snoc hlock)) ?_ fun _ _ => id
  rintro r g' t' ⟨hr, ht'⟩ y _ ⟨-, rfl⟩
  exact ⟨hr, ht'.snoc hunlock⟩

lemma refused_keepalivesend (hinvalid : ¬ g.deadlineConfigValid) (arg : Option ArgMem)
    (ht₁ : Clean t t₁) : WpgRefused (setsockopt b sn .keepalivesend arg) g t t₁ := by
  have hread : ¬ Writes (.read8 (Reg.snKPALVTR sn)) := id
  simp only [WpgRefused, setsockopt, wpv_ite, wpv_pure]
  refine ⟨fun _ => ⟨by decide, ht₁⟩, fun _ => ⟨fun _ => ⟨by decide, ht₁⟩, fun _ => ?_⟩⟩
  refine wpgRefused_locked (fun t₂ ht₂ => ?_) ht₁
  simp only [WpgRefused, setsockoptLocked, keepaliveSend, wpv_bind, wpv_get, wpv_ite, wpv_pure,
    wpg_wizchipRead]
  rintro m rfl
  refine ⟨fun _ => ⟨by decide, ht₂⟩, fun _ m hm => ⟨fun _ => ⟨by decide, ht₂⟩, fun _ => ?_⟩⟩
  rintro x _ ⟨-, rfl⟩
  have ht₃ := ht₂.snoc (v := ⟨m.toGlobals, .read8 (Reg.snKPALVTR sn), x⟩) hread
  rw [hm] at ht₃
  refine ⟨fun _ => ⟨by decide, ht₃⟩, fun _ m' hm' => ⟨fun _ => ⟨by decide, ht₃⟩, fun hvalid => ?_⟩⟩
  rw [← hm'] at hinvalid
  exact absurd hinvalid hvalid

end refused

/-- The call returns an error and writes nothing. -/
def Refused (r : ℤ) (added : IoTrace) : Prop := r < 0 ∧ ∀ v ∈ added, ¬ Writes v.call

section unchecked
variable {b : Build} {sn : ℕ} {m : Driver} {t t' : IoTrace} {r : ℤ} {op : Op}

/-- The call ended as the claim asks, or there was no check on its way. -/
def Met (sn : ℕ) (m : Driver) (op : Op) (t : IoTrace) (r : ℤ) (t' : IoTrace) : Prop :=
  ∃ added, t' = t ++ added ∧ (Refused r added ↔ ¬ Unchecked sn m added op)

lemma Met.refused {added : IoTrace} (hr : r < 0) (hclean : ∀ v ∈ added, ¬ Writes v.call)
    (hchecked : ¬ Unchecked sn m added op) : Met sn m op t r (t ++ added) :=
  ⟨added, rfl, fun _ => hchecked, fun _ => ⟨hr, hclean⟩⟩

lemma Met.wrote {added more : IoTrace} {v : Event Globals Io Io.Res} (hv : v ∈ added)
    (hwrites : Writes v.call) (hunchecked : ∀ more, Unchecked sn m (added ++ more) op) :
    Met sn m op t r (t ++ added ++ more) := by
  refine ⟨added ++ more, List.append_assoc _ _ _, fun h => ?_, fun h => absurd (hunchecked more) h⟩
  exact absurd hwrites (h.2 v (List.mem_append_left _ hv))

lemma statusReads_append (l l' : IoTrace) :
    statusReads sn (l ++ l') = statusReads sn l ++ statusReads sn l' := List.filterMap_append

/-- An operation behind its socket lock. -/
lemma met_locked {body : Drv ℤ} (hunchecked : ∀ added added', statusReads sn added =
      statusReads sn added' → (Unchecked sn m added op ↔ Unchecked sn m added' op))
    (h : ∀ t₁, wp anyChip body (fun r _ t' => Met sn m op t₁ r t') (fun _ _ => True) m t₁) :
    wp anyChip (locked sn body) (fun r _ t' => Met sn m op t r t') (fun _ _ => True) m t := by
  simp only [locked, sockLock, sockUnlock, ask, wp_bind, wp_perform, wp_pure]
  rintro x _ ⟨-, rfl⟩
  refine wp_mono (h _) ?_ fun _ _ => id
  rintro r m' t' ⟨added, rfl, hmet⟩ y _ ⟨-, rfl⟩
  refine ⟨⟨m.toGlobals, .sockLock sn, x⟩ :: added ++ [⟨m'.toGlobals, .sockUnlock sn, y⟩],
    by simp, ?_⟩
  have hsame : statusReads sn (⟨m.toGlobals, .sockLock sn, x⟩ :: added ++
      [⟨m'.toGlobals, .sockUnlock sn, y⟩]) = statusReads sn added := by
    rw [statusReads_append]
    exact List.append_nil _
  rw [hunchecked _ _ hsame, ← hmet]
  have hlock : ¬ Writes (.sockLock sn) := id
  have hunlock : ¬ Writes (.sockUnlock sn) := id
  refine and_congr_right fun _ => ⟨fun h v hv => h v (by simp [hv]), fun h v hv => ?_⟩
  rcases List.mem_append.1 hv with hv | hv
  · rcases List.mem_cons.1 hv with rfl | hv
    · exact hlock
    · exact h v hv
  · obtain rfl := List.mem_singleton.1 hv
    exact hunlock

/-- A run only adds events. -/
lemma wpg_grows {α : Type} (p : Drv α) (g : Globals) (t : IoTrace) :
    wpg (traceEnv fun _ _ _ => True) p (fun _ _ t' => ∃ more, t' = t ++ more) (fun _ _ => True) g t := by
  have keep : wpg (traceEnv fun _ _ _ => True) p (fun _ _ t' => Extends (fun _ => True) t t')
      (fun _ t' => Extends (fun _ => True) t t') g t :=
    wpv_of_within (within_all p) (fun _ t' => Extends (fun _ => True) t t') (fun _ _ _ _ h => h)
      (fun _ _ _ _ _ _ h hx => hx.2 ▸ h.snoc trivial) .refl
  exact wpv_mono keep (fun _ _ _ ⟨more, h, _⟩ => ⟨more, h⟩) fun _ _ _ => trivial

/-- Past the checks of the chip state the globals are enough. -/
lemma met_of_view {p : Drv ℤ} (h : wpg (traceEnv fun _ _ _ => True) p
      (fun r _ t' => Met sn m op t r t') (fun _ _ => True) m.toGlobals t) :
    wp anyChip p (fun r _ t' => Met sn m op t r t') (fun _ _ => True) m t := wp_of_wpg h

/-- After a write, nothing helps. -/
lemma met_wrote {p : Drv ℤ} {g : Globals} {added : IoTrace} {v : Event Globals Io Io.Res}
    (hv : v ∈ added) (hwrites : Writes v.call)
    (hunchecked : ∀ more, Unchecked sn m (added ++ more) op) :
    wpg (traceEnv fun _ _ _ => True) p (fun r _ t' => Met sn m op t r t') (fun _ _ => True) g
      (t ++ added) := by
  refine wpv_mono (wpg_grows p g (t ++ added)) ?_ fun _ _ => id
  rintro r _ _ ⟨more, rfl⟩
  exact Met.wrote hv hwrites hunchecked

lemma wpg_setSnDPORT {W : Type} {env : Env Globals W Io Io.Res} {g : Globals} {w : W} {port : ℕ}
    {Q : Unit → Globals → W → Prop} {H : Globals → W → Prop}
    (h : ∀ x w₁, env g w (.writeBuf (Reg.snDPORT sn) (bytes16 port)) x w₁ → Q () g w₁) :
    wpg env (setSnDPORT b sn port) Q H g w := by
  simp only [setSnDPORT, wizchipWrite16, wpv_bind, wpv_pure, wpg_wizchipWriteBufChecked]
  exact ⟨fun hnil => absurd hnil (by simp [bytes16]), fun _ => h⟩

lemma met_connect (addr : Option (Vector Byte 4)) (port addrlen : ℕ) :
    wp anyChip (connect b sn addr port addrlen)
      (fun r _ t' => Met sn m (.connect addr port addrlen) t r t') (fun _ _ => True) m t := by
  have early {r : ℤ} (hr : r < 0) (t : IoTrace) : Met sn m (.connect addr port addrlen) t r t := by
    have hnone : ¬ Unchecked sn m [] (.connect addr port addrlen) := by simp [Unchecked, statusReads]
    simpa using Met.refused (t := t) hr (by simp) hnone
  have same (added added' : IoTrace) (h : statusReads sn added = statusReads sn added') :
      Unchecked sn m added (.connect addr port addrlen) ↔
        Unchecked sn m added' (.connect addr port addrlen) := by
    simp only [Unchecked, h]
  simp only [connect, wp_ite, wp_pure]
  refine ⟨fun _ => early (by decide) t, fun hsn => ?_⟩
  cases addr with
  | none => exact early (by decide) t
  | some addr =>
    simp only [wp_ite, wp_pure]
    refine ⟨fun _ => early (by decide) t, fun hport => ⟨fun _ => early (by decide) t, fun hlen => ?_⟩⟩
    refine ⟨fun _ => early (by decide) t, fun haddr => met_locked same fun t₁ => ?_⟩
    simp only [connectLocked]
    refine (wp_bind _ _).2 (wp_get.2 ?_)
    simp only [wp_ite, wp_pure]
    refine ⟨fun _ => early (by decide) t₁, fun hready => ⟨fun _ => early (by decide) t₁, ?_⟩⟩
    refine fun hhealthy => ⟨fun _ => early (by decide) t₁, fun hmode => met_of_view ?_⟩
    refine (wpv_bind _ _).2 (wpg_getSnSR.2 ?_)
    rintro x _ ⟨-, rfl⟩
    have hread : ∀ v ∈ [(⟨m.toGlobals, .read8 (Reg.snSR sn), x⟩ : Event Globals Io Io.Res)],
        ¬ Writes v.call := by
      intro v hv
      obtain rfl := List.mem_singleton.1 hv
      exact id
    have hreads : statusReads sn [⟨m.toGlobals, .read8 (Reg.snSR sn), x⟩] = [x.1] := by
      simp [statusReads]
    refine (wpv_ite _ _ _).2 ⟨fun hne => .refused (by decide) hread fun h => ?_, fun hinit => ?_⟩
    · have hmem := h.2.2.2.2
      rw [hreads, List.mem_singleton] at hmem
      exact hne hmem.symm
    · refine (wpv_ite _ _ _).2 ⟨fun h16 => .refused (by decide) hread fun h => ?_, fun h16 => ?_⟩
      · exact absurd (h.2.2.2.1.symm.trans h16) (by decide)
      · refine (wpv_bind _ _).2 (wpg_setSnDPORT ?_)
        rintro y _ ⟨-, rfl⟩
        rw [List.append_assoc]
        refine met_wrote (v := ⟨_, .writeBuf _ _, y⟩)
          (List.mem_append_right _ (List.mem_singleton_self _)) trivial fun more => ?_
        refine ⟨⟨Nat.not_le.1 hsn, not_not.1 hready, hhealthy, not_not.1 hmode⟩, ⟨addr, rfl, ?_⟩,
          hport, by omega, ?_⟩
        · exact fun hall => haddr ⟨by omega, hall⟩
        · rw [statusReads_append, statusReads_append, hreads, not_not.1 hinit]
          simp

lemma met_disconnect (hinvalid : ¬ m.deadlineConfigValid) : wp anyChip (disconnect b sn)
    (fun r _ t' => Met sn m .disconnect t r t') (fun _ _ => True) m t := by
  have early {r : ℤ} (hr : r < 0) (t : IoTrace) : Met sn m .disconnect t r t := by
    have hnone : ¬ Unchecked sn m [] .disconnect := by simp [Unchecked, statusReads]
    simpa using Met.refused (t := t) hr (by simp) hnone
  have same (added added' : IoTrace) (h : statusReads sn added = statusReads sn added') :
      Unchecked sn m added .disconnect ↔ Unchecked sn m added' .disconnect := by
    simp only [Unchecked, h]
  simp only [disconnect, wp_ite, wp_pure]
  refine ⟨fun _ => early (by decide) t, fun hsn => met_locked same fun t₁ => ?_⟩
  simp only [disconnectLocked]
  refine (wp_bind _ _).2 (wp_get.2 ?_)
  simp only [wp_ite, wp_pure]
  refine ⟨fun _ => early (by decide) t₁, fun hready => ⟨fun _ => early (by decide) t₁, ?_⟩⟩
  refine fun hhealthy => ⟨fun _ => early (by decide) t₁, fun hmode => met_of_view ?_⟩
  refine (wpv_bind _ _).2 (wpg_getSnSR.2 ?_)
  rintro x _ ⟨-, rfl⟩
  have hreads : statusReads sn [⟨m.toGlobals, .read8 (Reg.snSR sn), x⟩] = [x.1] := by
    simp [statusReads]
  have asks : Asks sn m := ⟨Nat.not_le.1 hsn, not_not.1 hready, hhealthy, not_not.1 hmode⟩
  have open_ (hx : x.1 = sockClosed ∨ x.1 = sockEstablished ∨ x.1 = sockCloseWait)
      (more : IoTrace) :
      Unchecked sn m ([⟨m.toGlobals, .read8 (Reg.snSR sn), x⟩] ++ more) .disconnect := by
    refine ⟨asks, x.1, ?_, hx⟩
    rw [statusReads_append, hreads]
    exact List.mem_cons_self
  refine (wpv_ite _ _ _).2 ⟨fun hclosed => ?_, fun hclosed => ?_⟩
  · refine ⟨_, rfl, fun h => absurd h.1 (by decide), fun h => ?_⟩
    exact absurd (by simpa using open_ (.inl hclosed) []) h
  · refine (wpv_ite _ _ _).2 ⟨fun hopen => ?_, fun hother => ?_⟩
    · refine (wpv_bind _ _).2 ((wpv_bind _ _).2 ((wpg_setSnCR _).2 ?_))
      rintro y _ ⟨-, rfl⟩
      rw [List.append_assoc]
      refine (wpv_bind _ _).1 (met_wrote (v := ⟨_, .write8 _ _, y⟩)
        (List.mem_append_right _ (List.mem_singleton_self _)) trivial fun more => ?_)
      rw [List.append_assoc]
      exact open_ (.inr hopen) _
    · have hread : ∀ v ∈ [(⟨m.toGlobals, .read8 (Reg.snSR sn), x⟩ : Event Globals Io Io.Res)],
          ¬ Writes v.call := by
        intro v hv
        obtain rfl := List.mem_singleton.1 hv
        exact id
      simp only [disconnectFinish, wpv_bind, wpg_modifySock, wpv_get, wpv_ite, wpv_pure]
      refine fun m' hm' => ⟨fun _ => .refused (by decide) hread fun h => ?_, fun hvalid => ?_⟩
      · obtain ⟨-, status, hmem, hstatus⟩ := h
        rw [hreads, List.mem_singleton] at hmem
        subst hmem
        exact hstatus.elim hclosed hother
      · have hsame : m'.deadlineConfigValid = m.deadlineConfigValid := by
          rw [hm']
          rfl
        rw [hsame] at hvalid
        exact absurd hinvalid hvalid

end unchecked

/-- Without a time source or with a zero budget, exactly these calls return an error and write
nothing, whatever the chip answers. -/
theorem refused_iff_checked {b : Build} {sn : ℕ} {op : Op} {m m' : Driver} {t added : IoTrace} {r : ℤ}
    (hop : Issues op) (hinvalid : ¬ m.deadlineConfigValid)
    (run : Eval anyChip (op.run b sn) m t (some r) m' (t ++ added)) :
    Refused r added ↔ ¬ Unchecked sn m added op := by
  have refused (hchecked : ¬ Unchecked sn m added op) (h : WpgRefused (op.run b sn) m.toGlobals t t) :
      Refused r added ↔ ¬ Unchecked sn m added op := by
    obtain ⟨hr, events, hevents, hclean⟩ := wp_returns (wp_of_wpg h) run
    obtain rfl := List.append_cancel_left hevents
    exact ⟨fun _ => hchecked, fun _ => ⟨hr, hclean⟩⟩
  have met (h : wp anyChip (op.run b sn) (fun r _ t' => Met sn m op t r t') (fun _ _ => True) m t) :
      Refused r added ↔ ¬ Unchecked sn m added op := by
    obtain ⟨events, hevents, hmet⟩ := wp_returns h run
    obtain rfl := List.append_cancel_left hevents
    exact hmet
  have empty {len : ℕ} (hlen : len = 0) {p : Drv ℤ} (hp : op.run b sn = if len = 0 then pure 0 else p)
      (hunchecked : Unchecked sn m added op) : Refused r added ↔ ¬ Unchecked sn m added op := by
    rw [hp, if_pos hlen] at run
    have hzero : wp anyChip (pure 0 : Drv ℤ) (fun r _ _ => r = 0) (fun _ _ => True) m t := rfl
    have hr := wp_returns hzero run
    exact ⟨fun h => absurd h.1 (by omega), fun h => absurd hunchecked h⟩
  cases op with
  | socket protocol port flag => exact refused id (refused_socket hinvalid protocol flag port .refl)
  | close => exact refused id (refused_close hinvalid .refl)
  | listen => exact refused id (refused_listen hinvalid .refl)
  | connect addr port addrlen => exact met (met_connect addr port addrlen)
  | disconnect => exact met (met_disconnect hinvalid)
  | send len buf =>
    by_cases hlen : len = 0
    · exact empty hlen rfl hlen
    · exact refused hlen (refused_send hinvalid hlen buf .refl)
  | recv buf len =>
    by_cases hlen : len = 0
    · exact empty hlen (p := pure 0) (by simp [Op.run, recv, hlen]) hlen
    · exact refused hlen (refused_recv hinvalid hlen buf .refl)
  | sendto len buf addr port addrlen =>
    by_cases hlen : len = 0
    · exact empty hlen rfl hlen
    · exact refused hlen (refused_sendto hinvalid hlen buf addr port addrlen .refl)
  | recvfrom buf len addrPort =>
    by_cases hlen : len = 0
    · exact empty hlen (p := pure 0) (by simp [Op.run, recvfrom, hlen]) hlen
    · exact refused hlen (refused_recvfrom hinvalid hlen buf addrPort .refl)
  | setsockopt sotype arg =>
    obtain rfl : sotype = .keepalivesend := hop
    exact refused id (refused_keepalivesend hinvalid arg .refl)
  | ctlsocket cstype arg => exact hop.elim
  | getsockopt sotype arg => exact hop.elim

/-- A driver without budgets, with a TCP socket. -/
def unbudgeted : Driver :=
  { Driver.boot 0 0 with chipState := .ready }.setSock 0 fun s => { s with mode := snMrTcp }

/-- A call on socket 0 of a chip that shows SOCK_INIT. -/
@[irreducible] def called (op : Op) : Option ℤ × Driver × IoTrace :=
  exec (recorded (holding (fun a => if a = Reg.snSR 0 then sockInit else 0) (fun _ => []) 0))
    (op.run .oneTurn 0) unbudgeted []

lemma eval_called {op : Op} {r : ℤ} (h : (called op).1 = some r) :
    Eval anyChip (op.run .oneTurn 0) unbudgeted [] (some r) (called op).2.1 ([] ++ (called op).2.2) := by
  unfold called at h ⊢
  exact eval_of_exec h

theorem refused_iff_checked_listen :
    (called .listen).1 = some sockerrTimeout ∧ Refused sockerrTimeout (called .listen).2.2 := by
  have hresult : (called .listen).1 = some sockerrTimeout := by
    unfold called
    decide +kernel
  refine ⟨hresult, ?_⟩
  have issues : Issues .listen := trivial
  exact (refused_iff_checked issues (by decide) (eval_called hresult)).2 id

/-- connect issues its command before it looks at the configuration. -/
theorem connect_unchecked : ¬ ∀ b sn op m m' t added r, Issues op → ¬ m.deadlineConfigValid →
    Eval anyChip (Op.run b sn op) m t (some r) m' (t ++ added) → Refused r added := by
  intro claim
  have hresult : (called (.connect (some #v[10, 0, 0, 1]) 80 4)).1 = some sockerrTimeout := by
    unfold called
    decide +kernel
  have hcommand : (called (.connect (some #v[10, 0, 0, 1]) 80 4)).2.2.any fun v =>
      v.call = .write8 (Reg.snCR 0) snCrConnect := by
    unfold called
    decide +kernel
  obtain ⟨v, hv, hcall⟩ := List.any_eq_true.1 hcommand
  have issues : Issues (.connect (some #v[10, 0, 0, 1]) 80 4) := trivial
  have hrefused := claim _ _ _ _ _ _ _ _ issues (by decide) (eval_called hresult)
  refine hrefused.2 v hv ?_
  rw [of_decide_eq_true hcall]
  trivial

end IoLibrary.ConfigFaults
