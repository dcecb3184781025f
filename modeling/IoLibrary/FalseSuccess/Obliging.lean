import IoLibrary.FrameRules
import IoLibrary.Nonblocking

/-! Failed transfers and reported success: a call whose transport failed under it should not
return as if it had done its work. -/
namespace IoLibrary.FalseSuccess
open Effects Nonblocking

/-- A transfer has failed since `t`. -/
abbrev Marred (t t' : IoTrace) : Prop := Adds (fun v => Failed v.call v.answer) t t'

/-- No run of the call in which a transfer fails reports success. -/
def Honest (b : Build) (sn : ℕ) (op : Op) (m : Driver) : Prop :=
  ∀ t r m' t', Eval anyChip (op.run b sn) m t (some r) m' t' → Marred t t' → ¬ op.Succeeds sn r

/-- The call passes its checks, can succeed, and on its way makes a transfer whose status it drops. -/
def Drops (sn : ℕ) (m : Driver) : Op → Prop
  | .socket protocol _ flag => socketArgCheck sn protocol flag = none ∧ m.chipState = .ready ∧
      (m.sock sn).health ≠ .faulted ∧ m.deadlineConfigValid
  | .close | .listen => sn < sockNum ∧ (m.sock sn).health ≠ .faulted ∧ m.deadlineConfigValid
  | .connect addr port addrlen => Begins sn m (.connect addr port addrlen)
  | .disconnect => sn < sockNum ∧ m.chipState = .ready ∧ (m.sock sn).health ≠ .faulted ∧
      (m.sock sn).mode &&& 0x03 = 0x01
  | .send len buf => Begins sn m (.send len buf) ∧ min len (m.txmaxCache sn) ≠ 0 ∧
      min len (m.txmaxCache sn) < 65536
  | .recv buf len => Begins sn m (.recv buf len) ∧ m.rxmaxCache sn ≠ 0
  | .sendto len buf addr port addrlen => Begins sn m (.sendto len buf addr port addrlen) ∧
      if (m.sock sn).txState = .dgramPending then (m.sock sn).txPendingLen ≠ 0
      else (m.sock sn).ioMode = false ∧ min len (m.txmaxCache sn) ≠ 0 ∧
        ((m.sock sn).mode &&& 0x0F = snMrMacraw ∨ min len (m.txmaxCache sn) < 65536)
  | .recvfrom buf len addrPort => Begins sn m (.recvfrom buf len addrPort) ∧ addrPort = true
  | .ctlsocket cstype arg => sn < sockNum ∧ (m.sock sn).health ≠ .faulted ∧ ∃ a, arg = some a ∧
      match cstype with
      | .getInterrupt | .getIntmask => True
      | .clrInterrupt | .setIntmask => a.u8.toNat ≤ sikAll.toNat
      | _ => False
  | .setsockopt sotype arg => sn < sockNum ∧ (m.sock sn).health ≠ .faulted ∧
      match sotype with
      | .ttl | .tos | .mss | .destip | .destport => arg ≠ none
      | .keepaliveauto => arg ≠ none ∧ (m.sock sn).mode &&& 0x03 = 0x01
      | .keepalivesend => (m.sock sn).mode &&& 0x03 = 0x01 ∧ m.deadlineConfigValid
      | _ => False
  | .getsockopt sotype arg => sn < sockNum ∧ arg = true ∧
      match sotype with
      | .status => True
      | .ttl | .tos | .mss | .destip | .destport => (m.sock sn).health ≠ .faulted
      | .keepaliveauto => (m.sock sn).health ≠ .faulted ∧ (m.sock sn).mode &&& 0x03 = 0x01
      | .flag | .remainsize | .packinfo => (m.sock sn).health ≠ .faulted ∧ (m.sock sn).mode = 0
      | _ => False

section obliging
variable {b : Build} {sn : ℕ} {status : IoTrace → Byte} {g : Globals} {t : IoTrace}
  {I : IoTrace → Prop} {H : Globals → IoTrace → Prop}

/-- A chip that does whatever it is asked at once, behind a transport that reports a failure after
every frame but those of the size reads. -/
def answer (sn : ℕ) (status : IoTrace → Byte) (t : IoTrace) : (e : Io) → e.Res
  | .read8 a =>
    (if a = Reg.snIR sn then snIrSendok else if a = Reg.snSR sn then status t else 0, true)
  | .write8 _ _ | .writeBuf _ _ => true
  | .readBuf a len =>
    if a = Reg.snTXFSR sn ∨ a = Reg.snRXRSR sn then (.replicate len 0xFF, false)
    else (.replicate len 1, true)
  | .now => 0
  | .wait | .phyLink _ | .sockLock _ | .sockUnlock _ | .globalLock | .globalUnlock => ()

abbrev obliging (sn : ℕ) (status : IoTrace → Byte) : Env Globals IoTrace Io Io.Res :=
  traceEnv fun t e x => x = answer sn status t e

/-- What holds of a trace from some point on. -/
def Stays (I : IoTrace → Prop) : Prop := ∀ t v, I t → I (t ++ [v])

lemma stays_marred (t₀ : IoTrace) : Stays (Marred t₀) := fun _ v h => h.snoc v

lemma Stays.keeps (stays : Stays I) : Nonblocking.Keeps (obliging sn status) g I := by
  rintro t e x _ - h ⟨-, rfl⟩
  exact stays t _ h

/-- A failed frame mars the trace. -/
lemma marred_now {e : Io} {x : e.Res} (h : Failed e x) : Marred [] (t ++ [⟨g, e, x⟩]) :=
  ⟨t ++ [⟨g, e, x⟩], rfl, ⟨g, e, x⟩, by simp, h⟩

lemma marred_read8 (a : Addr) : Marred [] (t ++ [⟨g, .read8 a, answer sn status t (.read8 a)⟩]) :=
  marred_now rfl

lemma marred_write8 (a : Addr) (v : Byte) : Marred [] (t ++ [⟨g, .write8 a v, true⟩]) := marred_now rfl

lemma answer_snCR : answer sn status t (.read8 (Reg.snCR sn)) = (0, true) := by
  simp [answer, Reg.snCR, Reg.snIR, Reg.snSR]

lemma answer_snSR : answer sn status t (.read8 (Reg.snSR sn)) = (status t, true) := by
  simp [answer, Reg.snIR, Reg.snSR]

lemma answer_snIR : answer sn status t (.read8 (Reg.snIR sn)) = (snIrSendok, true) := by
  simp [answer]

lemma answer_size {a : Addr} (ha : a = Reg.snTXFSR sn ∨ a = Reg.snRXRSR sn) (len : ℕ) :
    answer sn status t (.readBuf a len) = (.replicate len 0xFF, false) := by
  simp [answer, ha]

lemma answer_data {a : Addr} (ha : ¬ (a = Reg.snTXFSR sn ∨ a = Reg.snRXRSR sn)) (len : ℕ) :
    answer sn status t (.readBuf a len) = (.replicate len 1, true) := by
  simp [answer, ha]

lemma obliging_total (m : Driver) (t : IoTrace) (e : Io) :
    ∃ x t', (obliging sn status).along Driver.toGlobals m t e x t' := ⟨_, _, rfl, rfl⟩

lemma lets_waitRegister {Q : ℤ → Globals → IoTrace → Prop} (stays : Stays I) (h : I t) {a : Addr}
    {wanted : Byte} (hwanted : ∀ t, I t → (answer sn status t (.read8 a)).1 = wanted) (d : ℕ)
    (next : ∀ t, I t → Q sockOk g t) :
    wpg (obliging sn status) (waitRegister b sn a wanted d) Q H g t := by
  refine wpg_wait_first (Stays.keeps stays) h d fun t ht => ?_
  simp only [waitRegister.look, wpv_bind, wpg_wizchipRead, wpv_ite, wpv_pure]
  rintro x _ ⟨rfl, rfl⟩
  exact ⟨fun _ => ⟨_, rfl, next _ (stays t _ ht)⟩, fun hne => absurd (hwanted t ht) hne⟩

lemma lets_waitCrAccepted {Q : ℤ → Globals → IoTrace → Prop} (stays : Stays I) (h : I t) (d : ℕ)
    (next : ∀ t, I t → Q sockOk g t) :
    wpg (obliging sn status) (waitCrAccepted b sn d) Q H g t :=
  lets_waitRegister stays h (fun _ _ => congrArg Prod.fst answer_snCR) d next

lemma lets_waitDatagramCrAccepted {Q : ℤ → Globals → IoTrace → Prop} (stays : Stays I) (h : I t)
    (timeout : ℕ) (nonblocking : Bool) (next : ∀ t, I t → Q sockOk g t) :
    wpg (obliging sn status) (waitDatagramCrAccepted b sn timeout nonblocking) Q H g t := by
  refine wpg_waitDatagramCrAccepted_first timeout nonblocking ?_
  rintro x _ ⟨rfl, rfl⟩
  exact ⟨congrArg Prod.fst answer_snCR, next _ (stays t _ h)⟩

/-- The size reads, whose frames do not fail, answer the largest size. -/
lemma lets_stableSize {Q : Except ℤ ℕ → Globals → IoTrace → Prop} (stays : Stays I) (h : I t)
    {a : Addr} (ha : a = Reg.snTXFSR sn ∨ a = Reg.snRXRSR sn)
    (next : ∀ t, I t → Q (.ok 65535) g t) :
    wpg (obliging sn status) (stableSize b a) Q H g t := by
  refine wpg_stableSize_steady (Stays.keeps stays).ticks h b a 65535 ?_ next
  rintro t x _ ht ⟨rfl, rfl⟩
  rw [answer_size ha]
  exact ⟨rfl, rfl, stays t _ ht⟩

/-- The data of a receive buffer, whose frames do fail. -/
lemma lets_wizRecvData {Q : List Byte → Globals → IoTrace → Prop} (stays : Stays I) (h : I t)
    (hsn : sn < sockNum) {len : ℕ} (hlen : len ≠ 0)
    (next : ∀ t, I t → Q (List.replicate len 1) g t) :
    wpg (obliging sn status) (wizRecvData b sn len) Q H g t := by
  have rest (ptr : ℕ) {t : IoTrace} (ht : I t) : wpg (obliging sn status) (do
      let data ← wizchipReadBuf b ⟨ptr, .rxBuf sn⟩ len
      setSnRXRD b sn ((ptr + len) % 65536)
      return data) Q H g t := by
    simp only [wpv_bind, wpg_wizchipReadBuf, setSnRXRD, wpv_pure]
    refine ⟨fun h0 => absurd h0 hlen, ?_⟩
    rintro - x _ ⟨rfl, rfl⟩
    refine wpg_writeBuf_keep (Stays.keeps stays) (stays t _ ht) _ _ fun t ht => ?_
    rw [answer_data (by simp [Reg.snTXFSR, Reg.snRXRSR])]
    exact Vector.toList_replicate ▸ next t ht
  simp only [wizRecvData, wpv_ite, wpv_pure, getSnRXRD]
  refine ⟨fun hnot => ?_, fun _ => (wpv_bind _ _).2 ?_⟩
  · rcases hnot with hle | h0
    · exact absurd hsn (Nat.not_lt.2 hle)
    · exact absurd h0 hlen
  refine wpg_wizchipRead16Value b _ ?_
  rintro x _ ⟨rfl, rfl⟩
  exact ⟨fun _ => rest _ (stays t _ h), fun _ => rest _ (stays t _ h)⟩

/-- The program reports success on a run in which a transfer fails. -/
abbrev Lets {α : Type} (sn : ℕ) (status : IoTrace → Byte) (S : α → Prop) (p : Drv α) (g : Globals)
    (t : IoTrace) : Prop :=
  wpg (obliging sn status) p (fun r _ t' => Marred [] t' ∧ S r) (fun _ _ => False) g t

/-- The same over the whole memory. -/
abbrev LetsFrom {α : Type} (sn : ℕ) (status : IoTrace → Byte) (S : α → Prop) (p : Drv α) (m : Driver)
    (t : IoTrace) : Prop :=
  wp ((obliging sn status).along Driver.toGlobals) p (fun r _ t' => Marred [] t' ∧ S r)
    (fun _ _ => False) m t

lemma letsFrom_locked {α : Type} {S : α → Prop} {p : Drv α} {m : Driver}
    (h : LetsFrom sn status S p m (t ++ [⟨m.toGlobals, .sockLock sn, ()⟩])) :
    LetsFrom sn status S (locked sn p) m t := by
  simp only [locked, sockLock, sockUnlock, wp_bind, wp_perform, wp_pure]
  rintro x _ ⟨-, rfl⟩
  refine wp_mono h ?_ fun _ _ => id
  rintro r m' t' ⟨hmarred, hr⟩ y _ ⟨-, rfl⟩
  exact ⟨hmarred.snoc _, hr⟩

lemma letsFrom_view {α : Type} {S : α → Prop} {p : Drv α} {m : Driver}
    (h : Lets sn status S p m.toGlobals t) : LetsFrom sn status S p m t := wp_of_wpv h

lemma letsFrom_map {α β : Type} {S : β → Prop} {p : Drv α} {f : α → β} {m : Driver}
    (h : LetsFrom sn status (fun r => S (f r)) p m t) :
    LetsFrom sn status S (do let r ← p; return f r) m t := (wp_bind _ _).2 h

/-- A run that the chip allows shows the call dishonest. -/
lemma not_honest (status : IoTrace → Byte) {op : Op} {m : Driver}
    (h : LetsFrom sn status (fun r => op.Succeeds sn r) (op.run b sn) m []) : ¬ Honest b sn op m := by
  intro honest
  obtain ⟨r, m', t', hrun⟩ := exists_eval obliging_total (op.run b sn) m []
  have hresult := (wp_iff_eval _).1 h r m' t' hrun
  cases r with
  | none => exact hresult
  | some r =>
    have hany : Eval anyChip (op.run b sn) m [] (some r) m' t' :=
      hrun.mono fun _ _ _ _ _ hx => ⟨trivial, hx.2⟩
    exact honest [] r m' t' hany hresult.1 hresult.2

/-- A status that changes when a command is written. -/
def cued (sn : ℕ) (command before after : Byte) (t : IoTrace) : Byte :=
  if t.any fun v => v.call = .write8 (Reg.snCR sn) command then after else before

section cued
variable {command before after : Byte}

lemma cued_told (x : Bool) :
    cued sn command before after (t ++ [⟨g, .write8 (Reg.snCR sn) command, x⟩]) = after := by
  simp [cued]

lemma cued_other {e : Io} {x : e.Res} (he : e ≠ .write8 (Reg.snCR sn) command) :
    cued sn command before after (t ++ [⟨g, e, x⟩]) = cued sn command before after t := by
  simp [cued, he]

/-- The command has not been written, after a failed transfer. -/
def Untold (sn : ℕ) (command before after : Byte) (t : IoTrace) : Prop :=
  Marred [] t ∧ cued sn command before after t = before

/-- The command has been written, after a failed transfer. -/
def Told (sn : ℕ) (command before after : Byte) (t : IoTrace) : Prop :=
  Marred [] t ∧ cued sn command before after t = after

lemma stays_told : Stays (Told sn command before after) := by
  rintro t v ⟨hmarred, hcued⟩
  refine ⟨hmarred.snoc v, ?_⟩
  by_cases hany : (t.any fun v => v.call = .write8 (Reg.snCR sn) command) = true
  · simp [cued, hany]
  · have hsame : before = after := by simpa [cued, hany] using hcued
    simp [cued, hsame]

lemma untold_status {st : IoTrace → Byte} (ht : cued sn command before after t = before) :
    Untold sn command before after
      (t ++ [⟨g, .read8 (Reg.snSR sn), answer sn st t (.read8 (Reg.snSR sn))⟩]) := by
  refine ⟨marred_read8 _, (cued_other ?_).trans ht⟩
  rintro ⟨⟩

lemma Untold.other (h : Untold sn command before after t) {e : Io} {x : e.Res}
    (he : e ≠ .write8 (Reg.snCR sn) command) : Untold sn command before after (t ++ [⟨g, e, x⟩]) :=
  ⟨h.1.snoc _, (cued_other he).trans h.2⟩

lemma Untold.told (h : Untold sn command before after t) (x : Bool) :
    Told sn command before after (t ++ [⟨g, .write8 (Reg.snCR sn) command, x⟩]) :=
  ⟨h.1.snoc _, cued_told x⟩

lemma keeps_untold {st : IoTrace → Byte} :
    Nonblocking.Keeps (obliging sn st) g (Untold sn command before after) := by
  rintro t e x _ plain h ⟨-, rfl⟩
  refine h.other ?_
  rintro rfl
  exact plain

end cued

end obliging

section stream
variable {b : Build} {sn : ℕ} {g : Globals} {t : IoTrace}

/-- The socket is healthy and the deadline budgets are set. -/
structure Usable (sn : ℕ) (g : Globals) : Prop where
  healthy : (g.sock sn).health ≠ .faulted
  budgets : g.deadlineConfigValid

lemma lets_closeInternal (hsn : sn < sockNum) (h : Usable sn g) :
    Lets sn (fun _ => sockClosed) (· = sockOk) (closeInternal b sn 0) g t := by
  have ticks : Ticks (obliging sn fun _ => sockClosed) g fun _ => True := fun _ _ _ _ _ _ _ => trivial
  refine wpg_closeInternal (P := fun r t => Marred [] t ∧ r = sockOk) ticks trivial hsn 0
    (fun d t _ => ?_) (fun hinvalid => absurd h.budgets hinvalid) fun _ _ hP => hP
  have hhealthy := h.healthy
  simp only [closeCommand, wpv_bind, wpv_get, wpv_ite, wpv_pure, wpg_getSnSR]
  rintro m rfl
  refine ⟨fun hf => absurd hf hhealthy, fun _ => ?_⟩
  rintro x _ ⟨rfl, rfl⟩
  refine ⟨fun _ => ⟨⟨id, by simp [Globals.setSock]⟩, marred_read8 _, trivial⟩, fun hne => ?_⟩
  exact absurd (congrArg Prod.fst answer_snSR) hne

lemma lets_listenLocked (h : Usable sn g)
    (ht : cued sn snCrListen sockInit sockListen t = sockInit) :
    Lets sn (cued sn snCrListen sockInit sockListen) (· = sockOk) (listenLocked b sn) g t := by
  have hhealthy := h.healthy
  have hbudgets := h.budgets
  simp only [Lets, listenLocked, wpv_bind, wpv_get, wpv_ite, wpv_pure, wpg_getSnSR]
  rintro m rfl
  refine ⟨fun hf => absurd hf hhealthy, fun _ => ?_⟩
  rintro x _ ⟨rfl, rfl⟩
  refine ⟨fun hne => absurd ((congrArg Prod.fst answer_snSR).trans ht) hne, fun _ m' hm' => ?_⟩
  refine wpg_sockDeadlineBegin keeps_untold.ticks (untold_status ht) _ (fun _ d t hI => ?_) fun hv => absurd hbudgets hv
  simp only [wpv_bind, wpg_setSnCR]
  rintro y _ ⟨rfl, rfl⟩
  refine lets_waitCrAccepted stays_told (hI.told _) d fun t hJ => ?_
  refine (wpv_ite _ _ _).2 ⟨fun hne => absurd rfl hne, fun _ => ?_⟩
  refine lets_waitRegister stays_told hJ (fun t hJ => ?_) d fun t hJ => ⟨hJ.1, rfl⟩
  exact (congrArg Prod.fst answer_snSR).trans hJ.2

/-- connect behind its checks. -/
lemma letsFrom_connectLocked {m : Driver} (h : Stream sn m) {port addrlen : ℕ} (haddr : addrlen = 4)
    (addr : Vector Byte 4) (ht : cued sn snCrConnect sockInit sockEstablished t = sockInit) :
    LetsFrom sn (cued sn snCrConnect sockInit sockEstablished) (· = sockOk)
      (connectLocked b sn addr port addrlen) m t := by
  refine (wp_bind _ _).2 (wp_get.2 ((wp_ite _ _ _).2 ⟨fun hne => absurd h.ready hne, fun _ => ?_⟩))
  refine (wp_ite _ _ _).2 ⟨fun hf => absurd hf h.healthy, fun _ => ?_⟩
  refine (wp_ite _ _ _).2 ⟨fun hne => absurd h.tcp hne, fun _ => letsFrom_view ?_⟩
  simp only [wpv_bind, wpv_ite, wpv_pure, wpg_getSnSR]
  rintro x _ ⟨rfl, rfl⟩
  refine ⟨fun hne => absurd ((congrArg Prod.fst answer_snSR).trans ht) hne, fun _ => ⟨fun h16 => ?_, fun _ => ?_⟩⟩
  · rw [haddr] at h16
    exact absurd h16 (by decide)
  refine wpg_setSnDPORT_keep keeps_untold (untold_status ht) port fun t hI => ?_
  refine wpg_writeBuf_keep keeps_untold hI _ _ fun t hI => (wpg_setSnCR _).2 ?_
  rintro y _ ⟨rfl, rfl⟩
  refine wpv_get.2 fun m' hm' => ⟨fun hv => absurd (hm' ▸ h.budgets) hv, fun _ => ?_⟩
  refine (timed_deadlineAbs _).wpg (Stays.keeps stays_told).ticks (hI.told _) fun d t hJ => ?_
  refine lets_waitCrAccepted stays_told hJ d fun t hJ => ⟨fun hne => absurd rfl hne, fun _ => ?_⟩
  refine (timed_deadlineAbs _).wpg (Stays.keeps stays_told).ticks hJ fun d t hJ => wpg_clockLoop_first ?_
  simp only [connectLook, wpv_bind, wpg_getSnSR, wpv_ite, wpv_pure]
  rintro z _ ⟨rfl, rfl⟩
  refine ⟨fun _ => ⟨_, rfl, hJ.1.snoc _, rfl⟩, fun hne => ?_⟩
  exact absurd ((congrArg Prod.fst answer_snSR).trans hJ.2) hne

lemma letsFrom_disconnectLocked {m : Driver} (hready : m.chipState = .ready)
    (hhealthy : (m.sock sn).health ≠ .faulted) (htcp : (m.sock sn).mode &&& 0x03 = 0x01) :
    LetsFrom sn (fun _ => sockClosed) (· = sockOk) (disconnectLocked b sn) m t := by
  refine (wp_bind _ _).2 (wp_get.2 ((wp_ite _ _ _).2 ⟨fun hne => absurd hready hne, fun _ => ?_⟩))
  refine (wp_ite _ _ _).2 ⟨fun hf => absurd hf hhealthy, fun _ => ?_⟩
  refine (wp_ite _ _ _).2 ⟨fun hne => absurd htcp hne, fun _ => letsFrom_view ?_⟩
  simp only [wpv_bind, wpv_ite, wpv_pure, wpg_getSnSR]
  rintro x _ ⟨rfl, rfl⟩
  refine ⟨fun _ => ⟨marred_read8 _, trivial⟩, fun hne => absurd (congrArg Prod.fst answer_snSR) hne⟩

/-- The free space is the largest, so that whatever can be reported as free fits. -/
lemma lets_sendReady (hmarred : Marred [] t) {buf : List Byte} {len : ℕ} (hbuf : buf.length = len)
    (hpos : min len (g.txmaxCache sn) ≠ 0) (hfits : min len (g.txmaxCache sn) < 65536) :
    Lets sn (fun _ => sockEstablished) (fun r : ℤ => 0 < r) (sendReady b sn buf len) g t := by
  have stays := stays_marred []
  refine (wpv_bind _ _).2 (wpv_get.2 ?_)
  rintro m rfl
  refine (wpv_bind _ _).2 ((timed_deadlineAbs _).wpg (Stays.keeps stays).ticks hmarred fun d t ht => ?_)
  refine (wpv_bind _ _).2 (wpg_wait_first (Stays.keeps stays) ht d fun t ht => ?_)
  refine (wpv_bind _ _).2 (lets_stableSize stays ht (.inl rfl) fun t ht => ?_)
  simp only [wpv_bind, wpg_getSnSR, wpv_ite, wpv_pure, not_sendable]
  rintro x _ ⟨rfl, rfl⟩
  rw [answer_snSR]
  refine ⟨fun hnot => absurd (.inl rfl) hnot, fun _ => ⟨fun hbusy => ?_, fun _ => ⟨fun _ => ?_, fun hlt => ?_⟩⟩⟩
  · exact absurd hbusy.2 (by omega)
  · refine ⟨_, rfl, (wpv_bind _ _).2 ?_⟩
    refine wpg_wizSendData_keep (Stays.keeps stays) (stays _ _ ht) _ fun t ht => ?_
    simp only [sendCommand, wpv_bind, wpg_setSnCR, wpv_ite, wpg_modifySock, wpv_pure]
    rintro y _ ⟨rfl, rfl⟩
    refine (timed_deadlineAbs _).wpg (Stays.keeps stays).ticks (stays _ _ ht) fun d t ht => ?_
    refine lets_waitCrAccepted stays ht d fun t ht => ⟨fun hne => absurd rfl hne, fun _ => ⟨ht, ?_⟩⟩
    rw [List.length_take, hbuf]
    omega
  · exact absurd (by omega) hlt

lemma lets_sendLocked (h : Usable sn g) (htcp : (g.sock sn).mode &&& 0x03 = 0x01) {buf : List Byte}
    {len : ℕ} (hbuf : buf.length = len) (hpos : min len (g.txmaxCache sn) ≠ 0)
    (hfits : min len (g.txmaxCache sn) < 65536) :
    Lets sn (fun _ => sockEstablished) (fun r : ℤ => 0 < r) (sendLocked b sn buf len) g t := by
  have stays := stays_marred []
  have hhealthy := h.healthy
  have hbudgets := h.budgets
  simp only [Lets, sendLocked, wpv_bind, wpv_get, wpv_ite, wpv_pure, wpg_getSnSR, not_sendable]
  rintro m rfl
  refine ⟨fun hf => absurd hf hhealthy, fun _ => ⟨fun hv => absurd hbudgets hv, fun _ => ?_⟩⟩
  refine ⟨fun hne => absurd htcp hne, fun _ => ?_⟩
  rintro x _ ⟨rfl, rfl⟩
  have ht : Marred [] (t ++ [⟨m.toGlobals, .read8 (Reg.snSR sn),
      answer sn (fun _ => sockEstablished) t (.read8 (Reg.snSR sn))⟩]) := marred_read8 _
  refine ⟨fun hnot => absurd (.inl (congrArg Prod.fst answer_snSR)) hnot, fun _ => ⟨fun _ => ?_, fun _ => ?_⟩⟩
  · refine (timed_deadlineAbs _).wpg (Stays.keeps stays).ticks ht fun d t ht => ?_
    refine wpg_wait_first (Stays.keeps stays) ht d fun t ht => ?_
    simp only [sentLook, wpv_bind, wpg_getSnIR, wpv_ite, wpg_setSnIR, wpg_modifySock, wpv_pure]
    rintro y _ ⟨rfl, rfl⟩
    rw [answer_snIR]
    refine ⟨fun _ => ?_, fun hne => absurd (by decide) hne⟩
    rintro z _ ⟨rfl, rfl⟩
    exact ⟨_, rfl, lets_sendReady (stays _ _ (stays _ _ ht)) hbuf hpos hfits⟩
  · exact lets_sendReady ht hbuf hpos hfits

lemma lets_recvLocked (h : Usable sn g) (htcp : (g.sock sn).mode &&& 0x03 = 0x01)
    {len : ℕ} (hlen : len ≠ 0) (hmax : g.rxmaxCache sn ≠ 0) :
    Lets sn (fun _ => sockEstablished) (fun r : ℤ × List Byte => 0 < r.1) (recvLocked b sn len) g t := by
  have stays := stays_marred []
  have hhealthy := h.healthy
  have hbudgets := h.budgets
  have any : Nonblocking.Keeps (obliging sn fun _ => sockEstablished) g fun _ => True :=
    fun _ _ _ _ _ _ _ => trivial
  simp only [Lets, recvLocked, wpv_bind, wpv_get, wpv_ite, wpv_pure]
  rintro m rfl
  refine ⟨fun hf => absurd hf hhealthy, fun _ => ⟨fun hv => absurd hbudgets hv, fun _ => ?_⟩⟩
  refine ⟨fun hne => absurd htcp hne, fun _ => ?_⟩
  refine (timed_deadlineAbs _).wpg any.ticks trivial fun d t _ => ?_
  refine wpg_wait_first any trivial d fun t _ => (wpv_bind _ _).2 ?_
  refine lets_stableSize (I := fun _ => True) (fun _ _ _ => trivial) trivial (.inr rfl) fun t _ => ?_
  simp only [wpv_bind, wpg_getSnSR, wpv_ite, wpv_pure]
  rintro x _ ⟨rfl, rfl⟩
  have ht : Marred [] (t ++ [⟨m.toGlobals, .read8 (Reg.snSR sn),
      answer sn (fun _ => sockEstablished) t (.read8 (Reg.snSR sn))⟩]) := marred_read8 _
  have hsr : (answer sn (fun _ => sockEstablished) t (.read8 (Reg.snSR sn))).1 = sockEstablished :=
    congrArg Prod.fst answer_snSR
  refine ⟨fun hcw => ?_, fun _ => ⟨fun hne => absurd hsr hne, fun _ => ⟨fun _ => ?_, fun h0 => ?_⟩⟩⟩
  · exact absurd (hsr.symm.trans hcw) (by decide)
  · refine ⟨_, rfl, (wpv_bind _ _).2 ?_⟩
    refine wpg_wizRecvData_keep (Stays.keeps stays) ht _ fun data t ht => ?_
    simp only [wpv_bind, wpg_setSnCR, wpv_ite, wpv_pure]
    rintro y _ ⟨rfl, rfl⟩
    refine (timed_deadlineAbs _).wpg (Stays.keeps stays).ticks (stays _ _ ht) fun d t ht => ?_
    refine lets_waitCrAccepted stays ht d fun t ht => ⟨fun hne => absurd rfl hne, fun _ => ⟨ht, ?_⟩⟩
    omega
  · exact absurd (by decide) h0

end stream

section datagram
variable {b : Build} {sn : ℕ} {g : Globals} {t : IoTrace}

lemma lets_sendtoPending (hpos : (g.sock sn).txPendingLen ≠ 0) :
    Lets sn (fun _ => sockUdp) (fun r : ℤ => 0 < r) (sendtoPending b sn) g t := by
  refine wpg_sendtoPending.2 ?_
  rintro x _ ⟨rfl, rfl⟩
  rw [answer_snIR]
  refine ⟨fun _ => ?_, fun hs => absurd hs (by decide), fun hs => absurd hs (by decide)⟩
  rintro y _ ⟨rfl, rfl⟩
  exact ⟨(marred_write8 _ _), by omega⟩

/-- A blocking sendto reports the SENDOK event. -/
lemma lets_sendtoCommit (hmarred : Marred [] t) (hbudgets : g.deadlineConfigValid) {data : List Byte}
    (hpos : data.length ≠ 0) :
    Lets sn (fun _ => sockUdp) (fun r : ℤ => 0 < r) (sendtoCommit b sn data false) g t := by
  have stays := stays_marred []
  simp only [Lets, sendtoCommit, setTxState, wpv_bind, wpg_setSnIR, wpg_setSnCR, wpv_get]
  rintro x _ ⟨rfl, rfl⟩
  refine wpg_wizSendData_keep (Stays.keeps stays) (stays _ _ hmarred) data fun t ht => ?_
  rintro y _ ⟨rfl, rfl⟩ m rfl
  refine wpg_sockDeadlineBegin (Stays.keeps stays).ticks (stays _ _ ht) _ (fun _ d t ht => ?_)
    fun hv => absurd hbudgets hv
  simp only [wpv_bind, wpv_ite, wpg_modifySock, wpv_pure]
  refine lets_waitCrAccepted stays ht d fun t ht => ⟨fun hne => absurd rfl hne, fun _ => ⟨by rintro ⟨⟩, fun _ => ?_⟩⟩
  refine (timed_deadlineAbs _).wpg (Stays.keeps stays).ticks ht fun d t ht => ?_
  refine wpg_wait_first (Stays.keeps stays) ht d fun t ht => ?_
  simp only [sendtoSentLook, wpv_bind, wpg_getSnIR, wpv_ite, wpg_setSnIR, wpv_pure]
  rintro z _ ⟨rfl, rfl⟩
  rw [answer_snIR]
  refine ⟨fun _ => ?_, fun hne => absurd (by decide) hne⟩
  rintro v _ ⟨rfl, rfl⟩
  exact ⟨_, rfl, stays _ _ (stays _ _ ht), by omega⟩

lemma lets_sendtoIdle (hbudgets : g.deadlineConfigValid) (hio : (g.sock sn).ioMode = false)
    {addr : Vector Byte 4} {port addrlen : ℕ} (haddr : AddressOk (g.sock sn).mode addr port addrlen)
    {buf : List Byte} {len : ℕ} (hbuf : buf.length = len) (hpos : min len (g.txmaxCache sn) ≠ 0)
    (hfits : (g.sock sn).mode &&& 0x0F = snMrMacraw ∨ min len (g.txmaxCache sn) < 65536) :
    Lets sn (fun _ => sockUdp) (fun r : ℤ => 0 < r) (sendtoIdle b sn buf len addr port addrlen) g t := by
  have any : Stays fun _ => True := fun _ _ _ => trivial
  have hlength : (buf.take (min len (g.txmaxCache sn))).length ≠ 0 := by
    rw [List.length_take, hbuf]
    omega
  refine (wpv_bind _ _).2 (wpv_get.2 ?_)
  rintro m rfl
  have commit {k : Except ℤ Unit → Drv ℤ}
      (hcommit : k (.ok ()) = sendtoCommit b sn (buf.take (min len (m.txmaxCache sn))) (m.sock sn).ioMode)
      (t : IoTrace) : Lets sn (fun _ => sockUdp) (fun r : ℤ => 0 < r)
      (sendtoWaitFree b sn (min len (m.txmaxCache sn)) ((m.sock sn).mode &&& 0x0F = snMrMacraw)
        (m.sock sn).ioMode m.operationTimeoutUs >>= k) m.toGlobals t := by
    rw [hio] at hcommit ⊢
    simp only [Lets, sendtoWaitFree, wpv_bind, wpv_ite, wpg_getSnSR, wpv_pure]
    refine ⟨fun _ => ?_, fun hm => ?_⟩
    · rintro x _ ⟨rfl, rfl⟩
      rw [answer_snSR, if_neg (show ¬ ((sockUdp, true) : Byte × Bool).1 = sockClosed by decide), hcommit]
      exact lets_sendtoCommit (marred_now (show Failed (.read8 (Reg.snSR sn)) (sockUdp, true) from rfl))
        hbudgets hlength
    · refine (timed_deadlineAbs _).wpg (Stays.keeps any).ticks trivial fun d t _ => ?_
      refine (wpv_bind _ _).1 (wpg_wait_first (Stays.keeps any) trivial d fun t _ => (wpv_bind _ _).2 ?_)
      refine lets_stableSize any trivial (.inl rfl) fun t _ => ?_
      simp only [wpv_bind, wpg_getSnSR, wpv_ite, wpv_pure]
      rintro x _ ⟨rfl, rfl⟩
      have hfree : min len (m.txmaxCache sn) ≤ 65535 :=
        Nat.le_of_lt_succ (hfits.resolve_left fun h => hm (decide_eq_true h))
      refine ⟨fun hc => ?_, fun _ => ⟨fun _ => ?_, fun hlt => absurd hfree hlt⟩⟩
      · rw [answer_snSR] at hc
        exact absurd hc (by decide)
      · refine ⟨_, rfl, ?_⟩
        rw [hcommit]
        exact lets_sendtoCommit (marred_read8 _) hbudgets hlength
  refine (wpv_bind _ _).2 (wpg_sendtoAddress_exact (I := fun _ => True) (J := fun _ => True)
    (Stays.keeps any) (Stays.keeps any) trivial _ addr port addrlen (fun hbad => absurd haddr hbad)
    (fun _ t _ => commit rfl t) ?_ fun t _ => commit rfl t)
  rintro - t x _ - ⟨rfl, rfl⟩
  refine ⟨trivial, fun hclosed => absurd ?_ hclosed⟩
  rw [answer_snSR]
  exact .inr (.inl rfl)

lemma lets_recvfromChunk {status : IoTrace → Byte} {len : ℕ} (hlen : len ≠ 0)
    (hrest : (g.sock sn).remainedSize ≠ 0) (nonblocking : Bool) (out : Received) :
    Lets sn status (fun r : Received => 0 < r.ret) (recvfromChunk b sn len nonblocking out) g t := by
  have any : Stays fun _ => True := fun _ _ _ => trivial
  have stays := stays_marred []
  refine (wpv_bind _ _).2 (wpv_get.2 ?_)
  rintro m rfl
  refine (wpv_bind _ _).2 (wpg_wizRecvData_keep (Stays.keeps any) trivial _ fun data t _ => ?_)
  simp only [recvfromFinish, wpv_bind, wpg_setSnCR, wpv_get, wpv_ite, wpg_modifySock, wpv_pure]
  rintro x _ ⟨rfl, rfl⟩ m' -
  refine lets_waitDatagramCrAccepted stays (marred_write8 _ _) _ nonblocking fun t ht => ?_
  exact ⟨fun hne => absurd rfl hne, fun _ => ⟨ht, by omega⟩⟩

/-- The header of a packet, whose bytes are all 1. -/
lemma lets_recvHeader {status : IoTrace → Byte} {Q : ℤ × List Byte → Globals → IoTrace → Prop}
    {H : Globals → IoTrace → Prop} (hsn : sn < sockNum) {n : ℕ} (hn : n ≠ 0) (nonblocking : Bool)
    (next : ∀ t, Q (sockOk, List.replicate n 1) g t) :
    wpg (obliging sn status) (recvHeader b sn n nonblocking) Q H g t := by
  have any : Stays fun _ => True := fun _ _ _ => trivial
  simp only [recvHeader, wpv_bind, wpv_get]
  intro m _
  refine lets_wizRecvData any trivial hsn hn fun t _ => ?_
  simp only [wpg_setSnCR]
  intro x t' _
  exact lets_waitDatagramCrAccepted any trivial _ nonblocking fun t _ => next t

lemma lets_recvfromPacket {status : IoTrace → Byte} (hsn : sn < sockNum) {len : ℕ} (hlen : len ≠ 0)
    (packLen : ℕ) (mode : Byte) (nonblocking : Bool) :
    Lets sn status (fun r : Received => 0 < r.ret)
      (recvfromPacket b sn len packLen mode nonblocking true) g t := by
  have chunk {g : Globals} {t : IoTrace} (hrest : (g.sock sn).remainedSize ≠ 0) (out : Received) :
      Lets sn status (fun r : Received => 0 < r.ret) (recvfromChunk b sn len nonblocking out) g t :=
    lets_recvfromChunk hlen hrest nonblocking out
  unfold recvfromPacket
  refine (wpv_ite _ _ _).2 ⟨fun h => absurd rfl h, fun _ => (wpv_ite _ _ _).2 ⟨fun _ => ?_, fun _ => ?_⟩⟩
  · refine (wpv_bind _ _).2 (wpv_get.2 fun m hm => (wpv_ite _ _ _).2 ⟨fun _ => ?_, fun h => chunk (hm ▸ h) _⟩)
    refine (wpv_bind _ _).2 (lets_recvHeader hsn (by decide) nonblocking fun t => ?_)
    refine (wpv_ite _ _ _).2 ⟨fun hne => absurd rfl hne, fun _ => (wpv_bind _ _).2 ?_⟩
    refine (wpg_modifySock _ _).2 (chunk ?_ _)
    rw [Globals.setSock_same]
    exact show word16 (byteAt (List.replicate 8 1) 6) (byteAt (List.replicate 8 1) 7) ≠ 0 by decide
  refine (wpv_ite _ _ _).2 ⟨fun _ => ?_, fun _ => ?_⟩
  · refine (wpv_bind _ _).2 (wpv_get.2 fun m hm => (wpv_ite _ _ _).2 ⟨fun _ => ?_, fun h => chunk (hm ▸ h) _⟩)
    refine (wpv_bind _ _).2 (lets_recvHeader hsn (by decide) nonblocking fun t => ?_)
    refine (wpv_ite _ _ _).2 ⟨fun hne => absurd rfl hne, fun _ => (wpv_bind _ _).2 ?_⟩
    refine (wpg_modifySock _ _).2 ((wpv_ite _ _ _).2 ⟨fun h => absurd h (by decide), fun _ => (wpv_bind _ _).2 ?_⟩)
    refine (wpg_modifySock _ _).2 ((wpv_ite _ _ _).2 ⟨fun h => absurd h (by decide), fun _ => (wpv_bind _ _).2 ?_⟩)
    refine (wpg_modifySock _ _).2 (chunk ?_ _)
    rw [Globals.setSock_same, Globals.setSock_same]
    exact show word16 (byteAt (List.replicate 2 1) 0) (byteAt (List.replicate 2 1) 1) - 2 ≠ 0 by decide
  · refine (wpv_bind _ _).2 (wpv_get.2 fun m hm => (wpv_ite _ _ _).2 ⟨fun _ => ?_, fun h => ?_⟩)
    · refine (wpv_bind _ _).2 (lets_recvHeader hsn (by decide) nonblocking fun t => ?_)
      refine (wpv_ite _ _ _).2 ⟨fun hne => absurd rfl hne, fun _ => (wpv_bind _ _).2 ?_⟩
      refine (wpg_modifySock _ _).2 ((wpv_bind _ _).2 (wpv_get.2 fun m' hm' => ?_))
      have hrest : (m'.sock sn).remainedSize ≠ 0 := by
        rw [hm', Globals.setSock_same]
        exact show word16 (byteAt (List.replicate 6 1) 4) (byteAt (List.replicate 6 1) 5) ≠ 0 by decide
      exact (wpv_ite _ _ _).2 ⟨fun _ => chunk (hm' ▸ hrest) _, fun h => absurd (Nat.pos_of_ne_zero hrest) h⟩
    · refine (wpv_bind _ _).2 (wpv_get.2 fun m' hm' => ?_)
      have hrest : (m'.sock sn).remainedSize ≠ 0 := hm' ▸ hm ▸ h
      exact (wpv_ite _ _ _).2 ⟨fun _ => chunk (hm' ▸ hrest) _, fun h => absurd (Nat.pos_of_ne_zero hrest) h⟩

lemma lets_recvfromLocked (h : Usable sn g) (hmode : Datagram (g.sock sn).mode) (hsn : sn < sockNum)
    {len : ℕ} (hlen : len ≠ 0) :
    Lets sn (fun _ => sockUdp) (fun r : Received => 0 < r.ret) (recvfromLocked b sn len true) g t := by
  have any : Stays fun _ => True := fun _ _ _ => trivial
  have hhealthy := h.healthy
  have hbudgets := h.budgets
  simp only [Lets, recvfromLocked, wpv_bind, wpv_get, wpv_ite, wpv_pure]
  rintro m rfl
  refine ⟨fun hf => absurd hf hhealthy, fun _ => ⟨fun hv => absurd hbudgets hv, fun _ => ⟨?_, fun _ => ?_⟩⟩⟩
  · intro hnot
    simp only [Datagram] at hmode
    tauto
  refine ⟨fun _ => ?_, fun _ => lets_recvfromPacket hsn hlen _ _ _⟩
  refine (timed_deadlineAbs _).wpg (Stays.keeps any).ticks trivial fun d t _ => ?_
  refine wpg_wait_first (Stays.keeps any) trivial d fun t _ => (wpv_bind _ _).2 ?_
  refine lets_stableSize any trivial (.inr rfl) fun t _ => ?_
  simp only [wpv_bind, wpg_getSnSR, wpv_ite, wpv_pure]
  rintro x _ ⟨rfl, rfl⟩
  refine ⟨fun hc => ?_, fun _ => ⟨fun _ => ?_, fun h0 => absurd (by decide) h0⟩⟩
  · rw [answer_snSR] at hc
    exact absurd hc (by decide)
  · exact ⟨_, rfl, lets_recvfromPacket hsn hlen _ _ _⟩

end datagram

section opening
variable {b : Build} {sn : ℕ} {g : Globals} {t : IoTrace} {protocol : Byte}

/-- The socket is closed until its OPEN. -/
abbrev opens (sn : ℕ) (protocol : Byte) : IoTrace → Byte :=
  cued sn snCrOpen sockClosed (socketOpenStatus protocol)

abbrev Unopened (sn : ℕ) (protocol : Byte) : IoTrace → Prop :=
  Untold sn snCrOpen sockClosed (socketOpenStatus protocol)

lemma lets_sourcePort {Q : ℕ → Globals → IoTrace → Prop} {H : Globals → IoTrace → Prop}
    (h : Unopened sn protocol t) (port : ℕ)
    (next : ∀ p g' t, g'.sock = g.sock → g'.deadlineConfigValid = g.deadlineConfigValid →
      Unopened sn protocol t → Q p g' t) :
    wpg (obliging sn (opens sn protocol)) (sourcePort port) Q H g t := by
  simp only [sourcePort, globalLock, globalUnlock, wpv_ite, wpv_bind, wpv_perform, wpv_get, wpv_modify,
    wpv_pure]
  refine ⟨fun _ => next _ _ _ rfl rfl h, fun _ => ?_⟩
  rintro x _ ⟨-, rfl⟩ m - m' rfl y _ ⟨-, rfl⟩
  have hlock := h.other (g := m'.toGlobals) (e := .globalLock) (x := x) (by rintro ⟨⟩)
  exact next _ _ _ rfl rfl (hlock.other (by rintro ⟨⟩))

lemma lets_socketOpenClosed (h : Unopened sn protocol t) (flag : Byte) (port d : ℕ) :
    Lets sn (opens sn protocol) (· = (sn : ℤ)) (socketOpenClosed b sn protocol flag port d) g t := by
  have command {t : IoTrace} (h : Unopened sn protocol t) : Lets sn (opens sn protocol) (· = (sn : ℤ))
      (socketOpenClosed.openCommand b sn protocol flag port d) g t := by
    simp only [Lets, socketOpenClosed.openCommand, setSnPORT, wizchipWrite16, waitSrReached, wpv_bind,
      wpg_setSnMR, wpv_pure, wpg_setSnCR, wpg_wizchipWriteBufChecked, wpv_ite, wpg_modifySock]
    rintro x _ ⟨rfl, rfl⟩
    have hmode := h.other (g := g) (e := .write8 (Reg.snMR sn) (protocol ||| (flag &&& ~~~sfIoNonblock &&& 0xF0)))
      (x := true) (by rintro ⟨⟩)
    refine ⟨fun hempty => absurd hempty (by simp [bytes16]), ?_⟩
    rintro - y _ ⟨rfl, rfl⟩ z _ ⟨rfl, rfl⟩
    have hport := hmode.other (g := g) (e := .writeBuf (Reg.snPORT sn) (bytes16 port)) (x := true) (by rintro ⟨⟩)
    refine lets_waitCrAccepted stays_told (hport.told _) d fun t hJ => ⟨fun hne => absurd rfl hne, fun _ => ?_⟩
    refine lets_waitRegister stays_told hJ (fun t hJ => ?_) d fun t hJ => ?_
    · exact (congrArg Prod.fst answer_snSR).trans hJ.2
    · exact ⟨fun hne => absurd rfl hne, fun _ => ⟨hJ.1, trivial⟩⟩
  simp only [Lets, socketOpenClosed, wpv_ite, wpv_bind, wpv_pure, wpg_wizchipReadBuf]
  refine ⟨fun _ => ⟨by rintro ⟨⟩, ?_⟩, fun _ => command h⟩
  rintro - x _ ⟨rfl, rfl⟩
  refine ⟨fun hzero => ?_, fun _ => command (h.other (by rintro ⟨⟩))⟩
  rw [answer_data (by simp [Reg.sipr, Reg.snTXFSR, Reg.snRXRSR])] at hzero
  exact absurd hzero (by decide)

lemma letsFrom_socket {m : Driver} {flag : Byte} (hargs : socketArgCheck sn protocol flag = none)
    (hready : m.chipState = .ready) (h : Usable sn m.toGlobals) (port : ℕ) :
    LetsFrom sn (opens sn protocol) (· = (sn : ℤ)) (IoLibrary.socket b sn protocol port flag) m [] := by
  unfold IoLibrary.socket
  rw [hargs]
  refine (wp_bind _ _).2 (wp_get.2 ((wp_ite _ _ _).2 ⟨fun hne => absurd hready hne, fun _ => letsFrom_view ?_⟩))
  have hhealthy := h.healthy
  have hbudgets := h.budgets
  simp only [Lets, wpv_bind, wpg_getSnSR]
  rintro x _ ⟨rfl, rfl⟩
  refine lets_sourcePort (untold_status rfl) port fun port g' t hsock hvalid hI => ?_
  refine (wpg_locked sn _).2 ?_
  rintro y _ ⟨-, rfl⟩
  have hlock := hI.other (g := g') (e := .sockLock sn) (x := y) (by rintro ⟨⟩)
  simp only [socketLocked, wpv_bind, wpv_get, wpv_ite, wpv_pure]
  rintro m' rfl
  refine ⟨fun hf => absurd (hsock ▸ hf) hhealthy, fun _ => ?_⟩
  refine wpg_sockDeadlineBegin keeps_untold.ticks hlock _ (fun _ d t hI => ?_) fun hv => ?_
  · simp only [wpv_bind, wpg_getSnSR, wpv_ite, wpv_pure]
    rintro z _ ⟨rfl, rfl⟩
    refine ⟨fun _ => ?_, fun hne => absurd ((congrArg Prod.fst answer_snSR).trans hI.2) hne⟩
    refine wpv_mono (lets_socketOpenClosed (hI.other (by rintro ⟨⟩)) flag port d) ?_ fun _ _ => id
    rintro r g'' t' ⟨hmarred, hr⟩ v _ ⟨-, rfl⟩
    exact ⟨hmarred.snoc _, hr⟩
  · exact absurd (hvalid.trans hbudgets) hv

end opening

section options
variable {b : Build} {sn : ℕ} {g : Globals} {t : IoTrace}

/-- No register is read as anything but zero, none of them without a failure. -/
abbrev quiet : IoTrace → Byte := fun _ => 0

lemma lets_ctlsocketLocked {cstype : CtlsockType} {arg : ArgMem} (hhealthy : (g.sock sn).health ≠ .faulted)
    (h : match cstype with
      | .getInterrupt | .getIntmask => True
      | .clrInterrupt | .setIntmask => arg.u8.toNat ≤ sikAll.toNat
      | _ => False) :
    Lets sn quiet (fun r : ℤ × ArgOut => r.1 = sockOk) (ctlsocketLocked b sn cstype arg) g t := by
  refine (wpv_bind _ _).2 (wpv_get.2 ?_)
  rintro m rfl
  cases cstype with
  | getInterrupt =>
    refine (wpv_ite _ _ _).2 ⟨by rintro ⟨⟩, fun _ => (wpv_ite _ _ _).2 ⟨fun hf => absurd hf hhealthy, fun _ => ?_⟩⟩
    refine (wpv_bind _ _).2 (wpg_getSnIR.2 ?_)
    rintro x _ ⟨rfl, rfl⟩
    exact ⟨marred_read8 _, rfl⟩
  | getIntmask =>
    refine (wpv_ite _ _ _).2 ⟨by rintro ⟨⟩, fun _ => (wpv_ite _ _ _).2 ⟨fun hf => absurd hf hhealthy, fun _ => ?_⟩⟩
    simp only [getSnIMR, wpv_bind, wpv_pure, wpg_wizchipRead]
    rintro x _ ⟨rfl, rfl⟩
    exact ⟨marred_read8 _, rfl⟩
  | clrInterrupt =>
    refine (wpv_ite _ _ _).2 ⟨by rintro ⟨⟩, fun _ => (wpv_ite _ _ _).2 ⟨fun hf => absurd hf hhealthy, fun _ => ?_⟩⟩
    refine (wpv_ite _ _ _).2 ⟨fun hlt => absurd h (Nat.not_le.2 hlt), fun _ => (wpv_bind _ _).2 ?_⟩
    refine (wpg_setSnIR _).2 ?_
    rintro x _ ⟨rfl, rfl⟩
    exact ⟨marred_write8 _ _, rfl⟩
  | setIntmask =>
    refine (wpv_ite _ _ _).2 ⟨by rintro ⟨⟩, fun _ => (wpv_ite _ _ _).2 ⟨fun hf => absurd hf hhealthy, fun _ => ?_⟩⟩
    refine (wpv_ite _ _ _).2 ⟨fun hlt => absurd h (Nat.not_le.2 hlt), fun _ => (wpv_bind _ _).2 ?_⟩
    refine (wpg_wizchipWrite _ _ _).2 ?_
    rintro x _ ⟨rfl, rfl⟩
    exact ⟨marred_write8 _ _, rfl⟩
  | _ => exact h.elim

/-- A register write of an option, whose status nobody looks at. -/
lemma lets_write8 (a : Addr) (v : Byte) :
    Lets sn quiet (· = sockOk) (do wizchipWrite b a v; return sockOk) g t := by
  refine (wpv_bind _ _).2 ((wpg_wizchipWrite _ _ _).2 ?_)
  rintro x _ ⟨rfl, rfl⟩
  exact ⟨marred_write8 _ _, rfl⟩

lemma lets_writeBuf {a : Addr} {data : List Byte} (hdata : data ≠ []) :
    Lets sn quiet (· = sockOk) (do let _ ← wizchipWriteBufChecked b a data; return sockOk) g t := by
  refine (wpv_bind _ _).2 ((wpg_wizchipWriteBufChecked _ _ _).2 ⟨fun h => absurd h hdata, ?_⟩)
  rintro - x _ ⟨rfl, rfl⟩
  exact ⟨marred_now (show Failed (.writeBuf a data) true from rfl), rfl⟩

lemma lets_keepaliveSend (htcp : (g.sock sn).mode &&& 0x03 = 0x01) (hbudgets : g.deadlineConfigValid) :
    Lets sn quiet (· = sockOk) (keepaliveSend b sn) g t := by
  have stays := stays_marred []
  simp only [Lets, keepaliveSend, wpv_bind, wpv_get, wpv_ite, wpv_pure, wpg_wizchipRead]
  rintro m rfl
  refine ⟨fun hne => absurd htcp hne, fun _ => ?_⟩
  rintro x _ ⟨rfl, rfl⟩
  have hzero : (answer sn quiet t (.read8 (Reg.snKPALVTR sn))).1 = 0 := by
    simp [answer, Reg.snKPALVTR, Reg.snIR, Reg.snSR]
  refine ⟨fun hne => absurd hzero hne, fun _ m' hm' => ⟨fun hv => absurd (hm' ▸ hbudgets) hv, fun _ => ?_⟩⟩
  refine (timed_deadlineAbs _).wpg (Stays.keeps stays).ticks (marred_read8 _) fun d t ht => ?_
  refine timed_waitPollInit.wpg (Stays.keeps stays).ticks ht fun poll t ht => ?_
  simp only [wpg_setSnCR]
  rintro y _ ⟨rfl, rfl⟩
  refine wpg_pollLoop_first (wpg_crOrTimeoutLook.2 ?_)
  rintro z _ ⟨rfl, rfl⟩
  exact ⟨fun _ => ⟨_, rfl, stays _ _ (stays _ _ ht), rfl⟩, fun hne => absurd (congrArg Prod.fst answer_snCR) hne⟩

lemma lets_setsockoptLocked {sotype : SockoptType} {arg : Option ArgMem}
    (hhealthy : (g.sock sn).health ≠ .faulted)
    (h : match sotype with
      | .ttl | .tos | .mss | .destip | .destport => arg ≠ none
      | .keepaliveauto => arg ≠ none ∧ (g.sock sn).mode &&& 0x03 = 0x01
      | .keepalivesend => (g.sock sn).mode &&& 0x03 = 0x01 ∧ g.deadlineConfigValid
      | _ => False) (a : ArgMem) :
    Lets sn quiet (· = sockOk) (setsockoptLocked b sn sotype a) g t := by
  refine (wpv_bind _ _).2 (wpv_get.2 ?_)
  rintro m rfl
  refine (wpv_ite _ _ _).2 ⟨fun hf => absurd hf hhealthy, fun _ => ?_⟩
  cases sotype with
  | ttl => exact lets_write8 _ _
  | tos => exact lets_write8 _ _
  | mss => exact lets_writeBuf (by simp [bytes16])
  | destip =>
    have hne : a.ip.toList ≠ [] := fun h => absurd (congrArg List.length h) (by simp)
    have hwrite : Lets sn quiet (· = sockOk) (do
        let _ ← wizchipWriteBufChecked b (Reg.snDIPR sn) a.ip.toList
        return sockOk) m.toGlobals t := lets_writeBuf hne
    simpa only [Lets, setSnDIPR, wizchipWriteBuf, wpv_bind, wpv_pure] using hwrite
  | destport =>
    have hne : bytes16 a.u16 ≠ [] := by simp [bytes16]
    have hwrite : Lets sn quiet (· = sockOk) (do
        let _ ← wizchipWriteBufChecked b (Reg.snDPORT sn) (bytes16 a.u16)
        return sockOk) m.toGlobals t := lets_writeBuf hne
    simpa only [Lets, setSnDPORT, wizchipWrite16, wpv_bind, wpv_pure] using hwrite
  | keepalivesend => exact lets_keepaliveSend h.1 h.2
  | keepaliveauto => exact (wpv_ite _ _ _).2 ⟨fun hne => absurd h.2 hne, fun _ => lets_write8 _ _⟩
  | _ => exact h.elim

/-- The answer of a register read, whose status nobody looks at. -/
lemma lets_read8 (a : Addr) (f : Byte → ArgOut) :
    Lets sn quiet (fun r : ℤ × ArgOut => r.1 = sockOk) (do let v ← wizchipRead b a; answered (f v)) g t := by
  refine (wpv_bind _ _).2 ((wpg_wizchipRead _ _).2 ?_)
  rintro x _ ⟨rfl, rfl⟩
  exact ⟨marred_read8 _, rfl⟩

lemma lets_read16 {a : Addr} (ha : ¬ (a = Reg.snTXFSR sn ∨ a = Reg.snRXRSR sn)) (f : ℕ → ArgOut) :
    Lets sn quiet (fun r : ℤ × ArgOut => r.1 = sockOk)
      (do let v ← wizchipRead16Value b a; answered (f v)) g t := by
  refine (wpv_bind _ _).2 (wpg_wizchipRead16Value b a ?_)
  rintro x _ ⟨rfl, rfl⟩
  have hfailed : Failed (.readBuf a 2) (answer sn quiet t (.readBuf a 2)) := by
    rw [answer_data ha]
    exact rfl
  exact ⟨fun _ => ⟨marred_now hfailed, rfl⟩, fun _ => ⟨marred_now hfailed, rfl⟩⟩

/-- The mode register is read when the cached mode is zero, as zero. -/
lemma lets_mode {α : Type} {S : α → Prop} {f : Byte → Drv α} (hmode : (g.sock sn).mode = 0)
    (h : ∀ t, Marred [] t → Lets sn quiet S (f 0) g t) :
    Lets sn quiet S (do let mode ← sockModeCachedOrRead b sn; f mode) g t := by
  simp only [Lets, sockModeCachedOrRead, wpv_bind, wpv_get, wpv_ite, wpg_getSnMR, wpv_pure]
  rintro m rfl
  refine ⟨fun _ => ?_, fun hne => absurd hmode hne⟩
  rintro x _ ⟨rfl, rfl⟩
  have hzero : (answer sn quiet t (.read8 (Reg.snMR sn))).1 = 0 := by
    simp [answer, Reg.snMR, Reg.snIR, Reg.snSR]
  rw [hzero]
  exact h _ (marred_read8 _)

lemma lets_getsockoptLocked {sotype : SockoptType}
    (h : match sotype with
      | .status => True
      | .ttl | .tos | .mss | .destip | .destport => (g.sock sn).health ≠ .faulted
      | .keepaliveauto => (g.sock sn).health ≠ .faulted ∧ (g.sock sn).mode &&& 0x03 = 0x01
      | .flag | .remainsize | .packinfo => (g.sock sn).health ≠ .faulted ∧ (g.sock sn).mode = 0
      | _ => False) :
    Lets sn quiet (fun r : ℤ × ArgOut => r.1 = sockOk) (getsockoptLocked b sn sotype) g t := by
  refine (wpv_bind _ _).2 (wpv_get.2 ?_)
  rintro m rfl
  refine (wpv_ite _ _ _).2 ⟨fun hf => ?_, fun _ => ?_⟩
  · cases sotype with
    | status => exact absurd rfl hf.2
    | ttl | tos | mss | destip | destport => exact absurd hf.1 h
    | keepaliveauto | flag | remainsize | packinfo => exact absurd hf.1 h.1
    | _ => exact h.elim
  cases sotype with
  | flag => exact lets_mode h.2 fun t ht => ⟨ht, rfl⟩
  | ttl => exact lets_read8 _ _
  | tos => exact lets_read8 _ _
  | mss => exact lets_read16 (by simp [Reg.snMSSR, Reg.snTXFSR, Reg.snRXRSR]) _
  | destip =>
    refine (wpv_bind _ _).2 ((wpg_wizchipReadBuf _ _ _).2 ⟨by rintro ⟨⟩, ?_⟩)
    rintro - x _ ⟨rfl, rfl⟩
    refine ⟨marred_now ?_, rfl⟩
    rw [answer_data (by simp [Reg.snDIPR, Reg.snTXFSR, Reg.snRXRSR])]
    exact rfl
  | destport => exact lets_read16 (by simp [Reg.snDPORT, Reg.snTXFSR, Reg.snRXRSR]) _
  | keepaliveauto => exact (wpv_ite _ _ _).2 ⟨fun hne => absurd h.2 hne, fun _ => lets_read8 _ _⟩
  | status => exact lets_read8 _ _
  | remainsize =>
    refine lets_mode h.2 fun t ht => (wpv_ite _ _ _).2 ⟨fun htcp => absurd htcp (by decide), fun _ => ?_⟩
    exact ⟨ht, rfl⟩
  | packinfo =>
    refine lets_mode h.2 fun t ht => (wpv_ite _ _ _).2 ⟨fun htcp => absurd htcp (by decide), fun _ => ?_⟩
    exact ⟨ht, rfl⟩
  | _ => exact h.elim

end options

/-- A call that drops a status has a run in which a transfer fails and it reports success. -/
lemma dishonest_of_drops {b : Build} {sn : ℕ} {op : Op} {m : Driver} (h : Drops sn m op) :
    ¬ Honest b sn op m := by
  cases op with
  | socket protocol port flag =>
    obtain ⟨hargs, hready, hhealthy, hbudgets⟩ := h
    exact not_honest (opens sn protocol) (letsFrom_socket hargs hready ⟨hhealthy, hbudgets⟩ port)
  | close =>
    obtain ⟨hsn, hhealthy, hbudgets⟩ := h
    refine not_honest (fun _ => sockClosed) ((wp_ite _ _ _).2 ⟨fun hle => ?_, fun _ => ?_⟩)
    · exact absurd hsn (Nat.not_lt.2 hle)
    · exact letsFrom_locked (letsFrom_view (lets_closeInternal hsn ⟨hhealthy, hbudgets⟩))
  | listen =>
    obtain ⟨hsn, hhealthy, hbudgets⟩ := h
    refine not_honest (cued sn snCrListen sockInit sockListen) ?_
    refine (wp_ite _ _ _).2 ⟨fun hle => absurd hsn (Nat.not_lt.2 hle), fun _ => ?_⟩
    exact letsFrom_locked (letsFrom_view (lets_listenLocked ⟨hhealthy, hbudgets⟩ rfl))
  | connect addr port addrlen =>
    obtain ⟨hstream, hport, haddrlen, addr, rfl, hvalid⟩ := h
    refine not_honest (cued sn snCrConnect sockInit sockEstablished) ?_
    refine (wp_ite _ _ _).2 ⟨fun hle => absurd hstream.number (Nat.not_lt.2 hle), fun _ => ?_⟩
    refine (wp_ite _ _ _).2 ⟨fun h0 => absurd h0 hport, fun _ => (wp_ite _ _ _).2 ⟨fun hne => ?_, fun _ => ?_⟩⟩
    · exact absurd haddrlen hne.1
    refine (wp_ite _ _ _).2 ⟨fun hbad => absurd hbad.2 hvalid, fun _ => ?_⟩
    exact letsFrom_locked (letsFrom_connectLocked hstream haddrlen addr rfl)
  | disconnect =>
    obtain ⟨hsn, hready, hhealthy, htcp⟩ := h
    refine not_honest (fun _ => sockClosed) ((wp_ite _ _ _).2 ⟨fun hle => ?_, fun _ => ?_⟩)
    · exact absurd hsn (Nat.not_lt.2 hle)
    · exact letsFrom_locked (letsFrom_disconnectLocked hready hhealthy htcp)
  | send len buf =>
    obtain ⟨⟨hstream, hlen, hbuf⟩, hpos, hfits⟩ := h
    obtain ⟨buf, rfl⟩ := Option.ne_none_iff_exists'.1 hbuf
    refine not_honest (fun _ => sockEstablished) ?_
    refine (wp_ite _ _ _).2 ⟨fun h0 => absurd h0 hlen, fun _ => (wp_ite _ _ _).2 ⟨fun hle => ?_, fun _ => ?_⟩⟩
    · exact absurd hstream.number (Nat.not_lt.2 hle)
    refine (wp_ite _ _ _).2 ⟨fun hne => absurd hstream.ready hne, fun _ => letsFrom_locked (letsFrom_view ?_)⟩
    exact lets_sendLocked ⟨hstream.healthy, hstream.budgets⟩ hstream.tcp Vector.length_toList hpos hfits
  | recv buf len =>
    obtain ⟨⟨hstream, hlen, rfl⟩, hmax⟩ := h
    refine not_honest (fun _ => sockEstablished) (letsFrom_map ?_)
    refine (wp_ite _ _ _).2 ⟨fun h0 => absurd h0 hlen, fun _ => ?_⟩
    refine (wp_ite _ _ _).2 ⟨fun hnull => absurd rfl hnull, fun _ => (wp_ite _ _ _).2 ⟨fun hle => ?_, fun _ => ?_⟩⟩
    · exact absurd hstream.number (Nat.not_lt.2 hle)
    refine (wp_bind _ _).2 (wp_get.2 ((wp_ite _ _ _).2 ⟨fun hne => absurd hstream.ready hne, fun _ => ?_⟩))
    refine letsFrom_locked (letsFrom_view ?_)
    exact lets_recvLocked ⟨hstream.healthy, hstream.budgets⟩ hstream.tcp hlen hmax
  | sendto len buf addr port addrlen =>
    obtain ⟨⟨hsn, hlen, hbuf, hfault, hhealthy, hbudgets, haddr⟩, hsends⟩ := h
    obtain ⟨buf, rfl⟩ := Option.ne_none_iff_exists'.1 hbuf
    refine not_honest (fun _ => sockUdp) ?_
    refine (wp_ite _ _ _).2 ⟨fun h0 => absurd h0 hlen, fun _ => (wp_ite _ _ _).2 ⟨fun hle => ?_, fun _ => ?_⟩⟩
    · exact absurd hsn (Nat.not_lt.2 hle)
    refine letsFrom_locked (letsFrom_view ((wpv_bind _ _).2 (wpv_get.2 fun m' hm' => ?_)))
    rw [hm']
    refine (wpv_ite _ _ _).2 ⟨fun hf => absurd hf hfault, fun _ => ?_⟩
    refine (wpv_ite _ _ _).2 ⟨fun hf => absurd hf hhealthy, fun _ => ?_⟩
    refine (wpv_ite _ _ _).2 ⟨fun hv => absurd hbudgets hv, fun _ => ?_⟩
    refine (wpv_ite _ _ _).2 ⟨fun hpending => ?_, fun hidle => ?_⟩
    · rw [if_pos hpending] at hsends
      exact lets_sendtoPending hsends
    · rw [if_neg hidle] at hsends
      obtain ⟨hio, hpos, hfits⟩ := hsends
      exact lets_sendtoIdle hbudgets hio (haddr hidle) Vector.length_toList hpos hfits
  | recvfrom buf len addrPort =>
    obtain ⟨⟨hsn, hlen, rfl, hhealthy, hbudgets, hmode⟩, rfl⟩ := h
    refine not_honest (fun _ => sockUdp) (letsFrom_map ?_)
    refine (wp_ite _ _ _).2 ⟨fun h0 => absurd h0 hlen, fun _ => ?_⟩
    refine (wp_ite _ _ _).2 ⟨fun hnull => absurd rfl hnull, fun _ => (wp_ite _ _ _).2 ⟨fun hle => ?_, fun _ => ?_⟩⟩
    · exact absurd hsn (Nat.not_lt.2 hle)
    refine letsFrom_locked (letsFrom_view ?_)
    exact lets_recvfromLocked ⟨hhealthy, hbudgets⟩ hmode hsn hlen
  | ctlsocket cstype arg =>
    obtain ⟨hsn, hhealthy, arg, rfl, hcstype⟩ := h
    refine not_honest quiet (letsFrom_map ((wp_ite _ _ _).2 ⟨fun hle => ?_, fun _ => ?_⟩))
    · exact absurd hsn (Nat.not_lt.2 hle)
    · exact letsFrom_locked (letsFrom_view (lets_ctlsocketLocked hhealthy hcstype))
  | setsockopt sotype arg =>
    obtain ⟨hsn, hhealthy, hsotype⟩ := h
    refine not_honest quiet ((wp_ite _ _ _).2 ⟨fun hle => ?_, fun _ => ?_⟩)
    · exact absurd hsn (Nat.not_lt.2 hle)
    refine (wp_ite _ _ _).2 ⟨fun hnull => ?_, fun _ => ?_⟩
    · have hnone : arg = none := Option.isNone_iff_eq_none.1 hnull.1
      cases sotype with
      | ttl | tos | mss | destip | destport => exact absurd hnone hsotype
      | keepaliveauto => exact absurd hnone hsotype.1
      | keepalivesend => exact absurd rfl hnull.2
      | _ => exact hsotype.elim
    · exact letsFrom_locked (letsFrom_view (lets_setsockoptLocked hhealthy hsotype _))
  | getsockopt sotype arg =>
    obtain ⟨hsn, rfl, hsotype⟩ := h
    refine not_honest quiet (letsFrom_map ((wp_ite _ _ _).2 ⟨fun hle => ?_, fun _ => ?_⟩))
    · exact absurd hsn (Nat.not_lt.2 hle)
    refine (wp_ite _ _ _).2 ⟨fun hnull => absurd rfl hnull, fun _ => ?_⟩
    exact letsFrom_locked (letsFrom_view (lets_getsockoptLocked hsotype))

end IoLibrary.FalseSuccess
