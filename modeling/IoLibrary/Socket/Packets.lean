import IoLibrary.Socket.DatagramRules
import IoLibrary.Calls

/-! What recvfrom does to a packet: the header it takes, the part it copies out and what it leaves
in the accounting, from what the call reads of the chip. -/
namespace IoLibrary.Packets
open Effects

variable {b : Build} {sn : ℕ} {g : Globals} {t t' t₁ : IoTrace}

/-- The values that the events have read from Sn_CR. -/
def commandReads (sn : ℕ) (added : IoTrace) : List Byte :=
  added.filterMap fun
    | ⟨_, .read8 a, x⟩ => if a = Reg.snCR sn then some x.1 else none
    | _ => none

/-- What the events have read from the RX memory. -/
def payloadReads (sn : ℕ) (added : IoTrace) : List (List Byte) :=
  added.filterMap fun
    | ⟨_, .readBuf a _, x⟩ => if a.block = .rxBuf sn then some x.1.toList else none
    | _ => none

/-- Since `t`, the values `c` have been read from Sn_CR and `r` from the RX memory. -/
def Reads (sn : ℕ) (t : IoTrace) (c : List Byte) (r : List (List Byte)) (t' : IoTrace) : Prop :=
  ∃ added, t' = t ++ added ∧ commandReads sn added = c ∧ payloadReads sn added = r

section reads
variable {c : List Byte} {r : List (List Byte)}

lemma Reads.refl : Reads sn t [] [] t := ⟨[], by simp, rfl, rfl⟩

lemma Reads.snoc (h : Reads sn t c r t') (v : Event Globals Io Io.Res) :
    Reads sn t (c ++ commandReads sn [v]) (r ++ payloadReads sn [v]) (t' ++ [v]) := by
  obtain ⟨added, rfl, rfl, rfl⟩ := h
  refine ⟨added ++ [v], by simp, ?_, ?_⟩
  · rw [commandReads, List.filterMap_append]
    rfl
  · rw [payloadReads, List.filterMap_append]
    rfl

/-- A call that reads neither keeps what has been read. -/
def Idle (sn : ℕ) : Io → Prop
  | .read8 a => a ≠ Reg.snCR sn
  | .readBuf a _ => a.block ≠ .rxBuf sn
  | _ => True

lemma Reads.idle (h : Reads sn t c r t') {e : Io} (he : Idle sn e) {x : e.Res}
    (hx : traceEnv (fun _ _ _ => True) g t' e x t₁) : Reads sn t c r t₁ := by
  obtain ⟨-, rfl⟩ := hx
  have hsnoc := h.snoc ⟨g, e, x⟩
  have hnone : commandReads sn [⟨g, e, x⟩] = [] ∧ payloadReads sn [⟨g, e, x⟩] = [] := by
    cases e with
    | read8 a => simp [commandReads, payloadReads, show a ≠ Reg.snCR sn from he]
    | readBuf a len => simp [commandReads, payloadReads, show a.block ≠ .rxBuf sn from he]
    | _ => exact ⟨rfl, rfl⟩
  rwa [hnone.1, hnone.2, List.append_nil, List.append_nil] at hsnoc

lemma Reads.command (h : Reads sn t c r t') {x : Byte × Bool}
    (hx : traceEnv (fun _ _ _ => True) g t' (.read8 (Reg.snCR sn)) x t₁) :
    Reads sn t (c ++ [x.1]) r t₁ := by
  obtain ⟨-, rfl⟩ := hx
  have hsnoc := h.snoc ⟨g, .read8 (Reg.snCR sn), x⟩
  simpa [commandReads, payloadReads] using hsnoc

lemma Reads.payload (h : Reads sn t c r t') {p len : ℕ} {x : Vector Byte len × Bool}
    (hx : traceEnv (fun _ _ _ => True) g t' (.readBuf ⟨p, .rxBuf sn⟩ len) x t₁) :
    Reads sn t c (r ++ [x.1.toList]) t₁ := by
  obtain ⟨-, rfl⟩ := hx
  have hsnoc := h.snoc ⟨g, .readBuf ⟨p, .rxBuf sn⟩ len, x⟩
  simpa [commandReads, payloadReads] using hsnoc

lemma ticks_reads : Ticks (traceEnv fun _ _ _ => True) g (Reads sn t c r) := by
  rintro t' _ x t₁ (rfl | rfl) h hx
  · exact h.idle (e := .now) trivial hx
  · exact h.idle (e := .wait) trivial hx

/-- The copy of some received bytes. -/
lemma wpg_wizRecvData {Q : List Byte → Globals → IoTrace → Prop} {H : Globals → IoTrace → Prop}
    (hsn : sn < sockNum) {len : ℕ} (hlen : len ≠ 0) (h : Reads sn t c r t')
    (done : ∀ data t', data.length = len → Reads sn t c (r ++ [data]) t' → Q data g t') :
    wpg (traceEnv fun _ _ _ => True) (wizRecvData b sn len) Q H g t' := by
  have copied (p : ℕ) {t' : IoTrace} (h : Reads sn t c r t') :
      wpg (traceEnv fun _ _ _ => True) (do
        let data ← wizchipReadBuf b ⟨p, .rxBuf sn⟩ len
        setSnRXRD b sn ((p + len) % 65536)
        return data) Q H g t' := by
    simp only [setSnRXRD, wpv_bind, wpg_wizchipReadBuf, wpg_wizchipWriteBuf, wpv_pure]
    refine ⟨fun h0 => absurd h0 hlen, fun _ x t₁ hx => ⟨fun hempty => ?_, fun _ y t₂ hy => ?_⟩⟩
    · exact absurd hempty (by simp [bytes16])
    · exact done _ _ (by simp) ((h.payload hx).idle (e := .writeBuf _ _) trivial hy)
  rw [wizRecvData, if_neg (by omega)]
  simp only [getSnRXRD, wpv_bind]
  refine wpg_wizchipRead16Value b _ fun x t₁ hx => ⟨fun _ => ?_, fun _ => ?_⟩
  · have hptr : Reads sn t c r t₁ := h.idle (e := .readBuf _ _) (by simp [Idle, Reg.snRXRD]) hx
    simpa only [wpv_bind] using copied _ hptr
  · have hptr : Reads sn t c r t₁ := h.idle (e := .readBuf _ _) (by simp [Idle, Reg.snRXRD]) hx
    simpa only [wpv_bind] using copied _ hptr

/-- RECV is taken, or the call ends with SOCK_BUSY or an error. -/
lemma wpg_waitTaken {Q : ℤ → Globals → IoTrace → Prop} (τ : ℕ) (nonblocking : Bool)
    (h : Reads sn t c r t')
    (taken : ∀ cs t', 0 ∉ cs → Reads sn t (c ++ cs ++ [0]) r t' → Q sockOk g t')
    (busy : nonblocking → ∀ v t', v ≠ 0 → Reads sn t (c ++ [v]) r t' → Q sockBusy g t')
    (late : ∀ g' t', Q sockerrTimeout g' t') :
    wpg (traceEnv fun _ _ _ => True) (waitDatagramCrAccepted b sn τ nonblocking) Q (fun _ _ => True) g
      t' := by
  have look {Q' : Option ℤ → Globals → IoTrace → Prop} {l : List Byte} {t' : IoTrace}
      (h : Reads sn t (c ++ l) r t')
      (ok : ∀ t', Reads sn t (c ++ l ++ [0]) r t' → Q' (some sockOk) g t')
      (timeout : ∀ t', Q' (some sockerrTimeout) g t')
      (none : ∀ v t', v ≠ 0 → Reads sn t (c ++ (l ++ [v])) r t' → Q' none g t') :
      wpg (traceEnv fun _ _ _ => True) (crOrTimeoutLook b sn) Q' (fun _ _ => True) g t' := by
    refine wpg_crOrTimeoutLook.2 fun x t₁ hx => ?_
    have hread := h.command hx
    refine ⟨fun h0 => ok t₁ (h0 ▸ hread), fun hne y t₂ hy => ?_⟩
    have hir : Reads sn t (c ++ l ++ [x.1]) r t₂ :=
      hread.idle (e := .read8 _) (by simp [Idle, Reg.snIR, Reg.snCR]) hy
    refine ⟨fun _ z t₃ _ => timeout t₃, fun _ => none x.1 t₂ hne ?_⟩
    rwa [← List.append_assoc]
  simp only [waitDatagramCrAccepted, wpv_bind]
  refine look (l := []) (by rwa [List.append_nil]) (fun t' ht' => ?_) (late g)
    fun v t' hv ht' => ?_
  · exact taken [] t' List.not_mem_nil ht'
  · simp only [wpv_ite, wpv_pure, wpv_bind]
    refine ⟨fun hn => busy hn v t' hv ht', fun _ => ?_⟩
    have ticks : Ticks (traceEnv fun _ _ _ => True) g fun t' =>
        ∃ cs, 0 ∉ cs ∧ Reads sn t (c ++ cs) r t' := by
      rintro t' e x t₁ he ⟨cs, hcs, ht'⟩ hx
      exact ⟨cs, hcs, ticks_reads t' e x t₁ he ht' hx⟩
    have hstart : ∃ cs, 0 ∉ cs ∧ Reads sn t (c ++ cs) r t' :=
      ⟨[v], by simpa using Ne.symm hv, ht'⟩
    refine (timed_deadlineAbs τ).wpg ticks hstart fun d t' ht' => ?_
    refine timed_waitPollInit.wpg ticks ht' fun p t' ht' => ?_
    refine wpg_pollLoop ticks ht' (fun t' ht' => ?_) (fun t' _ => wpg_faultedTimeout.2 (late _ t'))
      fun _ _ => trivial
    obtain ⟨cs, hcs, ht'⟩ := ht'
    refine look ht' (fun t' ht' => taken cs t' hcs ht') (late g) fun v t' hv ht' => ?_
    refine ⟨rfl, cs ++ [v], ?_, ht'⟩
    rw [List.mem_append, List.mem_singleton]
    rintro (hmem | h0)
    · exact hcs hmem
    · exact hv h0.symm

/-- The wait for a packet answers its size, or ends the call. -/
lemma wpg_recvfromWait {Q : Except ℤ ℕ → Globals → IoTrace → Prop} (nonblocking : Bool) (d : ℕ)
    (h : Reads sn t c r t') (error : ∀ e t', e < 0 → Q (.error e) g t')
    (busy : ∀ t', Reads sn t c r t' → Q (.error sockBusy) g t')
    (arrived : ∀ n t', 0 < n → n < 65536 → Reads sn t c r t' → Q (.ok n) g t') :
    wpg (traceEnv fun _ _ _ => True) (recvfromWait b sn nonblocking d) Q (fun _ _ => True) g t' := by
  simp only [recvfromWait, wpv_bind]
  refine timed_waitPollInit.wpg ticks_reads h fun p t' h => ?_
  refine wpg_pollLoop ticks_reads h (fun t' h => ?_) (fun t' _ => error _ t' (by decide))
    fun _ _ => trivial
  simp only [recvfromLook, readSnRxRsr, getSnRXRSRStable, wpv_bind]
  refine wpg_stableSize ticks_reads h b _ (fun t' x t₁ h hx => ?_) (fun t' _ => error _ t' (by decide))
    fun _ _ => trivial
  have hsize : Reads sn t c r t₁ := h.idle (e := .readBuf _ _) (by simp [Idle, Reg.snRXRSR]) hx
  refine ⟨fun _ => ⟨hsize, ?_⟩, fun _ => error _ t₁ (by decide)⟩
  simp only [wpv_bind, wpg_getSnSR, wpv_ite, wpv_pure, looked_some, looked_none, true_and]
  intro y t₂ hy
  have hstatus : Reads sn t c r t₂ :=
    hsize.idle (e := .read8 _) (by simp [Idle, Reg.snSR, Reg.snCR]) hy
  refine ⟨fun _ => error _ t₂ (by decide), fun _ => ⟨fun hne => ?_, fun _ => ⟨fun _ => busy t₂ hstatus, ?_⟩⟩⟩
  · exact arrived _ t₂ (Nat.pos_of_ne_zero hne) (word16_lt _ _) hstatus
  · exact fun _ => hstatus

/-- The header is dropped, or the call ends. -/
lemma wpg_recvHeader {Q : ℤ × List Byte → Globals → IoTrace → Prop} (hsn : sn < sockNum) {n : ℕ}
    (hn : n ≠ 0) (nonblocking : Bool) (h : Reads sn t [] [] t')
    (taken : ∀ cs head t', Reads sn t (cs ++ [0]) [head] t' → Q (sockOk, head) g t')
    (busy : ∀ v head t', v ≠ 0 → Reads sn t [v] [head] t' → Q (sockBusy, head) g t')
    (late : ∀ head g' t', Q (sockerrTimeout, head) g' t') :
    wpg (traceEnv fun _ _ _ => True) (recvHeader b sn n nonblocking) Q (fun _ _ => True) g t' := by
  simp only [recvHeader, wpv_bind, wpv_get]
  rintro m rfl
  refine wpg_wizRecvData hsn hn h fun head t' _ h => ?_
  simp only [wpg_setSnCR]
  intro x t₁ hx
  have hcommand : Reads sn t [] [head] t₁ := h.idle (e := .write8 _ _) trivial hx
  exact wpg_waitTaken _ nonblocking hcommand (fun cs t' _ h => taken cs head t' h)
    (fun _ v t' hv h => busy v head t' hv h) (late head)

end reads

/-- The payload length that a header declares. -/
def declared (mode : Byte) (head : List Byte) : ℕ :=
  if mode &&& 0x07 = snMrUdp then word16 (byteAt head 6) (byteAt head 7)
  else if mode &&& 0x07 = snMrMacraw then word16 (byteAt head 0) (byteAt head 1) - 2
  else word16 (byteAt head 4) (byteAt head 5)

/-- The state behind a header. -/
def Sock.started (size : ℕ) (s : Sock) : Sock := { s with remainedSize := size, packInfo := packFirst }

/-- The state after a part of `n` bytes has been dropped by RECV. -/
def Sock.took (n : ℕ) (s : Sock) : Sock :=
  let rest := (s.remainedSize + 65536 - n) % 65536
  { s with
    remainedSize := rest
    packInfo := s.packInfo ||| (if rest ≠ 0 then packRemained else packCompleted) }

/-- The call goes on with a packet, or it has taken a header. -/
def Begun (s : Sock) (c : List Byte) (r : List (List Byte)) (s₁ : Sock) : Prop :=
  s.remainedSize ≠ 0 ∧ s₁ = s ∨
    s.remainedSize = 0 ∧ 0 ∈ c ∧ ∃ head rest, r = head :: rest ∧ s₁ = Sock.started (declared s.mode head) s

/-- The bytes that the call copies out and the length that it reports. An IPRAW packet without a
payload has the received size reported. -/
structure Part (len : ℕ) (s : Sock) (n : ℕ) (bytes : List Byte) : Prop where
  some : s.remainedSize ≠ 0 → n = min len s.remainedSize ∧ bytes.length = n
  none : s.remainedSize = 0 → bytes = [] ∧
    (s.mode &&& 0x07 = snMrIpraw → 0 < n ∧ n < 65536) ∧ (s.mode &&& 0x07 ≠ snMrIpraw → n = 0)

/-- What a call of recvfrom without an error comes to. -/
inductive Came (s : Sock) (len : ℕ) (c : List Byte) (r : List (List Byte)) : Received → Sock → Prop
  | nothing {out : Received} (fresh : s.remainedSize = 0) (untaken : 0 ∉ c) (ret : out.ret = 0)
      (bytes : out.bytes = []) : Came s len c r out s
  | part {out : Received} {s₁ : Sock} {n : ℕ} (begun : Begun s c r s₁) (part : Part len s₁ n out.bytes)
      (taken : c.getLast? = some 0) (ret : out.ret = n) : Came s len c r out (Sock.took n s₁)
  | busy {out : Received} {s₁ : Sock} {n : ℕ} (begun : Begun s c r s₁) (part : Part len s₁ n out.bytes)
      (untaken : c.getLast? ≠ some 0) (ret : out.ret = 0) : Came s len c r out s₁

section came
variable {s : Sock} {len : ℕ} {c : List Byte} {r : List (List Byte)}

lemma Begun.append {s₁ : Sock} (h : Begun s c r s₁) (c' : List Byte) (r' : List (List Byte)) :
    Begun s (c ++ c') (r ++ r') s₁ := by
  refine h.imp_right fun ⟨hfresh, htaken, head, rest, hr, hs₁⟩ => ?_
  exact ⟨hfresh, List.mem_append_left _ htaken, head, rest ++ r', by rw [hr, List.cons_append], hs₁⟩

/-- Every run of the rest of the call comes to one of these. -/
abbrev WpCame (sn : ℕ) (t : IoTrace) (s : Sock) (len : ℕ) (p : Drv Received) (g : Globals)
    (t' : IoTrace) : Prop :=
  wpg (traceEnv fun _ _ _ => True) p (fun out g' t' => 0 ≤ out.ret →
    ∃ c r, Reads sn t c r t' ∧ Came s len c r out (g'.sock sn)) (fun _ _ => True) g t'

lemma came_finish (h : Reads sn t c r t') (begun : Begun s c r (g.sock sn)) {n : ℕ}
    {out : Received} (part : Part len (g.sock sn) n out.bytes) (nonblocking : Bool) :
    WpCame sn t s len (recvfromFinish b sn n nonblocking out) g t' := by
  unfold WpCame recvfromFinish
  simp only [wpv_bind, wpg_setSnCR]
  intro x t₁ hx
  have hcommand : Reads sn t c r t₁ := h.idle (e := .write8 _ _) trivial hx
  refine wpv_get.2 ?_
  rintro m rfl
  refine wpg_waitTaken _ nonblocking hcommand (fun cs t' _ ht' => ?_) (fun _ v t' hv ht' => ?_)
    fun g' t' => ?_
  · rw [if_neg (not_not.2 rfl)]
    simp only [wpv_bind, wpg_modifySock, wpv_pure, Globals.setSock_same]
    intro _
    refine ⟨_, _, ht', .part ?_ part List.getLast?_concat rfl⟩
    have hmore := begun.append (cs ++ [0]) []
    rwa [List.append_nil, ← List.append_assoc] at hmore
  · rw [if_pos (by decide)]
    intro _
    refine ⟨_, _, ht', .busy ?_ part (by simpa using hv) rfl⟩
    have hmore := begun.append [v] []
    rwa [List.append_nil] at hmore
  · rw [if_pos (by decide)]
    exact fun hret => absurd (show (0 : ℤ) ≤ sockerrTimeout from hret) (by decide)

lemma came_chunk (hsn : sn < sockNum) (hlen : 0 < len) (h : Reads sn t c r t')
    (begun : Begun s c r (g.sock sn))
    (hpart : (g.sock sn).remainedSize ≠ 0 ∨ (g.sock sn).mode &&& 0x07 ≠ snMrIpraw) (out : Received)
    (nonblocking : Bool) : WpCame sn t s len (recvfromChunk b sn len nonblocking out) g t' := by
  unfold WpCame recvfromChunk
  simp only [wpv_bind, wpv_get]
  rintro m rfl
  by_cases hsize : (m.sock sn).remainedSize = 0
  · have hempty : wizRecvData b sn (min len (m.sock sn).remainedSize) = pure [] := by
      rw [hsize, Nat.min_zero, wizRecvData, if_pos (.inr rfl)]
    rw [hempty, wpv_pure, hsize, Nat.min_zero]
    refine came_finish h begun ⟨fun hne => absurd hsize hne, fun _ => ⟨rfl, fun hip => ?_, fun _ => rfl⟩⟩ _
    rcases hpart with hne | hmode
    · exact absurd hsize hne
    · exact absurd hip hmode
  · have hmin : min len (m.sock sn).remainedSize ≠ 0 := by omega
    refine wpg_wizRecvData hsn hmin h fun data t' hdata h => ?_
    have begun' : Begun s c (r ++ [data]) (m.sock sn) := by
      have hmore := begun.append [] [data]
      rwa [List.append_nil] at hmore
    exact came_finish h begun' ⟨fun _ => ⟨rfl, hdata⟩, fun h0 => absurd h0 hsize⟩ _

/-- A call that takes a header of `n` bytes first. -/
lemma came_header (hsn : sn < sockNum) {n : ℕ} (hn : n ≠ 0) (fresh : s.remainedSize = 0)
    (hs : g.sock sn = s) (h : Reads sn t [] [] t') (nonblocking : Bool)
    {k : ℤ × List Byte → Drv Received}
    (stop : ∀ ret head, ret ≠ sockOk → k (ret, head) = pure { ret := ret })
    (taken : ∀ cs head t', Reads sn t (cs ++ [0]) [head] t' →
      WpCame sn t s len (k (sockOk, head)) g t') :
    WpCame sn t s len (recvHeader b sn n nonblocking >>= k) g t' := by
  refine (wpv_bind _ _).2 ?_
  refine wpg_recvHeader hsn hn nonblocking h taken (fun v head t' hv ht' => ?_) fun head g' t' => ?_
  · rw [stop sockBusy head (by decide)]
    subst hs
    intro _
    refine ⟨_, _, ht', .nothing fresh ?_ rfl rfl⟩
    simpa using Ne.symm hv
  · rw [stop sockerrTimeout head (by decide)]
    exact fun hret => absurd (show (0 : ℤ) ≤ sockerrTimeout from hret) (by decide)

/-- The packet of a header is started. -/
lemma begun_started (cs head : List Byte) (fresh : s.remainedSize = 0) :
    Begun s (cs ++ [0]) [head] (Sock.started (declared s.mode head) s) :=
  .inr ⟨fresh, by simp, head, [], rfl, rfl⟩

lemma came_recvfromUdp (hsn : sn < sockNum) (hlen : 0 < len) (hs : g.sock sn = s)
    (hmode : s.mode &&& 0x07 = snMrUdp) (h : Reads sn t [] [] t') (nonblocking : Bool) :
    WpCame sn t s len (recvfromUdp b sn len nonblocking) g t' := by
  have hother : s.mode &&& 0x07 ≠ snMrIpraw := by
    rw [hmode]
    decide
  unfold recvfromUdp
  refine (wpv_bind _ _).2 (wpv_get.2 ?_)
  rintro m rfl
  rw [hs]
  refine (wpv_ite _ _ _).2 ⟨fun fresh => ?_, fun hmore => ?_⟩
  · refine came_header hsn (by decide) fresh hs h nonblocking (fun _ _ hne => if_pos hne)
      fun cs head t' ht' => ?_
    refine (wpv_bind _ _).2 ((wpg_modifySock _ _).2 ?_)
    refine came_chunk hsn hlen ht' ?_ (.inr ?_) _ nonblocking
    · rw [Globals.setSock_same, hs]
      have hbegun := begun_started cs head fresh
      rwa [declared, if_pos hmode] at hbegun
    · rw [Globals.setSock_same, hs]
      exact hother
  · exact came_chunk hsn hlen h (.inl ⟨hmore, hs⟩) (.inl (hs ▸ hmore)) _ nonblocking

lemma came_recvfromMacraw (hsn : sn < sockNum) (hlen : 0 < len) (hs : g.sock sn = s)
    (hmode : s.mode &&& 0x07 = snMrMacraw) (h : Reads sn t [] [] t') (nonblocking : Bool) :
    WpCame sn t s len (recvfromMacraw b sn len nonblocking) g t' := by
  have hudp : s.mode &&& 0x07 ≠ snMrUdp := by
    rw [hmode]
    decide
  have hother : s.mode &&& 0x07 ≠ snMrIpraw := by
    rw [hmode]
    decide
  have fatal {g : Globals} {t' : IoTrace} : wpg (traceEnv fun _ _ _ => True) (do
      let _ ← closeInternal b sn 0
      return ({ ret := sockfatalPacklen } : Received)) (fun out g' t' => 0 ≤ out.ret →
        ∃ c r, Reads sn t c r t' ∧ Came s len c r out (g'.sock sn)) (fun _ _ => True) g t' := by
    refine (wpv_bind _ _).2 (wpv_any (fun _ _ _ => ?_) fun _ _ => trivial)
    exact fun hret => absurd (show (0 : ℤ) ≤ sockfatalPacklen from hret) (by decide)
  unfold recvfromMacraw
  refine (wpv_bind _ _).2 (wpv_get.2 ?_)
  rintro m rfl
  rw [hs]
  refine (wpv_ite _ _ _).2 ⟨fun fresh => ?_, fun hmore => ?_⟩
  · refine came_header hsn (by decide) fresh hs h nonblocking (fun _ _ hne => if_pos hne)
      fun cs head t' ht' => ?_
    refine (wpv_bind _ _).2 ((wpg_modifySock _ _).2 ?_)
    refine (wpv_ite _ _ _).2 ⟨fun _ => fatal, fun hmin => ?_⟩
    refine (wpv_bind _ _).2 ((wpg_modifySock _ _).2 ?_)
    refine (wpv_ite _ _ _).2 ⟨fun _ => fatal, fun hmax => ?_⟩
    refine (wpv_bind _ _).2 ((wpg_modifySock _ _).2 ?_)
    refine came_chunk hsn hlen ht' ?_ (.inr ?_) _ nonblocking
    · simp only [Globals.setSock_same, hs]
      have hbegun := begun_started cs head fresh
      rwa [declared, if_neg hudp, if_pos hmode] at hbegun
    · simp only [Globals.setSock_same, hs]
      exact hother
  · exact came_chunk hsn hlen h (.inl ⟨hmore, hs⟩) (.inl (hs ▸ hmore)) _ nonblocking

lemma came_recvfromIpraw (hsn : sn < sockNum) (hlen : 0 < len) (hs : g.sock sn = s)
    (hmode : s.mode &&& 0x07 = snMrIpraw) {packLen : ℕ}
    (hpack : s.remainedSize = 0 → 0 < packLen ∧ packLen < 65536) (h : Reads sn t [] [] t')
    (nonblocking : Bool) : WpCame sn t s len (recvfromIpraw b sn len packLen nonblocking) g t' := by
  have hudp : s.mode &&& 0x07 ≠ snMrUdp := by
    rw [hmode]
    decide
  have hmacraw : s.mode &&& 0x07 ≠ snMrMacraw := by
    rw [hmode]
    decide
  have payload {g : Globals} {t' : IoTrace} {c : List Byte} {r : List (List Byte)}
      (begun : Begun s c r (g.sock sn)) (hpack : 0 < (g.sock sn).remainedSize ∨
        0 < packLen ∧ packLen < 65536) (h : Reads sn t c r t') (out : Received)
      (hout : out.bytes = []) (hip : (g.sock sn).mode &&& 0x07 = snMrIpraw) :
      WpCame sn t s len (recvfromIpraw.payload b sn len packLen nonblocking out) g t' := by
    unfold recvfromIpraw.payload
    refine (wpv_bind _ _).2 (wpv_get.2 ?_)
    rintro m rfl
    refine (wpv_ite _ _ _).2 ⟨fun hsize => ?_, fun hnone => ?_⟩
    · exact came_chunk hsn hlen h begun (.inl (Nat.pos_iff_ne_zero.1 hsize)) _ nonblocking
    · refine came_finish h begun ⟨fun hne => absurd (Nat.pos_of_ne_zero hne) hnone, fun _ => ?_⟩ _
      exact ⟨hout, fun _ => hpack.resolve_left hnone, fun hne => absurd hip hne⟩
  unfold recvfromIpraw
  refine (wpv_bind _ _).2 (wpv_get.2 ?_)
  rintro m rfl
  rw [hs]
  refine (wpv_ite _ _ _).2 ⟨fun fresh => ?_, fun hmore => ?_⟩
  · refine came_header hsn (by decide) fresh hs h nonblocking (fun _ _ hne => if_pos hne)
      fun cs head t' ht' => ?_
    refine (wpv_bind _ _).2 ((wpg_modifySock _ _).2 ?_)
    have hip : (Sock.started (word16 (byteAt head 4) (byteAt head 5)) s).mode &&& 0x07 = snMrIpraw :=
      hmode
    refine payload ?_ (.inr (hpack fresh)) ht' _ rfl (by rwa [Globals.setSock_same, hs])
    rw [Globals.setSock_same, hs]
    have hbegun := begun_started cs head fresh
    rwa [declared, if_neg hudp, if_neg hmacraw] at hbegun
  · exact payload (.inl ⟨hmore, hs⟩) (.inl (hs ▸ Nat.pos_of_ne_zero hmore)) h _ rfl
      (hs ▸ hmode)

/-- The low bits of a datagram mode name its branch. -/
lemma datagram_branch {mode : Byte} (h : Datagram mode) : mode &&& 0x07 = snMrUdp ∨
    mode &&& 0x07 = snMrMacraw ∨ mode &&& 0x07 = snMrIpraw := by
  have hall : ∀ mode : Byte, mode &&& 0x0F = snMrUdp ∨ mode &&& 0x0F = snMrIpraw ∨
      mode &&& 0x0F = snMrIpraw6 ∨ mode &&& 0x0F = snMrMacraw →
      mode &&& 0x07 = snMrUdp ∨ mode &&& 0x07 = snMrMacraw ∨ mode &&& 0x07 = snMrIpraw := by
    decide
  exact hall mode h

lemma came_recvfromPacket (hsn : sn < sockNum) (hlen : 0 < len) (hs : g.sock sn = s)
    (hmode : Datagram s.mode) {packLen : ℕ}
    (hpack : s.remainedSize = 0 → 0 < packLen ∧ packLen < 65536) (h : Reads sn t [] [] t')
    (nonblocking addrPort : Bool) :
    WpCame sn t s len (recvfromPacket b sn len packLen s.mode nonblocking addrPort) g t' := by
  unfold recvfromPacket
  refine (wpv_ite _ _ _).2 ⟨fun _ => ?_, fun _ => ?_⟩
  · exact fun hret => absurd (show (0 : ℤ) ≤ sockerrArg from hret) (by decide)
  · refine (wpv_ite _ _ _).2 ⟨fun hudp => came_recvfromUdp hsn hlen hs hudp h _, fun hudp => ?_⟩
    refine (wpv_ite _ _ _).2 ⟨fun hraw => came_recvfromMacraw hsn hlen hs hraw h _, fun hraw => ?_⟩
    have hip := ((datagram_branch hmode).resolve_left hudp).resolve_left hraw
    exact came_recvfromIpraw hsn hlen hs hip hpack h _

lemma came_recvfromLocked (hsn : sn < sockNum) (hlen : 0 < len) (hs : g.sock sn = s)
    (h : Reads sn t [] [] t') (addrPort : Bool) :
    WpCame sn t s len (recvfromLocked b sn len addrPort) g t' := by
  have error {r : ℤ} (hr : r < 0) {g : Globals} {t' : IoTrace} :
      WpCame sn t s len (pure { ret := r }) g t' :=
    fun hret => absurd (show (0 : ℤ) ≤ r from hret) (Int.not_le.2 hr)
  unfold recvfromLocked
  refine (wpv_bind _ _).2 (wpv_get.2 ?_)
  rintro m rfl
  rw [hs]
  refine (wpv_ite _ _ _).2 ⟨fun _ => error (by decide), fun _ => ?_⟩
  refine (wpv_ite _ _ _).2 ⟨fun _ => error (by decide), fun _ => ?_⟩
  refine (wpv_ite _ _ _).2 ⟨fun _ => error (by decide), fun hp => ?_⟩
  have hmode : Datagram s.mode := by
    simp only [Datagram]
    tauto
  refine (wpv_ite _ _ _).2 ⟨fun fresh => ?_, fun hmore => ?_⟩
  · refine (wpv_bind _ _).2 ((timed_deadlineAbs _).wpg ticks_reads h fun d t' h => ?_)
    refine (wpv_bind _ _).2 (wpg_recvfromWait _ d h (fun e t' he => error he) (fun t' ht' => ?_)
      fun n t' hpos hlt ht' => ?_)
    · subst hs
      exact fun _ => ⟨_, _, ht', .nothing fresh List.not_mem_nil rfl rfl⟩
    · exact came_recvfromPacket hsn hlen hs hmode (fun _ => ⟨hpos, hlt⟩) ht' _ _
  · exact came_recvfromPacket hsn hlen hs hmode (fun h0 => absurd h0 hmore) h _ _

/-- What every run of recvfrom without an error comes to. -/
lemma recvfrom_came {len : ℕ} (hlen : 0 < len) {buf addrPort : Bool} {m m' : Driver}
    {out : Received} (hret : 0 ≤ out.ret)
    (run : Eval anyChip (recvfrom b sn buf len addrPort) m t (some out) m' t') :
    ∃ c r, Reads sn t c r t' ∧ Came (m.sock sn) len c r out (m'.sock sn) := by
  have hspec : WpCame sn t (m.sock sn) len (recvfrom b sn buf len addrPort) m.toGlobals t := by
    have error {r : ℤ} (hr : r < 0) : WpCame sn t (m.sock sn) len (pure { ret := r } : Drv Received)
        m.toGlobals t := fun hret => absurd (show (0 : ℤ) ≤ r from hret) (Int.not_le.2 hr)
    unfold recvfrom
    refine (wpv_ite _ _ _).2 ⟨fun h0 => absurd h0 (by omega), fun _ => ?_⟩
    refine (wpv_ite _ _ _).2 ⟨fun _ => error (by decide), fun _ => ?_⟩
    refine (wpv_ite _ _ _).2 ⟨fun _ => error (by decide), fun hsn => (wpg_locked _ _).2 ?_⟩
    intro x t₁ hx
    have hlocked : Reads sn t [] [] t₁ := Reads.refl.idle (e := .sockLock sn) trivial hx
    refine wpv_mono (came_recvfromLocked (by omega) hlen rfl hlocked addrPort) ?_ fun _ _ => id
    intro out g' t₂ hcame y t₃ hy hret
    obtain ⟨c, r, hreads, hcame⟩ := hcame hret
    exact ⟨c, r, hreads.idle (e := .sockUnlock sn) trivial hy, hcame⟩
  exact wp_returns (wp_of_wpg hspec) run hret

end came

end IoLibrary.Packets
