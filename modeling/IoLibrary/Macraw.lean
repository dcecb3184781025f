import IoLibrary.Effects.Same
import IoLibrary.Rejections
import IoLibrary.Socket.Packets

/-! sendto and recvfrom on MACRAW sockets, which have no peer address: what they do with `addr`
and `port`, null pointers included. -/
namespace IoLibrary.Macraw
open Effects Packets Rejections

/-- setSn_DIPR; a transfer from a null pointer is refused before it gets to the bus. -/
def setSnDIPR (b : Build) (sn : ℕ) : Option (Vector Byte 4) → Drv Unit
  | some addr => IoLibrary.setSnDIPR b sn addr
  | none => return ()

/-- The destination checks of sendto with `addr` a pointer. -/
def sendtoAddress (b : Build) (sn : ℕ) (mode : Byte) (addr : Option (Vector Byte 4)) (port addrlen : ℕ) :
    Drv (Except ℤ Unit) := do
  let m := mode &&& 0x0F
  if m ≠ snMrUdp ∧ m ≠ snMrMacraw ∧ m ≠ snMrIpraw ∧ m ≠ snMrIpraw6 then
    return .error sockerrSockmode
  if mode ≠ snMrMacraw then
    if addrlen = 16 then return .error sockerrSockmode
    else if addrlen = 4 then
      if mode = snMrUdp6 ∨ mode = snMrIpraw6 then return .error sockerrSockmode
      setSnDIPR b sn addr
      portCheck m
    else return .error sockerrIpinvalid
  else portCheck m
where
  portCheck (m : Byte) : Drv (Except ℤ Unit) := do
    if mode &&& 0x03 = 0x02 then
      if port ≠ 0 then
        setSnDPORT b sn port
        statusCheck m
      else return .error sockerrPortzero
    else statusCheck m
  statusCheck (m : Byte) : Drv (Except ℤ Unit) := do
    if m = snMrMacraw then return .ok ()
    match addr with
    | none => .cut -- addr[0] of a null pointer
    | some addr =>
      let zero := addr.all (· = 0)
      if zero ∧ mode &&& snMrMacraw ≠ snMrMacraw then return .error sockerrIpinvalid
      if port = 0 ∧ mode &&& snMrMacraw ≠ snMrMacraw then return .error sockerrPortzero
      let sr ← getSnSR b sn
      if sr ≠ sockMacraw ∧ sr ≠ sockUdp ∧ sr ≠ sockIpraw then return .error sockerrSockstatus
      IoLibrary.setSnDIPR b sn addr
      setSnDPORT b sn port
      return .ok ()

def sendtoIdle (b : Build) (sn : ℕ) (buf : List Byte) (len : ℕ) (addr : Option (Vector Byte 4))
    (port addrlen : ℕ) : Drv ℤ := do
  let m ← Prog.get
  let mode := (m.sock sn).mode
  match ← sendtoAddress b sn mode addr port addrlen with
  | .error e => return e
  | .ok _ =>
    let len := min len (m.txmaxCache sn)
    match ← sendtoWaitFree b sn len (mode &&& 0x0F = snMrMacraw) (m.sock sn).ioMode
      m.operationTimeoutUs with
    | .error e => return e
    | .ok _ => sendtoCommit b sn (buf.take len) (m.sock sn).ioMode

def sendtoLocked (b : Build) (sn : ℕ) (buf : List Byte) (len : ℕ) (addr : Option (Vector Byte 4))
    (port addrlen : ℕ) : Drv ℤ := do
  let m ← Prog.get
  if (m.sock sn).txState = .localFault then return sockerrTimeout
  if (m.sock sn).health = .faulted then return sockerrIo
  if ¬ m.deadlineConfigValid then return sockerrTimeout
  if (m.sock sn).txState = .dgramPending then sendtoPending b sn
  else sendtoIdle b sn buf len addr port addrlen

/-- sendto_IO_6 with `addr` a pointer. -/
def sendto (b : Build) (sn len : ℕ) (buf : Option (Vector Byte len)) (addr : Option (Vector Byte 4))
    (port addrlen : ℕ) : Drv ℤ := do
  if len = 0 then return 0
  let some buf := buf | return sockerrArg
  if sockNum ≤ sn then return sockerrSocknum
  locked sn (sendtoLocked b sn buf.toList len addr port addrlen)

/-- On an address it is the sendto of the other modes. -/
theorem sendto_some (b : Build) (sn len : ℕ) (buf : Option (Vector Byte len)) (addr : Vector Byte 4)
    (port addrlen : ℕ) : sendto b sn len buf (some addr) port addrlen =
      IoLibrary.sendto b sn len buf addr port addrlen := rfl

/-- A register write that covers a byte of Sn_DIPR or Sn_DPORT. -/
def Destination (sn : ℕ) : Io → Prop
  | .write8 a _ => a.block = .socket sn ∧ 0x000C ≤ a.offset ∧ a.offset < 0x0012
  | .writeBuf a data => a.block = .socket sn ∧ a.offset < 0x0012 ∧ 0x000C < a.offset + data.length
  | _ => False

section silent
variable {b : Build} {sn : ℕ}

/-- A program that writes neither. -/
abbrev Silent (sn : ℕ) {α : Type} (p : Drv α) : Prop := Within (fun _ => True) (fun e => ¬ Destination sn e) p

lemma silent_get : Silent sn (Prog.get : Drv Driver) := within_get trivial

lemma silent_modifySock (k : ℕ) (f : Sock → Sock) : Silent sn (modifySock k f) := (within_modify _).2 trivial

lemma silent_read {a : Addr} : Silent sn (wizchipRead b a) := within_wizchipRead (fun _ _ => trivial) b id

lemma silent_write {a : Addr} {v : Byte} (ha : a.offset < 0x000C ∨ 0x0012 ≤ a.offset) :
    Silent sn (wizchipWrite b a v) := by
  refine within_wizchipWrite (fun _ _ => trivial) b fun h => ?_
  obtain ⟨-, hlo, hhi⟩ := h
  omega

lemma silent_writeBuf {a : Addr} {data : List Byte} (ha : a.block ≠ .socket sn ∨ 0x0012 ≤ a.offset) :
    Silent sn (wizchipWriteBuf b a data) := by
  refine within_wizchipWriteBuf (fun _ _ => trivial) b fun h => ?_
  obtain ⟨hblock, hlo, -⟩ := h
  exact ha.elim (fun h => h hblock) fun h => absurd hlo (Nat.not_lt.2 h)

lemma silent_getSnIR : Silent sn (getSnIR b sn) := within_bind silent_read fun _ => within_pure _

lemma silent_setSnIR (v : Byte) : Silent sn (setSnIR b sn v) :=
  silent_write (.inl (show 0x0002 < 0x000C by decide))

lemma silent_setSnCR (v : Byte) : Silent sn (setSnCR b sn v) :=
  silent_write (.inl (show 0x0001 < 0x000C by decide))

lemma silent_pollLoop {α : Type} {look : Drv (Option α)} {expired : Drv α} (hlook : Silent sn look)
    (hexpired : Silent sn expired) (d : ℕ) (poll : Poll) : Silent sn (pollLoop b d poll look expired) :=
  within_pollLoop (fun _ _ => trivial) b id id hlook hexpired d poll

lemma silent_wizSendData (data : List Byte) : Silent sn (wizSendData b sn data) := by
  refine within_ite (within_pure _) ?_
  refine within_bind (within_wizchipRead16Value (fun _ _ => trivial) b id) fun p => ?_
  refine within_bind (silent_writeBuf (.inl (by simp))) fun _ => ?_
  exact silent_writeBuf (.inr (show 0x0012 ≤ 0x0024 by decide))

lemma silent_faultedTimeout : Silent sn (faultedTimeout sn) :=
  within_bind (silent_modifySock _ _) fun _ => within_pure _

lemma silent_sendtoPending : Silent sn (sendtoPending b sn) := by
  refine within_bind silent_getSnIR fun tmp => within_ite ?_ (within_ite ?_ (within_pure _))
  · refine within_bind (silent_setSnIR _) fun _ => within_bind silent_get fun m => ?_
    exact within_bind (silent_modifySock _ _) fun _ => within_pure _
  · exact within_bind (silent_setSnIR _) fun _ =>
      within_bind (silent_modifySock _ _) fun _ => within_pure _

lemma silent_waitCrAccepted (d : ℕ) : Silent sn (waitCrAccepted b sn d) := by
  refine within_bind (within_waitPollInit (fun _ _ => trivial) id) fun poll => ?_
  refine silent_pollLoop ?_ silent_faultedTimeout d poll
  exact within_bind silent_read fun v => within_ite (within_pure _) (within_pure _)

lemma silent_sendtoWaitSent (len d : ℕ) : Silent sn (sendtoWaitSent b sn len d) := by
  refine within_bind (within_waitPollInit (fun _ _ => trivial) id) fun poll => ?_
  refine silent_pollLoop ?_ silent_faultedTimeout d poll
  refine within_bind silent_getSnIR fun tmp => within_ite ?_ (within_ite ?_ (within_pure _))
  · exact within_bind (silent_setSnIR _) fun _ => within_pure _
  · exact within_bind (silent_setSnIR _) fun _ => within_pure _

lemma silent_sendtoCommit (data : List Byte) (nonblocking : Bool) : Silent sn (sendtoCommit b sn data nonblocking) := by
  refine within_bind (silent_setSnIR _) fun _ => within_bind (silent_wizSendData data) fun _ => ?_
  refine within_bind (silent_setSnCR _) fun _ => within_bind silent_get fun m => ?_
  refine within_bind (within_sockDeadlineBegin (fun _ _ => trivial) id _) fun d => ?_
  cases d with
  | none => exact within_bind (silent_modifySock _ _) fun _ => within_pure _
  | some d =>
    refine within_bind (silent_waitCrAccepted d) fun r => within_ite ?_ ?_
    · exact within_bind (silent_modifySock _ _) fun _ => within_pure _
    · refine within_bind (silent_modifySock _ _) fun _ => within_ite ?_ ?_
      · exact within_bind (silent_modifySock _ _) fun _ => within_pure _
      · exact within_bind (within_wizchipDeadlineAbs (fun _ _ => trivial) id _) fun d => silent_sendtoWaitSent _ d

end silent

/-- sendto does the same as without an address and a port, and writes no destination register. -/
structure SendIgnores (b : Build) (sn : ℕ) (m : Driver) {len : ℕ} (buf : Option (Vector Byte len))
    (addr : Option (Vector Byte 4)) (port addrlen : ℕ) : Prop where
  same : SameRuns anyChip m (sendto b sn len buf addr port addrlen) (sendto b sn len buf none 0 addrlen)
  silent : ∀ t r m' added, Eval anyChip (sendto b sn len buf addr port addrlen) m t r m' (t ++ added) →
    ∀ v ∈ added, ¬ Destination sn v.call

/-- recvfrom does the same as with both pointers, writes through neither, and returns what it has
read last of the RX memory. -/
structure RecvIgnores (b : Build) (sn : ℕ) (m : Driver) (buf : Bool) (len : ℕ) (addrPort : Bool) : Prop where
  same : SameRuns anyChip m (recvfrom b sn buf len addrPort) (recvfrom b sn buf len true)
  untouched : ∀ t out m' t', Eval anyChip (recvfrom b sn buf len addrPort) m t (some out) m' t' →
    out.addr = none ∧ out.port = none
  bytes : ∀ t out m' added, Eval anyChip (recvfrom b sn buf len addrPort) m t (some out) m' (t ++ added) →
    0 < out.ret → out.bytes.length = out.ret ∧ (payloadReads sn added).getLast? = some out.bytes

inductive Call
  | sendto (len : ℕ) (buf : Option (Vector Byte len)) (addr : Option (Vector Byte 4)) (port addrlen : ℕ)
  | recvfrom (buf : Bool) (len : ℕ) (addrPort : Bool)

def Call.Ignores (b : Build) (sn : ℕ) (m : Driver) : Call → Prop
  | .sendto _ buf addr port addrlen => SendIgnores b sn m buf addr port addrlen
  | .recvfrom buf len addrPort => RecvIgnores b sn m buf len addrPort

/-- The call is not stopped by its length, its buffer, the socket number, the health of the socket
or the deadline configuration. -/
def Enters (sn : ℕ) (m : Driver) (len : ℕ) (buf : Bool) : Prop :=
  len ≠ 0 ∧ buf = true ∧ sn < sockNum ∧ (m.sock sn).health ≠ .faulted ∧ m.deadlineConfigValid = true

/-- A datagram to an address from a socket with filter flags, and a receive without both pointers. -/
def Call.Hampered (sn : ℕ) (m : Driver) : Call → Prop
  | .sendto len buf addr _ addrlen => Enters sn m len buf.isSome ∧ (m.sock sn).txState = .idle ∧
      (m.sock sn).mode ≠ snMrMacraw ∧ addr ≠ none ∧ addrlen = 4
  | .recvfrom buf len addrPort => Enters sn m len buf ∧ addrPort = false

section modes
variable {b : Build} {sn : ℕ} {mode : Byte}

lemma macraw_mode : ∀ mode : Byte, mode &&& 0x0F = snMrMacraw →
    mode &&& 0x03 ≠ 0x02 ∧ mode ≠ snMrUdp6 ∧ mode ≠ snMrIpraw6 ∧ mode &&& 0x07 = snMrMacraw := by decide

/-- The destination checks of a MACRAW socket. -/
lemma sendtoAddress_macraw (hmode : mode &&& 0x0F = snMrMacraw) (addr : Option (Vector Byte 4)) (port addrlen : ℕ) :
    sendtoAddress b sn mode addr port addrlen =
      if mode ≠ snMrMacraw then
        if addrlen = 16 then return .error sockerrSockmode
        else if addrlen = 4 then do
          setSnDIPR b sn addr
          return .ok ()
        else return .error sockerrIpinvalid
      else return .ok () := by
  obtain ⟨hport, hudp6, hipraw6, -⟩ := macraw_mode mode hmode
  have hnibble : ¬ (snMrMacraw ≠ snMrUdp ∧ snMrMacraw ≠ snMrMacraw ∧ snMrMacraw ≠ snMrIpraw ∧ snMrMacraw ≠ snMrIpraw6) :=
    fun h => h.2.1 rfl
  have hopen : ¬ (mode = snMrUdp6 ∨ mode = snMrIpraw6) := fun h => h.elim hudp6 hipraw6
  simp only [sendtoAddress, sendtoAddress.portCheck, sendtoAddress.statusCheck, hmode, if_neg hnibble, if_neg hport,
    if_neg hopen, if_pos]

lemma sendtoAddress_same (hmode : mode &&& 0x0F = snMrMacraw) {addr : Option (Vector Byte 4)} {port addrlen : ℕ}
    (h : mode ≠ snMrMacraw → addr ≠ none → addrlen ≠ 4) :
    sendtoAddress b sn mode addr port addrlen = sendtoAddress b sn mode none 0 addrlen := by
  rw [sendtoAddress_macraw hmode, sendtoAddress_macraw hmode]
  by_cases hflags : mode ≠ snMrMacraw
  · by_cases h4 : addrlen = 4
    · obtain rfl : addr = none := by_contra fun hne => h hflags hne h4
      rfl
    · rw [if_pos hflags, if_pos hflags, if_neg h4, if_neg h4]
  · rw [if_neg hflags, if_neg hflags]

end modes

section sends
variable {b : Build} {sn len : ℕ} {m : Driver} {buf : Option (Vector Byte len)} {addr : Option (Vector Byte 4)}
  {port addrlen : ℕ}

lemma same_sendto (hmode : (m.sock sn).mode &&& 0x0F = snMrMacraw)
    (h : ¬ (Call.sendto len buf addr port addrlen).Hampered sn m) :
    SameRuns anyChip m (sendto b sn len buf addr port addrlen) (sendto b sn len buf none 0 addrlen) := by
  refine SameRuns.ite (fun _ => .refl _) fun hlen => ?_
  cases buf with
  | none => exact .refl _
  | some buf =>
    refine SameRuns.ite (fun _ => .refl _) fun hsn => SameRuns.after_call fun _ => SameRuns.bind ?_ _
    refine SameRuns.after_get (SameRuns.ite (fun _ => .refl _) fun hlocal => ?_)
    refine SameRuns.ite (fun _ => .refl _) fun hhealth => SameRuns.ite (fun _ => .refl _) fun hvalid => ?_
    refine SameRuns.ite (fun _ => .refl _) fun hpending => SameRuns.after_get (.of_eq ?_)
    have hidle : (m.sock sn).txState = .idle := by
      cases hstate : (m.sock sn).txState with
      | idle => rfl
      | dgramPending => exact absurd hstate hpending
      | localFault => exact absurd hstate hlocal
    have hsame : sendtoAddress b sn (m.sock sn).mode addr port addrlen =
        sendtoAddress b sn (m.sock sn).mode none 0 addrlen := by
      refine sendtoAddress_same hmode fun hflags haddr h4 => ?_
      exact h ⟨⟨hlen, rfl, Nat.not_le.1 hsn, hhealth, by simpa using hvalid⟩, hidle, hflags, haddr, h4⟩
    simp only [hsame]

/-- The wait for room of a MACRAW socket is one look at its status. -/
lemma silent_waitFree (len : ℕ) (nonblocking : Bool) (timeout : ℕ) :
    Silent sn (sendtoWaitFree b sn len true nonblocking timeout) := by
  rw [sendtoWaitFree, if_pos rfl]
  exact within_bind silent_read fun _ => within_pure _

lemma silent_sendtoAddress {mode : Byte} (hmode : mode &&& 0x0F = snMrMacraw) :
    Silent sn (sendtoAddress b sn mode none 0 addrlen) := by
  rw [sendtoAddress_macraw hmode]
  refine within_ite ?_ (within_pure _)
  exact within_ite (within_pure _) (within_ite (within_bind (within_pure _) fun _ => within_pure _) (within_pure _))

/-- Without an address no destination register is written. -/
lemma silent_sendto (hmode : (m.sock sn).mode &&& 0x0F = snMrMacraw) (t : IoTrace) :
    wpg (traceEnv fun _ _ _ => True) (sendto b sn len buf none 0 addrlen)
      (fun _ _ t' => Extends (fun v => ¬ Destination sn v.call) t t')
      (fun _ t' => Extends (fun v => ¬ Destination sn v.call) t t') m.toGlobals t := by
  have idle (buf : List Byte) (t : IoTrace) :
      wpg (traceEnv fun _ _ _ => True) (sendtoIdle b sn buf len none 0 addrlen)
        (fun _ _ t' => Extends (fun v => ¬ Destination sn v.call) t t')
        (fun _ t' => Extends (fun v => ¬ Destination sn v.call) t t') m.toGlobals t := by
    refine (wpv_bind _ _).2 (wpv_get.2 fun m₁ hm₁ => ?_)
    have hmode₁ : (m₁.sock sn).mode &&& 0x0F = snMrMacraw := by
      rw [hm₁]
      exact hmode
    refine wpv_extends (within_bind (silent_sendtoAddress hmode₁) fun r => ?_) t
    cases r with
    | error e => exact within_pure _
    | ok _ =>
      simp only [hmode₁, decide_true]
      refine within_bind (silent_waitFree _ _ _) fun r => ?_
      cases r with
      | error e => exact within_pure _
      | ok _ => exact silent_sendtoCommit _ _
  unfold sendto
  refine (wpv_ite _ _ _).2 ⟨fun _ => .refl, fun _ => ?_⟩
  cases buf with
  | none => exact .refl
  | some buf =>
    refine (wpv_ite _ _ _).2 ⟨fun _ => .refl, fun _ => (wpg_locked _ _).2 ?_⟩
    rintro x _ ⟨-, rfl⟩
    have hlock : Extends (fun v => ¬ Destination sn v.call) t (t ++ [⟨m.toGlobals, .sockLock sn, x⟩]) :=
      Extends.refl.snoc id
    have hlocked : wpg (traceEnv fun _ _ _ => True) (sendtoLocked b sn buf.toList len none 0 addrlen)
        (fun _ _ t' => Extends (fun v => ¬ Destination sn v.call) (t ++ [⟨m.toGlobals, .sockLock sn, x⟩]) t')
        (fun _ t' => Extends (fun v => ¬ Destination sn v.call) (t ++ [⟨m.toGlobals, .sockLock sn, x⟩]) t')
        m.toGlobals (t ++ [⟨m.toGlobals, .sockLock sn, x⟩]) := by
      refine (wpv_bind _ _).2 (wpv_get.2 fun m₁ hm₁ => ?_)
      refine (wpv_ite _ _ _).2 ⟨fun _ => .refl, fun _ => (wpv_ite _ _ _).2 ⟨fun _ => .refl, fun _ => ?_⟩⟩
      refine (wpv_ite _ _ _).2 ⟨fun _ => .refl, fun _ => (wpv_ite _ _ _).2 ⟨fun _ => ?_, fun _ => idle _ _⟩⟩
      exact wpv_extends silent_sendtoPending _
    refine wpv_mono hlocked ?_ fun _ _ h => hlock.trans h
    rintro r g' t' h y _ ⟨-, rfl⟩
    exact (hlock.trans h).snoc id

end sends

section receives
variable {b : Build} {sn len : ℕ} {g : Globals} {t t' : IoTrace} {c : List Byte} {r : List (List Byte)}

lemma same_recvfrom {m : Driver} {buf addrPort : Bool} (h : ¬ (Call.recvfrom buf len addrPort).Hampered sn m) :
    SameRuns anyChip m (recvfrom b sn buf len addrPort) (recvfrom b sn buf len true) := by
  cases addrPort with
  | true => exact .refl _
  | false =>
    refine SameRuns.ite (fun _ => .refl _) fun hlen => SameRuns.ite (fun _ => .refl _) fun hbuf => ?_
    refine SameRuns.ite (fun _ => .refl _) fun hsn => SameRuns.after_call fun _ => SameRuns.bind ?_ _
    refine SameRuns.after_get (SameRuns.ite (fun _ => .refl _) fun hhealth => ?_)
    refine SameRuns.ite (fun _ => .refl _) fun hvalid => ?_
    exact absurd ⟨⟨hlen, by simpa using hbuf, Nat.not_le.1 hsn, hhealth, by simpa using hvalid⟩, rfl⟩ h

/-- Nothing has gone through the pointers, and the bytes are the last that were read of the RX memory. -/
def Framed (sn : ℕ) (t : IoTrace) (out : Received) (t' : IoTrace) : Prop :=
  (out.addr = none ∧ out.port = none) ∧ (0 < out.ret →
    out.bytes.length = out.ret ∧ ∃ c r, Reads sn t c r t' ∧ r.getLast? = some out.bytes)

abbrev WpFramed (sn : ℕ) (t : IoTrace) (p : Drv Received) (g : Globals) (t' : IoTrace) : Prop :=
  wpg (traceEnv fun _ _ _ => True) p (fun out _ t' => Framed sn t out t') (fun _ _ => True) g t'

lemma framed_none {ret : ℤ} (hret : ret ≤ 0) : Framed sn t { ret := ret } t' :=
  ⟨⟨rfl, rfl⟩, fun h => absurd h (Int.not_lt.2 hret)⟩

lemma framed_finish (h : Reads sn t c r t') {n : ℕ} {out : Received} (hout : out.addr = none ∧ out.port = none)
    (hbytes : 0 < n → out.bytes.length = n ∧ r.getLast? = some out.bytes) (nonblocking : Bool) :
    WpFramed sn t (recvfromFinish b sn n nonblocking out) g t' := by
  unfold WpFramed recvfromFinish
  simp only [wpv_bind, wpg_setSnCR]
  intro x t₁ hx
  have hcommand : Reads sn t c r t₁ := h.idle (e := .write8 _ _) trivial hx
  refine wpv_get.2 fun m _ => ?_
  refine wpg_waitTaken _ nonblocking hcommand (fun cs t' _ ht' => ?_) (fun _ v t' _ _ => ?_) fun g' t' => ?_
  · rw [if_neg (not_not.2 rfl)]
    simp only [wpv_bind, wpg_modifySock, wpv_pure]
    refine ⟨hout, fun hret => ?_⟩
    obtain ⟨hlen, hlast⟩ := hbytes (Int.natCast_pos.1 hret)
    exact ⟨congrArg Int.ofNat hlen, _, _, ht', hlast⟩
  · rw [if_pos (by decide)]
    exact ⟨hout, fun hret => absurd (show 0 < sockBusy from hret) (by decide)⟩
  · rw [if_pos (by decide)]
    exact ⟨hout, fun hret => absurd (show 0 < sockerrTimeout from hret) (by decide)⟩

lemma framed_chunk (hsn : sn < sockNum) (h : Reads sn t c r t') (nonblocking : Bool) :
    WpFramed sn t (recvfromChunk b sn len nonblocking { ret := 0 }) g t' := by
  unfold WpFramed recvfromChunk
  simp only [wpv_bind, wpv_get]
  intro m _
  by_cases hmin : min len (m.sock sn).remainedSize = 0
  · have hempty : wizRecvData b sn 0 = pure [] := if_pos (.inr rfl)
    rw [hmin, hempty, wpv_pure]
    exact framed_finish h ⟨rfl, rfl⟩ (fun hpos => absurd hpos (Nat.lt_irrefl 0)) nonblocking
  · refine wpg_wizRecvData hsn hmin h fun data t' hdata h => ?_
    exact framed_finish h ⟨rfl, rfl⟩ (fun _ => ⟨hdata, List.getLast?_concat⟩) nonblocking

lemma framed_macraw (hsn : sn < sockNum) (h : Reads sn t [] [] t') (nonblocking : Bool) :
    WpFramed sn t (recvfromMacraw b sn len nonblocking) g t' := by
  have fatal {g : Globals} {t' : IoTrace} : WpFramed sn t (do
      let _ ← closeInternal b sn 0
      return ({ ret := sockfatalPacklen } : Received)) g t' :=
    (wpv_bind _ _).2 (wpv_any (fun _ _ _ => framed_none (by decide)) fun _ _ => trivial)
  unfold recvfromMacraw
  refine (wpv_bind _ _).2 (wpv_get.2 fun m _ => ?_)
  refine (wpv_ite _ _ _).2 ⟨fun _ => (wpv_bind _ _).2 ?_, fun _ => framed_chunk hsn h nonblocking⟩
  refine wpg_recvHeader hsn (by decide) nonblocking h (fun cs head t' ht' => ?_) (fun v head t' _ _ => ?_)
    fun head g' t' => ?_
  · refine (wpv_ite _ _ _).2 ⟨fun hne => absurd rfl hne, fun _ => ?_⟩
    refine (wpv_bind _ _).2 ((wpg_modifySock _ _).2 ((wpv_ite _ _ _).2 ⟨fun _ => fatal, fun _ => ?_⟩))
    refine (wpv_bind _ _).2 ((wpg_modifySock _ _).2 ((wpv_ite _ _ _).2 ⟨fun _ => fatal, fun _ => ?_⟩))
    exact (wpv_bind _ _).2 ((wpg_modifySock _ _).2 (framed_chunk hsn ht' nonblocking))
  · exact (wpv_ite _ _ _).2 ⟨fun _ => framed_none (by decide), fun h => absurd (by decide) h⟩
  · exact (wpv_ite _ _ _).2 ⟨fun _ => framed_none (by decide), fun h => absurd (by decide) h⟩

lemma framed_packet {mode : Byte} (hsn : sn < sockNum) (hmode : mode &&& 0x0F = snMrMacraw) (h : Reads sn t [] [] t')
    (packLen : ℕ) (nonblocking addrPort : Bool) :
    WpFramed sn t (recvfromPacket b sn len packLen mode nonblocking addrPort) g t' := by
  obtain ⟨-, -, -, hkind⟩ := macraw_mode mode hmode
  refine (wpv_ite _ _ _).2 ⟨fun _ => framed_none (by decide), fun _ => ?_⟩
  rw [hkind, if_neg (by decide), if_pos rfl]
  exact framed_macraw hsn h nonblocking

lemma framed_locked (hsn : sn < sockNum) (hmode : (g.sock sn).mode &&& 0x0F = snMrMacraw) (h : Reads sn t [] [] t')
    (addrPort : Bool) : WpFramed sn t (recvfromLocked b sn len addrPort) g t' := by
  refine (wpv_bind _ _).2 (wpv_get.2 ?_)
  rintro m rfl
  refine (wpv_ite _ _ _).2 ⟨fun _ => framed_none (by decide), fun _ => ?_⟩
  refine (wpv_ite _ _ _).2 ⟨fun _ => framed_none (by decide), fun _ => ?_⟩
  refine (wpv_ite _ _ _).2 ⟨fun _ => framed_none (by decide), fun _ => ?_⟩
  refine (wpv_ite _ _ _).2 ⟨fun _ => (wpv_bind _ _).2 ?_, fun _ => framed_packet hsn hmode h _ _ _⟩
  refine (timed_deadlineAbs _).wpg ticks_reads h fun d t' h => (wpv_bind _ _).2 ?_
  refine wpg_recvfromWait _ d h (fun e t' he => framed_none (Int.le_of_lt he)) (fun t' _ => framed_none (by decide)) ?_
  exact fun n t' _ _ ht' => framed_packet hsn hmode ht' _ _ _

lemma framed_recvfrom (hmode : (g.sock sn).mode &&& 0x0F = snMrMacraw) (buf addrPort : Bool) (t : IoTrace) :
    WpFramed sn t (recvfrom b sn buf len addrPort) g t := by
  refine (wpv_ite _ _ _).2 ⟨fun _ => framed_none (by decide), fun _ => ?_⟩
  refine (wpv_ite _ _ _).2 ⟨fun _ => framed_none (by decide), fun _ => ?_⟩
  refine (wpv_ite _ _ _).2 ⟨fun _ => framed_none (by decide), fun hsn => (wpg_locked _ _).2 ?_⟩
  intro x t₁ hx
  have hlocked : Reads sn t [] [] t₁ := Reads.refl.idle (e := .sockLock sn) trivial hx
  refine wpv_mono (framed_locked (Nat.not_le.1 hsn) hmode hlocked addrPort) ?_ fun _ _ => id
  rintro out g' t₂ ⟨hout, hbytes⟩ y t₃ hy
  refine ⟨hout, fun hret => ?_⟩
  obtain ⟨hlen, c, r, hreads, hlast⟩ := hbytes hret
  exact ⟨hlen, c, r, hreads.idle (e := .sockUnlock sn) trivial hy, hlast⟩

end receives

section hampered
variable {b : Build} {sn len : ℕ} {m : Driver} {addr : Vector Byte 4} {port : ℕ}

/-- The address of a datagram goes to Sn_DIPR. -/
lemma sendto_writes (hmode : (m.sock sn).mode &&& 0x0F = snMrMacraw) {buf : Option (Vector Byte len)}
    (henters : Enters sn m len buf.isSome) (hidle : (m.sock sn).txState = .idle)
    (hflags : (m.sock sn).mode ≠ snMrMacraw) (t : IoTrace) :
    wpg (traceEnv fun _ _ _ => True) (sendto b sn len buf (some addr) port 4)
      (fun _ _ t' => Adds (fun v => Destination sn v.call) t t')
      (fun _ t' => Adds (fun v => Destination sn v.call) t t') m.toGlobals t := by
  obtain ⟨hlen, hbuf, hsn, hhealth, hvalid⟩ := henters
  obtain ⟨buf, rfl⟩ := Option.isSome_iff_exists.1 hbuf
  unfold sendto
  rw [if_neg hlen]
  dsimp only
  rw [if_neg (Nat.not_le.2 hsn)]
  refine (wpg_locked _ _).2 ?_
  rintro x _ ⟨-, rfl⟩
  have hlocked : wpg (traceEnv fun _ _ _ => True) (sendtoLocked b sn buf.toList len (some addr) port 4)
      (fun _ _ t' => Adds (fun v => Destination sn v.call) t t')
      (fun _ t' => Adds (fun v => Destination sn v.call) t t') m.toGlobals (t ++ [⟨m.toGlobals, .sockLock sn, x⟩]) := by
    refine (wpv_bind _ _).2 (wpv_get.2 fun m₁ hm₁ => ?_)
    have hlocal : (m₁.sock sn).txState ≠ .localFault := by
      rw [hm₁, hidle]
      decide
    have hpending : (m₁.sock sn).txState ≠ .dgramPending := by
      rw [hm₁, hidle]
      decide
    have hhealth₁ : (m₁.sock sn).health ≠ .faulted := by rwa [hm₁]
    have hvalid₁ : ¬ ¬ m₁.deadlineConfigValid := by
      rw [hm₁, not_not]
      exact hvalid
    rw [if_neg hlocal, if_neg hhealth₁, if_neg hvalid₁, if_neg hpending]
    refine (wpv_bind _ _).2 (wpv_get.2 fun m₂ hm₂ => (wpv_bind _ _).2 ?_)
    have hmode₂ : (m₂.sock sn).mode &&& 0x0F = snMrMacraw := by rwa [hm₂]
    have hflags₂ : (m₂.sock sn).mode ≠ snMrMacraw := by rwa [hm₂]
    rw [sendtoAddress_macraw hmode₂, if_pos hflags₂, if_neg (by decide), if_pos rfl]
    refine (wpv_bind _ _).2 ((wpg_wizchipWriteBuf b _ _).2 ⟨fun hnil => absurd hnil (by simp), fun _ y _ hy => ?_⟩)
    obtain ⟨-, rfl⟩ := hy
    have hwritten : Destination sn (.writeBuf (Reg.snDIPR sn) addr.toList) := by
      refine ⟨rfl, ?_, ?_⟩
      · show 0x000C < 0x0012
        decide
      · rw [Vector.length_toList]
        show 0x000C < 0x000C + 4
        decide
    have hgrown : Extends (fun _ => True) t (t ++ [⟨m.toGlobals, .sockLock sn, x⟩]) := Extends.refl.snoc trivial
    exact (wpv_bind _ _).1 (wpv_adds (hgrown.adds hwritten))
  refine wpv_mono hlocked ?_ fun _ _ h => h
  rintro r g' t' h y _ ⟨-, rfl⟩
  exact h.snoc _

/-- Without both pointers a packet is refused, on a chip that shows one. -/
lemma recvfrom_refuses (hmode : (m.sock sn).mode &&& 0x0F = snMrMacraw) (henters : Enters sn m len true) (t : IoTrace) :
    wpg (Gate.steadyChip sn 1) (recvfrom b sn true len false) (fun out _ _ => out.ret = sockerrArg)
      (fun _ _ => False) m.toGlobals t := by
  obtain ⟨hlen, -, hsn, hhealth, hvalid⟩ := henters
  unfold recvfrom
  rw [if_neg hlen, if_neg (by decide), if_neg (Nat.not_le.2 hsn)]
  refine (wpg_locked _ _).2 fun x t₁ _ => ?_
  refine wpv_mono (Q := fun out _ _ => out.ret = sockerrArg) ?_ (fun _ _ _ h _ _ _ => h) fun _ _ h => h
  refine (wpv_bind _ _).2 (wpv_get.2 ?_)
  intro m₁ hm₁
  have hhealth₁ : (m₁.sock sn).health ≠ .faulted := by rwa [hm₁]
  have hvalid₁ : ¬ ¬ m₁.deadlineConfigValid := by
    rw [hm₁, not_not]
    exact hvalid
  have hkind : ¬ ((m₁.sock sn).mode &&& 0x0F ≠ snMrUdp ∧ (m₁.sock sn).mode &&& 0x0F ≠ snMrIpraw ∧
      (m₁.sock sn).mode &&& 0x0F ≠ snMrIpraw6 ∧ (m₁.sock sn).mode &&& 0x0F ≠ snMrMacraw) := by
    rw [hm₁]
    exact fun h => h.2.2.2 hmode
  rw [if_neg hhealth₁, if_neg hvalid₁, if_neg hkind]
  have refused (packLen : ℕ) (mode : Byte) (nonblocking : Bool) (t : IoTrace) :
      wpg (Gate.steadyChip sn 1) (recvfromPacket b sn len packLen mode nonblocking false)
        (fun out _ _ => out.ret = sockerrArg) (fun _ _ => False) m.toGlobals t := rfl
  refine (wpv_ite _ _ _).2 ⟨fun _ => (wpv_bind _ _).2 ?_, fun _ => refused _ _ _ _⟩
  refine (timed_deadlineAbs _).wpg Gate.ticks_any trivial fun d t₂ _ => (wpv_bind _ _).2 ?_
  exact Gate.wpg_recvfromWait_steady (by decide) d (fun _ t => refused _ _ _ t) fun h => absurd h Nat.one_ne_zero

/-- With them it is not. -/
lemma recvfrom_accepts (hmode : (m.sock sn).mode &&& 0x0F = snMrMacraw) (henters : Enters sn m len true) (t : IoTrace) :
    wpg (traceEnv fun _ _ _ => True) (recvfrom b sn true len true) (fun out _ _ => ReceivedAccepted out)
      (fun _ _ => True) m.toGlobals t := by
  obtain ⟨hlen, -, hsn, hhealth, hvalid⟩ := henters
  unfold recvfrom
  rw [if_neg hlen, if_neg (by decide), if_neg (Nat.not_le.2 hsn)]
  refine (wpg_locked _ _).2 fun x t₁ _ => ?_
  refine wpv_mono (Q := fun out _ _ => ReceivedAccepted out) ?_ (fun _ _ _ h _ _ _ => h) fun _ _ h => h
  refine (wpv_bind _ _).2 (wpv_get.2 ?_)
  intro m₁ hm₁
  have hkind : ¬ ((m₁.sock sn).mode &&& 0x0F ≠ snMrUdp ∧ (m₁.sock sn).mode &&& 0x0F ≠ snMrIpraw ∧
      (m₁.sock sn).mode &&& 0x0F ≠ snMrIpraw6 ∧ (m₁.sock sn).mode &&& 0x0F ≠ snMrMacraw) := by
    rw [hm₁]
    exact fun h => h.2.2.2 hmode
  refine wpv_of_gives (gives_ite (fun _ => ?_) fun _ => gives_ite (fun _ => ?_) fun _ => ?_)
  · exact show Accepts sockerrIo by decide
  · exact show Accepts sockerrTimeout by decide
  rw [if_neg hkind]
  refine gives_ite (fun _ => gives_then fun d => gives_bind (gives_recvfromWait _ d) fun r hr => ?_) fun _ => ?_
  · cases r with
    | error e => exact hr e rfl
    | ok packLen => exact gives_recvfromPacket _ _ _ _
  · exact gives_recvfromPacket _ _ _ _

lemma exists_steady {α : Type} (sn size : ℕ) (p : Drv α) (m : Driver) : ∃ r m' t',
    Eval (chipEnv fun _ => Gate.Steady sn size) p m [] r m' t' ∧ Eval anyChip p m [] r m' t' := by
  obtain ⟨r, m', t', run⟩ := exists_eval (fun m => Gate.steadyChip_total sn size m.toGlobals) p m []
  exact ⟨r, m', t', run, run.mono fun _ _ _ _ _ hx => ⟨trivial, hx.2⟩⟩

lemma not_sendIgnores (hmode : (m.sock sn).mode &&& 0x0F = snMrMacraw) {buf : Option (Vector Byte len)}
    (henters : Enters sn m len buf.isSome) (hidle : (m.sock sn).txState = .idle)
    (hflags : (m.sock sn).mode ≠ snMrMacraw) : ¬ SendIgnores b sn m buf (some addr) port 4 := by
  intro h
  obtain ⟨r, m', t', -, run⟩ := exists_steady sn 0 (sendto b sn len buf (some addr) port 4) m
  have hwritten : Adds (fun v => Destination sn v.call) [] t' := by
    have hresult := (wp_iff_eval _).1 (wp_of_wpg (sendto_writes hmode henters hidle hflags [])) r m' t' run
    cases r with
    | none => exact hresult
    | some ret => exact hresult
  obtain ⟨added, hadded, v, hv, hdest⟩ := hwritten
  rw [hadded] at run
  exact h.silent [] r m' added run v hv hdest

lemma not_recvIgnores (hmode : (m.sock sn).mode &&& 0x0F = snMrMacraw) (henters : Enters sn m len true) :
    ¬ RecvIgnores b sn m true len false := by
  intro h
  obtain ⟨r, m', t', steady, run⟩ := exists_steady sn 1 (recvfrom b sn true len false) m
  have hresult := (wp_iff_eval _).1 (wp_of_wpg (recvfrom_refuses hmode henters [])) r m' t' steady
  cases r with
  | none => exact hresult
  | some out =>
    have haccepts := wp_returns (wp_of_wpg (recvfrom_accepts hmode henters [])) ((h.same _ _ _ _).1 run)
    rw [ReceivedAccepted, hresult] at haccepts
    exact haccepts (by decide)

end hampered

/-- On a MACRAW socket addr and port do nothing except where filter flags send sendto through the
address checks and where recvfrom is called without both pointers. -/
theorem ignores_iff {b : Build} {sn : ℕ} {m : Driver} (hmode : (m.sock sn).mode &&& 0x0F = snMrMacraw) (call : Call) :
    call.Ignores b sn m ↔ ¬ call.Hampered sn m := by
  cases call with
  | sendto len buf addr port addrlen =>
    constructor
    · rintro h ⟨henters, hidle, hflags, haddr, rfl⟩
      obtain ⟨addr, rfl⟩ := Option.ne_none_iff_exists'.1 haddr
      exact not_sendIgnores hmode henters hidle hflags h
    · intro h
      refine ⟨same_sendto hmode h, fun t r m' added run => ?_⟩
      have hsame := (same_sendto hmode h t r m' (t ++ added)).1 run
      have hresult := (wp_iff_eval _).1 (wp_of_wpg (silent_sendto hmode t)) _ _ _ hsame
      have hextends : Extends (fun v => ¬ Destination sn v.call) t (t ++ added) := by
        cases r with
        | none => exact hresult
        | some ret => exact hresult
      obtain ⟨events, hevents, hsilent⟩ := hextends
      rwa [List.append_cancel_left hevents]
  | recvfrom buf len addrPort =>
    constructor
    · rintro h ⟨henters, rfl⟩
      obtain rfl : buf = true := henters.2.1
      exact not_recvIgnores hmode henters h
    · intro h
      have framed {t out m' t'} (run : Eval anyChip (recvfrom b sn buf len addrPort) m t (some out) m' t') :=
        wp_returns (wp_of_wpg (framed_recvfrom hmode buf addrPort t)) run
      refine ⟨same_recvfrom h, fun t out m' t' run => (framed run).1, fun t out m' added run hret => ?_⟩
      obtain ⟨hlen, c, r, ⟨events, hevents, -, hr⟩, hlast⟩ := (framed run).2 hret
      rw [List.append_cancel_left hevents, hr]
      exact ⟨hlen, hlast⟩

/-- A MACRAW socket that filters by MAC address. -/
def filtered : Driver :=
  { Driver.boot 1000 1000 with chipState := .ready }.setSock 0 fun s => { s with mode := snMrMacraw ||| snMrMfen }

theorem ignores_iff_filtered : (filtered.sock 0).mode &&& 0x0F = snMrMacraw ∧
    ((Call.recvfrom true 64 true).Ignores .oneTurn 0 filtered ↔ ¬ (Call.recvfrom true 64 true).Hampered 0 filtered) :=
  ⟨rfl, ignores_iff rfl _⟩

/-- A frame with an address has the address written to Sn_DIPR. -/
theorem filtered_hampered : ¬ ∀ b sn m, (m.sock sn).mode &&& 0x0F = snMrMacraw → ∀ call : Call, call.Ignores b sn m := by
  intro claim
  have henters : Enters 0 filtered 1 true := ⟨Nat.one_ne_zero, rfl, by decide, by decide, rfl⟩
  have hignores := claim .oneTurn 0 filtered rfl (.sendto 1 (some #v[0]) (some #v[10, 0, 0, 1]) 0 4)
  exact not_sendIgnores rfl henters rfl (by decide) hignores

end IoLibrary.Macraw
