import IoLibrary.Effects.Exec
import IoLibrary.Nonblocking

/-! The packets of a UDP socket as recvfrom hands them out, part by part. -/
namespace IoLibrary.Delivery
open Effects

/-- A UDP packet. -/
structure Packet where
  addr : Vector Byte 4
  port : ℕ
  payload : List Byte
  port_lt : port < 65536
  length_lt : payload.length < 65536
  deriving DecidableEq

def Packet.header (p : Packet) : List Byte := p.addr.toList ++ (bytes16 p.port ++ bytes16 p.payload.length)

/-- The packet as it stands in the RX memory. -/
def Packet.record (p : Packet) : List Byte := p.header ++ p.payload

/-- The packets received so far; what stands in the RX memory from Sn_RX_RD on; and whether a RECV is not yet
accepted. -/
structure Chip where
  arrived : List Packet
  unread : List Byte
  rd : ℕ
  taking : Bool

def Chip.receives (c : Chip) (ps : List Packet) : Chip :=
  { c with arrived := c.arrived ++ ps, unread := c.unread ++ ps.flatMap Packet.record }

/-- A write to Sn_RX_RD gives up the bytes that it passes. -/
def Chip.moves (c : Chip) (v : ℕ) : Chip := { c with unread := c.unread.drop ((v + 65536 - c.rd) % 65536), rd := v }

def Chip.access (sn : ℕ) (c : Chip) : (e : Io) → e.Res → Chip
  | .read8 a, x => if a = Reg.snCR sn ∧ x.1 = 0 then { c with taking := false } else c
  | .write8 a v, _ => if a = Reg.snCR sn ∧ v = snCrRecv then { c with taking := true } else c
  | .writeBuf a data, _ => if a = Reg.snRXRD sn then c.moves (word16 (byteAt data 0) (byteAt data 1)) else c
  | _, _ => c

/-- No transfer fails. Sn_RX_RSR is zero when nothing is unread, unless a RECV has changed Sn_RX_RD meanwhile. -/
def Chip.Answers (sn : ℕ) (c : Chip) : (e : Io) → e.Res → Prop
  | .readBuf a len, x => x.2 = false ∧ (a = Reg.snRXRD sn → len = 2 → x.1.toList = bytes16 c.rd) ∧
    (a = Reg.snRXRSR sn → len = 2 → c.taking = false → c.unread = [] → x.1.toList = bytes16 0) ∧
    (a = ⟨c.rd, .rxBuf sn⟩ → len ≤ c.unread.length → x.1.toList = c.unread.take len)
  | _, _ => True

/-- The chip under the driver, with what else is known of its answers. -/
def receiving (sn : ℕ) (known : Globals → (e : Io) → e.Res → Prop) : Env Globals Chip Io Io.Res := fun g c e x c' =>
  known g e x ∧ ∃ ps, (c.receives ps).Answers sn e x ∧ c' = (c.receives ps).access sn e x

/-- A RECV of a nonblocking call is accepted before the driver looks, and no TIMEOUT is seen while one is not. -/
def Prompt (sn : ℕ) (g : Globals) : (e : Io) → e.Res → Prop
  | .read8 a, x => (a = Reg.snCR sn → (g.sock sn).ioMode = true → x.1 = 0) ∧
    (a = Reg.snIR sn → x.1 &&& snIrTimeout = 0)
  | _, _ => True

/-- recvfrom into a buffer of `len` bytes, and CS_SET_IOMODE. -/
inductive Use
  | recvfrom (len : ℕ)
  | setIomode (arg : ArgMem)

def Use.run (b : Build) (sn : ℕ) : Use → Drv Received
  | .recvfrom len => IoLibrary.recvfrom b sn true len true
  | .setIomode arg => do
    let r ← ctlsocket b sn .setIomode (some arg)
    return { ret := r.1 }

/-- A part of a packet that a call hands out. -/
structure Chunk where
  bytes : List Byte
  addr : Option (List Byte)
  port : Option ℕ
  deriving DecidableEq

/-- SOCK_BUSY is 0 too, but then no address is stored. -/
def chunk (out : Received) : Option Chunk :=
  if out.ret < 0 ∨ out.ret = 0 ∧ out.addr = none then none
  else some ⟨out.bytes.take out.ret.toNat, out.addr, out.port⟩

abbrev Call := Step Use Driver Chip Received

def handed (s : Call) : Option Chunk :=
  match s.call with
  | .recvfrom _ => s.result.bind chunk
  | .setIomode _ => none

def chunks (steps : List Call) : List Chunk := steps.filterMap handed

/-- The packets `ps` have been handed out in the parts `cs`, up to `rest` of the last one: no part is of two packets,
and the first part of each reports where it came from. -/
inductive Framed : List Packet → List Chunk → List Byte → Prop
  | nil : Framed [] [] []
  | first {ps : List Packet} {cs : List Chunk} {bytes rest : List Byte} (before : Framed ps cs []) (p : Packet)
      (payload : p.payload = bytes ++ rest) :
      Framed (ps ++ [p]) (cs ++ [⟨bytes, some p.addr.toList, some p.port⟩]) rest
  | more {ps : List Packet} {cs : List Chunk} {bytes rest : List Byte} (before : Framed ps cs (bytes ++ rest))
      (some : bytes ≠ []) : Framed ps (cs ++ [⟨bytes, none, none⟩]) rest

lemma Framed.address {ps : List Packet} {cs : List Chunk} {rest : List Byte} (h : Framed ps cs rest) :
    ∀ k ∈ cs, ∀ a ∈ k.addr, ∃ p ∈ ps, p.addr.toList = a := by
  induction h with
  | nil => exact fun k hk => absurd hk List.not_mem_nil
  | first before p payload ih =>
    intro k hk a ha
    rcases List.mem_append.1 hk with hk | hk
    · obtain ⟨p', hp', haddr⟩ := ih k hk a ha
      exact ⟨p', List.mem_append_left _ hp', haddr⟩
    · obtain rfl := List.mem_singleton.1 hk
      exact ⟨p, List.mem_append_right _ (List.mem_singleton_self _), Option.some.inj ha⟩
  | more before some ih =>
    intro k hk a ha
    rcases List.mem_append.1 hk with hk | hk
    · exact ih k hk a ha
    · obtain rfl := List.mem_singleton.1 hk
      cases ha

/-- The parts handed out are those of the packets in order, and what follows them is still in the RX memory. -/
def Delivered (sn : ℕ) (g : Globals) (c : Chip) (cs : List Chunk) : Prop :=
  ∃ started queued rest, c.arrived = started ++ queued ∧ Framed started cs rest ∧
    cs.flatMap Chunk.bytes ++ rest = started.flatMap Packet.payload ∧
    c.unread = rest ++ queued.flatMap Packet.record ∧ (g.sock sn).remainedSize = rest.length

/-- A wait whose budget is used up leaves the socket faulted. -/
def Exhausted (sn : ℕ) (g : Globals) : Prop := (g.sock sn).health = .faulted

section packets
variable {p : Packet} {ps : List Packet} {cs : List Chunk} {rest : List Byte}

lemma length_header (p : Packet) : p.header.length = 8 := by
  rw [Packet.header, List.length_append, List.length_append, Vector.length_toList]
  rfl

lemma take_header (p : Packet) : p.header.take 4 = p.addr.toList :=
  List.take_left' (by rw [Vector.length_toList])

lemma byteAt_header (p : Packet) (i : ℕ) :
    byteAt p.header (4 + i) = byteAt (bytes16 p.port ++ bytes16 p.payload.length) i := by
  have hlength : p.addr.toList.length = 4 := by rw [Vector.length_toList]
  rw [byteAt, byteAt, Packet.header, List.getD_eq_getElem?_getD, List.getElem?_append_right (by omega), hlength,
    Nat.add_sub_cancel_left, List.getD_eq_getElem?_getD]

lemma port_header (p : Packet) : word16 (byteAt p.header 4) (byteAt p.header 5) = p.port := by
  rw [show 4 = 4 + 0 from rfl, byteAt_header p 0, show 5 = 4 + 1 from rfl, byteAt_header p 1]
  exact word16_bytes16 p.port_lt

lemma size_header (p : Packet) : word16 (byteAt p.header 6) (byteAt p.header 7) = p.payload.length := by
  rw [show 6 = 4 + 2 from rfl, byteAt_header p 2, show 7 = 4 + 3 from rfl, byteAt_header p 3]
  exact word16_bytes16 p.length_lt

/-- No byte is lost, handed out twice or taken from a header. -/
lemma Framed.bytes (h : Framed ps cs rest) : cs.flatMap Chunk.bytes ++ rest = ps.flatMap Packet.payload := by
  induction h with
  | nil => rfl
  | first before p payload ih =>
    rw [List.append_nil] at ih
    rw [List.flatMap_append, List.flatMap_append, ih, List.flatMap_singleton, List.flatMap_singleton, payload,
      List.append_assoc]
  | more before some ih =>
    rw [List.flatMap_append, List.flatMap_singleton, List.append_assoc, ih]

end packets

section memory
variable {sn : ℕ} {known : Globals → (e : Io) → e.Res → Prop} {g : Globals} {c c' : Chip}
  {F : List Packet → Prop} {body : List Byte}

/-- The packets `F` have been begun, and `body` is what is unread of the last of them. -/
def Holding (F : List Packet → Prop) (body : List Byte) (c : Chip) : Prop :=
  c.rd < 65536 ∧ ∃ started queued, c.arrived = started ++ queued ∧ F started ∧
    c.unread = body ++ queued.flatMap Packet.record

lemma Holding.mono {F' : List Packet → Prop} (h : Holding F body c) (hF : ∀ ps, F ps → F' ps) :
    Holding F' body c := by
  obtain ⟨hrd, started, queued, harrived, hstarted, hunread⟩ := h
  exact ⟨hrd, started, queued, harrived, hF started hstarted, hunread⟩

lemma Holding.receives (h : Holding F body c) (ps : List Packet) : Holding F body (c.receives ps) := by
  obtain ⟨hrd, started, queued, harrived, hstarted, hunread⟩ := h
  refine ⟨hrd, started, queued ++ ps, ?_, hstarted, ?_⟩
  · rw [Chip.receives, harrived, List.append_assoc]
  · rw [Chip.receives, hunread, List.append_assoc, List.flatMap_append]

/-- An access that does not move Sn_RX_RD. -/
def Stays (sn : ℕ) (e : Io) : Prop := ∀ data, e ≠ .writeBuf (Reg.snRXRD sn) data

/-- Only what `taking` says may change. -/
lemma access_stays {e : Io} (he : Stays sn e) (c : Chip) (x : e.Res) :
    c.access sn e x = { c with taking := (c.access sn e x).taking } := by
  cases e with
  | read8 a =>
    rw [Chip.access]
    split_ifs
    · rfl
    · rfl
  | write8 a v =>
    rw [Chip.access]
    split_ifs
    · rfl
    · rfl
  | writeBuf a data =>
    have hne : a ≠ Reg.snRXRD sn := by
      rintro rfl
      exact he data rfl
    rw [Chip.access, if_neg hne]
  | _ => rfl

lemma step_stays {e : Io} {x : e.Res} (hx : receiving sn known g c e x c') (he : Stays sn e) :
    ∃ ps taking, c' = { c.receives ps with taking := taking } := by
  obtain ⟨-, ps, -, rfl⟩ := hx
  exact ⟨ps, _, access_stays he _ _⟩

lemma Holding.step {e : Io} {x : e.Res} (h : Holding F body c) (hx : receiving sn known g c e x c')
    (he : Stays sn e) : Holding F body c' := by
  obtain ⟨ps, taking, rfl⟩ := step_stays hx he
  exact h.receives ps

lemma rd_step {e : Io} {x : e.Res} (hx : receiving sn known g c e x c') (he : Stays sn e) : c'.rd = c.rd := by
  obtain ⟨ps, taking, rfl⟩ := step_stays hx he
  rfl

lemma unread_step {e : Io} {x : e.Res} (h : c.unread ≠ []) (hx : receiving sn known g c e x c') (he : Stays sn e) :
    c'.unread ≠ [] := by
  obtain ⟨ps, taking, rfl⟩ := step_stays hx he
  exact List.append_ne_nil_of_left_ne_nil h _

lemma taking_step {e : Io} {x : e.Res} (h : c.taking = false) (hx : receiving sn known g c e x c')
    (he : e ≠ .write8 (Reg.snCR sn) snCrRecv) : c'.taking = false := by
  obtain ⟨-, ps, -, rfl⟩ := hx
  cases e with
  | read8 a =>
    rw [Chip.access]
    split_ifs
    · rfl
    · exact h
  | write8 a v =>
    have hne : ¬ (a = Reg.snCR sn ∧ v = snCrRecv) := by
      rintro ⟨rfl, rfl⟩
      exact he rfl
    rw [Chip.access, if_neg hne]
    exact h
  | writeBuf a data =>
    rw [Chip.access]
    split_ifs
    · exact h
    · exact h
  | _ => exact h

lemma stays_read8 (a : Addr) : Stays sn (.read8 a) := by simp [Stays]

lemma stays_write8 (a : Addr) (v : Byte) : Stays sn (.write8 a v) := by simp [Stays]

lemma stays_readBuf (a : Addr) (len : ℕ) : Stays sn (.readBuf a len) := by simp [Stays]

variable {b : Build} {H : Globals → Chip → Prop}

/-- The first `n` bytes of the body are copied out. -/
lemma wpg_take {Q : List Byte → Globals → Chip → Prop} (hsn : sn < sockNum) {n : ℕ} (hn : n ≠ 0) (hlt : n < 65536)
    (hbody : n ≤ body.length) (h : Holding F body c)
    (next : ∀ c', Holding F (body.drop n) c' → Q (body.take n) g c') :
    wpg (receiving sn known) (wizRecvData b sn n) Q H g c := by
  rw [wizRecvData, if_neg (by omega)]
  simp only [getSnRXRD, wpv_bind]
  refine wpg_wizchipRead16Value b _ fun x c₁ hx => ?_
  have h₁ := h.step hx (stays_readBuf _ _)
  have hrd₁ := rd_step hx (stays_readBuf _ _)
  obtain ⟨-, ps, ⟨hok, hrd, -, -⟩, -⟩ := hx
  refine ⟨fun _ => ?_, fun hfail => absurd (hok.symm.trans hfail) Bool.false_ne_true⟩
  have hword : word16 (getElem x.1 0 Nat.zero_lt_two) (getElem x.1 1 Nat.one_lt_two) = c.rd :=
    word16_of_toList (hrd rfl rfl) h.1
  rw [hword]
  simp only [setSnRXRD, wpg_wizchipReadBuf, wpg_wizchipWriteBuf, wpv_pure]
  refine ⟨fun hzero => absurd hzero hn, fun _ y c₂ hy => ?_⟩
  refine ⟨fun hnil => absurd hnil (by simp [bytes16]), fun _ z c₃ hz => ?_⟩
  have h₂ := h₁.step hy (stays_readBuf _ _)
  have hrd₂ := rd_step hy (stays_readBuf _ _)
  have hdata : y.1.toList = body.take n := by
    obtain ⟨-, ps, ⟨-, -, -, hdata⟩, -⟩ := hy
    obtain ⟨-, started, queued, -, -, hunread⟩ := h₁.receives ps
    have hrd : (c₁.receives ps).rd = c.rd := hrd₁
    rw [hunread, List.length_append, hrd] at hdata
    rw [hdata rfl (by omega), List.take_append_of_le_length hbody]
  rw [hdata]
  refine next c₃ ?_
  obtain ⟨-, ps, -, rfl⟩ := hz
  obtain ⟨hrd, started, queued, harrived, hstarted, hunread⟩ := h₂.receives ps
  have hrd' : (c₂.receives ps).rd = c.rd := hrd₂.trans hrd₁
  generalize c₂.receives ps = c₄ at harrived hunread hrd hrd' ⊢
  have hv : word16 (byteAt (bytes16 ((c.rd + n) % 65536)) 0) (byteAt (bytes16 ((c.rd + n) % 65536)) 1) =
      (c.rd + n) % 65536 := word16_bytes16 (Nat.mod_lt _ (by decide))
  rw [Chip.access, if_pos rfl, hv]
  refine ⟨Nat.mod_lt _ (by decide), started, queued, harrived, hstarted, ?_⟩
  have hskip : ((c.rd + n) % 65536 + 65536 - c₄.rd) % 65536 = n := by omega
  change c₄.unread.drop _ = _
  rw [hskip, hunread, List.drop_append_of_le_length hbody]

end memory

section calls
variable {b : Build} {sn : ℕ} {g : Globals} {c c' : Chip} {F : List Packet → Prop} {body rest : List Byte}
  {cs : List Chunk} {nonblocking : Bool}

lemma ticks_holding {known : Globals → (e : Io) → e.Res → Prop} : Ticks (receiving sn known) g (Holding F body) := by
  rintro c _ x c₁ (rfl | rfl) h hx
  · exact h.step hx (by simp [Stays])
  · exact h.step hx (by simp [Stays])

/-- RECV is accepted, or the budget is used up. -/
lemma wpg_waitTaken {Q : ℤ → Globals → Chip → Prop} (hmode : nonblocking = (g.sock sn).ioMode) (t : ℕ)
    (h : Holding F body c) (taken : ∀ c', Holding F body c' → c'.taking = false → Q sockOk g c')
    (late : ∀ g' c', Exhausted sn g' → Q sockerrTimeout g' c') :
    wpg (receiving sn (Prompt sn)) (waitDatagramCrAccepted b sn t nonblocking) Q (fun _ _ => True) g c := by
  have look {Q' : Option ℤ → Globals → Chip → Prop} {c : Chip} (h : Holding F body c)
      (ok : ∀ c', Holding F body c' → c'.taking = false → Q' (some sockOk) g c')
      (none : nonblocking = false → ∀ c', Holding F body c' → Q' none g c') :
      wpg (receiving sn (Prompt sn)) (crOrTimeoutLook b sn) Q' (fun _ _ => True) g c := by
    refine wpg_crOrTimeoutLook.2 fun x c₁ hx => ?_
    refine ⟨fun hzero => ok c₁ (h.step hx (stays_read8 _)) ?_, fun hne y c₂ hy => ?_⟩
    · obtain ⟨-, ps, -, rfl⟩ := hx
      rw [Chip.access, if_pos ⟨rfl, hzero⟩]
    have hblocking : nonblocking = false := by
      rw [hmode]
      exact Bool.eq_false_iff.2 fun hio => hne (hx.1.1 rfl hio)
    refine ⟨fun hbit => absurd (hy.1.2 rfl) hbit, fun _ => none hblocking c₂ ?_⟩
    exact (h.step hx (stays_read8 _)).step hy (stays_read8 _)
  simp only [waitDatagramCrAccepted, wpv_bind]
  refine look h taken fun hblocking c h => ?_
  simp only [hblocking, wpv_bind, Bool.false_eq_true, if_false]
  refine (timed_deadlineAbs t).wpg ticks_holding h fun d c h => ?_
  refine timed_waitPollInit.wpg ticks_holding h fun poll c h => ?_
  refine wpg_pollLoop ticks_holding h (fun c h => ?_) (fun c _ => wpg_faultedTimeout.2 (late _ c ?_))
    fun _ _ => trivial
  · exact look h taken fun _ c h => ⟨rfl, h⟩
  · rw [Exhausted, Globals.setSock_same]
    rfl

/-- The next packet is begun: its header is copied out. -/
lemma wpg_header {Q : ℤ × List Byte → Globals → Chip → Prop} (hsn : sn < sockNum)
    (hmode : nonblocking = (g.sock sn).ioMode) (h : Holding F [] c) (hsome : c.unread ≠ [])
    (taken : ∀ p c', Holding (fun ps => ∃ ps', ps = ps' ++ [p] ∧ F ps') p.payload c' → c'.taking = false →
      Q (sockOk, p.header) g c')
    (late : ∀ head g' c', Exhausted sn g' → Q (sockerrTimeout, head) g' c') :
    wpg (receiving sn (Prompt sn)) (recvHeader b sn 8 nonblocking) Q (fun _ _ => True) g c := by
  have hrecord : ∃ p, Holding (fun ps => ∃ ps', ps = ps' ++ [p] ∧ F ps') (p.header ++ p.payload) c := by
    obtain ⟨hrd, started, queued, harrived, hstarted, hunread⟩ := h
    cases queued with
    | nil => exact absurd hunread hsome
    | cons p queued =>
      refine ⟨p, hrd, started ++ [p], queued, ?_, ⟨started, rfl, hstarted⟩, ?_⟩
      · rw [harrived, List.append_assoc, List.singleton_append]
      · rw [hunread, List.nil_append, List.flatMap_cons, Packet.record]
  obtain ⟨p, hp⟩ := hrecord
  have hlength := length_header p
  have htake : (p.header ++ p.payload).take 8 = p.header := List.take_left' hlength
  have hdrop : (p.header ++ p.payload).drop 8 = p.payload := List.drop_left' hlength
  simp only [recvHeader, wpv_bind, wpv_get]
  rintro m rfl
  refine wpg_take hsn (by decide) (by decide) ?_ hp fun c' h => ?_
  · rw [List.length_append, hlength]
    exact Nat.le_add_right _ _
  rw [htake]
  rw [hdrop] at h
  simp only [wpg_setSnCR]
  intro x c₁ hx
  exact wpg_waitTaken hmode _ (h.step hx (stays_write8 _ _)) (taken p) (late _)

/-- The state between two calls, with the parts handed out so far. -/
structure Between (sn : ℕ) (g : Globals) (c : Chip) (cs : List Chunk) : Prop where
  mode : (g.sock sn).mode &&& 0x0F = snMrUdp
  taking : c.taking = false
  holding : ∃ rest, Holding (fun ps => Framed ps cs rest) rest c ∧ (g.sock sn).remainedSize = rest.length ∧
    rest.length < 65536

lemma Between.delivered (h : Between sn g c cs) : Delivered sn g c cs := by
  obtain ⟨rest, ⟨-, started, queued, harrived, hframed, hunread⟩, hremained, -⟩ := h.holding
  exact ⟨started, queued, rest, harrived, hframed, hframed.bytes, hunread, hremained⟩

/-- What a call of recvfrom leaves that returns `out`. -/
def After (sn : ℕ) (cs : List Chunk) (out : Received) (g : Globals) (c : Chip) : Prop :=
  Exhausted sn g ∨ Between sn g c (cs ++ (chunk out).toList)

lemma Between.nothing {out : Received} (h : Between sn g c cs) (hout : out.ret < 0 ∨ out.ret = 0 ∧ out.addr = none) :
    After sn cs out g c := by
  refine .inr ?_
  rw [chunk, if_pos hout, Option.toList, List.append_nil]
  exact h

/-- The calls of recvfrom that hand out a part of a packet. -/
lemma after_chunk (hsn : sn < sockNum) (hmode : nonblocking = (g.sock sn).ioMode)
    (hudp : (g.sock sn).mode &&& 0x0F = snMrUdp) (h : Holding F body c)
    (hremained : (g.sock sn).remainedSize = body.length) (hlt : body.length < 65536) {len : ℕ}
    (hlen : len ≠ 0) (out : Received) (hout : body = [] → out.addr ≠ none)
    (framed : ∀ bytes rest, body = bytes ++ rest → (body ≠ [] → bytes ≠ []) → ∀ ps, F ps →
      Framed ps (cs ++ [⟨bytes, out.addr, out.port⟩]) rest) :
    wpg (receiving sn (Prompt sn)) (recvfromChunk b sn len nonblocking out) (After sn cs) (fun _ _ => True) g c := by
  simp only [recvfromChunk, wpv_bind, wpv_get]
  rintro m rfl
  rw [hremained]
  have hle : min len body.length ≤ body.length := Nat.min_le_right _ _
  -- what follows the copy, whether or not there is something to copy
  have finish {c : Chip} (h : Holding F (body.drop (min len body.length)) c) :
      wpg (receiving sn (Prompt sn)) (recvfromFinish b sn (min len body.length) nonblocking
        { out with bytes := body.take (min len body.length) }) (After sn cs) (fun _ _ => True) m.toGlobals c := by
    simp only [recvfromFinish, wpv_bind, wpg_setSnCR, wpv_get]
    intro x c₁ hx m' hm'
    refine wpg_waitTaken hmode _ (h.step hx (stays_write8 _ _)) (fun c' h' htaken => ?_) fun g' c' hlate => ?_
    · rw [if_neg (not_not.2 rfl)]
      simp only [wpv_bind, wpg_modifySock, wpv_pure]
      refine .inr ?_
      have hlength : (body.take (min len body.length)).length = min len body.length := by
        rw [List.length_take, Nat.min_eq_left hle]
      have hpart :
          chunk { out with ret := ((min len body.length : ℕ) : ℤ), bytes := body.take (min len body.length) } =
          some ⟨body.take (min len body.length), out.addr, out.port⟩ := by
        rw [chunk, if_neg, Int.toNat_natCast, List.take_take, Nat.min_self]
        rintro (hneg | ⟨hzero, haddr⟩)
        · exact absurd hneg (Int.not_lt.2 (Int.natCast_nonneg _))
        · refine hout (List.eq_nil_of_length_eq_zero ?_) haddr
          dsimp only at hzero
          omega
      rw [hpart]
      refine ⟨?_, htaken, body.drop (min len body.length), ?_, ?_, ?_⟩
      · rw [Globals.setSock_same]
        exact hudp
      · refine h'.mono (framed _ _ (List.take_append_drop _ _).symm fun hne hnil => ?_)
        rw [hnil, List.length_nil] at hlength
        have hpos := List.length_pos_of_ne_nil hne
        omega
      · rw [Globals.setSock_same, List.length_drop]
        change ((m.sock sn).remainedSize + 65536 - _) % 65536 = _
        rw [hremained]
        omega
      · rw [List.length_drop]
        omega
    · rw [if_pos (by decide)]
      exact .inl hlate
  by_cases hzero : min len body.length = 0
  · rw [wizRecvData, if_pos (.inr hzero)]
    have hfinish := finish (c := c) (by rwa [hzero, List.drop_zero])
    have hnil : body.take (min len body.length) = [] := by rw [hzero, List.take_zero]
    rw [hnil] at hfinish
    exact (wpv_pure _).2 hfinish
  · exact wpg_take hsn hzero (hle.trans_lt hlt) hle h fun c' h => finish h

/-- The wait for a packet ends with one unread, or ends the call. -/
lemma wpg_recvfromWait {Q : Except ℤ ℕ → Globals → Chip → Prop} (d : ℕ) (h : Holding F [] c)
    (htaken : c.taking = false)
    (error : ∀ e c', e < 0 → Holding F [] c' → c'.taking = false → Q (.error e) g c')
    (busy : ∀ c', Holding F [] c' → c'.taking = false → Q (.error sockBusy) g c')
    (arrived : ∀ n c', Holding F [] c' → c'.taking = false → c'.unread ≠ [] → Q (.ok n) g c') :
    wpg (receiving sn (Prompt sn)) (recvfromWait b sn nonblocking d) Q (fun _ _ => True) g c := by
  have ticks : Ticks (receiving sn (Prompt sn)) g fun c => Holding F [] c ∧ c.taking = false := by
    rintro c _ x c₁ (rfl | rfl) ⟨h, htaken⟩ hx
    · exact ⟨h.step hx (by simp [Stays]), taking_step htaken hx (by simp)⟩
    · exact ⟨h.step hx (by simp [Stays]), taking_step htaken hx (by simp)⟩
  have started : Holding F [] c ∧ c.taking = false := ⟨h, htaken⟩
  simp only [recvfromWait, wpv_bind]
  refine timed_waitPollInit.wpg ticks started fun p c h => ?_
  refine wpg_pollLoop ticks h (fun c h => ?_) (fun c h => error _ c (by decide) h.1 h.2) fun _ _ => trivial
  simp only [recvfromLook, readSnRxRsr, getSnRXRSRStable, wpv_bind]
  refine wpg_stableSize ticks h b _ (fun c x c₁ h hx => ?_) (fun c h => error _ c (by decide) h.1 h.2)
    fun _ _ => trivial
  have h₁ := h.1.step hx (stays_readBuf _ _)
  have htaken₁ := taking_step h.2 hx (by simp)
  refine ⟨fun _ => ⟨⟨h₁, htaken₁⟩, ?_⟩, fun _ => error _ c₁ (by decide) h₁ htaken₁⟩
  have hsize : word16 (getElem x.1 0 Nat.zero_lt_two) (getElem x.1 1 Nat.one_lt_two) ≠ 0 → c₁.unread ≠ [] := by
    obtain ⟨-, ps, ⟨-, -, hsize, -⟩, rfl⟩ := hx
    exact fun hword hnil => hword (word16_of_toList (hsize rfl rfl h.2 hnil) (by decide))
  simp only [wpv_bind, wpg_getSnSR, wpv_ite, wpv_pure, looked_some, looked_none, true_and]
  intro y c₂ hy
  have h₂ := h₁.step hy (stays_read8 _)
  have htaken₂ := taking_step htaken₁ hy (by simp)
  refine ⟨fun _ => error _ c₂ (by decide) h₂ htaken₂, fun _ => ⟨fun hne => ?_, fun _ => ?_⟩⟩
  · exact arrived _ c₂ h₂ htaken₂ (unread_step (hsize hne) hy (stays_read8 _))
  · exact ⟨fun _ => busy c₂ h₂ htaken₂, fun _ => ⟨h₂, htaken₂⟩⟩

/-- A packet is begun, or gone on with. -/
lemma after_udp (hsn : sn < sockNum) (hmode : nonblocking = (g.sock sn).ioMode) (h : Between sn g c cs)
    (hsome : (g.sock sn).remainedSize = 0 → c.unread ≠ []) {len : ℕ} (hlen : len ≠ 0) :
    wpg (receiving sn (Prompt sn)) (recvfromUdp b sn len nonblocking) (After sn cs) (fun _ _ => True) g c := by
  obtain ⟨rest, hholding, hremained, hlt⟩ := h.holding
  simp only [recvfromUdp, wpv_bind, wpv_get]
  rintro m rfl
  refine (wpv_ite _ _ _).2 ⟨fun hzero => ?_, fun hne => ?_⟩
  · obtain rfl := List.eq_nil_of_length_eq_zero (hremained.symm.trans hzero)
    refine (wpv_bind _ _).2 (wpg_header hsn hmode hholding (hsome hzero) (fun p c' h' _ => ?_)
      fun head g' c' hlate => ?_)
    · refine (wpv_ite _ _ _).2 ⟨fun hne => absurd rfl hne, fun _ => (wpv_bind _ _).2 ((wpg_modifySock _ _).2 ?_)⟩
      rw [take_header, port_header, size_header]
      refine after_chunk hsn ?_ ?_ h' ?_ p.length_lt hlen _ (fun _ => Option.some_ne_none _) ?_
      · rw [Globals.setSock_same]
        exact hmode
      · rw [Globals.setSock_same]
        exact h.mode
      · rw [Globals.setSock_same]
      · rintro bytes rest hpayload - ps ⟨ps', rfl, hframed⟩
        exact .first hframed p hpayload
    · exact (wpv_ite _ _ _).2 ⟨fun _ => .inl hlate, fun hok => absurd (show sockerrTimeout ≠ sockOk by decide) hok⟩
  · have hrest : rest ≠ [] := by
      rintro rfl
      exact hne hremained
    refine after_chunk hsn hmode h.mode hholding hremained hlt hlen _ (fun hnil => absurd hnil hrest) ?_
    rintro bytes rest' rfl hbytes ps hframed
    exact .more hframed (hbytes hrest)

lemma udp_of_mode {mode : Byte} (h : mode &&& 0x0F = snMrUdp) : mode &&& 0x07 = snMrUdp := by
  have hmask : (0x07 : Byte) = 0x0F &&& 0x07 := by decide
  rw [hmask, ← BitVec.and_assoc, h]
  decide

lemma after_recvfromLocked (hsn : sn < sockNum) (h : Between sn g c cs) {len : ℕ} (hlen : len ≠ 0) :
    wpg (receiving sn (Prompt sn)) (recvfromLocked b sn len true) (After sn cs) (fun _ _ => True) g c := by
  simp only [recvfromLocked, wpv_bind, wpv_get]
  rintro m rfl
  have packet {c : Chip} (h : Between sn m.toGlobals c cs) (hsome : (m.sock sn).remainedSize = 0 → c.unread ≠ [])
      (n : ℕ) : wpg (receiving sn (Prompt sn))
        (recvfromPacket b sn len n (m.sock sn).mode (m.sock sn).ioMode true) (After sn cs)
        (fun _ _ => True) m.toGlobals c := by
    rw [recvfromPacket, if_neg (not_not.2 rfl), if_pos (udp_of_mode h.mode)]
    exact after_udp hsn rfl h hsome hlen
  refine (wpv_ite _ _ _).2 ⟨fun _ => h.nothing (.inl (by decide)), fun _ => ?_⟩
  refine (wpv_ite _ _ _).2 ⟨fun _ => h.nothing (.inl (by decide)), fun _ => ?_⟩
  refine (wpv_ite _ _ _).2 ⟨fun hother => absurd h.mode hother.1, fun _ => ?_⟩
  refine (wpv_ite _ _ _).2 ⟨fun hzero => ?_, fun hne => ?_⟩
  · obtain ⟨rest, hholding, hremained, hlt⟩ := h.holding
    obtain rfl := List.eq_nil_of_length_eq_zero (hremained.symm.trans hzero)
    have waiting {c : Chip} (hc : Holding (fun ps => Framed ps cs []) [] c) (htaken : c.taking = false) :
        Between sn m.toGlobals c cs := ⟨h.mode, htaken, [], hc, hremained, hlt⟩
    have ticks : Ticks (receiving sn (Prompt sn)) m.toGlobals fun c => Between sn m.toGlobals c cs := by
      rintro c _ x c₁ (rfl | rfl) ⟨hmode, htaken, rest, hc, hrest⟩ hx
      · exact ⟨hmode, taking_step htaken hx (by simp), rest, hc.step hx (by simp [Stays]), hrest⟩
      · exact ⟨hmode, taking_step htaken hx (by simp), rest, hc.step hx (by simp [Stays]), hrest⟩
    refine (wpv_bind _ _).2 ((timed_deadlineAbs _).wpg ticks h fun d c h => (wpv_bind _ _).2 ?_)
    obtain ⟨rest', hc, hrest, -⟩ := h.holding
    obtain rfl := List.eq_nil_of_length_eq_zero (hrest.symm.trans hzero)
    refine wpg_recvfromWait d hc h.taking (fun e c' he hc htaken => ?_) (fun c' hc htaken => ?_)
      fun n c' hc htaken hsome => ?_
    · exact (waiting hc htaken).nothing (.inl he)
    · exact (waiting hc htaken).nothing (.inr ⟨rfl, rfl⟩)
    · exact packet (waiting hc htaken) (fun _ => hsome) n
  · exact packet h (fun hzero => absurd hzero hne) 0

lemma Between.step {e : Io} {x : e.Res} {known : Globals → (e : Io) → e.Res → Prop} {g' : Globals}
    (h : Between sn g c cs) (hx : receiving sn known g' c e x c') (he : Stays sn e)
    (hcommand : e ≠ .write8 (Reg.snCR sn) snCrRecv) :
    Between sn g c' cs := by
  obtain ⟨rest, hc, hrest⟩ := h.holding
  exact ⟨h.mode, taking_step h.taking hx hcommand, rest, hc.step hx he, hrest⟩

lemma after_recvfrom (h : Between sn g c cs) (len : ℕ) :
    wpg (receiving sn (Prompt sn)) (recvfrom b sn true len true) (After sn cs) (fun _ _ => True) g c := by
  refine (wpv_ite _ _ _).2 ⟨fun _ => h.nothing (.inr ⟨rfl, rfl⟩), fun hlen => ?_⟩
  refine (wpv_ite _ _ _).2 ⟨fun hbuf => absurd rfl hbuf, fun _ => ?_⟩
  refine (wpv_ite _ _ _).2 ⟨fun _ => h.nothing (.inl (by decide)), fun hle => ?_⟩
  refine (wpg_locked sn _).2 fun x c₁ hx => ?_
  have h₁ := h.step hx (by simp [Stays]) (by simp)
  refine wpv_mono (after_recvfromLocked (Nat.not_le.1 hle) h₁ hlen) (fun out g' c' hafter y c₂ hy => ?_) fun _ _ => id
  exact hafter.imp_right fun h => h.step hy (by simp [Stays]) (by simp)

lemma between_setIomode (h : Between sn g c cs) (arg : ArgMem) :
    wpg (receiving sn (Prompt sn)) (Use.run b sn (.setIomode arg)) (fun _ g' c' => Between sn g' c' cs)
      (fun _ _ => True) g c := by
  have mode {c : Chip} {v : Bool} (h : Between sn g c cs) :
      Between sn (g.setSock sn fun s => { s with ioMode := v }) c cs := by
    refine ⟨?_, h.taking, ?_⟩
    · rw [Globals.setSock_same]
      exact h.mode
    · rw [Globals.setSock_same]
      exact h.holding
  simp only [Use.run, ctlsocket, ctlsocketLocked, answered, refused, wpv_ite, wpv_pure, wpv_bind, wpv_get, wpg_locked,
    wpg_modifySock, reduceCtorEq, false_imp_iff, not_false_eq_true, true_imp_iff, true_and]
  refine ⟨fun _ => h, ?_⟩
  rintro _ x c₁ hx m rfl
  have h₁ := h.step hx (by simp [Stays]) (by simp)
  have released {g' g'' : Globals} {y : Unit} {c₂ : Chip} (hbetween : Between sn g' c₁ cs)
      (hy : receiving sn (Prompt sn) g'' c₁ (.sockUnlock sn) y c₂) : Between sn g' c₂ cs :=
    hbetween.step hy (by simp [Stays]) (by simp)
  refine ⟨fun _ y c₂ hy => released h₁ hy, fun _ => ⟨fun _ y c₂ hy => released (mode h₁) hy, ?_⟩⟩
  exact fun _ => ⟨fun _ y c₂ hy => released (mode h₁) hy, fun _ y c₂ hy => released h₁ hy⟩

/-- A faulted socket hands out nothing more. -/
lemma exhausted_run {known : Globals → (e : Io) → e.Res → Prop} (h : Exhausted sn g) (use : Use) :
    wpg (receiving sn known) (use.run b sn) (fun _ g' _ => Exhausted sn g') (fun _ _ => True) g c := by
  cases use with
  | recvfrom len =>
    refine (wpv_ite _ _ _).2 ⟨fun _ => h, fun _ => (wpv_ite _ _ _).2 ⟨fun _ => h, fun _ => ?_⟩⟩
    refine (wpv_ite _ _ _).2 ⟨fun _ => h, fun _ => ?_⟩
    refine (wpg_locked sn _).2 fun x c₁ _ => (wpv_bind _ _).2 (wpv_get.2 ?_)
    rintro m rfl
    exact (wpv_ite _ _ _).2 ⟨fun _ _ _ _ => h, fun hhealthy => absurd h hhealthy⟩
  | setIomode arg =>
    simp only [Use.run, ctlsocket, ctlsocketLocked, wpv_ite, wpv_pure, wpv_bind, wpv_get, wpg_locked, reduceCtorEq,
      false_imp_iff, not_false_eq_true, true_imp_iff, true_and]
    refine ⟨fun _ => h, ?_⟩
    rintro _ x c₁ _ m rfl
    exact ⟨fun _ _ _ _ => h, fun hhealthy => absurd h hhealthy⟩

end calls

section histories
variable {b : Build} {sn : ℕ}

/-- A UDP socket that has handed out nothing yet. -/
structure Starts (sn : ℕ) (m : Driver) (c : Chip) : Prop where
  mode : (m.sock sn).mode &&& 0x0F = snMrUdp
  remainedSize : (m.sock sn).remainedSize = 0
  taking : c.taking = false
  unread : c.unread = c.arrived.flatMap Packet.record
  rd : c.rd < 65536

lemma Starts.between {m : Driver} {c : Chip} (h : Starts sn m c) : Between sn m.toGlobals c [] :=
  ⟨h.mode, h.taking, [], ⟨h.rd, [], c.arrived, rfl, .nil, h.unread⟩, h.remainedSize, by decide⟩

lemma chunks_snoc (past : List Call) (s : Call) : chunks (past ++ [s]) = chunks past ++ (handed s).toList := by
  rw [chunks, List.filterMap_append]
  cases h : handed s with
  | none => rw [List.filterMap_cons_none h, List.filterMap_nil, Option.toList]; rfl
  | some k => rw [List.filterMap_cons_some h, List.filterMap_nil]; rfl

/-- What holds after the steps `past`. -/
def Kept (sn : ℕ) (past : List Call) (m : Driver) (c : Chip) : Prop :=
  Exhausted sn m.toGlobals ∨ Between sn m.toGlobals c (chunks past)

lemma kept_run {m : Driver} {c : Chip} {past : List Call} (h : Kept sn past m c) (use : Use) :
    wp (Env.along (receiving sn (Prompt sn)) Driver.toGlobals) (use.run b sn)
      (fun out m' c' => Kept sn (past ++ [⟨use, (m, c), some out, (m', c')⟩]) m' c') (fun _ _ => True) m c := by
  rcases h with hexhausted | hbetween
  · exact wp_mono (wp_of_wpv (exhausted_run hexhausted use)) (fun _ _ _ h => .inl h) fun _ _ => id
  · cases use with
    | recvfrom len =>
      refine wp_mono (wp_of_wpv (after_recvfrom hbetween len)) (fun out m' c' hafter => ?_) fun _ _ => id
      rw [Kept, chunks_snoc]
      exact hafter
    | setIomode arg =>
      refine wp_mono (wp_of_wpv (between_setIomode hbetween arg)) (fun out m' c' h => ?_) fun _ _ => id
      rw [Kept, chunks_snoc]
      refine .inr ?_
      change Between sn m'.toGlobals c' (chunks past ++ [])
      rwa [List.append_nil]

/-- While every RECV is taken up promptly and no budget is used up, the packets are handed out in order, part by
part. -/
theorem packets_delivered {steps : List Call} {m m' : Driver} {c c' : Chip} (start : Starts sn m c)
    (run : History (fun _ => Env.along (receiving sn (Prompt sn)) Driver.toGlobals) (Use.run b sn) steps m c m' c')
    (before : List Call) (s : Call) (after : List Call) (hsplit : steps = before ++ s :: after)
    (returned : s.result ≠ none) (budget : ¬ Exhausted sn s.post.1.toGlobals) :
    Delivered sn s.post.1.toGlobals s.post.2 (chunks (before ++ [s])) := by
  have rule := history_rule (fun _ _ _ _ => True) (Kept sn)
    (fun past s => s.result ≠ none → Kept sn (past ++ [s]) s.post.1 s.post.2)
    (fun past use m c _ h => wp_mono (kept_run h use) (fun _ _ _ h => ⟨fun _ => h, h⟩)
      fun _ _ _ hnone => absurd rfl hnone)
    run [] (fun _ _ _ _ => trivial) (.inr start.between)
  exact ((rule.1 before s after hsplit returned).resolve_left budget).delivered

end histories

section runs

/-- A packet whose payload looks like a packet from another address. -/
def packet : Packet := ⟨.replicate 4 10, 4321, [9, 9, 9, 9, 0, 1, 0, 2, 7, 7], by decide, by decide⟩

/-- The chip's answers; RECV stays in Sn_CR while `slow` bytes are unread. -/
def answer (slow : Option ℕ) (c : Chip) : (e : Io) → e.Res
  | .read8 a =>
    if a = Reg.snSR 0 then (sockUdp, false)
    else if a = Reg.snCR 0 ∧ slow = some c.unread.length then (1, false)
    else (0, false)
  | .readBuf a len =>
    (frameBytes len (if a.block = .rxBuf 0 then c.unread.take len else if a = Reg.snRXRD 0 then bytes16 c.rd
      else bytes16 (min c.unread.length 65535)), false)
  | .write8 _ _ | .writeBuf _ _ => false
  | .now => 0
  | .wait | .phyLink _ | .sockLock _ | .sockUnlock _ | .globalLock | .globalUnlock => ()

def replies (slow : Option ℕ) : Handler Driver Chip Io Io.Res := fun _ c e =>
  (answer slow c e, c.access 0 e (answer slow c e))

lemma answers_answer (slow : Option ℕ) (c : Chip) (e : Io) : c.Answers 0 e (answer slow c e) := by
  cases e with
  | readBuf a len =>
    refine ⟨rfl, ?_, ?_, ?_⟩
    · rintro rfl rfl
      have hblock : (Reg.snRXRD 0).block ≠ .rxBuf 0 := by decide
      rw [answer, if_neg hblock, if_pos rfl]
      exact toList_frameBytes_two _
    · rintro rfl rfl - hnil
      have hblock : (Reg.snRXRSR 0).block ≠ .rxBuf 0 := by decide
      have hne : Reg.snRXRSR 0 ≠ Reg.snRXRD 0 := by decide
      rw [answer, if_neg hblock, if_neg hne, hnil]
      exact toList_frameBytes_two _
    · rintro rfl hlen
      rw [answer, if_pos rfl]
      exact toList_frameBytes (List.length_take_of_le hlen)
  | _ => trivial

lemma receives_nil (c : Chip) : c.receives [] = c := by
  rw [Chip.receives, List.flatMap_nil, List.append_nil, List.append_nil]

lemma replies_allowed (slow : Option ℕ) {known : Globals → (e : Io) → e.Res → Prop}
    (hknown : ∀ g c e, known g e (answer slow c e)) (m : Driver) (c : Chip) (e : Io) :
    Env.along (receiving 0 known) Driver.toGlobals m c e (replies slow m c e).1 (replies slow m c e).2 := by
  refine ⟨hknown m.toGlobals c e, [], ?_, ?_⟩
  · rw [receives_nil]
    exact answers_answer slow c e
  · rw [receives_nil]
    rfl

lemma prompt_answer (g : Globals) (c : Chip) (e : Io) : Prompt 0 g e (answer none c e) := by
  cases e with
  | read8 a =>
    constructor
    · rintro rfl -
      have hne : Reg.snCR 0 ≠ Reg.snSR 0 := by decide
      rw [answer, if_neg hne, if_neg fun h => nomatch h.2]
    · rintro rfl
      have hne : Reg.snIR 0 ≠ Reg.snSR 0 := by decide
      rw [answer, if_neg hne, if_neg fun h => nomatch h.2]
      decide
  | _ => trivial

/-- A nonblocking UDP socket that is open. -/
def opened : Driver :=
  { (Driver.boot 1000 1000).setSock 0 fun s => { s with ioMode := true, mode := snMrUdp } with chipState := .ready }

def held : Chip := ⟨[packet], packet.record, 0, false⟩

lemma starts_held : Starts 0 opened held := ⟨by decide, rfl, rfl, by decide, by decide⟩

@[irreducible] def exchange (slow : Option ℕ) (m : Driver) (c : Chip) : List Call × Driver × Chip :=
  replay (fun _ => replies slow) (Use.run .oneTurn 0) [.recvfrom 4, .recvfrom 16] m c

lemma history_exchange (slow : Option ℕ) {known : Globals → (e : Io) → e.Res → Prop}
    (hknown : ∀ g c e, known g e (answer slow c e)) (m : Driver) (c : Chip) :
    History (fun _ => Env.along (receiving 0 known) Driver.toGlobals) (Use.run .oneTurn 0) (exchange slow m c).1 m c
      (exchange slow m c).2.1 (exchange slow m c).2.2 := by
  unfold exchange
  exact history_replay (fun _ => replies_allowed slow hknown) _ _ m c

theorem packets_delivered_two : chunks (exchange none opened held).1 =
      [⟨[9, 9, 9, 9], some [10, 10, 10, 10], some 4321⟩, ⟨[0, 1, 0, 2, 7, 7], none, none⟩] ∧
    ∀ before s after, (exchange none opened held).1 = before ++ s :: after →
      Delivered 0 s.post.1.toGlobals s.post.2 (chunks (before ++ [s])) := by
  refine ⟨?_, fun before s after hsplit => ?_⟩
  · unfold exchange
    decide +kernel
  · have hall : (exchange none opened held).1.all
        (fun s => s.result.isSome ∧ (s.post.1.sock 0).health ≠ .faulted) = true := by
      unfold exchange
      decide +kernel
    have hstep := of_decide_eq_true (List.all_eq_true.1 hall s (hsplit ▸ List.mem_append_right _ List.mem_cons_self))
    refine packets_delivered starts_held (history_exchange none prompt_answer _ _) before s after hsplit ?_ hstep.2
    exact Option.isSome_iff_ne_none.1 hstep.1

/-- A nonblocking call returns SOCK_BUSY behind the header that it has dropped; the next call reads the payload as a
header, and reports the address that the payload names. -/
theorem header_lost : ¬ ∀ (steps : List Call) (m m' : Driver) (c c' : Chip), Starts 0 m c →
    History (fun _ => Env.along (receiving 0 fun _ _ _ => True) Driver.toGlobals) (Use.run .oneTurn 0) steps m c m'
      c' →
    ∀ before s after, steps = before ++ s :: after → s.result ≠ none → ¬ Exhausted 0 s.post.1.toGlobals →
      Delivered 0 s.post.1.toGlobals s.post.2 (chunks (before ++ [s])) := by
  intro hall
  have hrun := hall _ _ _ _ _ starts_held (history_exchange (some 10) (fun _ _ _ => trivial) _ _)
  have hlast : ((exchange (some 10) opened held).1.getLast?.map fun s =>
      (decide (s.result.isSome ∧ (s.post.1.sock 0).health ≠ .faulted), s.post.2.arrived)) =
      some (true, [packet]) := by
    unfold exchange
    decide +kernel
  have hforged : chunks (exchange (some 10) opened held).1 = [⟨[7, 7], some [9, 9, 9, 9], some 1⟩] := by
    unfold exchange
    decide +kernel
  rcases List.eq_nil_or_concat' (exchange (some 10) opened held).1 with hnil | ⟨before, s, hsplit⟩
  · rw [hnil] at hlast
    cases hlast
  · rw [hsplit, List.getLast?_concat, Option.map_some, Option.some.injEq, Prod.mk.injEq] at hlast
    have hstep := of_decide_eq_true hlast.1
    have hdelivered := hrun before s [] hsplit (Option.isSome_iff_ne_none.1 hstep.1) hstep.2
    rw [← hsplit, hforged] at hdelivered
    obtain ⟨started, queued, rest, harrived, hframed, -⟩ := hdelivered
    obtain ⟨p, hp, haddr⟩ := hframed.address _ (List.mem_singleton_self _) _ rfl
    have hmem : p ∈ [packet] := by
      rw [← hlast.2, harrived]
      exact List.mem_append_left _ hp
    rw [List.mem_singleton.1 hmem] at haddr
    exact absurd haddr (by decide)

end runs

end IoLibrary.Delivery
