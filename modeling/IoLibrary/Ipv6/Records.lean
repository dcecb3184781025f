import IoLibrary.Ipv6.Rules

/-! Records in the RX memory, and how recvfrom reads their parts. -/
namespace IoLibrary.Ipv6
open Effects

/-- A record of the RX memory. Its flags leave the length in the packet info alone, and do not say
that the address is an IPv6 one. -/
structure Record where
  flags : Byte
  address : Vector Byte 4
  port : Vector Byte 2
  payload : List Byte
  plain : flags &&& 0x87 = 0
  fits : payload.length < 2048

def tagged (part : Part) (bytes : List Byte) : List (Byte × Part) := bytes.map fun b => (b, part)

lemma tagged_append (part : Part) (a b : List Byte) :
    tagged part (a ++ b) = tagged part a ++ tagged part b := List.map_append

def Record.info (r : Record) : List Byte :=
  [r.flags ||| BitVec.ofNat 8 (r.payload.length / 256), BitVec.ofNat 8 r.payload.length]

/-- The bytes of a record behind its packet info, each with what it is. -/
def Record.body (protocol : Byte) (r : Record) : List (Byte × Part) :=
  (if protocol = snMrMacraw then [] else tagged .address r.address.toList) ++
    ((if protocol = snMrUdp4 then tagged .port r.port.toList else []) ++ tagged .payload r.payload)

def Record.bytes (protocol : Byte) (r : Record) : List (Byte × Part) :=
  tagged .info r.info ++ r.body protocol

/-- The unread bytes of the RX memory, what each byte read so far was read for and is, and whether
the socket has been closed. -/
structure Rx where
  unread : List (Byte × Part)
  reads : List (Part × Part)
  closed : Bool

def Rx.read (n : ℕ) (part : Part) (w : Rx) : Rx where
  unread := w.unread.drop n
  reads := w.reads ++ (w.unread.take n).map fun b => (part, b.2)
  closed := w.closed

/-- A chip that accepts every command at once. Behind the unread bytes it reads anything. -/
def received : Env Cpu Rx Io Io.Res := fun _ w e x w' =>
  match e, x with
  | .cr, v => v = 0 ∧ w' = w
  | .sr, v => (v = sockClosed ↔ w.closed = true) ∧ w' = w
  | .rxRsr, n => (n = 0 ↔ w.unread = []) ∧ w' = w
  | .recvData n part, data => (w.unread.take n).map Prod.fst <+: data.toList ∧ w' = w.read n part
  | .setCr v, _ => w' = { w with closed := w.closed || v = snCrClose }
  | _, _ => w' = w

section info
variable {flags : Byte} {n : ℕ}

/-- The flags leave the length alone, and the length the flag of an IPv6 address. -/
lemma info_fields (hplain : flags &&& 0x87 = 0) {q : ℕ} (hq : q < 8) :
    ((flags ||| BitVec.ofNat 8 q) &&& 0x07).toNat = q ∧
      (flags ||| BitVec.ofNat 8 q) &&& packIpv6 = 0 := by
  have hall : ∀ flags : Byte, flags &&& 0x87 = 0 → ∀ q : Fin 8,
      ((flags ||| BitVec.ofNat 8 q) &&& 0x07).toNat = q ∧
        (flags ||| BitVec.ofNat 8 q) &&& packIpv6 = 0 := by decide +kernel
  exact hall flags hplain ⟨q, hq⟩

/-- A packet info without flags is its length. -/
lemma info_word (hplain : flags &&& 0x87 = 0) {q : ℕ} (hq : q < 8)
    (hsmall : (flags ||| BitVec.ofNat 8 q).toNat < 8) : (flags ||| BitVec.ofNat 8 q).toNat = q := by
  have hall : ∀ flags : Byte, flags &&& 0x87 = 0 → ∀ q : Fin 8,
      (flags ||| BitVec.ofNat 8 q).toNat < 8 → (flags ||| BitVec.ofNat 8 q).toNat = q := by
    decide +kernel
  exact hall flags hplain ⟨q, hq⟩ hsmall

end info

section parts
variable {c : Cpu} {w : Rx} {turns : ℕ}

lemma Rx.read_eq {n : ℕ} {part tag : Part} {bytes : List Byte} {rest : List (Byte × Part)}
    (h : w.unread = tagged tag bytes ++ rest) (hn : bytes.length = n) :
    w.read n part =
      { w with unread := rest, reads := w.reads ++ List.replicate n (part, tag) } := by
  have hlen : (tagged tag bytes).length = n := by
    rw [tagged, List.length_map, hn]
  have htake : w.unread.take n = tagged tag bytes := by
    rw [h, List.take_left' hlen]
  have hdrop : w.unread.drop n = rest := by
    rw [h, List.drop_left' hlen]
  have htags : (tagged tag bytes).map (fun b => (part, b.2)) = List.replicate n (part, tag) := by
    rw [tagged, List.map_map, ← hn]
    exact List.map_const' (l := bytes) (b := (part, tag))
  rw [Rx.read, htake, hdrop, htags]

/-- A part is read and RECV accepted at the first poll. -/
lemma wp_recvPart_read {n : ℕ} {part : Part} {nonblocking : Bool}
    {Q : ℤ × List Byte → Cpu → Rx → Prop} {H : Cpu → Rx → Prop}
    (h : ∀ data, (w.unread.take n).map Prod.fst <+: data → data.length = n →
      Q (sockOk, data) c (w.read n part)) :
    wp received (recvPart turns n part nonblocking) Q H c w := by
  simp only [recvPart, waitDatagramCrAccepted, crOrTimeoutLook, wp_bind, wp_perform]
  intro data w₁ hdata _ w₂ hcr
  obtain ⟨hinit, rfl⟩ : (w.unread.take n).map Prod.fst <+: data.toList ∧ w₁ = w.read n part := hdata
  obtain rfl : w₂ = { w.read n part with closed := (w.read n part).closed || false } := hcr
  rintro cr _ ⟨rfl, rfl⟩
  rw [if_pos rfl, Bool.or_false]
  exact h data.toList hinit data.length_toList

/-- The read of bytes of one kind. -/
lemma wp_recvPart_tagged {n : ℕ} {part tag : Part} {nonblocking : Bool} {bytes : List Byte}
    {rest : List (Byte × Part)} (hunread : w.unread = tagged tag bytes ++ rest)
    (hn : bytes.length = n) {Q : ℤ × List Byte → Cpu → Rx → Prop} {H : Cpu → Rx → Prop}
    (h : Q (sockOk, bytes) c
      { w with unread := rest, reads := w.reads ++ List.replicate n (part, tag) }) :
    wp received (recvPart turns n part nonblocking) Q H c w := by
  apply wp_recvPart_read
  intro data hinit hlen
  have htake : (w.unread.take n).map Prod.fst = bytes := by
    have hlen : (tagged tag bytes).length = n := by
      rw [tagged, List.length_map, hn]
    rw [hunread, List.take_left' hlen, tagged, List.map_map]
    exact List.map_id bytes
  rw [htake] at hinit
  have hdata : bytes = data := hinit.eq_of_length (hn.trans hlen.symm)
  subst hdata
  rw [Rx.read_eq hunread hn]
  exact h

/-- An open blocking socket. -/
structure Blocking (protocol : Byte) (c : Cpu) : Prop where
  mode : c.sock.mode &&& 0x0F = protocol
  healthy : c.sock.health = .healthy
  blocking : c.sock.ioMode = false
  configValid : c.configValid = true

variable {protocol : Byte} {len : ℕ} {payload : List Byte} {rest : List (Byte × Part)}

/-- The state behind a call that has handed over a part of a payload. -/
def Rx.handed (len : ℕ) (payload : List Byte) (rest : List (Byte × Part)) (reads : List (Part × Part))
    (closed : Bool) : Rx where
  unread := tagged .payload (payload.drop len) ++ rest
  reads := reads ++ List.replicate (payload.take len).length (.payload, .payload)
  closed := closed

lemma wp_recvfromPayload_part (hblocking : Blocking protocol c)
    (hremained : c.sock.remainedSize = payload.length)
    (hunread : w.unread = tagged .payload payload ++ rest) {Q : Received → Cpu → Rx → Prop}
    {H : Cpu → Rx → Prop}
    (h : ∀ c', Blocking protocol c' → c'.sock.remainedSize = (payload.drop len).length →
      Q ⟨(payload.take len).length, payload.take len⟩ c' (Rx.handed len payload rest w.reads w.closed)) :
    wp received (recvfromPayload turns len false) Q H c w := by
  have hsplit : w.unread =
      tagged .payload (payload.take len) ++ (tagged .payload (payload.drop len) ++ rest) := by
    rw [← List.append_assoc, ← tagged_append, List.take_append_drop, hunread]
  have hlen : (payload.take len).length = min len c.sock.remainedSize := by
    rw [List.length_take, hremained]
  rw [recvfromPayload, wp_bind, wp_get, wp_bind]
  apply wp_recvPart_tagged hsplit hlen
  dsimp only
  rw [if_neg (by decide), wp_bind, modifySock, wp_modify, wp_pure, ← hlen]
  have hdrop : c.sock.remainedSize - (payload.take len).length = (payload.drop len).length := by
    rw [hremained, List.length_drop, List.length_take]
    omega
  apply h
  · exact ⟨hblocking.mode, hblocking.healthy, hblocking.blocking, hblocking.configValid⟩
  · exact hdrop

/-- The port of a UDP packet, and the part of its payload. -/
lemma wp_recvfromRest_part (hblocking : Blocking protocol c) {mode : Byte}
    (hmode : mode &&& 0x03 = protocol &&& 0x03) {port : Vector Byte 2}
    (hunread : w.unread = (if protocol = snMrUdp4 then tagged .port port.toList else []) ++
      (tagged .payload payload ++ rest))
    (hports : protocol &&& 0x03 = 0x02 ↔ protocol = snMrUdp4) {Q : Received → Cpu → Rx → Prop}
    {H : Cpu → Rx → Prop}
    (h : ∀ c' before, Blocking protocol c' → c'.sock.remainedSize = (payload.drop len).length →
      (∀ p ∈ before, p = (Part.port, Part.port)) →
      Q ⟨(payload.take len).length, payload.take len⟩ c'
        (Rx.handed len payload rest (w.reads ++ before) w.closed)) :
    wp received (recvfromRest turns len payload.length mode true false) Q H c w := by
  rw [recvfromRest, wp_bind, modifySock, wp_modify, hmode, wp_ite]
  constructor
  · intro hport
    rw [if_neg (by decide), wp_bind]
    rw [if_pos (hports.1 hport)] at hunread
    apply wp_recvPart_tagged hunread port.length_toList
    dsimp only
    rw [if_neg (by decide)]
    apply @wp_recvfromPayload_part _ _ _ protocol len payload rest
    · exact ⟨hblocking.mode, hblocking.healthy, hblocking.blocking, hblocking.configValid⟩
    · rfl
    · rfl
    · intro c' hblocking' hremained
      exact h c' _ hblocking' hremained fun p hp => List.eq_of_mem_replicate hp
  · intro hport
    rw [if_neg fun hp => hport (hports.2 hp)] at hunread
    apply @wp_recvfromPayload_part _ _ _ protocol len payload rest
    · exact ⟨hblocking.mode, hblocking.healthy, hblocking.blocking, hblocking.configValid⟩
    · rfl
    · exact hunread
    · intro c' hblocking' hremained
      have hq := h c' [] hblocking' hremained (by simp)
      rw [List.append_nil] at hq
      exact hq

lemma Blocking.of_mode {mode : Byte} (h : mode &&& 0x0F = protocol) :
    mode &&& 0x03 = protocol &&& 0x03 ∧ mode &&& 0x07 = protocol &&& 0x07 := by
  rw [← h, BitVec.and_assoc, BitVec.and_assoc]
  exact ⟨rfl, rfl⟩

variable {r : Record}

/-- The length that recvfrom finds in the packet info. -/
lemma Record.info_length (r : Record) :
    (byteAt r.info 0 &&& 0x07).toNat * 256 + (byteAt r.info 1).toNat = r.payload.length := by
  have hfits := r.fits
  have hq : r.payload.length / 256 < 8 := by omega
  change ((r.flags ||| BitVec.ofNat 8 (r.payload.length / 256)) &&& 0x07).toNat * 256 +
    (BitVec.ofNat 8 r.payload.length).toNat = r.payload.length
  rw [(info_fields r.plain hq).1, BitVec.toNat_ofNat]
  omega

lemma Record.info_ipv4 (r : Record) : byteAt r.info 0 &&& packIpv6 = 0 := by
  have hfits := r.fits
  exact (info_fields r.plain (by omega)).2

/-- The address of a record is read as one. -/
lemma wp_recvfromAddress_read {tail : List (Byte × Part)} (hblocking : Blocking protocol c)
    (hunread : w.unread = tagged .address r.address.toList ++ tail) {Q : ℤ → Cpu → Rx → Prop}
    {H : Cpu → Rx → Prop}
    (h : ∀ c', Blocking protocol c' → Q sockOk c'
      { w with unread := tail, reads := w.reads ++ List.replicate 4 (.address, .address) }) :
    wp received (recvfromAddress turns (byteAt r.info 0) false) Q H c w := by
  rw [recvfromAddress, wp_bind, modifySock, wp_modify, r.info_ipv4, if_neg (by decide), wp_bind]
  apply wp_recvPart_tagged hunread r.address.length_toList
  apply h
  exact ⟨hblocking.mode, hblocking.healthy, hblocking.blocking, hblocking.configValid⟩

/-- What has been read stays on record. -/
lemma received_reads {w' : Rx} {e : Io} {x : e.Res} (h : received c w e x w') :
    w.reads <+: w'.reads := by
  cases e with
  | recvData n part =>
    obtain ⟨-, rfl⟩ := h
    exact List.prefix_append _ _
  | cr | sr | rxRsr =>
    obtain ⟨-, rfl⟩ := h
    exact List.prefix_rfl
  | setCr v =>
    have hstep : w' = { w with closed := w.closed || v = snCrClose } := h
    subst hstep
    exact List.prefix_rfl
  | ir | txFsr | sipr | llar | expired =>
    have hstep : w' = w := h
    subst hstep
    exact List.prefix_rfl
  | setMr | setMr2 | setPortr | clearIr | setDipr | setDip6r | setDportr | sendData =>
    have hstep : w' = w := h
    subst hstep
    exact List.prefix_rfl

/-- All that is left is handed over when there is room for it. -/
lemma wp_recvfromPayload_all (hroom : c.sock.remainedSize ≤ len) :
    wp received (recvfromPayload turns len false)
      (fun res c' _ => res.ret = c.sock.remainedSize ∧ c'.sock.remainedSize = 0) (fun _ _ => True)
      c w := by
  rw [recvfromPayload, wp_bind, wp_get, wp_bind]
  apply wp_recvPart_read
  intro data _ _
  dsimp only
  rw [if_neg (by decide), wp_bind, modifySock, wp_modify, wp_pure, Nat.min_eq_right hroom]
  exact ⟨rfl, Nat.sub_self _⟩

/-- The MACRAW case counts the packet info in its length, and leaves nothing for the next call. -/
lemma wp_recvfromMacraw_counted {info : ℕ} {mode : Byte} (hremained : c.sock.remainedSize = 0)
    (hmode : mode &&& 0x03 ≠ 0x02) :
    wp received (do
        match ← recvfromMacraw turns len info with
        | .error e => return ⟨e, []⟩
        | .ok packLen => recvfromRest turns len packLen mode true false)
      (fun res c' _ => res.ret < 0 ∨
        2 ≤ info ∧ info ≤ 1516 ∧ res.ret = min len (info - 2) ∧ c'.sock.remainedSize = 0)
      (fun _ _ => True) c w := by
  rw [wp_bind, recvfromMacraw, wp_bind, wp_get, if_pos hremained, wp_ite]
  have hclose (c : Cpu) (w : Rx) : wp received (do
      let _ ← closeInternal turns
      return .error sockfatalPacklen : Drv (Except ℤ ℕ))
      (fun a c' w' => wp received (match a with
        | .error e => return ⟨e, []⟩
        | .ok packLen => recvfromRest turns len packLen mode true false)
        (fun res c' _ => res.ret < 0 ∨
          2 ≤ info ∧ info ≤ 1516 ∧ res.ret = min len (info - 2) ∧ c'.sock.remainedSize = 0)
        (fun _ _ => True) c' w') (fun _ _ => True) c w := by
    rw [wp_bind]
    apply wp_mono (wp_closeInternal turns) _ fun _ _ => id
    intro _ c₁ w₁ _
    exact .inl (by decide : sockfatalPacklen < 0)
  refine ⟨fun _ => hclose c w, fun hlong => ?_⟩
  rw [wp_bind, modifySock, wp_modify, wp_ite]
  refine ⟨fun _ => hclose _ w, fun hshort => ?_⟩
  rw [wp_bind, modifySock, wp_modify, recvfromMacraw.copy]
  simp only [wp_bind, wp_get, wp_perform, wp_pure]
  intro data w₁ _
  rw [recvfromRest, wp_bind, modifySock, wp_modify, if_neg hmode]
  apply wp_mono (wp_recvfromPayload_all (Nat.min_le_left _ _)) _ fun _ _ => id
  rintro res c' w' ⟨hret, hzero⟩
  exact .inr ⟨by omega, by omega, hret, hzero⟩

end parts

lemma received_total (c : Cpu) (w : Rx) (e : Io) : ∃ x w', received c w e x w' := by
  cases e with
  | cr => exact ⟨(0 : Byte), w, rfl, rfl⟩
  | sr =>
    by_cases hclosed : w.closed = true
    · exact ⟨sockClosed, w, by simp [received, hclosed]⟩
    · exact ⟨sockInit, w, iff_of_false (by decide) hclosed, rfl⟩
  | rxRsr => exact ⟨w.unread.length, w, List.length_eq_zero_iff, rfl⟩
  | recvData n part =>
    let bytes := (w.unread.take n).map Prod.fst
    have hlen : (bytes ++ List.replicate (n - bytes.length) 0#8).length = n := by
      have hle : bytes.length ≤ n := by
        rw [List.length_map, List.length_take]
        exact Nat.min_le_left _ _
      rw [List.length_append, List.length_replicate]
      omega
    exact ⟨⟨_, hlen⟩, _, List.prefix_append _ _, rfl⟩
  | ir => exact ⟨(0 : Byte), w, rfl⟩
  | txFsr => exact ⟨(0 : ℕ), w, rfl⟩
  | sipr => exact ⟨Vector.replicate 4 0, w, rfl⟩
  | llar => exact ⟨Vector.replicate 16 0, w, rfl⟩
  | expired => exact ⟨true, w, rfl⟩
  | setCr v => exact ⟨(), _, rfl⟩
  | setMr v => exact ⟨(), w, rfl⟩
  | setMr2 v => exact ⟨(), w, rfl⟩
  | setPortr port => exact ⟨(), w, rfl⟩
  | clearIr v => exact ⟨(), w, rfl⟩
  | setDipr addr => exact ⟨(), w, rfl⟩
  | setDip6r addr => exact ⟨(), w, rfl⟩
  | setDportr port => exact ⟨(), w, rfl⟩
  | sendData data => exact ⟨(), w, rfl⟩

end IoLibrary.Ipv6
