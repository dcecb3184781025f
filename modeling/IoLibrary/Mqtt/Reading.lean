import IoLibrary.Mqtt.RoundTrips

/-! MQTTPacket_readnb: a packet is read by as many calls as its bytes take to come. -/
namespace IoLibrary.Mqtt
open Base128

/-- The bytes on their way, and how many of them the next calls of `getfn` find; `none` is an error of the
transport. -/
structure Stream where
  bytes : List Byte
  turns : List (Option ℕ)

/-- The answer of `getfn`: -1, 0 or the bytes stored. -/
inductive Got
  | error
  | again
  | bytes (data : List Byte)

def Stream.getfn (s : Stream) (count : ℕ) : Got × Stream :=
  match s.turns with
  | [] => (.again, s)
  | none :: turns => (.error, ⟨s.bytes, turns⟩)
  | some n :: turns =>
    match s.bytes.take (min n count) with
    | [] => (.again, ⟨s.bytes, turns⟩)
    | b :: data => (.bytes (b :: data), ⟨s.bytes.drop (b :: data).length, turns⟩)

structure Transport where
  state : ℕ
  len : ℕ
  multiplier : ℕ
  remLen : ℕ

/-- The loop of MQTTPacket_decodenb; it is left at the latest when a fifth byte is counted. -/
def decodenbLoop : ℕ → Transport → Stream → ℤ × Transport × Stream
  | 0, t, s => (-1, t, s)
  | turns + 1, t, s =>
    let t := { t with len := t.len + 1 }
    if 4 < t.len then (-1, t, s)
    else match s.getfn 1 with
      | (.error, s) => (-1, t, s)
      | (.again, s) => (0, t, s)
      | (.bytes data, s) =>
        let c := (data.getD 0 0).toNat
        let t := { t with remLen := t.remLen + c % 128 * t.multiplier, multiplier := t.multiplier * 128 }
        if 128 ≤ c then decodenbLoop turns t s else (t.len, t, s)

def decodenb (t : Transport) (s : Stream) : ℤ × Transport × Stream :=
  decodenbLoop 5 (if t.len = 0 then { t with multiplier := 1, remLen := 0 } else t) s

/-- What a call of MQTTPacket_readnb returns and leaves behind. -/
structure Outcome where
  rc : ℤ
  buf : Mem
  transport : Transport
  stream : Stream

/-- Case 2: the rest of the packet. -/
def readRest (buf : Mem) (t : Transport) (s : Stream) : Outcome :=
  match s.getfn t.remLen with
  | (.error, s) => ⟨-1, buf, { t with state := 0 }, s⟩
  | (.again, s) => ⟨0, buf, t, s⟩
  | (.bytes data, s) =>
    let buf := buf.write t.len data
    let t := { t with remLen := t.remLen - data.length, len := t.len + data.length }
    if t.remLen ≠ 0 then ⟨0, buf, t, s⟩ else ⟨typeOf (buf 0), buf, { t with state := 0 }, s⟩

/-- Case 1: the remaining length, which is put back into the buffer. -/
def readLength (buflen : ℕ) (buf : Mem) (t : Transport) (s : Stream) : Outcome :=
  let (frc, t, s) := decodenb t s
  if frc = -1 then ⟨-1, buf, { t with state := 0 }, s⟩
  else if frc = 0 then ⟨0, buf, t, s⟩
  else
    let buf := buf.write 1 (packetEncode t.remLen)
    let t := { t with len := 1 + (packetEncode t.remLen).length }
    if buflen < t.remLen + t.len then ⟨-1, buf, { t with state := 0 }, s⟩
    else readRest buf { t with state := 2 } s

/-- Case 0: the header byte. -/
def readHeader (buflen : ℕ) (buf : Mem) (t : Transport) (s : Stream) : Outcome :=
  match s.getfn 1 with
  | (.error, s) => ⟨-1, buf, { t with state := 0 }, s⟩
  | (.again, s) => ⟨0, buf, { t with state := 0 }, s⟩
  | (.bytes data, s) => readLength buflen (buf.write 0 data) { t with state := 1, len := 0 } s

def packetReadnb (buflen : ℕ) (buf : Mem) (t : Transport) (s : Stream) : Outcome :=
  match t.state with
  | 1 => readLength buflen buf t s
  | 2 => readRest buf t s
  | _ => readHeader buflen buf t s

/-- Up to `n` calls, as long as the answer is to call again. -/
def pollPacket (buflen : ℕ) : ℕ → Mem → Transport → Stream → Outcome
  | 0, buf, t, s => ⟨0, buf, t, s⟩
  | n + 1, buf, t, s =>
    let o := packetReadnb buflen buf t s
    if o.rc = 0 then pollPacket buflen n o.buf o.transport o.stream else o

section getfn
variable {s : Stream} {count : ℕ}

/-- What a call of `getfn` can answer, and why. -/
inductive Gets (s : Stream) (count : ℕ) : Got × Stream → Prop
  | error {turns} (h : s.turns = none :: turns) : Gets s count (.error, ⟨s.bytes, turns⟩)
  | again {turns} (h : s.turns = [] ∧ turns = [] ∨
      ∃ n, s.turns = some n :: turns ∧ (n = 0 ∨ count = 0 ∨ s.bytes = [])) : Gets s count (.again, ⟨s.bytes, turns⟩)
  | bytes {n turns data rest} (h : s.turns = some n :: turns) (hdata : data ≠ []) (hcount : data.length ≤ count)
      (hbytes : s.bytes = data ++ rest) : Gets s count (.bytes data, ⟨rest, turns⟩)

lemma gets_getfn (s : Stream) (count : ℕ) : Gets s count (s.getfn count) := by
  rcases s with ⟨bytes, _ | ⟨_ | n, turns⟩⟩
  · exact .again (.inl ⟨rfl, rfl⟩)
  · exact .error rfl
  · simp only [Stream.getfn]
    cases htake : bytes.take (min n count) with
    | nil =>
      refine Gets.again (s := ⟨bytes, some n :: turns⟩) (.inr ⟨n, rfl, ?_⟩)
      rcases List.take_eq_nil_iff.1 htake with hmin | hbytes
      · rcases Nat.min_eq_zero_iff.1 hmin with hn | hcount
        · exact .inl hn
        · exact .inr (.inl hcount)
      · exact .inr (.inr hbytes)
    | cons b data =>
      have hlen : (b :: data).length ≤ min n count := by
        rw [← htake]
        exact List.length_take_le _ _
      obtain ⟨rest, rfl⟩ : b :: data <+: bytes := htake ▸ List.take_prefix _ _
      have hdrop : (b :: data ++ rest).drop (b :: data).length = rest := List.drop_left
      change Gets _ count (Got.bytes (b :: data), ⟨(b :: data ++ rest).drop (b :: data).length, turns⟩)
      rw [hdrop]
      exact Gets.bytes (s := ⟨b :: data ++ rest, some n :: turns⟩) rfl (List.cons_ne_nil _ _)
        (hlen.trans (Nat.min_le_right _ _)) rfl

end getfn

section digits
variable {turns n : ℕ} {t t' : Transport} {s s' : Stream} {pre post tail : List Byte} {rc : ℤ}

/-- The length reader has read the digits `pre` of `n`, and has asked at least as often. -/
structure Halfway (n : ℕ) (pre post : List Byte) (t : Transport) : Prop where
  digits : encode n = pre ++ post
  asked : pre.length ≤ t.len
  multiplier : t.multiplier = 128 ^ pre.length
  value : t.remLen = Base128.value pre

lemma Halfway.next {c : Byte} (h : Halfway n pre (c :: post) t) (t' : Transport) (ht : t'.len = t.len + 1)
    (hm : t'.multiplier = t.multiplier * 128) (hr : t'.remLen = t.remLen + c.toNat % 128 * t.multiplier) :
    Halfway n (pre ++ [c]) post t' where
  digits := by rw [h.digits, List.append_assoc, List.singleton_append]
  asked := by
    have := h.asked
    rw [List.length_append, List.length_singleton]
    omega
  multiplier := by rw [hm, h.multiplier, List.length_append, List.length_singleton, pow_succ]
  value := by
    rw [hr, h.multiplier, h.value, value_append, Base128.value, Base128.value]
    ring

lemma Halfway.done (h : Halfway n pre [] t) : t.remLen = n := by
  rw [h.value, ← List.append_nil pre, ← h.digits, value_encode]

lemma Halfway.continues {c : Byte} (h : Halfway n pre (c :: post) t) : 128 ≤ c.toNat ↔ post ≠ [] := by
  have hnum := numeral_encode n
  rw [h.digits] at hnum
  exact hnum.continues_iff

/-- What the length reader comes to: an error, a question still open, or the length. -/
inductive Measured (n : ℕ) (tail : List Byte) : ℤ × Transport × Stream → Prop
  | error (t : Transport) (s : Stream) : Measured n tail (-1, t, s)
  | again (pre post : List Byte) (t : Transport) (s : Stream) (h : Halfway n pre post t) (hpost : post ≠ [])
      (hlen : t.len ≠ 0) (hs : s.bytes = post ++ tail) :
    Measured n tail (0, t, s)
  | done (t : Transport) (s : Stream) (hlen : t.len ≠ 0) (hrem : t.remLen = n) (hs : s.bytes = tail) :
    Measured n tail (t.len, t, s)

lemma measured_loop (h : Halfway n pre post t) (hpost : post ≠ []) (hs : s.bytes = post ++ tail) :
    Measured n tail (decodenbLoop turns t s) := by
  induction turns generalizing pre post t s with
  | zero => exact .error _ _
  | succ turns ih =>
    have hasked := h.asked
    rw [decodenbLoop]
    split_ifs with hlong
    · exact .error _ _
    · have hgets := gets_getfn s 1
      generalize s.getfn 1 = got at hgets
      cases hgets with
      | error => exact .error _ _
      | again =>
        exact .again pre post _ _ ⟨h.digits, hasked.trans (Nat.le_succ _), h.multiplier, h.value⟩ hpost
          (Nat.succ_ne_zero _) hs
      | @bytes _ _ data rest _ hdata hcount hbytes =>
        obtain ⟨c, rfl⟩ : ∃ c, data = [c] :=
          List.length_eq_one_iff.1 (Nat.le_antisymm hcount (List.length_pos_of_ne_nil hdata))
        obtain ⟨c', post, rfl⟩ := List.exists_cons_of_ne_nil hpost
        rw [hs, List.cons_append, List.singleton_append] at hbytes
        obtain ⟨rfl, rfl⟩ := List.cons.inj hbytes
        have hcontinues := h.continues
        simp only [List.getD_cons_zero]
        split_ifs with htop
        · exact ih (h.next _ rfl rfl rfl) (hcontinues.1 htop) rfl
        · obtain rfl : post = [] := not_not.1 fun hne => htop (hcontinues.2 hne)
          have hread := h.next ⟨t.state, t.len + 1, t.multiplier * 128, _⟩ rfl rfl rfl
          exact .done _ _ (Nat.succ_ne_zero _) hread.done rfl

lemma state_decodenbLoop : (decodenbLoop turns t s).2.1.state = t.state := by
  induction turns generalizing t s with
  | zero => rfl
  | succ turns ih =>
    rw [decodenbLoop]
    split_ifs
    · rfl
    · generalize s.getfn 1 = got
      rcases got with ⟨_ | _ | data, s'⟩
      · rfl
      · rfl
      · simp only
        split_ifs
        · rw [ih]
        · rfl

lemma state_decodenb : (decodenb t s).2.1.state = t.state := by
  rw [decodenb, state_decodenbLoop]
  split_ifs <;> rfl

lemma measured_first (hlen : t.len = 0) (hs : s.bytes = encode n ++ tail) : Measured n tail (decodenb t s) := by
  rw [decodenb, if_pos hlen]
  have h : Halfway n [] (encode n) { t with multiplier := 1, remLen := 0 } := ⟨rfl, Nat.zero_le _, rfl, rfl⟩
  exact measured_loop h (numeral_encode n).ne_nil hs

lemma measured_later (hlen : t.len ≠ 0) (h : Halfway n pre post t) (hpost : post ≠ []) (hs : s.bytes = post ++ tail) :
    Measured n tail (decodenb t s) := by
  rw [decodenb, if_neg hlen]
  exact measured_loop h hpost hs

end digits

section packet
variable {buflen calls : ℕ} {buf : Mem} {t : Transport} {s : Stream} {b : Byte} {body rest : List Byte}

/-- A packet with its length field. -/
def packet (b : Byte) (body : List Byte) : List Byte := b :: packetEncode body.length ++ body

/-- How far the reader has come with the packet that the stream began with. -/
inductive Underway (b : Byte) (body rest : List Byte) (buflen : ℕ) (buf : Mem) (t : Transport) (s : Stream) : Prop
  | header (hone : t.state ≠ 1) (htwo : t.state ≠ 2) (hs : s.bytes = packet b body ++ rest)
  | length (pre post : List Byte) (hstate : t.state = 1) (hlen : t.len ≠ 0) (h : Halfway body.length pre post t)
    (hpost : post ≠ []) (hb : buf 0 = b) (hs : s.bytes = post ++ (body ++ rest))
  | body (pre post : List Byte) (hstate : t.state = 2) (hbody : body = pre ++ post)
    (hbuf : buf.Holds 0 (b :: packetEncode body.length ++ pre)) (hs : s.bytes = post ++ rest)
    (hrem : t.remLen = post.length) (hlen : t.len = 1 + (packetEncode body.length).length + pre.length)
    (hfits : (packet b body).length ≤ buflen)

/-- The packet is in the buffer, and the stream stands behind it. -/
structure Complete (b : Byte) (body rest : List Byte) (buflen : ℕ) (o : Outcome) : Prop where
  rc : o.rc = typeOf b
  buf : o.buf.Holds 0 (packet b body)
  stream : o.stream.bytes = rest
  state : o.transport.state = 0
  nonempty : body ≠ []
  fits : (packet b body).length ≤ buflen

/-- What a call does: it fails, it has to be called again, or it has read the packet. -/
inductive Moves (b : Byte) (body rest : List Byte) (buflen : ℕ) (o : Outcome) : Prop
  | error (hrc : o.rc = -1)
  | again (hrc : o.rc = 0) (h : Underway b body rest buflen o.buf o.transport o.stream)
  | done (h : Complete b body rest buflen o)

lemma readRest_moves {pre post : List Byte} (hstate : t.state = 2) (hbody : body = pre ++ post)
    (hbuf : buf.Holds 0 (b :: packetEncode body.length ++ pre)) (hs : s.bytes = post ++ rest)
    (hrem : t.remLen = post.length) (hlen : t.len = 1 + (packetEncode body.length).length + pre.length)
    (hfits : (packet b body).length ≤ buflen) : Moves b body rest buflen (readRest buf t s) := by
  have hgets := gets_getfn s t.remLen
  rw [readRest]
  generalize s.getfn t.remLen = got at hgets
  cases hgets with
  | error => exact .error rfl
  | again => exact .again rfl (.body pre post hstate hbody hbuf hs hrem hlen hfits)
  | @bytes _ turns data unread _ hdata hcount hbytes =>
    obtain ⟨left, rfl⟩ : data <+: post := by
      rw [hs] at hbytes
      exact List.prefix_of_prefix_length_le ⟨unread, hbytes.symm⟩ ⟨rest, rfl⟩ (hrem ▸ hcount)
    have hunread : unread = left ++ rest := by
      rw [hs, List.append_assoc] at hbytes
      exact (List.append_cancel_left hbytes).symm
    have hat : t.len = 0 + (b :: packetEncode body.length ++ pre).length := by
      rw [hlen, List.length_append, List.length_cons]
      omega
    have hwritten : (buf.write t.len data).Holds 0 (b :: packetEncode body.length ++ (pre ++ data)) := by
      rw [← List.append_assoc, hat]
      exact hbuf.append_write _
    have hleft : t.remLen - data.length = left.length := by
      rw [hrem, List.length_append, Nat.add_sub_cancel_left]
    simp only [hleft]
    split_ifs with hmore
    · refine .again rfl (.body (pre ++ data) left hstate ?_ hwritten hunread rfl ?_ hfits)
      · rw [hbody, List.append_assoc]
      · simp only [List.length_append]
        omega
    · obtain rfl : left = [] := List.length_eq_zero_iff.1 (not_not.1 hmore)
      rw [List.append_nil] at hbody
      rw [← hbody] at hwritten
      have htype := congrArg (fun x => (typeOf x : ℤ)) (Mem.holds_cons.1 hwritten).1
      refine .done ⟨htype, hwritten, hunread, rfl, ?_, hfits⟩
      rintro rfl
      exact hdata (List.append_eq_nil_iff.1 hbody.symm).2

lemma readLength_moves (hb : buf 0 = b) (hstate : t.state = 1)
    (hm : Measured body.length (body ++ rest) (decodenb t s)) :
    Moves b body rest buflen (readLength buflen buf t s) := by
  have hst := state_decodenb (t := t) (s := s)
  rw [readLength]
  generalize decodenb t s = got at hm hst
  cases hm with
  | error => exact .error rfl
  | again pre post t' s' h hpost hlen hs =>
    change Moves b body rest buflen ⟨0, buf, t', s'⟩
    exact .again rfl (.length pre post (hst.trans hstate) hlen h hpost hb hs)
  | done t' s' hlen hrem hs =>
    have hpos : (t'.len : ℤ) ≠ -1 ∧ (t'.len : ℤ) ≠ 0 := by omega
    simp only [if_neg hpos.1, if_neg hpos.2, hrem]
    split_ifs with hshort
    · exact .error rfl
    · have hsize : (packet b body).length = body.length + (1 + (packetEncode body.length).length) := by
        rw [packet, List.length_append, List.length_cons]
        omega
      have hheader : (buf.write 1 (packetEncode body.length)).Holds 0 (b :: packetEncode body.length ++ []) := by
        rw [List.append_nil]
        exact (Mem.holds_cons.2 ⟨hb, Mem.holds_nil⟩ : buf.Holds 0 [b]).append_write _
      exact readRest_moves rfl rfl hheader hs rfl rfl (by omega)

/-- One call keeps track of the packet. -/
lemma packetReadnb_moves (hbody : body.length < 2 ^ 28) (h : Underway b body rest buflen buf t s) :
    Moves b body rest buflen (packetReadnb buflen buf t s) := by
  rw [packetReadnb]
  cases h with
  | header hone htwo hs =>
    split
    · contradiction
    · contradiction
    have hgets := gets_getfn s 1
    rw [readHeader]
    generalize s.getfn 1 = got at hgets
    cases hgets with
    | error => exact .error rfl
    | again => exact .again rfl (.header Nat.zero_ne_one (Nat.succ_ne_zero 1).symm hs)
    | @bytes _ turns data unread _ hdata hcount hbytes =>
      obtain ⟨c, rfl⟩ : ∃ c, data = [c] :=
        List.length_eq_one_iff.1 (Nat.le_antisymm hcount (List.length_pos_of_ne_nil hdata))
      rw [hs, packet, List.cons_append, List.cons_append, List.singleton_append] at hbytes
      obtain ⟨rfl, rfl⟩ := List.cons.inj hbytes
      refine readLength_moves rfl rfl (measured_first rfl ?_)
      rw [List.append_assoc, packetEncode_eq (by omega)]
  | length pre post hstate hlen h hpost hb hs =>
    rw [hstate]
    exact readLength_moves hb hstate (measured_later hlen h hpost hs)
  | body pre post hstate heq hbuf hs hrem hlen hfits =>
    rw [hstate]
    exact readRest_moves hstate heq hbuf hs hrem hlen hfits

/-- Any number of calls: they have failed, they are still under way, or they have read the packet. -/
lemma pollPacket_moves (hbody : body.length < 2 ^ 28) (htype : 0 < typeOf b)
    (h : Underway b body rest buflen buf t s) :
    Moves b body rest buflen (pollPacket buflen calls buf t s) := by
  induction calls generalizing buf t s with
  | zero => exact .again rfl h
  | succ calls ih =>
    have hmoves := packetReadnb_moves hbody h
    rw [pollPacket]
    split_ifs with hrc
    · cases hmoves with
      | error hrc' => rw [hrc] at hrc'; cases hrc'
      | again _ h => exact ih h
      | done h =>
        have hrc' := h.rc
        omega
    · exact hmoves

/-- Whatever the bytes come in, a packet that has been read is the one on the wire: its length field and its body
stand in the buffer, which they fit, and the next call reads the stream from behind it. A packet without a body is
never read. -/
theorem pollPacket_right (hbody : body.length < 2 ^ 28) (htype : 0 < typeOf b) (hone : t.state ≠ 1)
    (htwo : t.state ≠ 2) (hs : s.bytes = packet b body ++ rest) :
    (pollPacket buflen calls buf t s).rc ≤ 0 ∨ Complete b body rest buflen (pollPacket buflen calls buf t s) := by
  have hmoves : Moves b body rest buflen (pollPacket buflen calls buf t s) :=
    pollPacket_moves hbody htype (.header hone htwo hs)
  cases hmoves with
  | error hrc => exact .inl (by omega)
  | again hrc => exact .inl hrc.le
  | done h => exact .inr h

theorem pollPacket_right_pieces :
    (pollPacket 8 2 (fun _ => 0) ⟨0, 0, 0, 0⟩
      ⟨[0x30, 3, 0, 1, 0x61, 0xc0], [some 9, some 9, some 2, some 9]⟩).rc ≤ 0 ∨
      Complete 0x30 [0, 1, 0x61] [0xc0] 8
        (pollPacket 8 2 (fun _ => 0) ⟨0, 0, 0, 0⟩ ⟨[0x30, 3, 0, 1, 0x61, 0xc0], [some 9, some 9, some 2, some 9]⟩) :=
  pollPacket_right (by decide) (by decide) Nat.zero_ne_one (Nat.succ_ne_zero 1).symm rfl

/-- Every turn finds something. -/
def Prompt (turns : List (Option ℕ)) : Prop := ∀ x ∈ turns, ∃ n, 0 < n ∧ x = some n

lemma getfn_prompt (count : ℕ) (hp : Prompt s.turns) (hturns : 0 < s.turns.length) (hcount : 0 < count)
    (hbytes : s.bytes ≠ []) : ∃ data unread turns, s.getfn count = (.bytes data, ⟨unread, turns⟩) ∧ data ≠ [] ∧
      data.length ≤ count ∧ s.bytes = data ++ unread ∧ Prompt turns ∧ s.turns.length = turns.length + 1 := by
  have hgets := gets_getfn s count
  generalize s.getfn count = got at hgets
  cases hgets with
  | error h =>
    obtain ⟨_, _, hx⟩ := hp none (by rw [h]; exact List.mem_cons_self)
    cases hx
  | again h =>
    rcases h with ⟨h, -⟩ | ⟨n, h, hzero | hzero | hzero⟩
    · rw [h] at hturns
      exact absurd hturns (Nat.lt_irrefl _)
    · obtain ⟨k, hk, hx⟩ := hp (some n) (by rw [h]; exact List.mem_cons_self)
      cases hx
      omega
    · omega
    · exact absurd hzero hbytes
  | bytes h hdata hcount hbytes =>
    refine ⟨_, _, _, rfl, hdata, hcount, hbytes, fun x hx => hp x ?_, ?_⟩
    · rw [h]
      exact List.mem_cons_of_mem _ hx
    · rw [h, List.length_cons]

/-- Where every turn finds something, the length reader needs no more turns than the length has digits. -/
lemma decodenbLoop_prompt {n : ℕ} {pre post : List Byte} (turns : ℕ) (tail : List Byte) (h : Halfway n pre post t)
    (hlen : t.len = pre.length) (hpost : post ≠ []) (hfour : (encode n).length ≤ 4) (hs : s.bytes = post ++ tail)
    (hp : Prompt s.turns) (hturns : post.length ≤ s.turns.length) (hfuel : post.length ≤ turns) :
    ∃ t' turns', decodenbLoop turns t s = (t'.len, t', ⟨tail, turns'⟩) ∧ t'.len ≠ 0 ∧ t'.remLen = n ∧
      t'.state = t.state ∧ Prompt turns' ∧ s.turns.length = turns'.length + post.length := by
  induction turns generalizing pre post t s with
  | zero => exact absurd (Nat.le_zero.1 hfuel) (List.length_pos_of_ne_nil hpost).ne'
  | succ turns ih =>
    obtain ⟨c, post, rfl⟩ := List.exists_cons_of_ne_nil hpost
    have hdigits : pre.length + (c :: post).length ≤ 4 := by rwa [← List.length_append, ← h.digits]
    rw [List.length_cons] at hdigits hturns hfuel
    obtain ⟨data, unread, rest, hget, hdata, hcount, hbytes, hp', hrest⟩ :=
      getfn_prompt 1 hp (by omega) Nat.one_pos (by rw [hs]; exact List.cons_ne_nil _ _)
    obtain ⟨c', rfl⟩ : ∃ c, data = [c] :=
      List.length_eq_one_iff.1 (Nat.le_antisymm hcount (List.length_pos_of_ne_nil hdata))
    rw [hs, List.cons_append, List.singleton_append] at hbytes
    obtain ⟨rfl, rfl⟩ := List.cons.inj hbytes
    have hcontinues := h.continues
    rw [decodenbLoop, if_neg (by simp only; omega), hget]
    simp only [List.getD_cons_zero]
    split_ifs with htop
    · obtain ⟨t', turns', heq, hne, hrem, hstate, hprompt, hcountdown⟩ :=
        ih (t := ⟨t.state, t.len + 1, t.multiplier * 128, t.remLen + c.toNat % 128 * t.multiplier⟩)
          (s := ⟨post ++ tail, rest⟩) (h.next _ rfl rfl rfl) (by rw [List.length_append, hlen]; rfl)
          (hcontinues.1 htop) rfl hp' (by simp only; omega) (by omega)
      refine ⟨t', turns', heq, hne, hrem, hstate, hprompt, ?_⟩
      simp only [List.length_cons] at hcountdown ⊢
      omega
    · obtain rfl : post = [] := not_not.1 fun hne => htop (hcontinues.2 hne)
      exact ⟨_, rest, rfl, Nat.succ_ne_zero _,
        (h.next ⟨t.state, t.len + 1, t.multiplier * 128, _⟩ rfl rfl rfl).done, rfl, hp', hrest⟩

/-- The reader has read the length, stands before the rest of the body, and has as many turns left as bytes. -/
structure AtBody (b : Byte) (body rest post : List Byte) (buflen : ℕ) (buf : Mem) (t : Transport) (s : Stream) :
    Prop where
  state : t.state = 2
  stream : s.bytes = post ++ rest
  remLen : t.remLen = post.length
  header : buf 0 = b
  len : 0 < t.len
  prompt : Prompt s.turns
  turns : post.length ≤ s.turns.length

lemma pollPacket_body {post : List Byte} (htype : 0 < typeOf b) (hpost : post ≠ []) (hcalls : post.length ≤ calls)
    (h : AtBody b body rest post buflen buf t s) : (pollPacket buflen calls buf t s).rc = typeOf b := by
  induction calls generalizing post buf t s with
  | zero => exact absurd (Nat.le_zero.1 hcalls) (List.length_pos_of_ne_nil hpost).ne'
  | succ calls ih =>
    have hpos := List.length_pos_of_ne_nil hpost
    have hturns := h.turns
    have hcount : 0 < t.remLen := by rw [h.remLen]; exact hpos
    obtain ⟨data, unread, turns, hget, hdata, hcount, hbytes, hp, hrest⟩ :=
      getfn_prompt _ h.prompt (by omega) hcount (by rw [h.stream]; exact List.append_ne_nil_of_left_ne_nil hpost _)
    obtain ⟨left, rfl⟩ : data <+: post := by
      rw [h.stream] at hbytes
      exact List.prefix_of_prefix_length_le ⟨unread, hbytes.symm⟩ ⟨rest, rfl⟩ (h.remLen ▸ hcount)
    have hunread : unread = left ++ rest := by
      rw [h.stream, List.append_assoc] at hbytes
      exact (List.append_cancel_left hbytes).symm
    have hleft : t.remLen - data.length = left.length := by
      rw [h.remLen, List.length_append, Nat.add_sub_cancel_left]
    have hheader : (buf.write t.len data) 0 = b :=
      (if_neg fun hw => Nat.not_lt.2 hw.1 h.len : _ = buf 0).trans h.header
    have hone := List.length_pos_of_ne_nil hdata
    rw [List.length_append] at hcalls hturns
    rw [pollPacket, packetReadnb, h.state, readRest, hget]
    simp only [hleft, hheader]
    by_cases hmore : left = []
    · subst hmore
      simp [htype.ne']
    · rw [if_pos (List.length_pos_of_ne_nil hmore).ne', if_pos rfl]
      exact ih hmore (by omega) ⟨h.state, hunread, rfl, hheader, by simp only; omega, hp, by simp only; omega⟩

/-- Where every turn finds something, the first call gets as far as the body. -/
lemma packetReadnb_first (buf : Mem) (hbody : body.length < 2 ^ 28) (hfits : (packet b body).length ≤ buflen)
    (hone : t.state ≠ 1) (htwo : t.state ≠ 2) (hs : s.bytes = packet b body ++ rest) (hp : Prompt s.turns)
    (hturns : (packet b body).length ≤ s.turns.length) : ∃ buf' t' s',
      packetReadnb buflen buf t s = packetReadnb buflen buf' t' s' ∧ AtBody b body rest body buflen buf' t' s' := by
  have hsize : (packet b body).length = 1 + (packetEncode body.length).length + body.length := by
    rw [packet, List.length_append, List.length_cons]
    omega
  obtain ⟨data, unread, turns, hget, hdata, hcount, hbytes, hp', hrest⟩ :=
    getfn_prompt 1 hp (by omega) Nat.one_pos (by rw [hs]; exact List.cons_ne_nil _ _)
  obtain ⟨c, rfl⟩ : ∃ c, data = [c] :=
    List.length_eq_one_iff.1 (Nat.le_antisymm hcount (List.length_pos_of_ne_nil hdata))
  rw [hs, packet, List.cons_append, List.cons_append, List.singleton_append] at hbytes
  obtain ⟨rfl, rfl⟩ := List.cons.inj hbytes
  have hencode := packetEncode_eq (n := body.length) (by omega)
  rw [hencode] at hsize
  have hstart : Halfway body.length [] (encode body.length) ⟨1, 0, 1, 0⟩ := ⟨rfl, Nat.zero_le _, rfl, rfl⟩
  obtain ⟨t', turns', hloop, hlen, hrem, hstate, hp'', hcountdown⟩ :=
    decodenbLoop_prompt 5 (body ++ rest) (s := ⟨packetEncode body.length ++ body ++ rest, turns⟩) hstart rfl
      (numeral_encode body.length).ne_nil (length_encode_le.2 (by omega)) (by rw [hencode, List.append_assoc]) hp'
      (by simp only; omega) ((length_encode_le.2 (by omega) : _ ≤ 3 + 1).trans (by omega))
  refine ⟨(buf.write 0 [b]).write 1 (packetEncode body.length),
    ⟨2, 1 + (packetEncode body.length).length, t'.multiplier, body.length⟩, ⟨body ++ rest, turns'⟩,
    ?_, rfl, rfl, rfl, ?_, by simp only; omega, hp'', ?_⟩
  · have hfirst : packetReadnb buflen buf t s = readHeader buflen buf t s := by
      rw [packetReadnb]
      split
      · contradiction
      · contradiction
      · rfl
    have hpos : (t'.len : ℤ) ≠ -1 ∧ (t'.len : ℤ) ≠ 0 := by omega
    rw [hfirst, readHeader, hget]
    simp only
    rw [readLength, decodenb, if_pos rfl]
    simp only [hloop, if_neg hpos.1, if_neg hpos.2, hrem]
    rw [if_neg (by rw [hencode]; omega)]
    rfl
  · rfl
  · simp only at hcountdown ⊢
    omega

/-- Where every turn finds something and there are enough of them, a packet is read exactly when it has a body and
fits in the buffer: an empty one is waited for without end. -/
theorem pollPacket_complete (hbody : body.length < 2 ^ 28) (htype : 0 < typeOf b) (hone : t.state ≠ 1)
    (htwo : t.state ≠ 2) (hs : s.bytes = packet b body ++ rest) (hp : Prompt s.turns)
    (hturns : (packet b body).length ≤ s.turns.length) (hcalls : body.length ≤ calls) :
    Complete b body rest buflen (pollPacket buflen calls buf t s) ↔
      body ≠ [] ∧ (packet b body).length ≤ buflen := by
  constructor
  · exact fun h => ⟨h.nonempty, h.fits⟩
  · rintro ⟨hne, hfits⟩
    obtain ⟨buf', t', s', hfirst, hat⟩ := packetReadnb_first buf hbody hfits hone htwo hs hp hturns
    have hread : pollPacket buflen calls buf t s = pollPacket buflen calls buf' t' s' := by
      cases calls with
      | zero => exact absurd (Nat.le_zero.1 hcalls) (List.length_pos_of_ne_nil hne).ne'
      | succ calls => rw [pollPacket, hfirst, ← pollPacket]
    have hrc := pollPacket_body htype hne hcalls hat
    have hmoves : Moves b body rest buflen (pollPacket buflen calls buf t s) :=
      pollPacket_moves hbody htype (.header hone htwo hs)
    rw [← hread] at hrc
    cases hmoves with
    | error hrc' => omega
    | again hrc' => omega
    | done h => exact h

theorem pollPacket_complete_two :
    Complete 0x40 [0, 7] [0xd0] 4
      (pollPacket 4 2 (fun _ => 0) ⟨0, 0, 0, 0⟩ ⟨[0x40, 2, 0, 7, 0xd0], List.replicate 4 (some 1)⟩) ↔
      [0, 7] ≠ ([] : List Byte) ∧ (packet 0x40 [0, 7]).length ≤ 4 :=
  pollPacket_complete (by decide) (by decide) Nat.zero_ne_one (Nat.succ_ne_zero 1).symm rfl
    (fun x hx => ⟨1, Nat.one_pos, List.eq_of_mem_replicate hx⟩) (by decide) (by decide)

end packet

end IoLibrary.Mqtt
