import IoLibrary.W5300.Fifo

/-! The bytes that recv and recvfrom get of a FIFO of packets, over any calls. -/
namespace IoLibrary.W5300
open Effects FifoWords

/-- A packet in the FIFO: what stands before its size, its data and the byte that pads them. -/
structure Packet where
  head : List (BitVec 16)
  data : List Byte
  pad : Byte
  data_ne : data ≠ []
  data_lt : data.length < 65536

def Packet.words (p : Packet) : List (BitVec 16) :=
  p.head ++ BitVec.ofNat 16 p.data.length :: packed p.pad p.data

/-- The words before the size of a packet: none on a TCP connection, the address and the port of a datagram. -/
def headWords (mode : Byte) : ℕ := if mode &&& 0x03 = 0x01 then 0 else 3

/-- The reads of the FIFO have taken each of its words once, in order. -/
structure Placed (all : List (BitVec 16)) (w : Line) : Prop where
  fifo : w.fifo = all.drop w.reads
  inside : w.reads ≤ all.length

/-- A socket of a TCP connection or for datagrams with room to receive, of whose packet `cur` is left
to read, and the packets `rest` after it. -/
structure Unread (sn : ℕ) (all : List (BitVec 16)) (g : Globals) (carried : Byte) (w : Line) (cur : List Byte)
    (rest : List Packet) : Prop where
  mode : (g.sock sn).mode &&& 0x03 = 0x01 ∨ (g.sock sn).mode &&& 0x0F = snMrUdp
  room : 0 < g.rxmaxCache sn
  heads : ∀ p ∈ rest, p.head.length = headWords (g.sock sn).mode
  size : (g.sock sn).remainedSize = cur.length
  short : cur.length < 65536
  placed : Placed all w
  whole : ¬ Carries sn g → ∃ pad, w.fifo = packed pad cur ++ rest.flatMap Packet.words
  half : Carries sn g → ∃ tail, cur = carried :: tail ∧ ∃ pad, w.fifo = packed pad tail ++ rest.flatMap Packet.words

/-- `k` bytes of `cur` have been copied, and the byte beside the last of them, if it is one. -/
structure Copied (all : List (BitVec 16)) (carried : Byte) (w : Line) (cur : List Byte) (rest : List Packet) (k : ℕ) :
    Prop where
  placed : Placed all w
  half : k % 2 = 1 → k < cur.length → cur.drop k = carried :: cur.drop (k + 1)
  fifo : ∃ pad, w.fifo = packed pad (cur.drop (k + k % 2)) ++ rest.flatMap Packet.words

section chunks
variable {sn n k : ℕ} {size : Option RxSize} {all : List (BitVec 16)} {g g' : Globals} {carried : Byte} {w w' : Line}
  {cur : List Byte} {rest : List Packet} {H : Globals → Line → Prop}

lemma Placed.drop {l : List (BitVec 16)} (h : Placed all w) (hk : k ≤ w.fifo.length) (hl : l = w.fifo.drop k)
    (waiting : Bool) : Placed all { fifo := l, reads := w.reads + k, waiting := waiting } := by
  refine ⟨?_, ?_⟩
  · rw [hl, h.fifo, List.drop_drop]
  · have hlength : w.fifo.length = all.length - w.reads := by rw [h.fifo, List.length_drop]
    have hinside := h.inside
    show w.reads + k ≤ all.length
    omega

/-- The copy of `k` bytes out of whole words. -/
lemma wpg_copied {Q : List Byte × Byte → Globals → Line → Prop} (h : Unread sn all g carried w cur rest)
    (hwhole : ¬ Carries sn g) (hk : k ≤ cur.length)
    (next : ∀ carried' w', Copied all carried' w' cur rest k → Q (cur.take k, carried') g w') :
    wpg (fifoChip sn size) (wizRecvData sn k carried) Q H g w := by
  obtain ⟨pad, hfifo⟩ := h.whole hwhole
  by_cases hzero : k = 0
  · subst hzero
    rw [wizRecvData, if_pos rfl]
    exact next _ _ ⟨h.placed, fun h => absurd h (by decide), pad, hfifo⟩
  · rw [wizRecvData, if_neg hzero]
    refine (wpv_bind _ _).2 (wpg_recvBytes (by decide) hk hfifo fun rd' hodd => ?_)
    refine next _ _ ⟨?_, fun hodd' hlt => ?_, pad, rfl⟩
    · have hlength : (packed pad cur).length = (cur.length + 1) / 2 := length_words _ _ _
      refine h.placed.drop (k := (k + 1) / 2) ?_ ?_ _
      · rw [hfifo, List.length_append]
        omega
      · rw [hfifo, List.drop_append_of_le_length (by omega), packed, drop_words, show 2 * ((k + 1) / 2) = k + k % 2 by omega]
    · have hcons := List.drop_eq_getElem_cons hlt
      rw [hcons, hodd hodd', hcons, List.headD_cons]

/-- The bytes that have not been read yet. -/
def payload (cur : List Byte) (rest : List Packet) : List Byte := cur ++ rest.flatMap Packet.data

/-- Where a packet has been read to its end, the FIFO holds whole packets. -/
lemma Unread.between (h : Unread sn all g carried w [] rest) : ¬ Carries sn g ∧ w.fifo = rest.flatMap Packet.words := by
  have hnone : ¬ Carries sn g := fun hsome => by
    obtain ⟨tail, hnil, -⟩ := h.half hsome
    cases hnil
  obtain ⟨pad, hfifo⟩ := h.whole hnone
  exact ⟨hnone, hfifo⟩

lemma words_packets (p : Packet) (later : List Packet) : (p :: later).flatMap Packet.words =
    (p.head ++ [BitVec.ofNat 16 p.data.length]) ++ (packed p.pad p.data ++ later.flatMap Packet.words) := by
  simp [Packet.words]

/-- The header has been read. -/
lemma Unread.started {p : Packet} {later : List Packet} (h : Unread sn all g carried w [] (p :: later)) (carried' : Byte)
    (waiting : Bool) :
    Unread sn all (g.setSock sn fun s => { s with remainedSize := p.data.length, packInfo := packFirst }) carried'
      { fifo := packed p.pad p.data ++ later.flatMap Packet.words, reads := w.reads + (p.head.length + 1), waiting := waiting }
      p.data later := by
  have hnone : ¬ Carries sn (g.setSock sn fun s => { s with remainedSize := p.data.length, packInfo := packFirst }) := by
    rw [Carries, Globals.setSock_same, not_not]
    exact show packFirst &&& packFifobyte = 0 by decide
  have hfifo := h.between.2.trans (words_packets p later)
  refine ⟨?_, h.room, ?_, ?_, p.data_lt, h.placed.drop ?_ ?_ _, fun _ => ⟨p.pad, rfl⟩, fun h => absurd h hnone⟩
  · rw [Globals.setSock_same]
    exact h.mode
  · rw [Globals.setSock_same]
    exact fun q hq => h.heads q (List.mem_cons_of_mem _ hq)
  · rw [Globals.setSock_same]
  · rw [hfifo, List.length_append, List.length_append]
    exact Nat.le_add_right _ _
  · rw [hfifo, List.drop_left' (by rw [List.length_append]; rfl)]

/-- A call has taken what it returned off the front of the bytes `before`. -/
structure Took (sn : ℕ) (all : List (BitVec 16)) (before : List Byte) (r : Received) (carried : Byte) (g : Globals)
    (w : Line) : Prop where
  left : ∃ cur rest, Unread sn all g carried w cur rest ∧ before = r.bytes ++ payload cur rest
  counted : r.ret = r.bytes.length ∨ r.ret ≤ 0 ∧ r.bytes = []

/-- What a call owes when its RECV has been accepted, and when it is sure to find a byte. -/
structure Given (sn : ℕ) (all : List (BitVec 16)) (before : List Byte) (sure : Prop) (out : Received × Byte) (g : Globals)
    (w : Line) : Prop where
  took : w.waiting = false → Took sn all before out.1 out.2 g w
  some : sure → 0 < out.1.ret ∧ w.waiting = false

/-- The accounting for `k` bytes: the size that is left, and whether the byte beside the last of them is kept. -/
structure Accounted (sn k : ℕ) (g g' : Globals) : Prop where
  mode : (g'.sock sn).mode = (g.sock sn).mode
  room : g'.rxmaxCache = g.rxmaxCache
  size : (g'.sock sn).remainedSize = (g.sock sn).remainedSize - k
  carries : Carries sn g' ↔ (g.sock sn).remainedSize ≠ k ∧ k % 2 = 1

lemma Unread.accounted {carried' : Byte} (h : Unread sn all g carried w cur rest) (hk : k ≤ cur.length)
    (hcopied : Copied all carried' w' cur rest k) (hacc : Accounted sn k g g') :
    Unread sn all g' carried' w' (cur.drop k) rest := by
  obtain ⟨pad, hfifo⟩ := hcopied.fifo
  have hcarries := hacc.carries
  rw [h.size] at hcarries
  refine ⟨hacc.mode ▸ h.mode, hacc.room ▸ h.room, hacc.mode ▸ h.heads, ?_, ?_, hcopied.placed, fun hnone => ?_, fun hsome => ?_⟩
  · rw [hacc.size, h.size, List.length_drop]
  · have hshort := h.short
    rw [List.length_drop]
    omega
  · refine ⟨pad, hfifo.trans ?_⟩
    by_cases hodd : k % 2 = 1
    · have hend : cur.length = k := by
        by_contra hne
        exact hnone (hcarries.2 ⟨hne, hodd⟩)
      rw [List.drop_eq_nil_of_le (by omega), List.drop_eq_nil_of_le (by omega)]
    · rw [show k % 2 = 0 by omega, Nat.add_zero]
  · obtain ⟨hne, hodd⟩ := hcarries.1 hsome
    refine ⟨_, hcopied.half hodd (by omega), pad, hfifo.trans ?_⟩
    rw [hodd]

/-- The byte that is kept goes first, and from then on the FIFO holds whole words of the packet. -/
lemma wpg_takeCarried {Q : List Byte → Globals → Line → Prop} (h : Unread sn all g carried w cur rest)
    (next : ∀ g' first u, Unread sn all g' carried w u rest → ¬ Carries sn g' → cur = first ++ u → first.length ≤ 1 →
      Q first g' w) : wpg (fifoChip sn size) (takeCarried sn carried) Q H g w := by
  simp only [takeCarried, wpv_bind, wpv_get, wpv_ite, wpv_pure, wpg_modifySock]
  rintro m rfl
  refine ⟨fun hsome => ?_, fun hnone => ?_⟩
  · obtain ⟨tail, rfl, pad, hfifo⟩ := h.half hsome
    have hclear : ∀ info : Byte, info &&& ~~~packFifobyte &&& packFifobyte = 0 := by decide
    have hnone : ¬ Carries sn (m.toGlobals.setSock sn fun s =>
        { s with
          packInfo := s.packInfo &&& ~~~packFifobyte
          remainedSize := (s.remainedSize + 65535) % 65536 }) := by
      rw [Carries, Globals.setSock_same, not_not]
      exact hclear _
    have hsize := h.size
    have hshort := h.short
    rw [List.length_cons] at hsize hshort
    refine next _ [carried] tail ⟨?_, h.room, ?_, ?_, by omega, h.placed, fun _ => ⟨pad, hfifo⟩, fun h => absurd h hnone⟩ hnone rfl
      (Nat.le_refl 1)
    · rw [Globals.setSock_same]
      exact h.mode
    · rw [Globals.setSock_same]
      exact h.heads
    · rw [Globals.setSock_same]
      show ((m.toGlobals.sock sn).remainedSize + 65535) % 65536 = _
      omega
  · exact next _ [] cur h hnone rfl (Nat.zero_le 1)

lemma taken_front {first u : List Byte} (hcur : cur = first ++ u) (hfirst : first.length ≤ n) :
    first ++ u.take (n - first.length) = cur.take n ∧ u.drop (n - first.length) = cur.drop n := by
  rw [hcur, List.take_append, List.drop_append, List.take_of_length_le hfirst, List.drop_eq_nil_of_le hfirst]
  exact ⟨rfl, rfl⟩

/-- What a call gave of the current packet. -/
lemma Unread.took (h : Unread sn all g carried w (cur.drop n) rest) {r : Received} (hn : n ≤ cur.length)
    (hbytes : r.bytes = cur.take n) (hret : r.ret = n) : Took sn all (payload cur rest) r carried g w := by
  refine ⟨⟨_, _, h, ?_⟩, .inl ?_⟩
  · rw [hbytes, payload, payload, ← List.append_assoc, List.take_append_drop]
  · rw [hbytes, hret, List.length_take, Nat.min_eq_left hn]

/-- A call that gave nothing and changed nothing, and was not sure to find a byte. -/
lemma Unread.refused {sure : Prop} (h : Unread sn all g carried w cur rest) (hnot : ¬ sure) {ret : ℤ} (hret : ret ≤ 0) :
    Given sn all (payload cur rest) sure ({ ret := ret }, carried) g w :=
  ⟨fun _ => ⟨⟨_, _, h, rfl⟩, .inr ⟨hret, rfl⟩⟩, fun hsure => absurd hsure hnot⟩

/-- A call whose RECV has not been accepted. -/
lemma given_waiting {sure : Prop} {before : List Byte} {out : Received × Byte} (hwaiting : w.waiting = true) (hnot : ¬ sure) :
    Given sn all before sure out g w :=
  ⟨fun haccepted => absurd (hwaiting.symm.trans haccepted) (by decide), fun hsure => absurd hsure hnot⟩

end chunks

section calls
variable {b : Build} {sn len k : ℕ} {size : Option RxSize} {sure : Prop} {all : List (BitVec 16)} {g : Globals} {carried : Byte}
  {w : Line} {cur : List Byte} {rest : List Packet}

lemma wpg_aligned {Q : Bool → Globals → Line → Prop} {H : Globals → Line → Prop} (h : Q false g w) :
    wpg (fifoChip sn size) (aligned sn) Q H g w := by
  refine (wpv_bind _ _).2 (wpg_readShown ?_ ?_ fun mr hmr _ => ?_)
  · simp [snMR, snRXFIFOR, atOffset]
  · simp [snMR, snCR, atOffset]
  · rw [wpv_pure, hmr.unaligned rfl]
    exact h

lemma wpg_getMR {Q : BitVec 16 → Globals → Line → Prop} {H : Globals → Line → Prop} (h : ∀ mr, mr &&& mrFS = 0 → Q mr g w) :
    wpg (fifoChip sn size) getMR Q H g w := by
  refine wpg_readShown ?_ ?_ fun mr hmr _ => h mr (hmr.mode rfl)
  · simp [snRXFIFOR, sregBlock, atOffset]
  · simp [snCR, sregBlock, atOffset]

/-- The flag for a kept byte in the two ways of setting the packet information. -/
lemma flag_iff {info : Byte} (hinfo : info &&& packFifobyte = 0) (rest k : ℕ) :
    ((if rest ≠ 0 then info ||| packRemained ||| (if k % 2 = 1 then packFifobyte else 0) else packCompleted) &&& packFifobyte ≠ 0 ↔
        rest ≠ 0 ∧ k % 2 = 1) ∧
      ((info ||| (if rest ≠ 0 then packRemained ||| (if k % 2 = 1 then packFifobyte else 0) else packCompleted)) &&& packFifobyte ≠ 0 ↔
        rest ≠ 0 ∧ k % 2 = 1) := by
  have bits : ∀ info : Byte, info &&& packFifobyte = 0 → (info ||| packRemained ||| packFifobyte) &&& packFifobyte ≠ 0 ∧
      (info ||| packRemained ||| 0) &&& packFifobyte = 0 ∧ (info ||| (packRemained ||| packFifobyte)) &&& packFifobyte ≠ 0 ∧
      (info ||| (packRemained ||| 0)) &&& packFifobyte = 0 ∧ (info ||| packCompleted) &&& packFifobyte = 0 := by decide
  obtain ⟨hset, hclear, hset', hclear', hcompleted⟩ := bits info hinfo
  by_cases hrest : rest ≠ 0
  · by_cases hodd : k % 2 = 1
    · simp only [if_pos hrest, if_pos hodd]
      exact ⟨iff_of_true hset ⟨hrest, hodd⟩, iff_of_true hset' ⟨hrest, hodd⟩⟩
    · simp only [if_pos hrest, if_neg hodd]
      exact ⟨iff_of_false (not_not.2 hclear) fun h => hodd h.2, iff_of_false (not_not.2 hclear') fun h => hodd h.2⟩
  · simp only [if_neg hrest]
    exact ⟨iff_of_false (by decide) fun h => hrest h.1, iff_of_false (not_not.2 hcompleted) fun h => hrest h.1⟩

/-- What both ways of setting it leave. -/
lemma accounted_of {f : Sock → Sock} {cur : List Byte} (hsize : (g.sock sn).remainedSize = cur.length) (hshort : cur.length < 65536)
    (hk : k ≤ cur.length) (hmode : (f (g.sock sn)).mode = (g.sock sn).mode)
    (hrest : (f (g.sock sn)).remainedSize = ((g.sock sn).remainedSize + 65536 - k) % 65536)
    (hflag : (f (g.sock sn)).packInfo &&& packFifobyte ≠ 0 ↔ ((g.sock sn).remainedSize + 65536 - k) % 65536 ≠ 0 ∧ k % 2 = 1) :
    Accounted sn k g (g.setSock sn f) := by
  have hmod : ((g.sock sn).remainedSize + 65536 - k) % 65536 = (g.sock sn).remainedSize - k := by omega
  rw [hmod] at hrest hflag
  refine ⟨?_, rfl, ?_, ?_⟩
  · rw [Globals.setSock_same, hmode]
  · rw [Globals.setSock_same, hrest]
  · rw [Carries, Globals.setSock_same, hflag]
    exact and_congr_left fun _ => by omega

lemma wpg_recvFinish {Q : Unit → Globals → Line → Prop} {H : Globals → Line → Prop} (h : Unread sn all g carried w cur rest)
    (hnone : ¬ Carries sn g) (hk : k ≤ cur.length) {w' : Line} (next : ∀ g', Accounted sn k g g' → Q () g' w') :
    wpg (fifoChip sn size) (recvFinish sn k) Q H g w' := by
  refine (wpv_bind _ _).2 ((wpg_modifySock _ _).2 ((wpv_bind _ _).2 (wpg_aligned ?_)))
  rw [if_neg (by decide), wpv_pure]
  refine next _ (accounted_of h.size h.short hk rfl rfl ?_)
  exact (flag_iff (not_not.1 hnone) _ _).1

/-- recv behind the header of its packet. -/
lemma wpg_recvCommit {t : ℕ} (hsure : sure → size ≠ none) (h : Unread sn all g carried w cur rest) (hcur : cur ≠ [])
    (hlen : 0 < len) (hwaiting : sure → w.waiting = false) :
    wpg (fifoChip sn size) (recvCommit b sn len t carried) (Given sn all (payload cur rest) sure) (Unsure sure) g w := by
  have hpos := List.length_pos_iff.2 hcur
  rw [recvCommit]
  refine (wpv_bind _ _).2 (wpv_get.2 ?_)
  rintro m rfl
  rw [show (m.sock sn).remainedSize = cur.length from h.size]
  have hn : 0 < min len cur.length ∧ min len cur.length ≤ cur.length := by omega
  generalize min len cur.length = n at hn
  refine (wpv_bind _ _).2 (wpg_takeCarried h fun g₁ first u hu hnone hsplit hfirst => ?_)
  obtain ⟨hbytes, hleft⟩ := taken_front hsplit (show first.length ≤ n by omega)
  have hshort := h.short
  have hlength : cur.length = first.length + u.length := by rw [hsplit, List.length_append]
  have hk : n - first.length ≤ u.length := by omega
  simp only [show (n + 65536 - first.length) % 65536 = n - first.length by omega, wpv_ite]
  have finish {carried' : Byte} {w' : Line} (hcopied : Copied all carried' w' u rest (n - first.length))
      (haccepted : sure → w'.waiting = false) (g' : Globals) (hacc : Accounted sn (n - first.length) g₁ g') :
      Given sn all (payload cur rest) sure ({ ret := n, bytes := cur.take n }, carried') g' w' := by
    refine ⟨fun _ => Unread.took (hleft ▸ hu.accounted hk hcopied hacc) hn.2 rfl rfl, fun h => ⟨?_, haccepted h⟩⟩
    exact Int.natCast_pos.2 hn.1
  refine ⟨fun hsome => ?_, fun hzero => ?_⟩
  · refine (wpv_bind _ _).2 (wpg_copied hu hnone hk fun carried' w₁ hcopied => ?_)
    refine (wpv_bind _ _).2 (wpg_recv ((wpv_bind _ _).2 ?_))
    refine (timed_deadlineAbs _).wpg (ticks_fifo (I := (· = { w₁ with waiting := true }))) rfl fun d w₂ hw₂ => ?_
    subst hw₂
    refine (wpv_bind _ _).2 (wpg_waitCrAccepted hsure rfl ?_ fun hnot ret hret g' w' hwaiting => ?_)
    · rw [if_neg (not_not.2 rfl)]
      refine (wpv_bind _ _).2 (wpg_recvFinish hu hnone hk fun g' hacc => ?_)
      have haccepted : Copied all carried' { w₁ with waiting := false } u rest (n - first.length) :=
        ⟨⟨hcopied.placed.fifo, hcopied.placed.inside⟩, hcopied.half, hcopied.fifo⟩
      rw [wpv_pure, hbytes]
      exact finish haccepted (fun _ => rfl) g' hacc
    · simp only [if_pos hret, markFaulted, wpv_bind, wpg_modifySock, wpv_pure]
      exact given_waiting hwaiting hnot
  · rw [not_not] at hzero
    refine (wpv_bind _ _).2 (wpg_recvFinish hu hnone (Nat.zero_le _) fun g' hacc => ?_)
    rw [hzero, List.take_zero, List.append_nil] at hbytes
    obtain ⟨pad, hfifo⟩ := hu.whole hnone
    rw [← hzero] at hacc
    rw [wpv_pure, hbytes]
    exact finish ⟨hu.placed, fun hodd => by omega, pad, by rw [hzero]; exact hfifo⟩ hwaiting g' hacc

/-- The size before a packet of a connection. -/
lemma wpg_recvStart {Q : Byte → Globals → Line → Prop} {recvsize : ℕ} (h : Unread sn all g carried w cur rest)
    (htcp : (g.sock sn).mode &&& 0x03 = 0x01) (hready : cur = [] → w.fifo ≠ [])
    (next : ∀ g' carried' w' cur' rest', Unread sn all g' carried' w' cur' rest' → cur' ≠ [] →
      payload cur rest = payload cur' rest' → w'.waiting = w.waiting → Q carried' g' w') :
    wpg (fifoChip sn size) (recvStart sn recvsize carried) Q (Unsure sure) g w := by
  rw [recvStart]
  refine (wpv_bind _ _).2 (wpv_get.2 ?_)
  rintro m rfl
  simp only [show (m.sock sn).remainedSize = cur.length from h.size, wpv_ite]
  refine ⟨fun hnil => ?_, fun hcur => ?_⟩
  · obtain rfl := List.length_eq_zero_iff.1 hnil
    have hfifo := h.between.2
    obtain _ | ⟨p, later⟩ := rest
    · exact absurd hfifo (hready rfl)
    · have hhead : p.head = [] := by
        have hlength := h.heads p (List.mem_cons_self ..)
        rw [headWords, if_pos htcp] at hlength
        exact List.length_eq_zero_iff.1 hlength
      rw [words_packets, hhead, List.nil_append] at hfifo
      rw [wpv_bind, wpv_pure, if_pos rfl]
      refine (wpv_bind _ _).2 (wpg_getMR fun mr hmr => (wpv_bind _ _).2 (wpg_aligned ?_))
      rw [if_neg (by decide)]
      refine (wpv_bind _ _).2 (wpg_readHeader (List.cons_ne_nil _ _) hfifo fun carried' => ?_)
      simp only [wpv_bind, wpg_modifySock, wpv_pure, if_neg (not_not.2 hmr)]
      have hsize : word16 (byteAt (unpacked [BitVec.ofNat 16 p.data.length]) 0) (byteAt (unpacked [BitVec.ofNat 16 p.data.length]) 1) =
          p.data.length := by
        rw [unpacked, List.flatMap_singleton, byteAt, byteAt]
        exact (word16_unpacked _).trans (by rw [BitVec.toNat_ofNat, Nat.mod_eq_of_lt p.data_lt])
      rw [hsize]
      have hstarted := h.started carried' w.waiting
      rw [hhead] at hstarted
      exact next _ _ _ _ _ hstarted p.data_ne (by simp [payload]) rfl
  · refine (wpv_bind _ _).2 (wpg_aligned ?_)
    rw [if_neg (by decide), wpv_pure]
    exact next _ _ _ _ _ h (fun hnil => hcur (hnil ▸ rfl)) rfl rfl

/-- Bytes are left, a prompt chip has no RECV in progress, the socket is healthy and its deadlines are configured. -/
structure Ready (b : Build) (sn : ℕ) (size : Option RxSize) (g : Globals) (w : Line) (left : List Byte) : Prop where
  prompt : size ≠ none
  turns : 1 < b.turns
  idle : w.waiting = false
  healthy : (g.sock sn).health ≠ .faulted
  deadline : g.deadlineConfigValid
  some : left ≠ []

/-- Where bytes are left behind a packet, the FIFO holds them. -/
lemma Ready.fifo (h : Ready b sn size g w (payload [] rest)) (hunread : Unread sn all g carried w [] rest) : w.fifo ≠ [] := by
  rw [hunread.between.2]
  obtain _ | ⟨p, later⟩ := rest
  · exact absurd rfl h.some
  · rw [words_packets]
    simp

lemma wpg_recvLocked (hsure : sure → Ready b sn size g w (payload cur rest) ∧ (g.sock sn).mode &&& 0x03 = 0x01)
    (h : Unread sn all g carried w cur rest) (hlen : 0 < len) :
    wpg (fifoChip sn size) (recvLocked b sn len carried) (Given sn all (payload cur rest) sure) (Unsure sure) g w := by
  have hroom := h.room
  have commit (t : ℕ) (g' : Globals) (carried' : Byte) (w' : Line) (cur' : List Byte) (rest' : List Packet)
      (h' : Unread sn all g' carried' w' cur' rest') (hcur : cur' ≠ []) (hsame : payload cur rest = payload cur' rest')
      (hwaiting : w'.waiting = w.waiting) : wpg (fifoChip sn size) (recvCommit b sn (min len (g.rxmaxCache sn)) t carried')
        (Given sn all (payload cur rest) sure) (Unsure sure) g' w' := by
    rw [hsame]
    exact wpg_recvCommit (fun h => (hsure h).1.prompt) h' hcur (by omega) fun h => hwaiting.trans (hsure h).1.idle
  refine (wpv_bind _ _).2 (wpv_get.2 ?_)
  rintro m rfl
  simp only [show (m.sock sn).remainedSize = cur.length from h.size, wpv_ite, wpv_pure]
  refine ⟨fun hbad => ?_, fun _ => ⟨fun hbad => ?_, fun _ => ⟨fun hbad => ?_, fun htcp => ⟨fun hnil => ?_, fun hcur => ?_⟩⟩⟩⟩
  · exact h.refused (fun h => (hsure h).1.healthy hbad) (by decide)
  · exact h.refused (fun h => hbad (hsure h).1.deadline) (by decide)
  · exact h.refused (fun h => hbad (hsure h).2) (by decide)
  · obtain rfl := List.length_eq_zero_iff.1 hnil
    refine (wpv_bind _ _).2 ((timed_deadlineAbs _).wpg (ticks_fifo (I := (· = w))) rfl fun d w₁ hw₁ => ?_)
    subst hw₁
    have hfifo (hs : sure) : size ≠ none ∧ 1 < b.turns ∧ w₁.fifo ≠ [] :=
      ⟨(hsure hs).1.prompt, (hsure hs).1.turns, (hsure hs).1.fifo h⟩
    refine (wpv_bind _ _).2 (wpg_recvWait hfifo (not_not.1 htcp) h.between.1 (fun n hready => ?_) fun hnot e he => h.refused hnot he)
    exact (wpv_bind _ _).2 (wpg_recvStart h (not_not.1 htcp) (fun _ => hready) (commit _))
  · exact (wpv_bind _ _).2 (wpg_recvStart h (not_not.1 htcp) (fun hnil => absurd (hnil ▸ rfl) hcur) (commit _))

lemma wpg_recvfromFinish {nonblocking : Bool} {out : Received} {Q : Received → Globals → Line → Prop} {n : ℕ}
    (hsure : sure → size ≠ none) (h : Unread sn all g carried w cur rest) (hnone : ¬ Carries sn g) (hk : k ≤ cur.length) {w' : Line}
    (accepted : ∀ g', Accounted sn k g g' → Q { out with ret := n } g' { w' with waiting := false })
    (refused : ¬ sure → ∀ ret g' w', w'.waiting = true → Q { out with ret := ret } g' w') :
    wpg (fifoChip sn size) (recvfromFinish b sn k n nonblocking out) Q (Unsure sure) g w' := by
  refine (wpv_bind _ _).2 (wpg_recv ((wpv_bind _ _).2 (wpv_get.2 ?_)))
  rintro m rfl
  refine (wpv_bind _ _).2 (wpg_waitDatagramCrAccepted hsure rfl ?_ fun hnot ret hret g' w'' hwaiting => ?_)
  · rw [if_neg (not_not.2 rfl), wpv_bind]
    refine (wpg_modifySock _ _).2 (accepted _ (accounted_of h.size h.short hk rfl rfl ?_))
    exact (flag_iff (not_not.1 hnone) _ _).2
  · rw [if_pos hret, wpv_pure]
    exact refused hnot _ _ _ hwaiting

/-- recvfrom behind the header of its datagram. -/
lemma wpg_recvfromUdpChunk {nonblocking : Bool} {out : Received} (hsure : sure → size ≠ none)
    (h : Unread sn all g carried w cur rest) (hcur : cur ≠ []) (hlen : 0 < len) :
    wpg (fifoChip sn size) (recvfromUdpChunk b sn len nonblocking carried out) (Given sn all (payload cur rest) sure) (Unsure sure)
      g w := by
  have hpos := List.length_pos_iff.2 hcur
  rw [recvfromUdpChunk]
  refine (wpv_bind _ _).2 (wpv_get.2 ?_)
  rintro m rfl
  rw [show (m.sock sn).remainedSize = cur.length from h.size]
  have hn : 0 < min len cur.length ∧ min len cur.length ≤ cur.length := by omega
  generalize min len cur.length = n at hn
  refine (wpv_bind _ _).2 (wpg_takeCarried h fun g₁ first u hu hnone hsplit hfirst => ?_)
  obtain ⟨hbytes, hleft⟩ := taken_front hsplit (show first.length ≤ n by omega)
  have hshort := h.short
  have hlength : cur.length = first.length + u.length := by rw [hsplit, List.length_append]
  have hk : n - first.length ≤ u.length := by omega
  simp only [show (n + 65536 - first.length) % 65536 = n - first.length by omega]
  refine (wpv_bind _ _).2 (wpg_copied hu hnone hk fun carried' w₁ hcopied => ?_)
  refine (wpv_bind _ _).2 (wpg_recvfromFinish hsure hu hnone hk (fun g' hacc => ?_) fun hnot ret g' w' hwaiting => ?_)
  · have haccepted : Copied all carried' { w₁ with waiting := false } u rest (n - first.length) :=
      ⟨⟨hcopied.placed.fifo, hcopied.placed.inside⟩, hcopied.half, hcopied.fifo⟩
    refine ⟨fun _ => ?_, fun _ => ⟨Int.natCast_pos.2 hn.1, rfl⟩⟩
    exact Unread.took (hleft ▸ hu.accounted hk haccepted hacc) hn.2 hbytes rfl
  · exact given_waiting hwaiting hnot

lemma wpg_recvfromUdp {mr : BitVec 16} {nonblocking : Bool} (hsure : sure → size ≠ none) (h : Unread sn all g carried w cur rest)
    (hlen : 0 < len) (hmr : mr &&& mrFS = 0) (hudp : (g.sock sn).mode &&& 0x0F = snMrUdp) (hready : cur = [] → w.fifo ≠ []) :
    wpg (fifoChip sn size) (recvfromUdp b sn mr len nonblocking carried) (Given sn all (payload cur rest) sure) (Unsure sure)
      g w := by
  rw [recvfromUdp]
  refine (wpv_bind _ _).2 (wpv_get.2 ?_)
  rintro m rfl
  simp only [show (m.sock sn).remainedSize = cur.length from h.size, wpv_ite]
  refine ⟨fun hnil => ?_, fun hcur => wpg_recvfromUdpChunk hsure h (fun hnil => hcur (hnil ▸ rfl)) hlen⟩
  obtain rfl := List.length_eq_zero_iff.1 hnil
  have hfifo := h.between.2
  obtain _ | ⟨p, later⟩ := rest
  · exact absurd hfifo (hready rfl)
  · have hhead : p.head.length = 3 := by
      have hmode : ∀ mode : Byte, mode &&& 0x0F = snMrUdp → mode &&& 0x03 ≠ 0x01 := by decide
      rw [h.heads p (List.mem_cons_self ..), headWords, if_neg (hmode _ hudp)]
    rw [words_packets] at hfifo
    have hstarted := h.started
    obtain ⟨v₀, v₁, v₂, hthree⟩ := List.length_eq_three.1 hhead
    rw [hthree] at hstarted
    have hwords : w.fifo = [v₀, v₁, v₂, BitVec.ofNat 16 p.data.length] ++ (packed p.pad p.data ++ later.flatMap Packet.words) := by
      rw [hfifo, hthree]
      rfl
    refine (wpv_bind _ _).2 ((wpv_bind _ _).2 (wpv_get.2 fun m' _ => ?_))
    refine (wpv_bind _ _).2 (wpg_readHeader (List.cons_ne_nil _ _) hwords fun carried' => ?_)
    refine (wpv_bind _ _).2 (wpg_recv ((wpv_bind _ _).2 ?_))
    refine wpg_waitDatagramCrAccepted hsure rfl ?_ fun hnot ret hret g' w' hwaiting => ?_
    · have hsize : word16 (byteAt (unpacked [v₀, v₁, v₂, BitVec.ofNat 16 p.data.length]) 6)
          (byteAt (unpacked [v₀, v₁, v₂, BitVec.ofNat 16 p.data.length]) 7) = p.data.length :=
        (word16_unpacked _).trans (by rw [BitVec.toNat_ofNat, Nat.mod_eq_of_lt p.data_lt])
      have hsame : payload [] (p :: later) = payload p.data later := by simp [payload]
      simp only [wpv_pure, ne_eq, not_true_eq_false, if_false, hmr]
      refine (wpv_bind _ _).2 ((wpg_modifySock _ _).2 ?_)
      rw [hsize, hsame]
      exact wpg_recvfromUdpChunk hsure (hstarted carried' false) p.data_ne hlen
    · simp only [wpv_pure, if_pos hret]
      exact given_waiting hwaiting hnot

lemma wpg_recvfromLocked {addrPort : Bool}
    (hsure : sure → Ready b sn size g w (payload cur rest) ∧ (g.sock sn).mode &&& 0x0F = snMrUdp ∧ addrPort)
    (h : Unread sn all g carried w cur rest) (hlen : 0 < len) :
    wpg (fifoChip sn size) (recvfromLocked b sn len addrPort carried) (Given sn all (payload cur rest) sure) (Unsure sure) g w := by
  refine (wpv_bind _ _).2 (wpv_get.2 ?_)
  rintro m rfl
  simp only [show (m.sock sn).remainedSize = cur.length from h.size, wpv_ite, wpv_pure]
  refine ⟨fun hbad => ?_, fun _ => ⟨fun hbad => ?_, fun _ => ?_⟩⟩
  · exact h.refused (fun h => (hsure h).1.healthy hbad) (by decide)
  · exact h.refused (fun h => hbad (hsure h).1.deadline) (by decide)
  refine (wpv_bind _ _).2 (wpg_getMR fun mr hmr => ?_)
  simp only [wpv_ite, wpv_pure]
  refine ⟨fun hbad => h.refused (fun h => hbad.1 (hsure h).2.1) (by decide), fun hmode => ?_⟩
  have hudp : (m.sock sn).mode &&& 0x0F = snMrUdp := by
    have hother : ∀ mode : Byte, mode &&& 0x03 = 0x01 → mode &&& 0x0F ≠ snMrUdp ∧ mode &&& 0x0F ≠ snMrIpraw ∧
        mode &&& 0x0F ≠ snMrIpraw6 ∧ mode &&& 0x0F ≠ snMrMacraw := by decide
    exact h.mode.resolve_left fun htcp => hmode (hother _ htcp)
  have packet (n : ℕ) (hready : cur = [] → w.fifo ≠ []) : wpg (fifoChip sn size)
      (recvfromPacket b sn mr len n (m.sock sn).mode (m.sock sn).ioMode addrPort carried) (Given sn all (payload cur rest) sure)
      (Unsure sure) m.toGlobals w := by
    have hswitch : ∀ mode : Byte, mode &&& 0x0F = snMrUdp → mode &&& 0x07 = snMrUdp := by decide
    rw [recvfromPacket, if_pos (hswitch _ hudp)]
    refine (wpv_ite _ _ _).2 ⟨fun hbad => h.refused (fun h => hbad (hsure h).2.2) (by decide), fun _ => ?_⟩
    exact wpg_recvfromUdp (fun h => (hsure h).1.prompt) h hlen hmr hudp hready
  refine ⟨fun hnil => ?_, fun hcur => packet 0 fun hnil => absurd (hnil ▸ rfl) hcur⟩
  obtain rfl := List.length_eq_zero_iff.1 hnil
  refine (wpv_bind _ _).2 ((timed_deadlineAbs _).wpg (ticks_fifo (I := (· = w))) rfl fun d w₁ hw₁ => ?_)
  subst hw₁
  have hfifo (hs : sure) : size ≠ none ∧ 1 < b.turns ∧ w₁.fifo ≠ [] :=
    ⟨(hsure hs).1.prompt, (hsure hs).1.turns, (hsure hs).1.fifo h⟩
  refine (wpv_bind _ _).2 (wpg_recvfromWait hfifo h.between.1 (fun n hready => ?_) fun hnot e he => h.refused hnot he)
  exact packet n fun _ => hready

end calls

inductive Call
  | recv (buf : Bool) (len : ℕ)
  | recvfrom (buf : Bool) (len : ℕ) (addrPort : Bool)

def Call.run (b : Build) (sn : ℕ) : Call → Byte → Drv (Received × Byte)
  | .recv buf len, carried => W5300.recv b sn buf len carried
  | .recvfrom buf len addrPort, carried => W5300.recvfrom b sn buf len addrPort carried

/-- A call with a length and its buffers, on a socket of its kind. -/
def Call.Fits (sn : ℕ) (m : Driver) : Call → Prop
  | .recv buf len => buf ∧ 0 < len ∧ sn < sockNum ∧ m.chipState = .ready ∧ (m.sock sn).mode &&& 0x03 = 0x01
  | .recvfrom buf len addrPort => buf ∧ 0 < len ∧ sn < sockNum ∧ (m.sock sn).mode &&& 0x0F = snMrUdp ∧ addrPort

/-- The chip for a run of the driver. -/
abbrev fifoEnv (sn : ℕ) (size : Option RxSize) : Env Driver Line Io Io.Res := (fifoChip sn size).along Driver.toGlobals

/-- The byte that is kept for the next call. -/
def kept (sn : ℕ) (g : Globals) (carried : Byte) : Option Byte :=
  if Carries sn g then some carried else none

/-- Calls one after the other with every RECV accepted: each gets sock_remained_byte from the one before
it. The list has the byte that was kept for a call and what it returned. -/
inductive Session (b : Build) (sn : ℕ) : List (Option Byte × Received) → Byte → Driver → Line → Byte → Driver → Line → Prop
  | nil {carried m w} : Session b sn [] carried m w carried m w
  | call {c : Call} {r turns carried carried₁ carried' m m₁ m' w w₁ w'}
      (first : Eval (fifoEnv sn none) (c.run b sn carried) m w (some (r, carried₁)) m₁ w₁) (accepted : w₁.waiting = false)
      (rest : Session b sn turns carried₁ m₁ w₁ carried' m' w') :
      Session b sn ((kept sn m.toGlobals carried, r) :: turns) carried m w carried' m' w'

section session
variable {b : Build} {sn : ℕ} {size : Option RxSize} {all : List (BitVec 16)} {carried carried' : Byte} {m m' : Driver}
  {w w' : Line} {cur : List Byte} {rest : List Packet} {turns : List (Option Byte × Received)}

lemma wp_call (sure : Prop) (c : Call) (hsure : sure → Ready b sn size m.toGlobals w (payload cur rest) ∧ c.Fits sn m)
    (h : Unread sn all m.toGlobals carried w cur rest) : wp (fifoEnv sn size) (c.run b sn carried)
      (fun out m w => Given sn all (payload cur rest) sure out m.toGlobals w) (fun _ _ => ¬ sure) m w := by
  have unlocked {p : Drv (Received × Byte)}
      (hp : wpg (fifoChip sn size) p (Given sn all (payload cur rest) sure) (Unsure sure) m.toGlobals w) :
      wp (fifoEnv sn size) (locked sn p) (fun out m w => Given sn all (payload cur rest) sure out m.toGlobals w) (fun _ _ => ¬ sure)
        m w := by
    refine wp_of_wpv (H := Unsure sure) ((wpg_locked _ _).2 ?_)
    rintro x _ rfl
    refine wpv_mono hp ?_ fun _ _ => id
    rintro out g' w' hgiven y _ rfl
    exact hgiven
  cases c with
  | recv buf len =>
    simp only [Call.run, recv, wp_ite, wp_bind, wp_pure, wp_get]
    refine ⟨fun hlen => ?_, fun hlen => ⟨fun hbuf => ?_, fun _ => ⟨fun hsn => ?_, fun _ => ⟨fun hready => ?_, fun _ => ?_⟩⟩⟩⟩
    · exact h.refused (fun h => by have hfits := (hsure h).2; simp [Call.Fits, hlen] at hfits) (Int.le_refl 0)
    · exact h.refused (fun h => hbuf (hsure h).2.1) (by decide)
    · exact h.refused (fun h => absurd (hsure h).2.2.2.1 (Nat.not_lt.2 hsn)) (by decide)
    · exact h.refused (fun h => hready (hsure h).2.2.2.2.1) (by decide)
    · exact unlocked (wpg_recvLocked (fun h => ⟨(hsure h).1, (hsure h).2.2.2.2.2⟩) h (Nat.pos_of_ne_zero hlen))
  | recvfrom buf len addrPort =>
    simp only [Call.run, recvfrom, wp_ite, wp_pure]
    refine ⟨fun hlen => ?_, fun hlen => ⟨fun hbuf => ?_, fun _ => ⟨fun hsn => ?_, fun _ => ?_⟩⟩⟩
    · exact h.refused (fun h => by have hfits := (hsure h).2; simp [Call.Fits, hlen] at hfits) (Int.le_refl 0)
    · exact h.refused (fun h => hbuf (hsure h).2.1) (by decide)
    · exact h.refused (fun h => absurd (hsure h).2.2.2.1 (Nat.not_lt.2 hsn)) (by decide)
    · exact unlocked (wpg_recvfromLocked (fun h => ⟨(hsure h).1, (hsure h).2.2.2.2⟩) h (Nat.pos_of_ne_zero hlen))

/-- A byte that is kept is the first that is left. -/
lemma Unread.kept (h : Unread sn all m.toGlobals carried w cur rest) :
    ∀ c ∈ W5300.kept sn m.toGlobals carried, (payload cur rest).head? = some c := by
  intro c hc
  by_cases hsome : Carries sn m.toGlobals
  · rw [W5300.kept, if_pos hsome] at hc
    obtain ⟨tail, rfl, -⟩ := h.half hsome
    exact hc
  · rw [W5300.kept, if_neg hsome] at hc
    cases hc

/-- A call returned as many bytes as it says, and the one that was kept for it first. -/
structure Turned (t : Option Byte × Received) : Prop where
  counted : t.2.ret = t.2.bytes.length ∨ t.2.ret ≤ 0 ∧ t.2.bytes = []
  first : ∀ c ∈ t.1, t.2.bytes ≠ [] → t.2.bytes.head? = some c

lemma Session.unread (h : Session b sn turns carried m w carried' m' w') (hunread : Unread sn all m.toGlobals carried w cur rest) :
    (∃ cur' rest', Unread sn all m'.toGlobals carried' w' cur' rest' ∧
      payload cur rest = turns.flatMap (·.2.bytes) ++ payload cur' rest') ∧ ∀ t ∈ turns, Turned t := by
  induction h generalizing cur rest with
  | nil => exact ⟨⟨_, _, hunread, rfl⟩, nofun⟩
  | @call c r turns carried carried₁ carried' m m₁ m' w w₁ w' first accepted _ ih =>
    have hgiven := wp_returns (wp_call False c False.elim hunread) first
    obtain ⟨⟨cur₁, rest₁, hunread₁, hbytes⟩, hcounted⟩ := hgiven.took accepted
    obtain ⟨⟨cur', rest', hunread', hbytes'⟩, hturns⟩ := ih hunread₁
    refine ⟨⟨cur', rest', hunread', ?_⟩, fun t ht => ?_⟩
    · rw [hbytes, hbytes', List.flatMap_cons, List.append_assoc]
    · obtain rfl | ht := List.mem_cons.1 ht
      · refine ⟨hcounted, fun c hc hne => ?_⟩
        have hfirst := hunread.kept c hc
        rwa [hbytes, List.head?_append_of_ne_nil _ hne] at hfirst
      · exact hturns t ht

end session

/-- The socket has read nothing yet of the packets in its FIFO. -/
structure Fresh (sn : ℕ) (packets : List Packet) (m : Driver) (w : Line) : Prop where
  mode : (m.sock sn).mode &&& 0x03 = 0x01 ∨ (m.sock sn).mode &&& 0x0F = snMrUdp
  room : 0 < m.rxmaxCache sn
  heads : ∀ p ∈ packets, p.head.length = headWords (m.sock sn).mode
  size : (m.sock sn).remainedSize = 0
  flag : (m.sock sn).packInfo &&& packFifobyte = 0
  fifo : w.fifo = packets.flatMap Packet.words
  reads : w.reads = 0

/-- Some calls have returned the bytes of the packets in order up to `left`, and have read each word of them
once; a byte that is kept is the next. -/
structure Assembled (sn : ℕ) (packets : List Packet) (turns : List (Option Byte × Received)) (carried : Byte) (m : Driver)
    (w : Line) (left : List Byte) : Prop where
  bytes : turns.flatMap (·.2.bytes) ++ left = packets.flatMap Packet.data
  kept : ∀ c ∈ kept sn m.toGlobals carried, left.head? = some c
  turns : ∀ t ∈ turns, Turned t
  placed : Placed (packets.flatMap Packet.words) w
  done : left = [] → w.reads = (packets.flatMap Packet.words).length

theorem assembles {b : Build} {sn : ℕ} {packets : List Packet} {turns : List (Option Byte × Received)} {carried carried' : Byte}
    {m m' : Driver} {w w' : Line} (fresh : Fresh sn packets m w) (session : Session b sn turns carried m w carried' m' w') :
    ∃ left, Assembled sn packets turns carried' m' w' left ∧ ∀ (c : Call) (size : Option RxSize), c.Fits sn m' →
      Ready b sn size m'.toGlobals w' left →
      wp (fifoEnv sn size) (c.run b sn carried') (fun out _ w => 0 < out.1.ret ∧ w.waiting = false) (fun _ _ => False) m' w' := by
  have hunread : Unread sn (packets.flatMap Packet.words) m.toGlobals carried w [] packets := by
    refine ⟨fresh.mode, fresh.room, fresh.heads, fresh.size, by decide, ⟨?_, ?_⟩, fun _ => ⟨0, fresh.fifo⟩,
      fun hsome => absurd fresh.flag hsome⟩
    · rw [fresh.fifo, fresh.reads, List.drop_zero]
    · rw [fresh.reads]
      exact Nat.zero_le _
  obtain ⟨⟨cur, rest, hunread', hbytes⟩, hturns⟩ := session.unread hunread
  refine ⟨payload cur rest, ⟨hbytes.symm, hunread'.kept, hturns, hunread'.placed, fun hnil => ?_⟩, fun c size hfits hready => ?_⟩
  · obtain ⟨rfl, hrest⟩ := List.append_eq_nil_iff.1 hnil
    have hpackets : rest = [] := by
      obtain _ | ⟨p, later⟩ := rest
      · rfl
      · exact absurd (List.append_eq_nil_iff.1 hrest).1 p.data_ne
    have hfifo := hunread'.placed.fifo
    rw [hunread'.between.2, hpackets] at hfifo
    have hlength := congrArg List.length hfifo
    rw [List.length_drop] at hlength
    have hinside := hunread'.placed.inside
    simp only [List.flatMap_nil, List.length_nil] at hlength
    omega
  · refine wp_mono (wp_call True c (fun _ => ⟨hready, hfits⟩) hunread') (fun out _ _ h => h.some trivial) ?_
    exact fun _ _ h => h trivial

/-- What an orderly chip shows of socket 0. -/
def orderly (w : Line) (a : Addr) : BitVec 16 :=
  if a = snRXFIFOR 0 then w.fifo.headD 0
  else if a = snRXRSR 0 2 then BitVec.ofNat 16 (2 * w.fifo.length)
  else if a = snSSR 0 then sockEstablished.setWidth 16
  else 0

def orderlyChip : Handler Driver Line Io Io.Res := fun _ w e => match e with
  | .read8 _ => ((0, false), w)
  | .write8 _ _ => (false, w)
  | .readBuf a 2 =>
    ((#v[(orderly w a >>> 8).setWidth 8, (orderly w a).setWidth 8], false),
      if a = snRXFIFOR 0 then w.popped else if a = snCR 0 then { w with waiting := false } else w)
  | .readBuf _ len => ((.replicate len 0, false), w)
  | .writeBuf a data => (false, if Io.writeBuf a data = command 0 snCrRecv then { w with waiting := true } else w)
  | .now => (0, w)
  | .wait | .phyLink _ | .sockLock _ | .sockUnlock _ | .globalLock | .globalUnlock => ((), w)

lemma orderlyChip_allowed (m : Driver) (w : Line) (e : Io) :
    fifoEnv 0 none m w e (orderlyChip m w e).1 (orderlyChip m w e).2 := by
  match e with
  | .readBuf a 2 =>
    have hvalue : value #v[(orderly w a >>> 8).setWidth 8, (orderly w a).setWidth 8] = orderly w a := halves_append _
    simp only [Env.along, fifoChip, orderlyChip, hvalue]
    by_cases hfifo : a = snRXFIFOR 0
    · subst hfifo
      rw [if_pos rfl, if_pos rfl]
      refine ⟨fun v hv => ?_, rfl⟩
      rw [orderly, if_pos rfl, List.headD_eq_head?_getD, hv]
      rfl
    · rw [if_neg hfifo, if_neg hfifo]
      refine ⟨⟨?_, ?_, ?_, ?_⟩, by rintro _ ⟨⟩, ?_⟩
      · rintro rfl
        rw [orderly, if_neg hfifo, if_neg (by decide), if_neg (by decide)]
        decide
      · rintro rfl
        rw [orderly, if_neg hfifo, if_neg (by decide), if_neg (by decide)]
        decide
      · rintro (rfl | rfl) hnil
        · rfl
        · rw [orderly, if_neg (by decide), if_pos rfl, hnil]
          rfl
      · rintro rfl -
        rfl
      · by_cases hcr : a = snCR 0
        · subst hcr
          rfl
        · rw [if_neg hcr, if_neg fun h => hcr h.1]
  | .readBuf _ 0 | .readBuf _ 1 | .readBuf _ (_ + 3) => rfl
  | .writeBuf a data => rfl
  | .read8 _ | .write8 _ _ | .now | .wait | .phyLink _ | .sockLock _ | .sockUnlock _ | .globalLock | .globalUnlock => rfl

/-- Calls on the orderly chip, up to one that does not return. -/
def replay (b : Build) : List Call → Byte → Driver → Line → List (Option Byte × Received) × Byte × Driver × Line
  | [], carried, m, w => ([], carried, m, w)
  | c :: cs, carried, m, w =>
    let run := exec orderlyChip (c.run b 0 carried) m w
    match run.1 with
    | some (r, carried') =>
      if run.2.2.waiting then ([], carried, m, w)
      else
        let rest := replay b cs carried' run.2.1 run.2.2
        ((kept 0 m.toGlobals carried, r) :: rest.1, rest.2)
    | none => ([], carried, m, w)

lemma session_replay (b : Build) (cs : List Call) (carried : Byte) (m : Driver) (w : Line) : Session b 0 (replay b cs carried m w).1
    carried m w (replay b cs carried m w).2.1 (replay b cs carried m w).2.2.1 (replay b cs carried m w).2.2.2 := by
  induction cs generalizing carried m w with
  | nil => exact .nil
  | cons c cs ih =>
    have first := eval_exec orderlyChip_allowed (c.run b 0 carried) m w
    simp only [replay]
    split
    · next r carried' hrun =>
      split
      · exact .nil
      · next haccepted => exact .call (hrun ▸ first) (Bool.eq_false_iff.2 haccepted) (ih _ _ _)
    · exact .nil

/-- A ready driver with a connection on socket 0. -/
def connected : Driver :=
  { Driver.boot 1 1 with
    chipState := .ready
    rxmaxCache := fun _ => 2048
    sock := fun _ => { Sock.boot with mode := snMrTcp } }

def letters : List Packet := [⟨[], [0x61, 0x62, 0x63], 0, nofun, by decide⟩, ⟨[], [0x64], 0, nofun, by decide⟩]

/-- A packet of three bytes and one of a single byte in calls of one byte and of five. -/
theorem assembles_letters : ∃ turns carried m w,
    turns.map (fun t => (t.1, t.2.bytes)) = [(none, [0x61]), (some 0x62, [0x62]), (none, [0x63]), (none, [0x64])] ∧
    ∃ left, Assembled 0 letters turns carried m w left ∧ ∀ (c : Call) (size : Option RxSize), c.Fits 0 m →
      Ready ⟨true, 2, Nat.zero_lt_two⟩ 0 size m.toGlobals w left →
      wp (fifoEnv 0 size) (c.run ⟨true, 2, Nat.zero_lt_two⟩ 0 carried) (fun out _ w => 0 < out.1.ret ∧ w.waiting = false)
        (fun _ _ => False) m w := by
  have fresh : Fresh 0 letters connected { fifo := letters.flatMap Packet.words, reads := 0, waiting := false } :=
    ⟨.inl rfl, by decide, by decide, rfl, rfl, rfl, rfl⟩
  refine ⟨_, _, _, _, ?_, assembles fresh (session_replay _ [.recv true 1, .recv true 1, .recv true 5, .recv true 5] 0 _ _)⟩
  decide +kernel

end IoLibrary.W5300
