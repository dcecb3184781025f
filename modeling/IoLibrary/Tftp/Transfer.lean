import IoLibrary.Tftp.Client

/-! The transfer of a file: the blocks that are saved, what is acknowledged and when the client
reports the end. -/
namespace IoLibrary.Tftp
open Effects

/-- The blocks that the calls have saved, in order. -/
def blocks (past : List Outcome) : List Block := past.filterMap Outcome.saved

/-- The last block saved is a short one. -/
def Finished (saved : List Block) : Prop :=
  ∃ last, saved.getLast? = some last ∧ last.data.length < tftpBlkSize

/-- The call receives the block, in a DATA packet of the server. -/
def Delivers (server : Ip) (b : Block) : Received → Prop
  | .packet bytes ip _ _ => ip = server ∧ bytes = bytes16 tftpData ++ bytes16 b.number ++ b.data
  | .nothing _ _ _ => False

/-- A part of a call, after the blocks `saved`: it saves the next block, which it has received,
acknowledges only what is saved, and leaves success as the result where the last block is short. -/
structure Sound (server : Ip) (saved : List Block) (r : Received) (out : Effect) : Prop where
  next : ∀ b, out.saved = some b → b.number = saved.length + 1 ∧ Delivers server b r
  acks : ∀ p ∈ out.sent, ∀ n, p.packet = .ack n → ∃ b ∈ saved ++ out.saved.toList, b.number = n
  success : out.client.progress = .success ↔ Finished (saved ++ out.saved.toList)

/-- What the call of TFTP_run does as a whole. -/
def callEffect (c : Client) (r : Received) : Effect :=
  ⟨(tftpRun c r).1, (tftpRun c r).2.saved, (tftpRun c r).2.sent⟩

/-- The transfer invariant of a call, with the calls before it recorded. -/
def KeepsTransfer (s : Client × List Outcome) : Op → Prop
  | .run r => Sound s.1.serverIp (blocks s.2) r (callEffect s.1 r)
  | .tick => True

/-- A packet that holds both fields of its header. -/
def Received.Whole : Received → Prop
  | .packet bytes _ _ _ => 4 ≤ bytes.length
  | .nothing _ _ _ => False

/-- A DATA packet with the number `n` is the next block, or a block that is saved already and comes
in its full size. -/
def FitsData (c : Client) (r : Received) (n : ℕ) : Prop :=
  match c.state with
  | .rrq | .oack => r.Whole ∧ n = 1
  | .data => r.Whole ∧ n = c.blockNum + 1 ∨
      1 ≤ n ∧ n ≤ c.blockNum ∧ tftpBlkSize ≤ dataLen r.len
  | _ => True

/-- What the client processes fits its transfer: of the packets that count as the server's, a DATA
packet fits, no OACK comes in place of the first block, and no ERROR after the end. -/
structure Fits (c : Client) (r : Received) : Prop where
  data : r.ip = c.serverIp → get16 (c.fill r).rcvBuf 0 = tftpData →
    FitsData c r (get16 (c.fill r).rcvBuf 2)
  oack : r.ip = c.serverIp → get16 (c.fill r).rcvBuf 0 = tftpOack → c.state ≠ .rrq
  error : r.ip = c.serverIp → get16 (c.fill r).rcvBuf 0 = tftpError → c.progress ≠ .success

/-- The packet that a call processes after its timeout check fits. -/
def CallFits (c : Client) : Op → Prop
  | .run r => Fits (checkTimeout c).client r
  | .tick => True

/-- The client against the blocks that are saved. -/
structure Transferring (c : Client) (saved : List Block) : Prop where
  numbers : ∀ n, (∃ b ∈ saved, b.number = n) ↔ 1 ≤ n ∧ n ≤ saved.length
  reported : c.progress = .success ↔ Finished saved
  phase : c.state = .rrq ∧ saved = [] ∨
    c.state = .data ∧ c.blockNum = saved.length ∧ saved ≠ [] ∧ ¬ Finished saved ∨
    c.state = .none ∧ c.resendFlag = false

lemma not_finished_nil : ¬ Finished [] := by simp [Finished]

lemma finished_concat (saved : List Block) (b : Block) :
    Finished (saved ++ [b]) ↔ b.data.length < tftpBlkSize := by
  simp [Finished]

lemma numbers_concat {saved : List Block} {b : Block}
    (h : ∀ n, (∃ b ∈ saved, b.number = n) ↔ 1 ≤ n ∧ n ≤ saved.length)
    (hb : b.number = saved.length + 1) (n : ℕ) :
    (∃ b' ∈ saved ++ [b], b'.number = n) ↔ 1 ≤ n ∧ n ≤ (saved ++ [b]).length := by
  simp only [List.mem_append, List.mem_singleton, or_and_right, exists_or, h n, exists_eq_left, hb,
    List.length_append, List.length_singleton]
  omega

section timers
variable (c : Client)

@[simp] lemma tftpRegTimeout_state : (tftpRegTimeout c).state = c.state := by
  rw [tftpRegTimeout]
  split <;> rfl

@[simp] lemma tftpRegTimeout_blockNum : (tftpRegTimeout c).blockNum = c.blockNum := by
  rw [tftpRegTimeout]
  split <;> rfl

@[simp] lemma tftpRegTimeout_progress : (tftpRegTimeout c).progress = c.progress := by
  rw [tftpRegTimeout]
  split <;> rfl

@[simp] lemma tftpRegTimeout_serverIp : (tftpRegTimeout c).serverIp = c.serverIp := by
  rw [tftpRegTimeout]
  split <;> rfl

@[simp] lemma tftpCancelTimeout_state : (tftpCancelTimeout c).state = c.state := by
  rw [tftpCancelTimeout]
  split <;> rfl

@[simp] lemma tftpCancelTimeout_blockNum : (tftpCancelTimeout c).blockNum = c.blockNum := by
  rw [tftpCancelTimeout]
  split <;> rfl

@[simp] lemma tftpCancelTimeout_progress : (tftpCancelTimeout c).progress = c.progress := by
  rw [tftpCancelTimeout]
  split <;> rfl

end timers

section finish
variable (c : Client) (saved : Option Block) (msgLen blockNum : ℕ)

@[simp] lemma finishData_saved : (finishData c saved msgLen blockNum).saved = saved := by
  rw [finishData]
  split <;> rfl

@[simp] lemma finishData_sent :
    (finishData c saved msgLen blockNum).sent = [⟨.ack blockNum, c.serverIp, c.serverPort⟩] := by
  rw [finishData]
  split <;> rfl

lemma finishData_short (h : dataLen msgLen < tftpBlkSize) :
    (finishData c saved msgLen blockNum).client.state = .none ∧
      (finishData c saved msgLen blockNum).client.resendFlag = false ∧
      (finishData c saved msgLen blockNum).client.progress = .success := by
  rw [finishData, if_pos h]
  exact ⟨rfl, rfl, rfl⟩

lemma finishData_full (h : ¬ dataLen msgLen < tftpBlkSize) :
    (finishData c saved msgLen blockNum).client = tftpRegTimeout c := by
  rw [finishData, if_neg h]
  rfl

lemma finishData_success (h : c.progress ≠ .success) :
    (finishData c saved msgLen blockNum).client.progress = .success ↔
      dataLen msgLen < tftpBlkSize := by
  by_cases hshort : dataLen msgLen < tftpBlkSize
  · simp [hshort, (finishData_short c saved msgLen blockNum hshort).2.2]
  · simp [hshort, finishData_full c saved msgLen blockNum hshort, h]

end finish

lemma dataLen_packet {n : ℕ} (h : 4 ≤ n) (hle : n ≤ maxMtuSize) : dataLen n = n - 4 := by
  rw [maxMtuSize] at hle
  rw [dataLen, BitVec.toNat_sub, BitVec.toNat_ofNat, BitVec.toNat_ofNat]
  omega

/-- The data of a whole packet, in the buffer. -/
lemma slice_data (m : Mem) {bytes : List Byte} (h : 4 ≤ bytes.length) :
    (swapFields (m.fill bytes)).slice 4 (bytes.length - 4) = bytes.drop 4 := by
  apply List.ext_getElem
  · simp
  · intro i h₁ h₂
    simp only [Mem.length_slice] at h₁
    have hlt : 4 + i < bytes.length := by omega
    simp [swapFields, Mem.slice, Mem.fill, List.getElem?_eq_getElem hlt]

lemma fields_packet (m : Mem) {bytes : List Byte} (h : 4 ≤ bytes.length) {a b : ℕ}
    (ha : get16 (m.fill bytes) 0 = a) (hb : get16 (m.fill bytes) 2 = b) :
    bytes = bytes16 a ++ bytes16 b ++ bytes.drop 4 := by
  rcases bytes with _ | ⟨b₀, _ | ⟨b₁, _ | ⟨b₂, _ | ⟨b₃, rest⟩⟩⟩⟩
  · simp at h
  · simp at h
  · simp at h
  · simp at h
  · have ha' : word16 b₀ b₁ = a := ha
    have hb' : word16 b₂ b₃ = b := hb
    rw [← ha', ← hb', bytes16_word16, bytes16_word16]
    rfl

/-- The block that the client takes from the buffer. -/
def blockAt (c : Client) (msgLen : ℕ) : Block :=
  ⟨get16 c.rcvBuf 2, (swapFields c.rcvBuf).slice 4 (dataLen msgLen)⟩

lemma Delivers.whole {server : Ip} {b : Block} {r : Received} (h : Delivers server b r) :
    r.Whole := by
  cases r with
  | nothing code ip port => exact h
  | packet bytes ip port hle =>
    obtain ⟨-, hbytes⟩ := h
    simp only [Received.Whole]
    rw [hbytes]
    simp [bytes16]

/-- A DATA packet of the server delivers the block that the client takes from it, if the packet is
whole. -/
lemma delivers_iff (c : Client) {r : Received} (hip : r.ip = c.serverIp)
    (hop : get16 (c.fill r).rcvBuf 0 = tftpData) :
    Delivers c.serverIp (blockAt (c.fill r) r.len) r ↔ r.Whole := by
  refine ⟨Delivers.whole, fun hwhole => ?_⟩
  cases r with
  | nothing code ip port => exact hwhole
  | packet bytes ip port hle =>
    have hdata : (blockAt (c.fill (.packet bytes ip port hle)) bytes.length).data =
        bytes.drop 4 := by
      simp only [blockAt, Client.fill]
      rw [dataLen_packet hwhole hle, slice_data c.rcvBuf hwhole]
    refine ⟨hip, ?_⟩
    simp only [Received.len, hdata]
    exact fields_packet c.rcvBuf hwhole hop rfl

section answers
variable {c : Client} {server : Ip} {saved : List Block} {r : Received} {msgLen n : ℕ} {b : Block}

/-- The answer to the next block. -/
lemma sound_next (hprogress : c.progress ≠ .success) (hb : b.number = saved.length + 1)
    (hlen : b.data.length = dataLen msgLen) :
    Sound server saved r (finishData c (some b) msgLen b.number) ↔ Delivers server b r := by
  constructor
  · intro h
    exact (h.next b (by simp)).2
  · intro h
    constructor
    · intro b' hb'
      rw [finishData_saved, Option.some.injEq] at hb'
      subst hb'
      exact ⟨hb, h⟩
    · intro p hp n hn
      rw [finishData_sent, List.mem_singleton] at hp
      subst hp
      cases hn
      exact ⟨b, by simp, rfl⟩
    · rw [finishData_success c (some b) msgLen b.number hprogress, finishData_saved]
      simp only [Option.toList_some]
      rw [finished_concat, hlen]

/-- The answer to any other block. -/
lemma sound_other (hprogress : c.progress ≠ .success) (hfull : ¬ Finished saved) :
    Sound server saved r (finishData c none msgLen n) ↔
      (∃ b ∈ saved, b.number = n) ∧ ¬ dataLen msgLen < tftpBlkSize := by
  have hsuccess := finishData_success c none msgLen n hprogress
  constructor
  · intro h
    refine ⟨?_, fun hshort => ?_⟩
    · simpa using h.acks ⟨.ack n, c.serverIp, c.serverPort⟩ (by simp) n rfl
    · have hfinished := h.success.1 (hsuccess.2 hshort)
      simp [hfull] at hfinished
  · intro h
    obtain ⟨hsaved, hlong⟩ := h
    constructor
    · intro b hb
      simp at hb
    · intro p hp k hk
      rw [finishData_sent, List.mem_singleton] at hp
      subst hp
      cases hk
      simpa using hsaved
    · rw [hsuccess, finishData_saved]
      simp [hlong, hfull]

lemma transferring_next (hstate : c.state = .data) (hnum : c.blockNum = b.number)
    (hprogress : c.progress ≠ .success) (hb : b.number = saved.length + 1)
    (hlen : b.data.length = dataLen msgLen)
    (h : ∀ n, (∃ b ∈ saved, b.number = n) ↔ 1 ≤ n ∧ n ≤ saved.length) :
    Transferring (finishData c (some b) msgLen b.number).client (saved ++ [b]) := by
  constructor
  · exact numbers_concat h hb
  · rw [finishData_success c (some b) msgLen b.number hprogress, finished_concat, hlen]
  · by_cases hshort : dataLen msgLen < tftpBlkSize
    · obtain ⟨hnone, hresend, -⟩ := finishData_short c (some b) msgLen b.number hshort
      exact .inr (.inr ⟨hnone, hresend⟩)
    · rw [finishData_full c (some b) msgLen b.number hshort]
      refine .inr (.inl ⟨?_, ?_, ?_, ?_⟩)
      · simp [hstate]
      · simp [hnum, hb]
      · simp
      · rw [finished_concat, hlen]
        exact hshort

lemma transferring_other (hdata : c.state = .data) (h : Transferring c saved)
    (hlong : ¬ dataLen msgLen < tftpBlkSize) :
    Transferring (finishData c none msgLen n).client saved := by
  rw [finishData_full c none msgLen n hlong]
  constructor
  · exact h.numbers
  · simpa using h.reported
  · simpa [hdata] using h.phase

end answers

/-- What has no effect on the transfer. -/
lemma Transferring.idle {c : Client} {saved : List Block} (h : Transferring c saved) (server : Ip)
    (r : Received) (c' : Client) (hstate : c'.state = c.state) (hnum : c'.blockNum = c.blockNum)
    (hresend : c'.resendFlag = c.resendFlag) (hprogress : c'.progress = c.progress) :
    Sound server saved r { client := c' } ∧ Transferring c' saved := by
  constructor
  · constructor
    · intro b hb
      simp at hb
    · intro p hp
      simp at hp
    · simpa [hprogress] using h.reported
  · constructor
    · exact h.numbers
    · rw [hprogress]
      exact h.reported
    · rw [hstate, hnum, hresend]
      exact h.phase

section fill
variable (c : Client) (r : Received)

@[simp] lemma fill_state : (c.fill r).state = c.state := by cases r <;> rfl
@[simp] lemma fill_blockNum : (c.fill r).blockNum = c.blockNum := by cases r <;> rfl
@[simp] lemma fill_progress : (c.fill r).progress = c.progress := by cases r <;> rfl
@[simp] lemma fill_resendFlag : (c.fill r).resendFlag = c.resendFlag := by cases r <;> rfl
@[simp] lemma fill_serverIp : (c.fill r).serverIp = c.serverIp := by cases r <;> rfl

end fill

/-- The client that receives `r`; the port counts only as long as the transfer has none. -/
def holding (c : Client) (r : Received) (port : ℕ) : Client :=
  { c.fill r with serverPort := port }

/-- `out` is sound exactly where `fits` holds, and then the transfer goes on. -/
structure Decides (server : Ip) (saved : List Block) (r : Received) (out : Effect)
    (fits : Prop) : Prop where
  iff : Sound server saved r out ↔ fits
  goes : fits → Transferring out.client (saved ++ out.saved.toList)

lemma Transferring.decides_idle {c : Client} {saved : List Block} (h : Transferring c saved)
    (server : Ip) (r : Received) (port : ℕ) {fits : Prop} (hfits : fits) :
    Decides server saved r { client := holding c r port } fits := by
  have hidle := h.idle server r (holding c r port) (by simp [holding]) (by simp [holding])
    (by simp [holding]) (by simp [holding])
  exact ⟨iff_of_true hidle.1 hfits, fun _ => by simpa using hidle.2⟩

/-- The client that has brought the fields of the message into its order. -/
def Client.swapped (c : Client) : Client := { c with rcvBuf := swapFields c.rcvBuf }

section cases
variable {c : Client} (msgLen : ℕ)

lemma recvTftpData_first (h : c.state = .rrq ∨ c.state = .oack) : recvTftpData c msgLen =
    if get16 c.rcvBuf 2 = 1 then
      finishData (tftpCancelTimeout
        { c.swapped with state := .data, blockNum := get16 c.rcvBuf 2 })
        (some (blockAt c msgLen)) msgLen (get16 c.rcvBuf 2)
    else finishData c.swapped none msgLen (get16 c.rcvBuf 2) := by
  cases c
  rcases h with h | h
  · cases h
    rfl
  · cases h
    rfl

lemma recvTftpData_data (h : c.state = .data) : recvTftpData c msgLen =
    if get16 c.rcvBuf 2 = c.blockNum + 1 then
      finishData (tftpCancelTimeout { c.swapped with blockNum := get16 c.rcvBuf 2 })
        (some (blockAt c msgLen)) msgLen (get16 c.rcvBuf 2)
    else finishData c.swapped none msgLen (get16 c.rcvBuf 2) := by
  cases c
  cases h
  rfl

lemma recvTftpData_idle (h : c.state = .none ∨ c.state = .wrq ∨ c.state = .ack) :
    recvTftpData c msgLen = { client := c.swapped } := by
  cases c
  rcases h with h | h | h
  · cases h
    rfl
  · cases h
    rfl
  · cases h
    rfl

end cases

section serving
variable {c : Client} {saved : List Block} {r : Received} {port : ℕ}

/-- The next block, while the client waits for it. -/
lemma decides_next (hip : r.ip = c.serverIp) (hop : get16 (c.fill r).rcvBuf 0 = tftpData)
    (h : Transferring c saved) (hfull : ¬ Finished saved) {d : Client} (hstate : d.state = .data)
    (hnum : d.blockNum = get16 (c.fill r).rcvBuf 2) (hprogress : d.progress = c.progress)
    (hn : get16 (c.fill r).rcvBuf 2 = saved.length + 1) :
    Decides c.serverIp saved r (finishData d (some (blockAt (c.fill r) r.len)) r.len
      (get16 (c.fill r).rcvBuf 2)) r.Whole := by
  have hrunning : d.progress ≠ .success := by
    rw [hprogress]
    exact fun hs => hfull (h.reported.1 hs)
  have hlen : (blockAt (c.fill r) r.len).data.length = dataLen r.len := by simp [blockAt]
  constructor
  · exact (sound_next hrunning hn hlen).trans (delivers_iff c hip hop)
  · intro _
    rw [finishData_saved]
    exact transferring_next hstate hnum hrunning hn hlen h.numbers

/-- Any other block. -/
lemma decides_other (h : Transferring c saved) (hfull : ¬ Finished saved) {n : ℕ} {d : Client}
    (hd : d.state = .data → Transferring d saved) (hprogress : d.progress = c.progress)
    (hstate : saved = [] ∨ d.state = .data) :
    Decides c.serverIp saved r (finishData d none r.len n)
      ((∃ b ∈ saved, b.number = n) ∧ ¬ dataLen r.len < tftpBlkSize) := by
  have hrunning : d.progress ≠ .success := by
    rw [hprogress]
    exact fun hs => hfull (h.reported.1 hs)
  constructor
  · exact sound_other hrunning hfull
  · intro hfits
    obtain ⟨⟨b, hb, -⟩, hlong⟩ := hfits
    rcases hstate with hnil | hdata
    · rw [hnil] at hb
      simp at hb
    · simpa using transferring_other hdata (hd hdata) hlong

lemma decides_data (hip : r.ip = c.serverIp) (hop : get16 (c.fill r).rcvBuf 0 = tftpData)
    (h : Transferring c saved) :
    Decides c.serverIp saved r (recvTftpData (holding c r port) r.len)
      (FitsData c r (get16 (c.fill r).rcvBuf 2)) := by
  have hold := h.idle c.serverIp r (holding c r port).swapped
    (by simp [holding, Client.swapped]) (by simp [holding, Client.swapped])
    (by simp [holding, Client.swapped]) (by simp [holding, Client.swapped])
  rcases h.phase with ⟨hstate, hsaved⟩ | ⟨hstate, hnum, hsaved, hfull⟩ | ⟨hstate, hresend⟩
  · have hfull : ¬ Finished saved := by
      rw [hsaved]
      exact not_finished_nil
    have hcase : (holding c r port).state = .rrq := by simp [holding, hstate]
    rw [recvTftpData_first r.len (.inl hcase)]
    simp only [FitsData, hstate]
    by_cases hn : get16 (c.fill r).rcvBuf 2 = 1
    · have hfits : (r.Whole ∧ get16 (c.fill r).rcvBuf 2 = 1) ↔ r.Whole := by simp [hn]
      rw [hfits]
      refine (if_pos hn).symm ▸ ?_
      apply decides_next hip hop h hfull
      · simp
      · simp [holding]
      · simp [holding, Client.swapped]
      · simp [hn, hsaved]
    · have hfits : (r.Whole ∧ get16 (c.fill r).rcvBuf 2 = 1) ↔
          (∃ b ∈ saved, b.number = get16 (c.fill r).rcvBuf 2) ∧
            ¬ dataLen r.len < tftpBlkSize := by
        simp [hn, hsaved]
      rw [hfits]
      refine (if_neg hn).symm ▸ ?_
      apply decides_other h hfull
      · exact fun _ => hold.2
      · simp [holding, Client.swapped]
      · exact .inl hsaved
  · have hcase : (holding c r port).state = .data := by simp [holding, hstate]
    have hnum' : (holding c r port).blockNum = saved.length := by simp [holding, hnum]
    rw [recvTftpData_data r.len hcase, hnum']
    simp only [FitsData, hstate, hnum]
    by_cases hn : get16 (c.fill r).rcvBuf 2 = saved.length + 1
    · have hlt : ¬ get16 (c.fill r).rcvBuf 2 ≤ saved.length := by omega
      have hfits : (r.Whole ∧ get16 (c.fill r).rcvBuf 2 = saved.length + 1 ∨
          1 ≤ get16 (c.fill r).rcvBuf 2 ∧ get16 (c.fill r).rcvBuf 2 ≤ saved.length ∧
            tftpBlkSize ≤ dataLen r.len) ↔ r.Whole := by
        constructor
        · rintro (⟨hwhole, -⟩ | ⟨-, hle, -⟩)
          · exact hwhole
          · exact absurd hle hlt
        · exact fun hwhole => .inl ⟨hwhole, hn⟩
      rw [hfits]
      refine (if_pos hn).symm ▸ ?_
      apply decides_next hip hop h hfull
      · simp [hcase, Client.swapped]
      · simp [holding]
      · simp [holding, Client.swapped]
      · exact hn
    · have hfits : (r.Whole ∧ get16 (c.fill r).rcvBuf 2 = saved.length + 1 ∨
          1 ≤ get16 (c.fill r).rcvBuf 2 ∧ get16 (c.fill r).rcvBuf 2 ≤ saved.length ∧
            tftpBlkSize ≤ dataLen r.len) ↔
          (∃ b ∈ saved, b.number = get16 (c.fill r).rcvBuf 2) ∧
            ¬ dataLen r.len < tftpBlkSize := by
        rw [h.numbers]
        simp [hn, and_assoc]
      rw [hfits]
      refine (if_neg hn).symm ▸ ?_
      apply decides_other h hfull
      · exact fun _ => hold.2
      · simp [holding, Client.swapped]
      · exact .inr hcase
  · have hcase : (holding c r port).state = .none := by simp [holding, hstate]
    rw [recvTftpData_idle r.len (.inl hcase)]
    simp only [FitsData, hstate]
    exact ⟨iff_of_true hold.1 trivial, fun _ => by simpa using hold.2⟩

lemma Decides.congr {server : Ip} {out : Effect} {fits fits' : Prop}
    (h : Decides server saved r out fits) (hfits : fits ↔ fits') :
    Decides server saved r out fits' :=
  ⟨h.iff.trans hfits, fun hf => h.goes (hfits.2 hf)⟩

lemma decides_oack (h : Transferring c saved) :
    Decides c.serverIp saved r (recvTftpOack (holding c r port)) (c.state ≠ .rrq) := by
  rcases h.phase with ⟨hstate, hsaved⟩ | ⟨hstate, -⟩ | ⟨hstate, -⟩
  · have hcase : (holding c r port).state = .rrq := by simp [holding, hstate]
    have hbad : ¬ Sound c.serverIp saved r (recvTftpOack (holding c r port)) := by
      intro hsound
      have hack := hsound.acks ⟨.ack 0, _, _⟩ (by
        rw [recvTftpOack, hcase]
        exact List.mem_singleton_self _) 0 rfl
      rw [recvTftpOack, hcase, hsaved] at hack
      simp [sendTftpAck] at hack
    exact ⟨iff_of_false hbad (by simp [hstate]), fun hne => absurd hstate hne⟩
  · have hcase : (holding c r port).state = .data := by simp [holding, hstate]
    rw [recvTftpOack, hcase]
    exact h.decides_idle c.serverIp r port (by simp [hstate])
  · have hcase : (holding c r port).state = .none := by simp [holding, hstate]
    rw [recvTftpOack, hcase]
    exact h.decides_idle c.serverIp r port (by simp [hstate])

lemma decides_error (h : Transferring c saved) :
    Decides c.serverIp saved r (recvTftpError (holding c r port)) (c.progress ≠ .success) := by
  constructor
  · constructor
    · intro hsound hsuccess
      have hfinished := h.reported.1 hsuccess
      have hfail := hsound.success.2 (by simpa [recvTftpError] using hfinished)
      simp [recvTftpError] at hfail
    · intro hrunning
      constructor
      · intro b hb
        simp [recvTftpError] at hb
      · intro p hp
        simp [recvTftpError] at hp
      · have hfull : ¬ Finished saved := fun hf => hrunning (h.reported.2 hf)
        simp [recvTftpError, hfull]
  · intro hrunning
    have hfull : ¬ Finished saved := fun hf => hrunning (h.reported.2 hf)
    constructor
    · simpa [recvTftpError] using h.numbers
    · simp [recvTftpError, hfull]
    · exact .inr (.inr ⟨rfl, rfl⟩)

end serving

/-- The port that the client holds once it has looked at the message. -/
def portAfter (c : Client) (r : Received) : ℕ :=
  if c.state = .wrq ∨ c.state = .rrq then r.port else (c.fill r).serverPort

lemma receive_server {c : Client} {r : Received} (hip : r.ip = c.serverIp) : receive c r =
    if get16 (c.fill r).rcvBuf 0 = tftpData then recvTftpData (holding c r (portAfter c r)) r.len
    else if get16 (c.fill r).rcvBuf 0 = tftpOack then recvTftpOack (holding c r (portAfter c r))
    else if get16 (c.fill r).rcvBuf 0 = tftpError then recvTftpError (holding c r (portAfter c r))
    else { client := holding c r (portAfter c r) } := by
  have hport : (if (c.fill r).state = .wrq ∨ (c.fill r).state = .rrq then
      { c.fill r with serverPort := r.port } else c.fill r) = holding c r (portAfter c r) := by
    rw [portAfter, fill_state]
    split <;> rfl
  rw [receive, recvTftpPacket, if_pos (by rw [hip, fill_serverIp])]
  simp only [hport]

lemma receive_other {c : Client} {r : Received} (hip : r.ip ≠ c.serverIp) :
    receive c r = { client := c.fill r } := by
  rw [receive, recvTftpPacket, if_neg (by rwa [fill_serverIp])]

/-- What a call does with what it receives is sound exactly where it fits. -/
lemma decides_receive {c : Client} {saved : List Block} (h : Transferring c saved) (r : Received) :
    Decides c.serverIp saved r (receive c r) (Fits c r) := by
  have hcodes : tftpOack ≠ tftpData ∧ tftpError ≠ tftpData ∧ tftpError ≠ tftpOack := by decide
  obtain ⟨hoack, herror, herror'⟩ := hcodes
  by_cases hip : r.ip = c.serverIp
  · rw [receive_server hip]
    by_cases hdata : get16 (c.fill r).rcvBuf 0 = tftpData
    · rw [if_pos hdata]
      apply (decides_data hip hdata h).congr
      constructor
      · intro hfits
        exact ⟨fun _ _ => hfits, fun _ hop => absurd (hop.symm.trans hdata) hoack,
          fun _ hop => absurd (hop.symm.trans hdata) herror⟩
      · exact fun hfits => hfits.data hip hdata
    · rw [if_neg hdata]
      by_cases hop : get16 (c.fill r).rcvBuf 0 = tftpOack
      · rw [if_pos hop]
        apply (decides_oack h).congr
        constructor
        · intro hfits
          exact ⟨fun _ hop => absurd hop hdata, fun _ _ => hfits,
            fun _ hop' => absurd (hop'.symm.trans hop) herror'⟩
        · exact fun hfits => hfits.oack hip hop
      · rw [if_neg hop]
        by_cases herr : get16 (c.fill r).rcvBuf 0 = tftpError
        · rw [if_pos herr]
          apply (decides_error h).congr
          constructor
          · intro hfits
            exact ⟨fun _ hop => absurd hop hdata, fun _ hop' => absurd hop' hop,
              fun _ _ => hfits⟩
          · exact fun hfits => hfits.error hip herr
        · rw [if_neg herr]
          exact h.decides_idle c.serverIp r _ ⟨fun _ hop => absurd hop hdata,
            fun _ hop' => absurd hop' hop, fun _ hop => absurd hop herr⟩
  · rw [receive_other hip]
    exact h.decides_idle c.serverIp r (c.fill r).serverPort
      ⟨fun hip' => absurd hip' hip, fun hip' => absurd hip' hip, fun hip' => absurd hip' hip⟩

/-- Outside of a transfer no block is saved. -/
lemma receive_none {c : Client} (h : c.state = .none) (r : Received) :
    (receive c r).saved = none := by
  by_cases hip : r.ip = c.serverIp
  · have hcase : (holding c r (portAfter c r)).state = .none := by simp [holding, h]
    rw [receive_server hip]
    split
    · rw [recvTftpData_idle r.len (.inl hcase)]
    · split
      · rw [recvTftpOack, hcase]
      · split
        · rfl
        · rfl
  · rw [receive_other hip]

/-- What the timeout check may do to a transfer: it sends again what is on its way, or gives up. -/
structure Checked (c : Client) (saved : List Block) (late : Effect) : Prop where
  transferring : Transferring late.client saved
  acks : ∀ p ∈ late.sent, ∀ n, p.packet = .ack n → ∃ b ∈ saved, b.number = n
  server : late.client.serverIp = c.serverIp ∨ late.client.state = .none

/-- What is sent again leaves the transfer as it is. -/
lemma resend_checked {c : Client} {saved : List Block} (h : Transferring c saved)
    (hresend : c.resendFlag = true) : Checked c saved (resend c) := by
  rcases h.phase with ⟨hstate, hsaved⟩ | ⟨hstate, hnum, hsaved, hfull⟩ | ⟨hstate, hoff⟩
  · rw [resend, hstate]
    constructor
    · constructor
      · exact h.numbers
      · simpa [sendTftpRrq] using h.reported
      · exact .inl ⟨by simp [sendTftpRrq], hsaved⟩
    · intro p hp n hn
      rw [sendTftpRrq, List.mem_singleton] at hp
      subst hp
      cases hn
    · exact .inl (by simp [sendTftpRrq])
  · rw [resend, hstate]
    constructor
    · constructor
      · exact h.numbers
      · simpa [sendTftpAck] using h.reported
      · exact .inr (.inl ⟨by simp [sendTftpAck, hstate], by simp [sendTftpAck, hnum], hsaved,
          hfull⟩)
    · intro p hp n hn
      rw [sendTftpAck, List.mem_singleton] at hp
      subst hp
      cases hn
      rw [h.numbers, hnum]
      exact ⟨List.length_pos_iff.2 hsaved, Nat.le_refl _⟩
    · exact .inl (by simp [sendTftpAck])
  · rw [hoff] at hresend
    cases hresend

lemma checkTimeout_checked {c : Client} {saved : List Block} (h : Transferring c saved) :
    Checked c saved (checkTimeout c) := by
  by_cases hlate : c.resendFlag ∧ gTimeout ≤ c.timeCnt
  · obtain ⟨htransferring, hacks, hserver⟩ := resend_checked h hlate.1
    rw [checkTimeout, if_pos hlate]
    dsimp only
    split
    · refine ⟨⟨h.numbers, ?_, .inr (.inr ⟨rfl, rfl⟩)⟩, hacks, .inr rfl⟩
      have hfull : ¬ Finished saved := by
        rcases h.phase with ⟨-, hsaved⟩ | ⟨-, -, -, hfull⟩ | ⟨-, hoff⟩
        · rw [hsaved]
          exact not_finished_nil
        · exact hfull
        · rw [hoff] at hlate
          cases hlate.1
      simp [hfull]
    · exact ⟨⟨h.numbers, htransferring.reported, htransferring.phase⟩, hacks, hserver⟩
  · rw [checkTimeout, if_neg hlate]
    exact ⟨h, fun p hp => by simp at hp, .inl rfl⟩

lemma transferring_tick {c : Client} {saved : List Block} (h : Transferring c saved) :
    Transferring (tftpTimeoutHandler c) saved := by
  rw [tftpTimeoutHandler]
  split
  · exact ⟨h.numbers, h.reported, h.phase⟩
  · exact h

/-- The server's address counts only while there is a transfer. -/
lemma sound_server {c : Client} {server : Ip} {saved : List Block} {r : Received}
    (hserver : c.serverIp = server ∨ c.state = .none) :
    Sound c.serverIp saved r (receive c r) ↔ Sound server saved r (receive c r) := by
  rcases hserver with hserver | hnone
  · rw [hserver]
  · have hsaved := receive_none hnone r
    constructor
    · intro h
      exact ⟨fun b hb => by simp [hsaved] at hb, h.acks, h.success⟩
    · intro h
      exact ⟨fun b hb => by simp [hsaved] at hb, h.acks, h.success⟩

/-- The whole call is sound exactly where its second part is. -/
lemma sound_call {c : Client} {saved : List Block} (h : Transferring c saved) (r : Received) :
    Sound c.serverIp saved r (callEffect c r) ↔
      Sound c.serverIp saved r (receive (checkTimeout c).client r) := by
  have hacks := (checkTimeout_checked h).acks
  constructor
  · intro hs
    refine ⟨hs.next, fun p hp n hn => ?_, hs.success⟩
    exact hs.acks p (List.mem_append_right _ hp) n hn
  · intro hs
    refine ⟨hs.next, fun p hp n hn => ?_, hs.success⟩
    rcases List.mem_append.1 hp with hp | hp
    · obtain ⟨b, hb, hnum⟩ := hacks p hp n hn
      exact ⟨b, List.mem_append_left _ hb, hnum⟩
    · exact hs.acks p hp n hn

def Tracked (s : Client × List Outcome) : Prop := Transferring s.1 (blocks s.2)

lemma blocks_concat (past : List Outcome) (out : Outcome) :
    blocks (past ++ [out]) = blocks past ++ out.saved.toList := by
  rw [blocks, List.filterMap_append, ← blocks]
  cases hsaved : out.saved with
  | none => simp [hsaved]
  | some b => simp [hsaved]

lemma keepsTransfer_iff {s : Client × List Outcome} (h : Tracked s) (op : Op) :
    KeepsTransfer s op ↔ CallFits s.1 op := by
  cases op with
  | tick => simp [KeepsTransfer, CallFits]
  | run r =>
    have hchecked := checkTimeout_checked h
    have hdecides := decides_receive hchecked.transferring r
    rw [KeepsTransfer, CallFits, sound_call h r, ← sound_server hchecked.server]
    exact hdecides.iff

lemma tracked_step {s : Client × List Outcome} (h : Tracked s) {op : Op}
    (hfits : CallFits s.1 op) : Tracked (client.recorded s op).1 := by
  rw [Tracked, Machine.recorded, blocks_concat]
  cases op with
  | tick => simpa [client] using transferring_tick h
  | run r => exact (decides_receive (checkTimeout_checked h).transferring r).goes hfits

/-- A client that has just sent its read request. -/
lemma transferring_request (c : Client) (serverIp : Ip) (filename : List Byte) :
    Transferring (tftpReadRequest c serverIp filename).client [] := by
  constructor
  · intro n
    simp
    omega
  · simp [tftpReadRequest, sendTftpRrq, not_finished_nil]
  · exact .inl ⟨by simp [tftpReadRequest, sendTftpRrq], rfl⟩

lemma each_keepsTransfer (c : Client) (serverIp : Ip) (filename : List Byte) (ops : List Op) :
    client.recorded.Each ((tftpReadRequest c serverIp filename).client, []) ops KeepsTransfer ↔
      client.Each (tftpReadRequest c serverIp filename).client ops CallFits := by
  rw [← Machine.each_recorded (P := CallFits) []]
  apply Machine.each_congr Tracked
  · exact transferring_request c serverIp filename
  · intro s op _ h hfits
    exact tracked_step h hfits
  · intro s op _ h
    exact keepsTransfer_iff h op

/-- The transfer invariant holds of a run exactly where every call processes what fits. -/
theorem transfer_invariant (c : Client) (serverIp : Ip) (filename : List Byte) (ops : List Op) :
    client.recorded.Each ((tftpReadRequest c serverIp filename).client, []) ops KeepsTransfer ↔
      client.Each (tftpReadRequest c serverIp filename).client ops CallFits :=
  each_keepsTransfer c serverIp filename ops

def dataBytes (n : ℕ) (data : List Byte) : List Byte := bytes16 tftpData ++ bytes16 n ++ data

/-- The server's second block comes before the first. -/
theorem gap_is_acknowledged : ¬ ∀ c serverIp filename ops,
    client.recorded.Each ((tftpReadRequest c serverIp filename).client, []) ops KeepsTransfer := by
  intro hall
  let server : Ip := #v[10, 0, 0, 1]
  let block : Received :=
    .packet (dataBytes 2 (List.replicate tftpBlkSize 0)) server 2000 (by decide +kernel)
  have hfits := (each_keepsTransfer _ _ _ _).1
    (hall (initial fun _ => 0) server (text "file") [.run block]) [] (.run block) [] rfl
  have hdata := hfits.data (by decide +kernel) (by decide +kernel)
  exact absurd (show block.Whole ∧ _ = 1 from hdata).2 (by decide +kernel)

end IoLibrary.Tftp
