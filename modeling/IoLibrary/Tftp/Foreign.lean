import IoLibrary.Tftp.Transfer

/-! Packets from strangers. The port of the server is recorded while the request waits for its
answer, and no packet is ever compared with it. -/
namespace IoLibrary.Tftp
open Effects

/-- The first answer has come, and the transfer goes on. -/
def Fixed (c : Client) : Prop := c.state = .data ∨ c.state = .oack

instance (c : Client) : Decidable (Fixed c) := inferInstanceAs (Decidable (_ ∨ _))

/-- The address and the port that the packet `r` fixes, if it moves the client out of RRQ. -/
def peerAfter (peer : Option (Ip × ℕ)) (c : Client) (r : Received) : Option (Ip × ℕ) :=
  if c.state = .rrq ∧ Fixed (receive c r).client then some (r.ip, r.port) else peer

/-- The client with the other side of its transfer. -/
def facing : Machine (Client × Option (Ip × ℕ)) Op Outcome := fun s op =>
  match op with
  | .run r => (((tftpRun s.1 r).1, peerAfter s.2 (checkTimeout s.1).client r), (tftpRun s.1 r).2)
  | .tick => ((tftpTimeoutHandler s.1, s.2), ⟨s.1.progress, none, []⟩)

/-- A packet that has no effect on the transfer. -/
structure Untouched (c : Client) (out : Effect) : Prop where
  state : out.client.state = c.state
  blockNum : out.client.blockNum = c.blockNum
  progress : out.client.progress = c.progress
  saved : out.saved = none
  silent : out.sent = []

/-- Once the other side is fixed, the packets of any other address or port have no effect. -/
def IgnoresOthers (s : Client × Option (Ip × ℕ)) : Op → Prop
  | .run r =>
    let c := (checkTimeout s.1).client
    Fixed c → ∀ bytes ip port short, r = .packet bytes ip port short → s.2 ≠ some (ip, port) →
      Untouched c (receive c r)
  | .tick => True

/-- Nothing from the server's address and another port has the opcode DATA or ERROR. -/
def NoImpostor (c : Client) : Op → Prop
  | .run r =>
    let c := (checkTimeout c).client
    Fixed c → ∀ bytes ip port short, r = .packet bytes ip port short → ip = c.serverIp →
      port ≠ c.serverPort →
      get16 (c.fill r).rcvBuf 0 ≠ tftpData ∧ get16 (c.fill r).rcvBuf 0 ≠ tftpError
  | .tick => True

section ports
variable (c : Client)

@[simp] lemma tftpRegTimeout_serverPort : (tftpRegTimeout c).serverPort = c.serverPort := by
  rw [tftpRegTimeout]
  split <;> rfl

@[simp] lemma tftpCancelTimeout_serverPort : (tftpCancelTimeout c).serverPort = c.serverPort := by
  rw [tftpCancelTimeout]
  split <;> rfl

@[simp] lemma tftpCancelTimeout_serverIp : (tftpCancelTimeout c).serverIp = c.serverIp := by
  rw [tftpCancelTimeout]
  split <;> rfl

@[simp] lemma fill_serverPort (r : Received) : (c.fill r).serverPort = c.serverPort := by
  cases r <;> rfl

end ports

/-- The other side of the transfer as the client has recorded it. -/
def Client.peer (c : Client) : Ip × ℕ := (c.serverIp, c.serverPort)

/-- A part of a call goes on with the transfer of `c`, or leaves it. -/
def Stays (c : Client) (out : Client) : Prop := Fixed out → Fixed c ∧ out.peer = c.peer

lemma checkTimeout_stays (c : Client) : Stays c (checkTimeout c).client := by
  intro hfixed
  rw [checkTimeout] at hfixed ⊢
  split at hfixed
  · rename_i hlate
    rw [if_pos hlate]
    dsimp only at hfixed ⊢
    split at hfixed
    · simp [Fixed, initTftp] at hfixed
    · rename_i hretry
      rw [if_neg hretry]
      cases hstate : c.state <;>
        simp_all [resend, Fixed, Client.peer, sendTftpRrq, sendTftpAck]
  · rename_i hlate
    rw [if_neg hlate]
    exact ⟨hfixed, rfl⟩

lemma finishData_stays (c : Client) (saved : Option Block) (msgLen n : ℕ) :
    Stays c (finishData c saved msgLen n).client := by
  intro hfixed
  by_cases hshort : dataLen msgLen < tftpBlkSize
  · obtain ⟨hnone, -, -⟩ := finishData_short c saved msgLen n hshort
    simp [Fixed, hnone] at hfixed
  · rw [finishData_full c saved msgLen n hshort] at hfixed ⊢
    simpa [Fixed, Client.peer] using hfixed

/-- The transfer after a packet is the one before it, or the one that the packet begins. -/
def Continues (c : Client) (r : Received) (out : Client) : Prop :=
  Fixed out → Fixed c ∧ out.peer = c.peer ∨ c.state = .rrq ∧ out.peer = (r.ip, r.port)

section messages
variable {c : Client} {r : Received}

lemma peer_holding (hip : r.ip = c.serverIp) :
    Fixed c ∧ (holding c r (portAfter c r)).peer = c.peer ∨
      c.state = .rrq ∧ (holding c r (portAfter c r)).peer = (r.ip, r.port) ∨
      c.state = .none ∨ c.state = .wrq ∨ c.state = .ack := by
  cases hstate : c.state <;> simp [Fixed, hstate, holding, portAfter, Client.peer, hip]

/-- What keeps the state and the peer of the client that holds the message. -/
lemma continues_of_peer (hip : r.ip = c.serverIp) {out : Client}
    (hfixed : Fixed out → c.state = .rrq ∨ Fixed c)
    (hpeer : Fixed out → out.peer = (holding c r (portAfter c r)).peer) : Continues c r out := by
  intro hout
  rw [hpeer hout]
  rcases peer_holding hip with h | h | h
  · exact .inl h
  · exact .inr h
  · rcases hfixed hout with hf | hf
    · simp [hf] at h
    · rcases hf with hf | hf
      · simp [hf] at h
      · simp [hf] at h

lemma recvTftpData_continues (hip : r.ip = c.serverIp) :
    Continues c r (recvTftpData (holding c r (portAfter c r)) r.len).client := by
  have hcase : (holding c r (portAfter c r)).state = c.state := by simp [holding]
  apply continues_of_peer hip
  · intro hout
    by_cases hidle : c.state = .none ∨ c.state = .wrq ∨ c.state = .ack
    · rw [recvTftpData_idle r.len (by rwa [hcase])] at hout
      simpa [Fixed, Client.swapped, hcase] using Or.inr hout
    · cases hstate : c.state <;> simp_all [Fixed]
  · intro hout
    by_cases hfirst : c.state = .rrq ∨ c.state = .oack
    · rw [recvTftpData_first r.len (by rwa [hcase])] at hout ⊢
      split at hout
      · rename_i hn
        rw [if_pos hn, (finishData_stays _ _ _ _ hout).2]
        simp [Client.peer, Client.swapped]
      · rename_i hn
        rw [if_neg hn, (finishData_stays _ _ _ _ hout).2]
        rfl
    · by_cases hdata : c.state = .data
      · rw [recvTftpData_data r.len (by rwa [hcase])] at hout ⊢
        split at hout
        · rename_i hn
          rw [if_pos hn, (finishData_stays _ _ _ _ hout).2]
          simp [Client.peer, Client.swapped]
        · rename_i hn
          rw [if_neg hn, (finishData_stays _ _ _ _ hout).2]
          rfl
      · have hidle : c.state = .none ∨ c.state = .wrq ∨ c.state = .ack := by
          cases hstate : c.state <;> simp_all
        rw [recvTftpData_idle r.len (by rwa [hcase])]
        rfl

lemma recvTftpOack_continues (hip : r.ip = c.serverIp) :
    Continues c r (recvTftpOack (holding c r (portAfter c r))).client := by
  have hcase : (holding c r (portAfter c r)).state = c.state := by simp [holding]
  apply continues_of_peer hip
  · intro hout
    cases hstate : c.state <;> rw [hstate] at hcase <;>
      simp [recvTftpOack, hcase, hstate, Fixed] at hout ⊢
  · intro hout
    cases hstate : c.state <;> rw [hstate] at hcase <;>
      simp [recvTftpOack, hcase, Client.peer, sendTftpAck]

lemma receive_continues (c : Client) (r : Received) : Continues c r (receive c r).client := by
  by_cases hip : r.ip = c.serverIp
  · rw [receive_server hip]
    split
    · exact recvTftpData_continues hip
    · split
      · exact recvTftpOack_continues hip
      · split
        · intro hout
          simp [recvTftpError, initTftp, Fixed] at hout
        · apply continues_of_peer hip
          · intro hout
            exact .inr (by simpa [Fixed, holding] using hout)
          · exact fun _ => rfl
  · rw [receive_other hip]
    intro hout
    exact .inl ⟨by simpa [Fixed] using hout, by simp [Client.peer]⟩

end messages

/-- The client's record of the other side is right. -/
def Faces (s : Client × Option (Ip × ℕ)) : Prop := Fixed s.1 → s.2 = some s.1.peer

lemma faces_step {s : Client × Option (Ip × ℕ)} (h : Faces s) (op : Op) :
    Faces (facing s op).1 := by
  cases op with
  | tick =>
    intro hfixed
    simp only [facing, tftpTimeoutHandler] at hfixed ⊢
    split at hfixed
    · rename_i hflag
      rw [if_pos hflag]
      exact h hfixed
    · rename_i hflag
      rw [if_neg hflag]
      exact h hfixed
  | run r =>
    intro hfixed
    have hout : Fixed (receive (checkTimeout s.1).client r).client := hfixed
    simp only [facing, peerAfter, tftpRun]
    rcases receive_continues _ r hout with ⟨hbefore, hpeer⟩ | ⟨hrrq, hpeer⟩
    · obtain ⟨hs, hsame⟩ := checkTimeout_stays s.1 hbefore
      have hnot : (checkTimeout s.1).client.state ≠ .rrq := by
        rcases hbefore with hb | hb <;> simp [hb]
      rw [if_neg (fun hc => hnot hc.1), hpeer, hsame]
      exact h hs
    · rw [if_pos ⟨hrrq, hout⟩, hpeer]

lemma finishData_touches (c : Client) (saved : Option Block) (msgLen n : ℕ) (d : Client) :
    ¬ Untouched d (finishData c saved msgLen n) := by
  intro h
  have hsilent := h.silent
  simp at hsilent

/-- The messages of the server that have an effect in the client's state. -/
def Heeds (c : Client) (opcode : ℕ) : Prop :=
  opcode = tftpData ∧ (c.state = .rrq ∨ c.state = .oack ∨ c.state = .data) ∨
    opcode = tftpOack ∧ (c.state = .rrq ∨ c.state = .wrq) ∨
    opcode = tftpError ∧ ¬ (c.state = .none ∧ c.blockNum = 0 ∧ c.progress = .fail)

section untouched
variable {c : Client} {r : Received} {port : ℕ}

lemma untouched_holding : Untouched c { client := holding c r port } :=
  ⟨by simp [holding], by simp [holding], by simp [holding], rfl, rfl⟩

lemma untouched_data :
    Untouched c (recvTftpData (holding c r port) r.len) ↔
      ¬ (c.state = .rrq ∨ c.state = .oack ∨ c.state = .data) := by
  have hcase : (holding c r port).state = c.state := by simp [holding]
  by_cases hfirst : c.state = .rrq ∨ c.state = .oack
  · rw [recvTftpData_first r.len (by rwa [hcase])]
    apply iff_of_false
    · split <;> exact finishData_touches _ _ _ _ c
    · rcases hfirst with h | h <;> simp [h]
  · by_cases hdata : c.state = .data
    · rw [recvTftpData_data r.len (by rwa [hcase])]
      apply iff_of_false
      · split <;> exact finishData_touches _ _ _ _ c
      · simp [hdata]
    · have hidle : c.state = .none ∨ c.state = .wrq ∨ c.state = .ack := by
        cases hstate : c.state <;> simp_all
      rw [recvTftpData_idle r.len (by rwa [hcase])]
      apply iff_of_true
      · exact ⟨by simp [Client.swapped, holding], by simp [Client.swapped, holding],
          by simp [Client.swapped, holding], rfl, rfl⟩
      · rcases hidle with h | h | h <;> simp [h]

lemma untouched_oack :
    Untouched c (recvTftpOack (holding c r port)) ↔ ¬ (c.state = .rrq ∨ c.state = .wrq) := by
  have hcase : (holding c r port).state = c.state := by simp [holding]
  cases hstate : c.state with
  | rrq | wrq =>
    apply iff_of_false
    · intro h
      have hsame := h.state
      simp [recvTftpOack, hcase, hstate, sendTftpAck] at hsame
    · simp
  | none | data | ack | oack =>
    apply iff_of_true
    · rw [recvTftpOack, hcase, hstate]
      exact untouched_holding
    · simp

lemma untouched_error :
    Untouched c (recvTftpError (holding c r port)) ↔
      c.state = .none ∧ c.blockNum = 0 ∧ c.progress = .fail := by
  constructor
  · intro h
    exact ⟨h.state.symm, h.blockNum.symm, h.progress.symm⟩
  · rintro ⟨hstate, hnum, hprogress⟩
    exact ⟨hstate.symm, hnum.symm, hprogress.symm, rfl, rfl⟩

/-- A packet from the server's address is without effect exactly where its message is not heeded. -/
lemma untouched_server_iff (hip : r.ip = c.serverIp) :
    Untouched c (receive c r) ↔ ¬ Heeds c (get16 (c.fill r).rcvBuf 0) := by
  have hcodes : tftpOack ≠ tftpData ∧ tftpError ≠ tftpData ∧ tftpError ≠ tftpOack := by decide
  obtain ⟨hoack, herror, herror'⟩ := hcodes
  rw [receive_server hip, Heeds]
  split
  · rename_i h
    rw [untouched_data, h]
    simp [hoack.symm, herror.symm]
  · rename_i hdata
    split
    · rename_i h
      rw [untouched_oack, h]
      simp [hoack, herror'.symm]
    · rename_i hnotOack
      split
      · rename_i h
        rw [untouched_error, h]
        simp [herror, herror']
      · rename_i hnotError
        exact iff_of_true untouched_holding (by simp [hdata, hnotOack, hnotError])

/-- During a transfer a packet from the server's address is without effect exactly where it is
neither DATA nor ERROR. -/
lemma untouched_iff (hfixed : Fixed c) (hip : r.ip = c.serverIp) :
    Untouched c (receive c r) ↔
      get16 (c.fill r).rcvBuf 0 ≠ tftpData ∧ get16 (c.fill r).rcvBuf 0 ≠ tftpError := by
  rw [untouched_server_iff hip, Heeds]
  rcases hfixed with hstate | hstate <;> simp [hstate]

lemma untouched_other (hip : r.ip ≠ c.serverIp) : Untouched c (receive c r) := by
  rw [receive_other hip]
  exact ⟨by simp, by simp, by simp, rfl, rfl⟩

end untouched

lemma ignoresOthers_iff {s : Client × Option (Ip × ℕ)} (h : Faces s) (op : Op) :
    IgnoresOthers s op ↔ NoImpostor s.1 op := by
  cases op with
  | tick => simp [IgnoresOthers, NoImpostor]
  | run r =>
    simp only [IgnoresOthers, NoImpostor]
    apply imp_congr_right
    intro hfixed
    obtain ⟨hs, hsame⟩ := checkTimeout_stays s.1 hfixed
    have hpeer : s.2 = some ((checkTimeout s.1).client.serverIp,
        (checkTimeout s.1).client.serverPort) := by
      rw [h hs, ← hsame]
      rfl
    constructor
    · intro hignores bytes ip port short hr hip hport
      have hforeign : s.2 ≠ some (ip, port) := by
        rw [hpeer]
        simp [Ne.symm hport]
      have huntouched := hignores bytes ip port short hr hforeign
      exact (untouched_iff hfixed (by rw [hr]; exact hip)).1 huntouched
    · intro hno bytes ip port short hr hforeign
      by_cases hip : ip = (checkTimeout s.1).client.serverIp
      · have hport : port ≠ (checkTimeout s.1).client.serverPort := by
          intro hport
          rw [hpeer, hip, hport] at hforeign
          exact hforeign rfl
        exact (untouched_iff hfixed (by rw [hr]; exact hip)).2 (hno bytes ip port short hr hip hport)
      · have hip' : r.ip ≠ (checkTimeout s.1).client.serverIp := by
          rw [hr]
          exact hip
        exact untouched_other hip'

/-- facing is the client with one more component. -/
lemma each_facing (c : Client) (peer : Option (Ip × ℕ)) (ops : List Op) (P : Client → Op → Prop) :
    facing.Each (c, peer) ops (fun s op => P s.1 op) ↔ client.Each c ops P := by
  induction ops generalizing c peer with
  | nil => simp
  | cons op ops ih =>
    have hstep : (facing (c, peer) op).1.1 = (client c op).1 := by cases op <;> rfl
    rw [Machine.each_cons, Machine.each_cons, ← hstep]
    apply and_congr_right
    intro _
    exact ih _ _

lemma each_ignoresOthers (c : Client) (serverIp : Ip) (filename : List Byte) (ops : List Op) :
    facing.Each ((tftpReadRequest c serverIp filename).client, none) ops IgnoresOthers ↔
      client.Each (tftpReadRequest c serverIp filename).client ops NoImpostor := by
  rw [← each_facing _ none]
  apply Machine.each_congr Faces
  · intro hfixed
    simp [tftpReadRequest, sendTftpRrq, Fixed] at hfixed
  · intro s op _ h _
    exact faces_step h op
  · intro s op _ h
    exact ignoresOthers_iff h op

/-- Packets of others have no effect on a run's transfer exactly where no DATA and no ERROR comes
from the server's address and another port. -/
theorem others_are_ignored (c : Client) (serverIp : Ip) (filename : List Byte) (ops : List Op) :
    facing.Each ((tftpReadRequest c serverIp filename).client, none) ops IgnoresOthers ↔
      client.Each (tftpReadRequest c serverIp filename).client ops NoImpostor :=
  each_ignoresOthers c serverIp filename ops

/-- The first block comes from port 2000, and an ERROR from port 3000 ends the transfer. -/
theorem impostor_ends_transfer : ¬ ∀ c serverIp filename ops,
    facing.Each ((tftpReadRequest c serverIp filename).client, none) ops IgnoresOthers := by
  intro hall
  let server : Ip := #v[10, 0, 0, 1]
  let first : Received :=
    .packet (dataBytes 1 (List.replicate tftpBlkSize 0)) server 2000 (by decide +kernel)
  let error : Received :=
    .packet (bytes16 tftpError ++ bytes16 0 ++ [0]) server 3000 (by decide +kernel)
  have hno := (each_ignoresOthers _ _ _ _).1
    (hall (initial fun _ => 0) server (text "file") [.run first, .run error]) [.run first]
    (.run error) [] rfl
  have hopcode := hno (by decide +kernel) _ server 3000 _ rfl (by decide +kernel) (by decide +kernel)
  exact absurd (by decide +kernel) hopcode.2

end IoLibrary.Tftp
