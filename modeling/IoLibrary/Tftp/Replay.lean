import IoLibrary.Tftp.Foreign

/-! Calls without a packet. The client takes the bytes in its buffer for a message whatever
recv_udp_packet returns, so that such a call may act on an old packet again. -/
namespace IoLibrary.Tftp
open Effects

/-- No datagram of four bytes or more has been received. -/
def Received.Empty : Received → Prop
  | .packet bytes _ _ _ => bytes.length < 4
  | .nothing _ _ _ => True

/-- The call does what its timeout part does: nothing is received. -/
structure TimeoutOnly (c : Client) (r : Received) : Prop where
  state : (tftpRun c r).1.state = (checkTimeout c).client.state
  blockNum : (tftpRun c r).1.blockNum = (checkTimeout c).client.blockNum
  progress : (tftpRun c r).1.progress = (checkTimeout c).client.progress
  saved : (tftpRun c r).2.saved = none
  sent : (tftpRun c r).2.sent = (checkTimeout c).sent

/-- A call acts only on a packet. -/
def ActsOnPackets (c : Client) : Op → Prop
  | .run r => r.Empty → TimeoutOnly c r
  | .tick => True

/-- Without a packet, the address is not that of the server, or the bytes that are in the buffer
then do not begin with the opcode of a message that the client heeds. -/
def NothingToReplay (c : Client) : Op → Prop
  | .run r =>
    let c := (checkTimeout c).client
    r.Empty → r.ip = c.serverIp → ¬ Heeds c (get16 (c.fill r).rcvBuf 0)
  | .tick => True

lemma timeoutOnly_iff (c : Client) (r : Received) :
    TimeoutOnly c r ↔ Untouched (checkTimeout c).client (receive (checkTimeout c).client r) := by
  constructor
  · intro h
    exact ⟨h.state, h.blockNum, h.progress, h.saved, List.append_right_eq_self.1 h.sent⟩
  · intro h
    refine ⟨h.state, h.blockNum, h.progress, h.saved, ?_⟩
    simp [tftpRun, h.silent]

lemma actsOnPackets_iff (c : Client) (op : Op) : ActsOnPackets c op ↔ NothingToReplay c op := by
  cases op with
  | tick => exact Iff.rfl
  | run r =>
    apply imp_congr_right
    intro _
    rw [timeoutOnly_iff]
    by_cases hip : r.ip = (checkTimeout c).client.serverIp
    · rw [untouched_server_iff hip]
      simp [hip]
    · exact iff_of_true (untouched_other hip) fun h => absurd h hip

/-- The calls of a run act only on packets exactly where there is nothing to replay. -/
theorem each_actsOnPackets_iff (c : Client) (ops : List Op) :
    client.Each c ops ActsOnPackets ↔ client.Each c ops NothingToReplay :=
  Machine.each_congr (fun _ => True) trivial (fun _ _ _ _ _ => trivial) fun c op _ _ =>
    actsOnPackets_iff c op

/-- A datagram of the two bytes of an ERROR's opcode ends the transfer. -/
theorem runt_error_ends_transfer : ¬ ∀ rcvBuf serverIp filename ops,
    client.Each (tftpReadRequest (initial rcvBuf) serverIp filename).client ops ActsOnPackets := by
  intro hall
  let server : Ip := #v[10, 0, 0, 1]
  let runt : Received := .packet (bytes16 tftpError) server 2000 (by decide +kernel)
  have hcall := hall (fun _ => 0) server (text "file") [.run runt] [] (.run runt) [] rfl
  have hprogress := (hcall (show (bytes16 tftpError).length < 4 by decide)).progress
  exact absurd hprogress (by decide +kernel)

/-- After a request without an answer the bytes of an old OACK are taken for a new one. -/
example : (tftpRun (tftpReadRequest (initial (Mem.fill (fun _ => 0) (bytes16 tftpOack))) #v[10, 0, 0, 1] []).client
    (.nothing (-1) #v[10, 0, 0, 1] 2000)).1.state = .oack := by
  decide +kernel

end IoLibrary.Tftp
