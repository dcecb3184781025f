import IoLibrary.ArpErratum
import IoLibrary.Tftp.Client

/-! What becomes of the packets that the client decides to send. Its socket is nonblocking: sendto accepts a packet
and the next call reports it. -/
namespace IoLibrary.Tftp
open ArpErratum (Datagram)

/-- A call of the application or a tick of the timer. -/
inductive Step
  | read (serverIp : Ip) (filename : List Byte)
  | run (r : Received)
  | tick

/-- The client after a step, and the packets that it decides to send. -/
def Step.apply (c : Client) : Step → Client × List Sending
  | .read serverIp filename =>
    let out := tftpReadRequest c serverIp filename
    (out.client, out.sent)
  | .run r =>
    let (c, out) := tftpRun c r
    (c, out.sent)
  | .tick => (tftpTimeoutHandler c, [])

/-- The calls of send_udp_packet in a run. -/
def decided (c : Client) : List Step → List Sending
  | [] => []
  | step :: steps => (step.apply c).2 ++ decided (step.apply c).1 steps

/-- The datagram that a packet should be sent as. -/
def Sending.datagram (p : Sending) : Datagram := ⟨p.ip, p.port, p.packet.bytes⟩

/-- send_udp_packet. The chip takes each command in time and has its whole TX buffer free once it has sent; `ir` is what
Sn_IR shows of the datagram before. -/
def Sending.call (p : Sending) (ir : Byte) (txmax : ℕ) : ArpErratum.Call where
  buf := some p.packet.bytes
  len := p.packet.bytes.length % 65536
  addr := p.ip
  port := p.port
  addrlen := 4
  configValid := true
  ir := ir
  sr := sockUdp
  room := [⟨none, txmax, sockUdp, false⟩]
  begins := true
  accepted := true
  sent := []

def transmit (s : ArpErratum.State) (p : Sending) (ir : Byte) : ArpErratum.State :=
  ((p.call ir s.txmax).sendto s).elim s Prod.snd

/-- The SEND commands that each of the calls causes. -/
def commands (s : ArpErratum.State) (irs : ℕ → Byte) : List Sending → List (List Datagram)
  | [] => []
  | p :: rest =>
    (transmit s p (irs 0)).sends.drop s.sends.length :: commands (transmit s p (irs 0)) (fun n => irs (n + 1)) rest

/-- The socket that open_tftp_socket opens. -/
def openTftpSocket (txmax : ℕ) (sipr subr : Ip) : ArpErratum.State where
  erratum := false
  sock := { Sock.boot with ioMode := true, packInfo := packCompleted, mode := snMrUdp }
  txmax := txmax
  sipr := sipr
  subr := subr
  sends := []

/-- A packet that sendto accepts as it is. -/
structure Sending.Sendable (p : Sending) (txmax : ℕ) : Prop where
  ip : p.ip ≠ zeroIp
  port : p.port ≠ 0
  fits : p.packet.bytes.length ≤ min txmax 65535

section calls
variable {s : ArpErratum.State} {p q : Sending} {ir : Byte} {txmax : ℕ} {sipr subr : Ip}

lemma Packet.bytes_length (p : Packet) : 4 ≤ p.bytes.length := by
  cases p with
  | rrq filename =>
    simp only [Packet.bytes, cString, text, bytes16, List.length_append, List.length_cons, List.length_nil]
    omega
  | ack blockNum => exact Nat.le_refl 4

lemma Sending.Sendable.length (h : p.Sendable txmax) : p.packet.bytes.length % 65536 = p.packet.bytes.length := by
  have hfits := h.fits
  omega

lemma Sending.Sendable.length_ne_zero (h : p.Sendable txmax) : p.packet.bytes.length % 65536 ≠ 0 := by
  have hmin := p.packet.bytes_length
  rw [h.length]
  omega

/-- While a datagram is pending nothing is sent. -/
lemma sends_of_pending (hpending : s.sock.txState = .dgramPending) : (transmit s p ir).sends = s.sends := by
  have hlook (c : ArpErratum.Call) : (c.pending s).2.sends = s.sends := by
    rw [ArpErratum.Call.pending]
    split_ifs <;> rfl
  rw [transmit, ArpErratum.Call.sendto]
  simp only [Sending.call]
  rw [if_pos hpending]
  split_ifs
  · rfl
  · rfl
  · rfl
  · exact hlook _
  · rfl

/-- The destination is all that the checks of the addresses can refuse. -/
lemma addressError_call : (p.call ir txmax).addressError snMrUdp =
    if p.port = 0 then some sockerrPortzero else if p.ip = zeroIp then some sockerrIpinvalid else none := by
  have hzero : ArpErratum.zero = zeroIp := rfl
  by_cases hport : p.port = 0
  · simp [ArpErratum.Call.addressError, Sending.call, hport, snMrUdp, snMrMacraw, snMrIpraw, snMrIpraw6, snMrUdp6]
  · by_cases hip : p.ip = zeroIp
    · simp [ArpErratum.Call.addressError, Sending.call, hport, hip, hzero, snMrUdp, snMrMacraw, snMrIpraw, snMrIpraw6, snMrUdp6]
    · simp [ArpErratum.Call.addressError, Sending.call, hport, hip, hzero, snMrUdp, snMrMacraw, snMrIpraw, snMrIpraw6, snMrUdp6]

/-- The first packet comes to the checks of the addresses. -/
lemma transmit_opened (hlen : p.packet.bytes.length % 65536 ≠ 0) :
    transmit (openTftpSocket txmax sipr subr) p ir =
      ((p.call ir txmax).start p.packet.bytes (openTftpSocket txmax sipr subr)).elim (openTftpSocket txmax sipr subr)
        Prod.snd := by
  rw [transmit, ArpErratum.Call.sendto]
  simp only [Sending.call]
  rw [if_neg hlen]
  rfl

lemma transmit_refused {e : ℤ} (he : (p.call ir txmax).addressError snMrUdp = some e) :
    transmit (openTftpSocket txmax sipr subr) p ir = openTftpSocket txmax sipr subr := by
  by_cases hlen : p.packet.bytes.length % 65536 = 0
  · rw [transmit, ArpErratum.Call.sendto]
    simp only [Sending.call]
    rw [if_pos hlen]
    rfl
  · have hstart : (p.call ir txmax).start p.packet.bytes (openTftpSocket txmax sipr subr) =
        some (e, openTftpSocket txmax sipr subr) := by
      have hmode : (openTftpSocket txmax sipr subr).sock.mode = snMrUdp := rfl
      rw [ArpErratum.Call.start, hmode, he]
    rw [transmit_opened hlen, hstart]
    rfl

/-- The first packet is sent as far as it fits, if it has a destination. -/
lemma transmit_sends (hip : p.ip ≠ zeroIp) (hport : p.port ≠ 0) (hlen : p.packet.bytes.length % 65536 ≠ 0) :
    (transmit (openTftpSocket txmax sipr subr) p ir).sends =
        [⟨p.ip, p.port, p.packet.bytes.take (min (p.packet.bytes.length % 65536) txmax)⟩] ∧
      (transmit (openTftpSocket txmax sipr subr) p ir).sock.txState = .dgramPending := by
  have haddress : (p.call ir txmax).addressError snMrUdp = none := by
    rw [addressError_call, if_neg hport, if_neg hip]
  have hroom : (p.call ir txmax).roomError (openTftpSocket txmax sipr subr) = some none := by
    have hfree : min (p.packet.bytes.length % 65536) txmax ≤ txmax := Nat.min_le_right _ _
    simp [ArpErratum.Call.roomError, Sending.call, openTftpSocket, ArpErratum.waitRoom, snMrUdp, snMrMacraw, sockUdp,
      sockClosed, hfree]
  have hstart : (p.call ir txmax).start p.packet.bytes (openTftpSocket txmax sipr subr) =
      (p.call ir txmax).commit p.packet.bytes (openTftpSocket txmax sipr subr) := by
    have hmode : (openTftpSocket txmax sipr subr).sock.mode = snMrUdp := rfl
    rw [ArpErratum.Call.start, hmode, haddress]
    dsimp only
    rw [hroom]
  rw [transmit_opened hlen, hstart]
  exact ⟨rfl, rfl⟩

/-- The first packet is sent as it is exactly where it has a destination and fits into the TX buffer. -/
lemma transmit_iff (p : Sending) (ir : Byte) (txmax : ℕ) (sipr subr : Ip) :
    (transmit (openTftpSocket txmax sipr subr) p ir).sends = [p.datagram] ↔ p.Sendable txmax := by
  constructor
  · intro h
    have haddress : (p.call ir txmax).addressError snMrUdp = none := by
      rw [Option.eq_none_iff_forall_ne_some]
      intro e he
      rw [transmit_refused he] at h
      cases h
    rw [addressError_call] at haddress
    split_ifs at haddress with hport hip
    have hlen : p.packet.bytes.length % 65536 ≠ 0 := by
      intro hlen
      rw [transmit, ArpErratum.Call.sendto] at h
      simp only [Sending.call] at h
      rw [if_pos hlen] at h
      cases h
    rw [(transmit_sends hip hport hlen).1, Sending.datagram] at h
    have hdata : p.packet.bytes.take (min (p.packet.bytes.length % 65536) txmax) = p.packet.bytes := by
      injection h with h
      injection h
    have hwhole := congrArg List.length hdata
    rw [List.length_take] at hwhole
    exact ⟨hip, hport, by omega⟩
  · intro h
    have hfits := h.fits
    rw [(transmit_sends h.ip h.port h.length_ne_zero).1, h.length, List.take_of_length_le (by omega), Sending.datagram]

/-- The second packet is not sent where the first one is. -/
lemma commands_iff (irs : ℕ → Byte) (ps : List Sending) :
    commands (openTftpSocket txmax sipr subr) irs ps = ps.map (fun p => [p.datagram]) ↔
      ps.length ≤ 1 ∧ ∀ p ∈ ps, p.Sendable txmax := by
  rcases ps with - | ⟨p, - | ⟨q, rest⟩⟩
  · simp [commands]
  · have hsend := transmit_iff p (irs 0) txmax sipr subr
    constructor
    · intro h
      exact ⟨Nat.le_refl 1, List.forall_mem_singleton.2 (hsend.1 (List.cons.inj h).1)⟩
    · rintro ⟨-, h⟩
      exact congrArg (fun sends => [sends]) (hsend.2 (h p (List.mem_singleton_self p)))
  · constructor
    · intro h
      obtain ⟨hfirst, hrest⟩ := List.cons.inj h
      have hsendable := (transmit_iff p (irs 0) txmax sipr subr).1 hfirst
      have hpending : (transmit (openTftpSocket txmax sipr subr) p (irs 0)).sock.txState = .dgramPending :=
        (transmit_sends hsendable.ip hsendable.port hsendable.length_ne_zero).2
      have hsecond := (List.cons.inj hrest).1
      rw [sends_of_pending hpending, List.drop_length] at hsecond
      cases hsecond
    · rintro ⟨hone, -⟩
      simp at hone

end calls

/-- A read request and the first block of the file. -/
def firstBlock : List Step :=
  [.read #[192, 168, 0, 1].toVector [97],
    .run (.packet [0, 3, 0, 1, 7] #[192, 168, 0, 1].toVector 2000 (by decide))]

end IoLibrary.Tftp
