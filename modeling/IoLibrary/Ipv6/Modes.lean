import IoLibrary.Ipv6.Receiving
import IoLibrary.Ipv6.Opening

/-! Which protocols work from socket to sendto and recvfrom. -/
namespace IoLibrary.Ipv6
open Effects

/-- The mode works: socket opens it, and a datagram socket sends and receives. -/
structure Works (call : SocketCall) (d : Datagram) : Prop where
  opens : ∃ n, ∀ turns ≥ n, ∀ r c w, call.Run turns r c w →
    r = some (call.sn : ℤ) ∧ c.sock.health = .healthy
  sends : families call.protocol ≠ [] → ∀ turns c w, call.Run turns (some (call.sn : ℤ)) c w →
    Sends call.sn call.protocol d c
  receives : families call.protocol ≠ [] → ∀ turns c w, call.Run turns (some (call.sn : ℤ)) c w →
    Receives call.sn d c

section works
variable {call : SocketCall} {d : Datagram}

lemma Legal.number (hlegal : Legal call d) : call.sn < sockNum := by
  have hflags := hlegal.flags
  rw [socketArgCheck] at hflags
  by_contra hsn
  rw [if_pos (Nat.not_lt.1 hsn)] at hflags
  exact Option.some_ne_none _ hflags

/-- A run that returns the socket's number leaves a fresh socket. -/
lemma SocketCall.Run.fresh (hlegal : Legal call d) {turns : ℕ} {c : Cpu} {w : Chip}
    (run : call.Run turns (some (call.sn : ℤ)) c w) :
    Fresh call.protocol c ∧ c.txmaxCache = call.cpu.txmaxCache := by
  obtain ⟨⟨hconfig, htxmax⟩, hsock⟩ :=
    wp_returns (wp_socket turns call.sn call.port call.protocol call.flag hlegal.flags) run
  have hsock : c.sock = Sock.opened call.protocol call.flag call.cpu.sock := hsock rfl
  refine ⟨⟨hlegal.listed, ⟨call.flag, ?_⟩, ?_, ?_, ?_, hconfig.trans hlegal.configValid⟩, htxmax⟩
  · rw [hsock]
    rfl
  · rw [hsock]
    rfl
  · rw [hsock]
    rfl
  · rw [hsock]
    rfl

/-- A mode that socket opens has a run that opens it. -/
lemma Works.exists_run (hworks : Works call d) :
    ∃ turns c w, call.Run turns (some (call.sn : ℤ)) c w := by
  obtain ⟨n, hopens⟩ := hworks.opens
  obtain ⟨r, c, w, run⟩ := exists_eval opening_total
    (socket n call.sn call.protocol call.port call.flag) call.cpu (call.chip.start call.budget)
  obtain ⟨rfl, -⟩ := hopens n (Nat.le_refl n) r c w run
  exact ⟨n, c, w, run⟩

/-- A datagram socket that has been opened, of which one datagram is not sent, does not work. -/
lemma not_works (hlegal : Legal call d) (hfamilies : families call.protocol ≠ [])
    (h : ∀ c, Fresh call.protocol c → ¬ Sends call.sn call.protocol d c) : ¬ Works call d := by
  intro hworks
  obtain ⟨turns, c, w, run⟩ := hworks.exists_run
  exact h c (run.fresh hlegal).1 (hworks.sends hfamilies turns c w run)

lemma works_of_served (hlegal : Legal call d) (hserved : Served call.protocol) (hbuf : d.buf ≠ []) :
    Works call d := by
  have hfour : families call.protocol = [4] := by
    rcases hserved with h | h | h <;> rw [h] <;> rfl
  have hopened : ¬ Missed call.protocol := by
    rcases hserved with h | h | h <;> rw [h, Missed] <;> decide
  constructor
  · exact opens_of_waited hlegal (.inl hopened)
  · intro hfamilies turns c w run
    obtain ⟨hfresh, htxmax⟩ := run.fresh hlegal
    have haddr := hlegal.family hfamilies
    rw [hfour] at haddr
    apply sends_of_served hfresh hserved hlegal.number hbuf (List.mem_singleton.1 haddr) hlegal.port
    · exact hlegal.fits
    · rw [htxmax]
      exact hlegal.free
  · intro _ turns c w run
    exact receives_of_served (run.fresh hlegal).1 hserved hlegal.pointer

lemma works_of_stream (hlegal : Legal call d) (hfamilies : families call.protocol = [])
    (h : ¬ Missed call.protocol ∨ 0 < call.chip.openSr) : Works call d := by
  constructor
  · exact opens_of_waited hlegal h
  · exact fun hne => absurd hfamilies hne
  · exact fun hne => absurd hfamilies hne

/-- The modes with IPv6 are in the mode check of socket, but not in the states it waits for nor
in the switches of sendto and recvfrom. -/
theorem works_iff (hlegal : Legal call d) :
    Works call d ↔
      call.protocol = snMrTcp4 ∨
      (call.protocol = snMrTcp6 ∨ call.protocol = snMrTcpd) ∧ 0 < call.chip.openSr ∨
      (call.protocol = snMrUdp4 ∨ call.protocol = snMrIpraw4 ∨ call.protocol = snMrMacraw) ∧
        d.buf ≠ [] := by
  constructor
  · intro hworks
    have hrefused : ¬ Refused call.protocol := by
      intro hrefused
      have hfamilies : families call.protocol ≠ [] := by
        rcases hrefused with h | h | h <;> rw [h] <;> decide
      refine not_works hlegal hfamilies (fun c hfresh => ?_) hworks
      exact not_sends_refused hfresh hlegal.number hrefused (hlegal.family hfamilies)
    have hstream (hmissed : Missed call.protocol) : 0 < call.chip.openSr := by
      by_contra hlag
      exact not_opens_of_missed hlegal hmissed (Nat.eq_zero_of_not_pos hlag) hworks.opens
    have hpayload (hserved : Served call.protocol) : d.buf ≠ [] := by
      intro hbuf
      have hfamilies : families call.protocol ≠ [] := by
        rcases hserved with h | h | h <;> rw [h] <;> decide
      exact not_works hlegal hfamilies (fun c _ => not_sends_empty hbuf) hworks
    have hmodes : ∀ p ∈ protocols, p = snMrTcp4 ∨ (p = snMrTcp6 ∨ p = snMrTcpd) ∨
        (p = snMrUdp4 ∨ p = snMrIpraw4 ∨ p = snMrMacraw) ∨
        (p = snMrUdp6 ∨ p = snMrUdpd ∨ p = snMrIpraw6) := by decide
    rcases hmodes _ hlegal.listed with h | h | h | h
    · exact .inl h
    · refine .inr (.inl ⟨h, hstream ?_⟩)
      rcases h with h | h <;> rw [h, Missed] <;> decide
    · exact .inr (.inr ⟨h, hpayload h⟩)
    · exact absurd h hrefused
  · rintro (h | ⟨h, hlag⟩ | ⟨h, hbuf⟩)
    · apply works_of_stream hlegal
      · rw [h]
        rfl
      · left
        rw [h, Missed]
        decide
    · apply works_of_stream hlegal _ (.inr hlag)
      rcases h with h | h <;> rw [h] <;> rfl
    · exact works_of_served hlegal h hbuf

/-- A W6100 after reset, to open UDP6 on it. -/
def openUdp6 : SocketCall where
  sn := 0
  protocol := snMrUdp6
  port := 5000
  flag := 0
  chip := ⟨sockClosed, 0, 0, 0, 0, Vector.replicate 4 1, Vector.replicate 16 1⟩
  budget := 1
  cpu :=
    { sock := ⟨false, false, .healthy, .idle, 0, 0, packNone, 0⟩
      sockAnyPort := 0xC000
      ready := true
      lastError := 0
      configValid := true
      txmaxCache := 2048 }

def hello : Datagram :=
  ⟨[0x68, 0x69], List.replicate 16 0x20, 53, 2048, 16, ⟨some 0, true⟩⟩

lemma legal_openUdp6 : Legal openUdp6 hello := by
  constructor <;> decide

theorem works_iff_udp6 : Works openUdp6 hello ↔
    openUdp6.protocol = snMrTcp4 ∨
    (openUdp6.protocol = snMrTcp6 ∨ openUdp6.protocol = snMrTcpd) ∧ 0 < openUdp6.chip.openSr ∨
    (openUdp6.protocol = snMrUdp4 ∨ openUdp6.protocol = snMrIpraw4 ∨
      openUdp6.protocol = snMrMacraw) ∧ hello.buf ≠ [] :=
  works_iff legal_openUdp6

/-- UDP6 is accepted by the mode check and then waits for SOCK_CLOSED. -/
theorem udp6_not_opened : ¬ ∀ call d, Legal call d → Works call d := by
  intro h
  have hmissed : Missed openUdp6.protocol := by
    rw [Missed]
    decide
  exact not_opens_of_missed legal_openUdp6 hmissed rfl (h _ _ legal_openUdp6).opens

end works

end IoLibrary.Ipv6
