import IoLibrary.Sntp.Datetime
import IoLibrary.MessageBuffer
import IoLibrary.Effects.Wp

/-! SNTP_run, whose environment is its socket operations. -/
namespace IoLibrary.Sntp
open Effects

/-- The globals of sntp.c and the caller's result `time`. -/
structure Client where
  dstaddr : Ip
  ntpmessage : List Byte
  dataBuf : Mem
  timeZone : ℕ
  ntpRetryCnt : ℕ
  nowdatetime : Datetime
  time : Datetime

inductive Io
  | getSnSr
  | getSnRxRsr
  | recvfrom (len : ℕ)
  | sendto (data : List Byte) (addr : Ip)
  | close
  | socket

/-- recvfrom answers the bytes that it stores. The results of the other operations are not read. -/
@[reducible] def Io.Res : Io → Type
  | .getSnSr => Byte
  | .getSnRxRsr => ℕ
  | .recvfrom _ => List Byte
  | _ => Unit

abbrev SntpProg := Prog Client Io Io.Res

abbrev ask (e : Io) : SntpProg e.Res := Prog.perform e

/-- MAX_SNTP_BUF_SIZE, the size of an ntpformat with its padding. -/
def maxSntpBufSize : ℕ := 56

def Client.received (data : List Byte) (c : Client) : Client :=
  let now := getSecondsFromNtpServer c.timeZone (c.dataBuf.fill data) 40
  { c with dataBuf := c.dataBuf.fill data, nowdatetime := now, time := now, ntpRetryCnt := 0 }

/-- The request, counted. -/
def request : SntpProg Unit := do
  let c ← Prog.get
  ask (.sendto c.ntpmessage c.dstaddr)
  Prog.modify fun c => { c with ntpRetryCnt := c.ntpRetryCnt + 1 }

def sntpRun : SntpProg ℤ := do
  let sr ← ask .getSnSr
  if sr = sockUdp then
    let rsr ← ask .getSnRxRsr
    let len := rsr % 2 ^ 16
    if 0 < len then
      let data ← ask (.recvfrom (min len maxSntpBufSize))
      Prog.modify (Client.received data)
      ask .close
      return 1
    let c ← Prog.get
    if c.ntpRetryCnt < 0xFFFF then
      if c.ntpRetryCnt = 0 then request
      else if c.ntpRetryCnt % 0xFFF = 0 then request
    else
      Prog.modify fun c => { c with ntpRetryCnt := 0 }
      ask .close
    return 0
  if sr = sockClosed then ask .socket
  return 0

/-- `n` calls of SNTP_run. -/
def polls : ℕ → SntpProg Unit
  | 0 => return
  | n + 1 => do
    polls n
    let _ ← sntpRun
    return

/-- The socket is an open UDP one and no datagram is there. The calls that change it are kept. -/
def silent : Env Client (List Io) Io Io.Res := fun _ w e x w' =>
  match e, x with
  | .getSnSr, sr => sr = sockUdp ∧ w' = w
  | .getSnRxRsr, rsr => rsr = 0 ∧ w' = w
  | e, _ => w' = w ++ [e]

lemma silent_total (c : Client) (w : List Io) (e : Io) : ∃ x w', silent c w e x w' := by
  cases e with
  | getSnSr => exact ⟨sockUdp, w, rfl, rfl⟩
  | getSnRxRsr => exact ⟨0, w, rfl, rfl⟩
  | recvfrom len => exact ⟨[], _, rfl⟩
  | sendto data addr => exact ⟨(), _, rfl⟩
  | close | socket => exact ⟨(), _, rfl⟩

/-- What the retry schedule asks of the call before which there were `k`. -/
def scheduled (c : Client) (k : ℕ) : List Io :=
  if k % 0x10000 = 0xFFFF then [.close]
  else if k % 0x10000 % 0xFFF = 0 then [.sendto c.ntpmessage c.dstaddr]
  else []

/-- After `n` calls from `c` the counter and the calls made are those of the schedule. -/
structure OnSchedule (c : Client) (n : ℕ) (c' : Client) (made : List Io) : Prop where
  count : c'.ntpRetryCnt = n % 0x10000
  made : made = (List.range n).flatMap (scheduled c)

variable {c : Client} {w : List Io}

lemma close_mem_scheduled (c : Client) {n : ℕ} (h : 0xFFFF < n) :
    Io.close ∈ (List.range n).flatMap (scheduled c) :=
  List.mem_flatMap.2 ⟨0xFFFF, List.mem_range.2 h, List.mem_singleton.2 rfl⟩

lemma wp_sntpRun_silent {Q : ℤ → Client → List Io → Prop} {H : Client → List Io → Prop}
    (first : c.ntpRetryCnt = 0 →
      Q 0 { c with ntpRetryCnt := 1 } (w ++ [.sendto c.ntpmessage c.dstaddr]))
    (waiting : c.ntpRetryCnt = 1 → Q 0 c w) (h : c.ntpRetryCnt ≤ 1) :
    wp silent sntpRun Q H c w := by
  have hlt : c.ntpRetryCnt < 0xFFFF := by omega
  simp only [sntpRun, wp_bind, wp_perform]
  rintro _ _ ⟨rfl, rfl⟩
  simp only [↓reduceIte, wp_bind, wp_perform]
  rintro _ _ ⟨rfl, rfl⟩
  simp only [Nat.zero_mod, Nat.lt_irrefl, ↓reduceIte, wp_bind, wp_get, hlt]
  rcases Nat.le_one_iff_eq_zero_or_eq_one.1 h with hzero | hone
  · simp only [hzero, ↓reduceIte, request, wp_bind, wp_get, wp_perform, wp_modify, wp_pure]
    rintro _ _ rfl
    exact first hzero
  · simp only [hone, Nat.one_ne_zero, ↓reduceIte, Nat.reduceMod, wp_pure]
    exact waiting hone

/-- From the second call on the counter stays at 1: only a request counts. -/
lemma wp_polls_silent (hstart : c.ntpRetryCnt = 0) (n : ℕ) :
    wp silent (polls (n + 1))
      (fun _ c' made => c' = { c with ntpRetryCnt := 1 } ∧ made = [.sendto c.ntpmessage c.dstaddr])
      (fun _ _ => False) c [] := by
  induction n with
  | zero =>
    simp only [polls, wp_bind, wp_pure]
    refine wp_sntpRun_silent (fun _ => ⟨rfl, rfl⟩) (fun hone => ?_) (by omega)
    omega
  | succ n ih =>
    rw [polls, wp_bind]
    refine wp_mono ih ?_ fun _ _ => id
    rintro - _ _ ⟨rfl, rfl⟩
    rw [wp_bind]
    exact wp_sntpRun_silent (fun hzero => absurd hzero Nat.one_ne_zero) (fun _ => ⟨rfl, rfl⟩) (Nat.le_refl _)

/-- The calls keep to the schedule up to the first one only. -/
theorem polls_onSchedule_iff (hstart : c.ntpRetryCnt = 0) (n : ℕ) :
    wp silent (polls n) (fun _ => OnSchedule c n) (fun _ _ => False) c [] ↔ n ≤ 1 := by
  constructor
  · intro h
    by_contra hmany
    obtain ⟨m, rfl⟩ := Nat.exists_eq_add_of_le' (Nat.not_le.1 hmany)
    obtain ⟨r, c', made, hrun⟩ := exists_eval silent_total (polls (m + 2)) c []
    have hboth := (wp_iff_eval _).1 (wp_and h (wp_polls_silent hstart (m + 1))) r c' made hrun
    cases r with
    | none => exact hboth.1
    | some _ =>
      obtain ⟨hschedule, rfl, rfl⟩ := hboth
      have hcount : 1 = (m + 2) % 0x10000 := hschedule.count
      have hclose := close_mem_scheduled c (show 0xFFFF < m + 2 by omega)
      rw [← hschedule.made] at hclose
      simp at hclose
  · intro hn
    rcases Nat.le_one_iff_eq_zero_or_eq_one.1 hn with rfl | rfl
    · exact ⟨hstart, rfl⟩
    · refine wp_mono (wp_polls_silent hstart 0) ?_ fun _ _ => id
      rintro - _ _ ⟨rfl, rfl⟩
      exact ⟨rfl, rfl⟩

/-- A client that asks nobody. -/
def idle : Client := ⟨.replicate 4 0, [], fun _ => 0, 0, 0, ⟨0, 0, 0, 0, 0, 0⟩, ⟨0, 0, 0, 0, 0, 0⟩⟩

/-- The second call leaves the counter at 1. -/
theorem polls_stuck : ¬ wp silent (polls 2) (fun _ => OnSchedule idle 2) (fun _ _ => False) idle [] := by
  intro h
  have hcount := (h sockUdp [] ⟨rfl, rfl⟩ 0 [] ⟨rfl, rfl⟩ () _ rfl sockUdp _ ⟨rfl, rfl⟩ 0 _ ⟨rfl, rfl⟩).count
  exact absurd hcount (by decide)

theorem polls_onSchedule_iff_once :
    wp silent (polls 1) (fun _ => OnSchedule idle 1) (fun _ _ => False) idle [] :=
  (polls_onSchedule_iff rfl 1).2 (Nat.le_refl 1)

end IoLibrary.Sntp
