import IoLibrary.Dns.Message
import IoLibrary.Effects.Wp

/-! The DNS client of dns.c. The socket operations and the timer are its environment. -/
namespace IoLibrary.Dns
open Effects

/-- The globals of dns.c and the caller's result buffer `ip`. -/
structure Client where
  msg : Mem
  msgId : ℕ
  tick : ℕ
  retry : ℕ
  ip : Ip

def blank : Client := ⟨fun _ => 0, 0, 0, 0, .replicate 4 0⟩

inductive Io
  | socket
  | sendto (data : List Byte)
  | rxRsr
  | recvfrom (len : ℕ)
  | ticks
  | close

/-- recvfrom answers the bytes that it stores; `ticks` answers how often the timer handler has
run since the last look at the timer. -/
@[reducible] def Io.Res : Io → Type
  | .rxRsr => ℕ
  | .recvfrom _ => List Byte
  | .ticks => ℕ
  | _ => Unit

abbrev DnsProg := Prog Client Io Io.Res

abbrev ask (e : Io) : DnsProg e.Res := Prog.perform e

def Client.ticked (k : ℕ) (c : Client) : Client := { c with tick := (c.tick + k) % 2 ^ 32 }

def checkDnsTimeout : DnsProg ℤ := do
  let k ← ask .ticks
  Prog.modify (Client.ticked k)
  let c ← Prog.get
  if dnsWaitTime ≤ c.tick then
    Prog.modify fun c => { c with tick := 0 }
    if maxDnsRetry ≤ c.retry then
      Prog.modify fun c => { c with retry := 0 }
      return -1
    Prog.modify fun c => { c with retry := c.retry + 1 }
    return 0
  return 1

/-- The query of the incremented message id. -/
def Client.query (c : Client) (name : List Byte) : List Byte :=
  dnsMakequery ((c.msgId + 1) % 2 ^ 16) 0 name

def Client.start (name : List Byte) (c : Client) : Client :=
  { c with
    msg := c.msg.fill (c.query name)
    msgId := (c.msgId + 1) % 2 ^ 16
    tick := 0
    retry := 0 }

/-- The memory after recvfrom has stored `data` and parseDNSMSG has run. -/
def Client.parsed (data : List Byte) (c : Client) : Client :=
  { c with msg := c.msg.fill data, ip := (parseDnsMsg (c.msg.fill data) c.ip).2 }

/-- One turn of the wait of DNS_run. `len` holds the length of the query at first and the
received size from the first turn on. Both ways out close the socket and return. -/
def dnsPoll : DnsProg (Prog.Turn ℕ ℤ) := do
  let rsr ← ask .rxRsr
  let len := rsr % 2 ^ 16
  if 0 < len then
    let data ← ask (.recvfrom (min len maxDnsBufSize))
    let c ← Prog.get
    Prog.modify (Client.parsed data)
    return .leave (parseDnsMsg (c.msg.fill data) c.ip).1
  let timeout ← checkDnsTimeout
  if timeout < 0 then return .leave 0
  if timeout = 0 then
    let c ← Prog.get
    ask (.sendto (c.msg.slice 0 len))
  return .again len

/-- DNS_run, whose wait is cut after `turns` turns. -/
def dnsRun (turns : ℕ) (name : List Byte) : DnsProg ℤ := do
  ask .socket
  let c ← Prog.get
  Prog.modify (Client.start name)
  let len := (c.query name).length % 2 ^ 16
  let c ← Prog.get
  ask (.sendto (c.msg.slice 0 len))
  let ret ← Prog.loop (fun _ => dnsPoll) turns len
  ask .close
  return ret

/-- What the chip and the timer do: the received size and the timer's runs at each turn, and the
datagram that is there when the size is not 0. -/
structure Script where
  rxRsr : ℕ → ℕ
  ticks : ℕ → ℕ
  reply : List Byte

/-- The turns so far, the datagrams sent and the bytes that recvfrom has stored. -/
structure World where
  turn : ℕ
  sent : List (List Byte)
  received : Option (List Byte)

def World.start : World := ⟨0, [], none⟩

def net (s : Script) : Env Client World Io Io.Res := fun _ w e x w' =>
  match e, x with
  | .sendto data, _ => w' = { w with sent := w.sent ++ [data] }
  | .rxRsr, n => n = s.rxRsr w.turn ∧ w' = w
  | .recvfrom len, data => data = s.reply.take len ∧ w' = { w with received := some data }
  | .ticks, k => k = s.ticks w.turn ∧ w' = { w with turn := w.turn + 1 }
  | .socket, _ => w' = w
  | .close, _ => w' = w

lemma net_total (s : Script) (c : Client) (w : World) (e : Io) : ∃ x w', net s c w e x w' := by
  cases e with
  | sendto data => exact ⟨(), _, rfl⟩
  | rxRsr => exact ⟨_, _, rfl, rfl⟩
  | recvfrom len => exact ⟨_, _, rfl, rfl⟩
  | ticks => exact ⟨_, _, rfl, rfl⟩
  | socket | close => exact ⟨(), _, rfl⟩

end IoLibrary.Dns
