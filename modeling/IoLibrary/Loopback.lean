import IoLibrary.Effects.Wp
import IoLibrary.Registers

/-! The loopback servers and clients: what a socket has received is sent back. -/
namespace IoLibrary.Loopback
open Effects

inductive Status
  | established
  | closeWait
  | init
  | closed
  | udp
  | other

/-- The calls into the socket layer; `recv` and `send` stand for `recvfrom` and `sendto` of a datagram socket too. -/
inductive Io
  | getSnSR
  | connected
  | clearConnected
  | getSnRxRsr
  | recv (len : ℕ)
  | send (data : List Byte)
  | close
  | disconnect
  | listen
  | connect
  | socket (port : ℕ)

/-- A receive answers the bytes it has stored, or its return code where it is not positive. -/
@[reducible] def Io.Res : Io → Type
  | .getSnSR => Status
  | .connected => Bool
  | .getSnRxRsr => ℕ
  | .recv _ => Except ℤ (List Byte)
  | .send _ => ℤ
  | .disconnect => ℤ
  | .listen => ℤ
  | .connect => ℤ
  | .socket _ => ℤ
  | _ => Unit

/-- The memory is the static `any_port` of the clients. -/
abbrev Loop := Prog ℕ Io Io.Res

abbrev ask (e : Io) : Loop e.Res := Prog.perform e

def sockOk : ℤ := 1
def sockBusy : ℤ := 0
def dataBufSize : ℕ := 2048

/-- One turn of the loop that sends; `closes` says whether a failure closes the socket. -/
def sendTurn (closes : Bool) (data : List Byte) (sentsize : ℕ) : Loop (Prog.Turn ℕ (Option ℤ)) := do
  if data.length = sentsize then return .leave none
  let ret ← ask (.send (data.drop sentsize))
  if ret < 0 then
    if closes then ask .close
    return .leave (some ret)
  if ret = sockBusy then return .leave none
  return .again (sentsize + ret.toNat)

/-- What has come, up to the size of the buffer, and back; the code of a call that fails. -/
def echo (closes : Bool) : Loop (Option ℤ) := do
  let size ← ask .getSnRxRsr
  if size = 0 then return none
  match ← ask (.recv (min size dataBufSize)) with
  | .error ret => return some ret
  | .ok data => Prog.loop (sendTurn closes data) (dataBufSize + 1) 0

def checked (good : ℤ) (e : Loop ℤ) : Loop ℤ := do
  let ret ← e
  return if ret ≠ good then ret else 1

def established : Loop ℤ := do
  let con ← ask .connected
  if con then ask .clearConnected
  let ret ← echo true
  return ret.getD 1

def loopbackTcps (sn port : ℕ) : Loop ℤ := do
  match ← ask .getSnSR with
  | .established => established
  | .closeWait => checked sockOk (ask .disconnect)
  | .init => checked sockOk (ask .listen)
  | .closed => checked sn (ask (.socket port))
  | _ => return 1

/-- The port is an `uint16_t` that is counted up with each try. -/
def loopbackTcpc (sn : ℕ) : Loop ℤ := do
  match ← ask .getSnSR with
  | .established => established
  | .closeWait => checked sockOk (ask .disconnect)
  | .init => checked sockOk (ask .connect)
  | .closed =>
    ask .close
    let anyPort ← Prog.get
    Prog.modify fun anyPort => (anyPort + 1) % 65536
    let ret ← ask (.socket anyPort)
    if ret ≠ sn then
      Prog.modify fun anyPort => if anyPort = 0xffff then 50000 else anyPort
      return ret
    return 1
  | _ => return 1

def loopbackUdps (sn port : ℕ) : Loop ℤ := do
  match ← ask .getSnSR with
  | .udp =>
    let ret ← echo false
    return ret.getD 1
  | .closed => checked sn (ask (.socket port))
  | _ => return 1

def loopbackUdpc (sn : ℕ) : Loop ℤ := do
  Prog.modify fun anyPort =>
    let anyPort := (anyPort + 1) % 65536
    if anyPort < 1024 ∨ 65534 < anyPort then 50000 else anyPort
  let anyPort ← Prog.get
  match ← ask .getSnSR with
  | .udp =>
    let ret ← echo false
    return ret.getD 1
  | .closed => checked sn (ask (.socket anyPort))
  | _ => return 1

/-- What has been received at a time, what has been sent of it, and whether a send has taken nothing. -/
structure Echo where
  chunk : List Byte
  sent : List Byte
  refused : Bool

def Echo.add (data : List Byte) : List Echo → List Echo
  | [] => []
  | e :: earlier => { e with sent := e.sent ++ data } :: earlier

def Echo.refuse : List Echo → List Echo
  | [] => []
  | e :: earlier => { e with refused := true } :: earlier

/-- The socket layer, with the echoes so far, the last one first. A receive fails or gives some of the bytes that are
asked for; a send fails, is busy, or takes the first bytes of what it is given. -/
def peer : Env ℕ (List Echo) Io Io.Res := fun _ w e =>
  match e with
  | .recv len => fun (r : Except ℤ (List Byte)) w' =>
    (∃ ret ≤ 0, r = .error ret ∧ w' = w) ∨
      ∃ data, data ≠ [] ∧ data.length ≤ len ∧ r = .ok data ∧ w' = ⟨data, [], false⟩ :: w
  | .send data => fun (ret : ℤ) w' =>
    (ret ≤ 0 ∧ w' = Echo.refuse w) ∨
      ∃ n : ℕ, 0 < n ∧ n ≤ data.length ∧ ret = n ∧ w' = Echo.add (data.take n) w
  | _ => fun _ w' => w' = w

/-- The first bytes have been sent, and all of them unless a send has taken nothing. -/
def Echo.Right (e : Echo) : Prop := e.sent <+: e.chunk ∧ (e.sent = e.chunk ↔ e.refused = false)

section runs
variable {closes : Bool} {data : List Byte} {sentsize m : ℕ} {w w' : List Echo} {α : Type}

/-- The loop stands at `sentsize` with `n` turns to go. -/
structure Sending (data : List Byte) (w : List Echo) (n sentsize : ℕ) (w' : List Echo) : Prop where
  world : w' = ⟨data, data.take sentsize, false⟩ :: w
  inside : sentsize ≤ data.length
  turns : data.length < n + sentsize

/-- A chunk has been dealt with. -/
def Echoed (w w' : List Echo) : Prop := ∃ e : Echo, e.Right ∧ w' = e :: w

lemma right_cut (h : sentsize < data.length) : Echo.Right ⟨data, data.take sentsize, true⟩ := by
  have hne : data.take sentsize ≠ data := fun heq => by
    have hlen := congrArg List.length heq
    rw [List.length_take] at hlen
    omega
  exact ⟨List.take_prefix _ _, iff_of_false hne Bool.noConfusion⟩

lemma wp_sendTurn {n : ℕ} (h : Sending data w (n + 1) sentsize w') :
    wp peer (sendTurn closes data sentsize) (fun t _ w' => match t with
      | .again sentsize' => Sending data w n sentsize' w'
      | .leave _ => Echoed w w') (fun _ _ => False) m w' := by
  obtain ⟨rfl, hinside, hturns⟩ := h
  rw [sendTurn]
  by_cases hall : data.length = sentsize
  · rw [if_pos hall]
    exact ⟨_, ⟨List.take_prefix _ _, iff_of_true (List.take_of_length_le hall.le) rfl⟩, rfl⟩
  · have hleft : sentsize < data.length := by omega
    rw [if_neg hall, wp_bind, wp_perform]
    rintro ret _ (⟨hret, rfl⟩ | ⟨k, hk, hlen, rfl, rfl⟩)
    · have hechoed : Echoed w (Echo.refuse (⟨data, data.take sentsize, false⟩ :: w)) := ⟨_, right_cut hleft, rfl⟩
      by_cases hneg : ret < 0
      · rw [if_pos hneg]
        cases closes with
        | true =>
          simp only [if_true, wp_bind]
          rw [wp_perform]
          rintro _ _ rfl
          exact hechoed
        | false => exact hechoed
      · have hbusy : ret = sockBusy := Int.le_antisymm hret (Int.not_lt.1 hneg)
        rw [if_neg hneg, if_pos hbusy]
        exact hechoed
    · have hpositive : ¬((k : ℕ) : ℤ) < 0 ∧ (k : ℤ) ≠ sockBusy := by
        rw [sockBusy]
        omega
      rw [List.length_drop] at hlen
      have hend : sentsize + k ≤ data.length := by omega
      have hmore : data.length < n + (sentsize + k) := by omega
      rw [if_neg hpositive.1, if_neg hpositive.2, wp_pure, Int.toNat_natCast]
      refine ⟨?_, hend, hmore⟩
      rw [Echo.add, List.take_add]

lemma wp_echo (closes : Bool) :
    wp peer (echo closes) (fun _ _ w' => w' = w ∨ Echoed w w') (fun _ _ => False) m w := by
  rw [echo, wp_bind, wp_perform]
  rintro size w rfl
  split_ifs with hsize
  · exact .inl rfl
  · rw [wp_bind, wp_perform]
    rintro _ _ (⟨ret, -, rfl, rfl⟩ | ⟨data, -, hlen, rfl, rfl⟩)
    · exact .inl rfl
    · have hfits : data.length < dataBufSize + 1 + 0 :=
        Nat.lt_succ_of_le (hlen.trans (Nat.min_le_right _ _))
      have hstart : Sending data w (dataBufSize + 1) 0 (⟨data, [], false⟩ :: w) := ⟨rfl, Nat.zero_le _, hfits⟩
      refine wp_mono (wp_loop_count (Q := fun _ _ w' => Echoed w w') (fun n sentsize _ w' =>
        Sending data w n sentsize w')
        (fun n sentsize m w' h => wp_mono (wp_sendTurn h) (fun t _ _ ht => by cases t <;> exact ht) fun _ _ => id)
        (fun sentsize _ _ h => ?_) _ hstart) (fun _ _ _ h => .inr h) fun _ _ => id
      have hinside := h.inside
      have hturns := h.turns
      omega

/-- The echoes have been added to, by right ones. -/
def Grown (w w' : List Echo) : Prop := ∃ new : List Echo, w' = new ++ w ∧ ∀ e ∈ new, e.Right

lemma Grown.refl (w : List Echo) : Grown w w := ⟨[], rfl, List.forall_mem_nil _⟩

lemma Grown.trans {w'' : List Echo} (h : Grown w w') (h' : Grown w' w'') : Grown w w'' := by
  obtain ⟨new, rfl, hnew⟩ := h
  obtain ⟨newer, rfl, hnewer⟩ := h'
  exact ⟨newer ++ new, (List.append_assoc _ _ _).symm, List.forall_mem_append.2 ⟨hnewer, hnew⟩⟩

lemma wp_echo_grown (closes : Bool) (k : Option ℤ → ℤ) : wp peer (do
      let ret ← echo closes
      return k ret) (fun _ _ w' => Grown w w') (fun _ _ => False) m w := by
  refine (wp_bind _ _).2 (wp_mono (wp_echo closes) ?_ fun _ _ => id)
  rintro ret m w' (rfl | ⟨e, he, rfl⟩)
  · exact .refl _
  · exact ⟨[e], rfl, List.forall_mem_singleton.2 he⟩

lemma wp_established : wp peer established (fun _ _ w' => Grown w w') (fun _ _ => False) m w := by
  rw [established, wp_bind, wp_perform]
  rintro con w rfl
  cases con with
  | true =>
    simp only [if_true, wp_bind]
    rw [wp_perform]
    rintro _ _ rfl
    exact (wp_bind _ _).1 (wp_echo_grown true fun ret => ret.getD 1)
  | false => exact wp_echo_grown true fun ret => ret.getD 1

/-- A call that neither receives nor sends leaves the echoes. -/
lemma wp_checked {good : ℤ} {e : Loop ℤ} (h : wp peer e (fun _ _ w' => w' = w) (fun _ _ => False) m w) :
    wp peer (checked good e) (fun _ _ w' => Grown w w') (fun _ _ => False) m w := by
  refine (wp_bind _ _).2 (wp_mono h ?_ fun _ _ => id)
  rintro ret m w' rfl
  exact .refl _

/-- The four services. -/
inductive Service
  | tcps (port : ℕ)
  | tcpc
  | udps (port : ℕ)
  | udpc

def Service.poll (sn : ℕ) : Service → Loop ℤ
  | tcps port => loopbackTcps sn port
  | tcpc => loopbackTcpc sn
  | udps port => loopbackUdps sn port
  | udpc => loopbackUdpc sn

lemma wp_poll (sn : ℕ) (s : Service) : wp peer (s.poll sn) (fun _ _ w' => Grown w w') (fun _ _ => False) m w := by
  cases s with
  | tcps port =>
    rw [Service.poll, loopbackTcps, wp_bind, wp_perform]
    rintro status w rfl
    cases status with
    | established => exact wp_established
    | closeWait | init | closed => exact wp_checked fun _ _ => id
    | udp | other => exact .refl _
  | tcpc =>
    rw [Service.poll, loopbackTcpc, wp_bind, wp_perform]
    rintro status w rfl
    cases status with
    | established => exact wp_established
    | closeWait | init => exact wp_checked fun _ _ => id
    | closed =>
      simp only [wp_bind]
      rw [wp_perform]
      rintro _ _ rfl
      rw [wp_get, wp_modify, wp_perform]
      rintro ret _ rfl
      split_ifs <;> exact .refl _
    | udp | other => exact .refl _
  | udps port =>
    rw [Service.poll, loopbackUdps, wp_bind, wp_perform]
    rintro status w rfl
    cases status with
    | udp => exact wp_echo_grown false fun ret => ret.getD 1
    | closed => exact wp_checked fun _ _ => id
    | established | closeWait | init | other => exact .refl _
  | udpc =>
    rw [Service.poll, loopbackUdpc, wp_bind, wp_modify, wp_bind, wp_get, wp_bind, wp_perform]
    rintro status w rfl
    cases status with
    | udp => exact wp_echo_grown false fun ret => ret.getD 1
    | closed => exact wp_checked fun _ _ => id
    | established | closeWait | init | other => exact .refl _

/-- `n` calls of a service, with what they return. -/
def polls (p : Loop ℤ) : ℕ → Loop (List ℤ)
  | 0 => return []
  | n + 1 => do
    let ret ← p
    let rets ← polls p n
    return ret :: rets

/-- Over any number of calls, whatever the socket layer answers, every chunk that is received is sent back from its
first byte on, after the ones before it, and whole exactly when no send was busy or failed: what a busy socket has not
taken is dropped. -/
theorem polls_echo (sn : ℕ) (s : Service) (n : ℕ) :
    wp peer (polls (s.poll sn) n) (fun _ _ w' => ∃ new : List Echo, w' = new ++ w ∧ ∀ e ∈ new, e.Right)
      (fun _ _ => False) m w := by
  induction n generalizing m w with
  | zero => exact Grown.refl w
  | succ n ih =>
    refine (wp_bind _ _).2 (wp_mono (wp_poll sn s) ?_ fun _ _ => id)
    rintro ret m' w' hgrown
    refine (wp_bind _ _).2 (wp_mono ih ?_ fun _ _ => id)
    intro rets m'' w'' hgrown'
    exact hgrown.trans hgrown'

end runs

end IoLibrary.Loopback
