import IoLibrary.Dns.Run

/-! When a reply is taken for the answer to the query. The message is the first `n` bytes of the
memory; the parser works on the memory and knows neither `n` nor the query. -/
namespace IoLibrary.Dns
open Effects

section message
variable (msg : Mem) (n : ℕ)

/-- A name of the message, compressed or not, and the place after it. -/
inductive NameAt : ℕ → ℕ → Prop
  | root {p : ℕ} (inside : p < n) (zero : msg p = 0) : NameAt p (p + 1)
  | pointer {p : ℕ} (inside : p + 1 < n) (mark : 0xC0 ≤ (msg p).toNat) : NameAt p (p + 2)
  | label {p q : ℕ} (nonempty : 0 < (msg p).toNat) (short : (msg p).toNat < 64)
      (rest : NameAt (p + 1 + (msg p).toNat) q) : NameAt p q

/-- `k` questions of the message, and the place after them. -/
def QuestionsAt : ℕ → ℕ → ℕ → Prop
  | 0, p, q => p = q
  | k + 1, p, q => ∃ name, NameAt msg n p name ∧ QuestionsAt k (name + 4) q

/-- A resource record: its name ends at `name`, and RDLENGTH bytes of data end it. -/
structure RecordAt (p name q : ℕ) : Prop where
  owner : NameAt msg n p name
  ends : q = name + 10 + get16 msg (name + 8)
  inside : q ≤ n

/-- `k` resource records of the message, and the place after them. -/
def RecordsAt : ℕ → ℕ → ℕ → Prop
  | 0, p, q => p = q
  | k + 1, p, q => ∃ name next, RecordAt msg n p name next ∧ RecordsAt k next q

/-- The answer section has a record of type A with the data `ip`. -/
def HasAddress (ip : Ip) : Prop :=
  ∃ first before p name q, QuestionsAt msg n (dhdr msg).qdcount 12 first ∧
    before < (dhdr msg).ancount ∧ RecordsAt msg n before first p ∧ RecordAt msg n p name q ∧
    get16 msg name = typeA ∧ get16 msg (name + 8) = 4 ∧ ip = ipAt msg (name + 10)

/-- The message answers the query of id `id` with the address `ip`. -/
structure Answers (id : ℕ) (ip : Ip) : Prop where
  header : 12 ≤ n
  id_eq : (dhdr msg).id = id
  response : (dhdr msg).qr = true
  no_error : (dhdr msg).rcode = 0
  address : HasAddress msg n ip

end message

section walk
variable (msg : Mem)

/-- The data places of the answers that dns_answer takes for addresses, of `n` from `cp` on. -/
def addresses : ℕ → ℕ → List ℕ
  | 0, _ => []
  | n + 1, cp =>
    match answerHead msg cp with
    | none => []
    | some (data, type) =>
      (if type = typeA then [data] else []) ++
        match answerData msg type data with
        | none => []
        | some cp => addresses n cp

/-- The walk over `n` answers from `cp` on comes to its end. -/
def walks : ℕ → ℕ → Prop
  | 0, _ => True
  | n + 1, cp =>
    match answerHead msg cp with
    | none => False
    | some (data, type) =>
      match answerData msg type data with
      | none => False
      | some cp => walks n cp

/-- The memory is taken for a reply without error. -/
def Accepted : Prop :=
  (∃ cp, questions msg (dhdr msg).qdcount 12 = some cp ∧ walks msg (dhdr msg).ancount cp) ∧
    (dhdr msg).rcode = 0

/-- The place of the last address that the walk comes to, if there is one. -/
def lastAddress : Option ℕ :=
  match questions msg (dhdr msg).qdcount 12 with
  | none => none
  | some cp => (addresses msg (dhdr msg).ancount cp).getLast?

/-- The bytes at the last address that the walk comes to; `ip` where it comes to none. -/
def leftBy (ip : Ip) : Ip := (lastAddress msg).elim ip (ipAt msg)

variable {msg}

lemma answers_ip (n cp : ℕ) (ip : Ip) :
    (answers msg n cp ip).2 = (addresses msg n cp).getLast?.elim ip (ipAt msg) := by
  induction n generalizing cp ip with
  | zero => rfl
  | succ n ih =>
    simp only [answers, addresses, dnsAnswer]
    cases answerHead msg cp with
    | none => rfl
    | some head =>
      obtain ⟨data, type⟩ := head
      cases hdata : answerData msg type data with
      | none =>
        simp only [hdata]
        by_cases htype : type = typeA <;> simp [htype]
      | some next =>
        simp only [hdata, ih]
        by_cases htype : type = typeA
        · rw [if_pos htype, if_pos htype, List.getLast?_append]
          cases (addresses msg n next).getLast? <;> simp
        · rw [if_neg htype, if_neg htype, List.nil_append]

lemma answers_ends (n cp : ℕ) (ip : Ip) :
    (∃ next, (answers msg n cp ip).1 = some next) ↔ walks msg n cp := by
  induction n generalizing cp ip with
  | zero => simp [answers, walks]
  | succ n ih =>
    simp only [answers, walks, dnsAnswer]
    cases answerHead msg cp with
    | none => simp
    | some head =>
      obtain ⟨data, type⟩ := head
      cases hdata : answerData msg type data with
      | none => simp [hdata]
      | some next => simpa [hdata] using ih next _

lemma parseDnsMsg_ip (ip : Ip) : (parseDnsMsg msg ip).2 = leftBy msg ip := by
  simp only [parseDnsMsg, leftBy, lastAddress]
  cases questions msg (dhdr msg).qdcount 12 with
  | none => rfl
  | some cp =>
    simp only [← answers_ip]
    cases h : answers msg (dhdr msg).ancount cp ip with
    | mk next left => cases next <;> rfl

lemma parseDnsMsg_one (ip : Ip) : (parseDnsMsg msg ip).1 = 1 ↔ Accepted msg := by
  simp only [parseDnsMsg, Accepted]
  cases questions msg (dhdr msg).qdcount 12 with
  | none => simp
  | some cp =>
    have hends := @answers_ends msg (dhdr msg).ancount cp ip
    cases h : answers msg (dhdr msg).ancount cp ip with
    | mk next left =>
      rw [h] at hends
      cases next with
      | none => simp_all
      | some next =>
        have hwalks : walks msg (dhdr msg).ancount cp := hends.1 ⟨next, rfl⟩
        by_cases hrcode : (dhdr msg).rcode = 0 <;> simp [h, hwalks, hrcode]

end walk

variable {s : Script} {name : List Byte}

/-- The wait, until a datagram is there: nothing that the parser writes has changed. -/
structure Asking (c₀ c : Client) (w : World) : Prop where
  msg : c.msg = c₀.msg
  msgId : c.msgId = c₀.msgId
  ip : c.ip = c₀.ip
  received : w.received = none

/-- What DNS_run returns is what the parser makes of the datagram, or 0 without one. -/
def Outcome (c₀ : Client) (ret : ℤ) (c : Client) (w : World) : Prop :=
  c.msgId = c₀.msgId ∧ match w.received with
  | none => ret = 0 ∧ c.ip = c₀.ip
  | some data => c.msg = c₀.msg.fill data ∧ (ret, c.ip) = parseDnsMsg (c₀.msg.fill data) c₀.ip

lemma wp_checkDnsTimeout {c : Client} {w : World} {Q : ℤ → Client → World → Prop}
    {H : Client → World → Prop} (h : ∀ ret tick retry, Q ret { c with tick := tick, retry := retry }
      { w with turn := w.turn + 1 }) : wp (net s) checkDnsTimeout Q H c w := by
  simp only [checkDnsTimeout, wp_bind, wp_perform, wp_modify, wp_get, wp_ite, wp_pure]
  rintro k _ ⟨rfl, rfl⟩
  exact ⟨fun _ => ⟨fun _ => h _ _ _, fun _ => h _ _ _⟩, fun _ => h _ _ _⟩

lemma wp_dnsPoll_outcome {c₀ c : Client} {w : World} (h : Asking c₀ c w) :
    wp (net s) dnsPoll (fun turn c w => match turn with
      | .again _ => Asking c₀ c w
      | .leave ret => Outcome c₀ ret c w) (fun _ _ => True) c w := by
  simp only [dnsPoll, wp_bind, wp_perform]
  rintro rsr w₀ ⟨-, hw⟩
  rw [hw, wp_ite]
  constructor
  · intro _
    simp only [wp_bind, wp_perform, wp_get, wp_modify, wp_pure]
    rintro data _ ⟨-, rfl⟩
    exact ⟨h.msgId, by rw [Client.parsed, h.msg], by rw [Client.parsed, h.msg, h.ip]⟩
  · intro _
    rw [wp_bind]
    apply wp_checkDnsTimeout
    intro ret tick retry
    have hasking : Asking c₀ { c with tick := tick, retry := retry }
        { w with turn := w.turn + 1 } := ⟨h.msg, h.msgId, h.ip, h.received⟩
    simp only [wp_ite, wp_bind, wp_get, wp_perform, wp_pure]
    constructor
    · intro _
      rw [Outcome, h.received]
      exact ⟨h.msgId, rfl, h.ip⟩
    · intro _
      refine ⟨fun _ => ?_, fun _ => hasking⟩
      rintro - _ rfl
      exact ⟨h.msg, h.msgId, h.ip, h.received⟩

lemma wp_dnsRun_outcome (turns : ℕ) (c : Client) :
    wp (net s) (dnsRun turns name) (Outcome (c.start name)) (fun _ _ => True) c World.start := by
  simp only [dnsRun, wp_bind, wp_perform, wp_get, wp_modify, wp_pure]
  rintro - _ rfl - _ rfl
  have hloop (len : ℕ) (w : World) (hw : w.received = none) :
      wp (net s) (Prog.loop (fun _ => dnsPoll) turns len) (Outcome (c.start name))
        (fun _ _ => True) (c.start name) w := by
    apply wp_loop fun _ => Asking (c.start name)
    · intro len c' w h
      apply wp_mono (wp_dnsPoll_outcome h) _ fun _ _ => id
      intro turn c₁ w₁ h₁
      cases turn with
      | again len => exact h₁
      | leave ret => exact h₁
    · exact fun _ _ _ _ => trivial
    · exact ⟨rfl, rfl, rfl, hw⟩
  apply wp_mono (hloop _ _ _) _ fun _ _ => id
  · rfl
  · rintro ret c' w' hout - _ rfl
    exact hout

/-- The claim on a run: 1 is returned for an answer to the query only, and the result buffer is
written with its address only. -/
def Authentic (c : Client) (ret : ℤ) (c' : Client) (w' : World) : Prop :=
  (ret = 1 → ∃ data, w'.received = some data ∧ Answers c'.msg data.length c'.msgId c'.ip) ∧
    (ret ≠ 1 → c'.ip = c.ip)

/-- The datagram `data` over the buffer's content `stale`: the walk that accepts it has met an
address of a message with the query's id and the QR bit, and one that refuses it has met none, or
the one that stood in the result buffer. -/
def Sound (stale : Mem) (id : ℕ) (ip : Ip) (data : List Byte) : Prop :=
  let msg := stale.fill data
  (Accepted msg → 12 ≤ data.length ∧ (dhdr msg).id = id ∧ (dhdr msg).qr = true ∧
    HasAddress msg data.length (leftBy msg ip)) ∧
  (¬ Accepted msg → leftBy msg ip = ip)

lemma sound_iff {c₀ c : Client} {ret : ℤ} {data : List Byte}
    (hmsg : c.msg = c₀.msg.fill data) (hid : c.msgId = c₀.msgId)
    (hparse : (ret, c.ip) = parseDnsMsg (c₀.msg.fill data) c₀.ip) :
    Sound c₀.msg c₀.msgId c₀.ip data ↔
      (ret = 1 → Answers c.msg data.length c.msgId c.ip) ∧ (ret ≠ 1 → c.ip = c₀.ip) := by
  have hret : ret = 1 ↔ Accepted (c₀.msg.fill data) := by
    rw [← parseDnsMsg_one c₀.ip, ← hparse]
  have hip : c.ip = leftBy (c₀.msg.fill data) c₀.ip := by
    rw [← parseDnsMsg_ip, ← hparse]
  rw [Sound, hmsg, hid, hip, ne_eq, hret]
  apply and_congr_left'
  apply forall_congr'
  intro haccepted
  constructor
  · rintro ⟨hheader, hid, hqr, haddress⟩
    exact ⟨hheader, hid, hqr, haccepted.2, haddress⟩
  · intro h
    exact ⟨h.header, h.id_eq, h.response, h.address⟩

/-- The datagram `reply` is there at the first turn. -/
def prompt (reply : List Byte) : Script := ⟨fun _ => reply.length, fun _ => 0, reply⟩

lemma prompt_run {reply : List Byte} (hreply : 0 < reply.length)
    (hfits : reply.length ≤ maxDnsBufSize) (c : Client) :
    ∃ c' w', w'.received = some reply ∧ Eval (net (prompt reply)) (dnsRun 1 name) c World.start
      (some (parseDnsMsg ((c.start name).msg.fill reply) c.ip).1) c' w' := by
  have hlen : min (reply.length % 2 ^ 16) maxDnsBufSize = reply.length := by
    have hmax : maxDnsBufSize = 256 := rfl
    omega
  have hpos : 0 < reply.length % 2 ^ 16 := by
    have hmax : maxDnsBufSize = 256 := rfl
    omega
  have hturn (w : World) : Eval (net (prompt reply)) dnsPoll (c.start name) w
      (some (.leave (parseDnsMsg ((c.start name).msg.fill reply) c.ip).1))
      (Client.parsed reply (c.start name)) { w with received := some reply } := by
    have hread : net (prompt reply) (c.start name) w
        (.recvfrom (min (reply.length % 2 ^ 16) maxDnsBufSize)) reply
        { w with received := some reply } := by
      constructor
      · rw [hlen]
        exact List.take_length.symm
      · rfl
    apply Eval.call ⟨rfl, rfl⟩
    apply Eval.pos hpos
    exact Eval.call hread (.mem (.mem .ret))
  have hloop (len : ℕ) (w : World) :
      Eval (net (prompt reply)) (Prog.loop (fun _ => dnsPoll) 1 len) (c.start name) w
        (some (parseDnsMsg ((c.start name).msg.fill reply) c.ip).1)
        (Client.parsed reply (c.start name)) { w with received := some reply } :=
    Eval.bind (hturn w) .ret
  let sent := (c.start name).msg.slice 0 ((c.query name).length % 2 ^ 16)
  refine ⟨Client.parsed reply (c.start name), ⟨0, [sent], some reply⟩, rfl, ?_⟩
  refine Eval.call (x := ()) rfl (.mem (.mem (.mem (.call (x := ()) rfl ?_))))
  apply Eval.bind (hloop ((c.query name).length % 2 ^ 16) ⟨0, [sent], none⟩)
  exact .call (x := ()) rfl .ret

/-- A header without questions and answers, whose id is 0 and whose QR bit is not set. -/
def bareHeader : List Byte := List.replicate 12 0

/-- The reply to the query of id 1 for the root: no question, one address. -/
def rootReply : List Byte :=
  [0, 1, 0x80, 0, 0, 0, 0, 1, 0, 0, 0, 0] ++ [0, 0, 1, 0, 1, 0, 0, 0, 0, 0, 4, 10, 0, 0, 7]

end IoLibrary.Dns
