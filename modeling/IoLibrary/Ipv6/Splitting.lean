import IoLibrary.Effects.History
import IoLibrary.Ipv6.Records

/-! Datagrams that recvfrom hands over in parts. -/
namespace IoLibrary.Ipv6
open Effects

/-- A call of recvfrom, with the first byte of its address buffer. -/
structure Call where
  len : ℕ
  addr : Byte
  positive : 0 < len

abbrev Call.run (undefined : ℤ) (turns sn : ℕ) (call : Call) : Drv Received :=
  recvfrom undefined turns sn call.len ⟨some call.addr, true⟩

/-- What is still to be handed over: the rest of a payload, and the records behind it. -/
structure Due where
  rest : List Byte
  queue : List Record

/-- The part that a call with room for `len` bytes gets, `none` if nothing is due. -/
def Due.part (len : ℕ) : Due → Option (List Byte)
  | ⟨[], []⟩ => none
  | ⟨[], r :: _⟩ => some (r.payload.take len)
  | ⟨b :: rest, _⟩ => some ((b :: rest).take len)

def Due.next (len : ℕ) : Due → Due
  | ⟨[], []⟩ => ⟨[], []⟩
  | ⟨[], r :: queue⟩ => ⟨r.payload.drop len, queue⟩
  | ⟨b :: rest, queue⟩ => ⟨(b :: rest).drop len, queue⟩

/-- A call that hands over the part that is due, and nothing when nothing is due. -/
def Hands (part : Option (List Byte)) (result : Option Received) : Prop :=
  match part with
  | some part => ∃ r, result = some r ∧ r.ret = part.length ∧ r.bytes = part
  | none => ∀ r, result = some r → r.ret < 0 ∧ r.bytes = []

/-- No other byte is read as payload, and no payload byte as packet info. -/
def Sorted (reads : List (Part × Part)) : Prop :=
  (∀ is, (Part.payload, is) ∈ reads → is = .payload) ∧ (Part.info, Part.payload) ∉ reads

structure Right (due : Due) (s : Step Call Cpu Rx Received) : Prop where
  handed : Hands (due.part s.call.len) s.result
  sorted : Sorted s.post.2.reads
  remained : s.post.1.sock.remainedSize = (due.next s.call.len).rest.length

/-- Every call of a run is right. -/
def RightRun : Due → List (Step Call Cpu Rx Received) → Prop
  | _, [] => True
  | due, s :: steps => Right due s ∧ RightRun (due.next s.call.len) steps

/-- A call that finds the beginning of a record gets through its switch. -/
def Readable (protocol : Byte) (call : Call) : Prop :=
  protocol = snMrUdp4 ∨ protocol = snMrIpraw4 ∧ call.addr ≠ 0

/-- Every record is met by a call that gets all of it, or by the last call. -/
def Ready (protocol : Byte) : List Record → List Call → Prop
  | [], _ => True
  | _ :: _, [] => True
  | r :: queue, call :: calls =>
    Readable protocol call ∧ (r.payload.length ≤ call.len ∨ calls = []) ∧ Ready protocol queue calls

section calls
variable {c : Cpu} {w : Rx} {turns : ℕ} {protocol : Byte} {len : ℕ}

lemma Sorted.append {reads more : List (Part × Part)} (h : Sorted reads)
    (hmore : ∀ p ∈ more, p.1 = p.2) : Sorted (reads ++ more) := by
  constructor
  · intro is his
    rcases List.mem_append.1 his with his | his
    · exact h.1 is his
    · exact (hmore _ his).symm
  · intro hinfo
    rcases List.mem_append.1 hinfo with hinfo | hinfo
    · exact h.2 hinfo
    · exact absurd (hmore _ hinfo) (by decide)

/-- The modes of the splitting, none of which has an IPv6 address. -/
def Splits (protocol : Byte) : Prop :=
  protocol = snMrUdp4 ∨ protocol = snMrIpraw4 ∨ protocol = snMrMacraw

/-- The state between two calls when `due` is still to be handed over. -/
structure Between (protocol : Byte) (due : Due) (c : Cpu) (w : Rx) : Prop where
  splits : Splits protocol
  blocking : Blocking protocol c
  remained : c.sock.remainedSize = due.rest.length
  unread : w.unread = tagged .payload due.rest ++ due.queue.flatMap (Record.bytes protocol)
  sorted : Sorted w.reads
  opened : w.closed = false

variable {undefined : ℤ} {sn : ℕ} {call : Call} {r : Record} {queue : List Record}

/-- The checks of recvfrom pass. -/
lemma wp_run {due : Due} (h : Between protocol due c w) (hsn : sn < sockNum)
    {Q : Received → Cpu → Rx → Prop} {H : Cpu → Rx → Prop}
    (hrun : wp received (if c.sock.remainedSize = 0 then do
        match ← pollLoop turns (recvfromLook false) (return .error sockerrTimeout) with
        | .error e => return ⟨e, []⟩
        | .ok _ => recvfromInfo undefined turns call.len ⟨some call.addr, true⟩
      else recvfromInfo undefined turns call.len ⟨some call.addr, true⟩) Q H c w) :
    wp received (call.run undefined turns sn) Q H c w := by
  have hknown : ¬ (protocol ≠ snMrUdp4 ∧ protocol ≠ snMrIpraw4 ∧ protocol ≠ snMrIpraw6 ∧
      protocol ≠ snMrMacraw) := by
    rcases h.splits with rfl | rfl | rfl <;> simp
  rw [Call.run, recvfrom, if_neg (Nat.ne_of_gt call.positive), if_neg (Nat.not_le.2 hsn), wp_bind,
    wp_get, h.blocking.healthy, if_neg (by decide), h.blocking.configValid, if_neg (by decide)]
  simp only [h.blocking.mode]
  rw [if_neg hknown, h.blocking.blocking]
  exact hrun

/-- A call that finds a record reads its packet info. -/
lemma wp_run_info (h : Between protocol ⟨[], r :: queue⟩ c w) (hsn : sn < sockNum)
    (hturns : 0 < turns) {Q : Received → Cpu → Rx → Prop} {H : Cpu → Rx → Prop}
    (hpacket : ∀ c' w', Blocking protocol c' → c'.sock.remainedSize = 0 →
      w'.unread = r.body protocol ++ queue.flatMap (Record.bytes protocol) → Sorted w'.reads →
      w'.closed = false →
      wp received (recvfromPacket undefined turns call.len r.info c.sock.mode
        ⟨some call.addr, true⟩ false) Q H c' w') :
    wp received (call.run undefined turns sn) Q H c w := by
  have hunread : w.unread =
      tagged .info r.info ++ (r.body protocol ++ queue.flatMap (Record.bytes protocol)) := by
    rw [h.unread, ← List.append_assoc]
    rfl
  have hremained : c.sock.remainedSize = 0 := h.remained
  apply wp_run h hsn
  rw [if_pos hremained, wp_bind]
  obtain ⟨turns, rfl⟩ := Nat.exists_eq_succ_of_ne_zero (Nat.ne_of_gt hturns)
  rw [pollLoop, Prog.loop]
  change wp _ (_ >>= _) _ _ _ _
  simp only [recvfromLook, wp_bind, wp_perform]
  rintro n _ ⟨hn, rfl⟩ sr _ ⟨hsr, rfl⟩
  have hwaits : n ≠ 0 := fun hzero => by
    rw [hn, hunread] at hzero
    exact List.cons_ne_nil _ _ hzero
  have hopen : sr ≠ sockClosed := fun hclosed => by
    rw [hsr, h.opened] at hclosed
    exact Bool.false_ne_true hclosed
  rw [if_neg hopen, if_pos hwaits]
  simp only [modifySock, wp_bind, wp_modify, wp_pure, wp_ret, recvfromInfo, wp_get]
  apply wp_recvPart_tagged (n := 2) hunread rfl
  dsimp only
  rw [if_neg (by decide), h.blocking.blocking]
  apply hpacket
  · exact ⟨h.blocking.mode, h.blocking.healthy, rfl, h.blocking.configValid⟩
  · exact h.remained
  · rfl
  · apply h.sorted.append
    intro p hp
    rw [List.eq_of_mem_replicate hp]
  · exact h.opened

/-- Address, port and payload of a record of a mode that has them. -/
lemma wp_packet_part (hblocking : Blocking protocol c) {mode : Byte}
    (hmode : mode &&& 0x03 = protocol &&& 0x03) (hmacraw : protocol ≠ snMrMacraw)
    (hports : protocol &&& 0x03 = 0x02 ↔ protocol = snMrUdp4)
    (hunread : w.unread = r.body protocol ++ queue.flatMap (Record.bytes protocol))
    (hsorted : Sorted w.reads) (hopened : w.closed = false) (hsplits : Splits protocol) :
    wp received (do
        let ret ← recvfromAddress turns (byteAt r.info 0) false
        if ret ≠ sockOk then return ⟨ret, []⟩
        recvfromRest turns len r.payload.length mode true false)
      (fun res c' w' => res = ⟨(r.payload.take len).length, r.payload.take len⟩ ∧
        Between protocol ⟨r.payload.drop len, queue⟩ c' w') (fun _ _ => False) c w := by
  rw [Record.body, if_neg hmacraw, List.append_assoc, List.append_assoc] at hunread
  rw [wp_bind]
  apply wp_recvfromAddress_read hblocking hunread
  intro c₁ hblocking₁
  rw [if_neg (by decide)]
  apply wp_recvfromRest_part hblocking₁ hmode rfl hports
  intro c₂ before hblocking₂ hremained hbefore
  refine ⟨rfl, ⟨hsplits, hblocking₂, hremained, rfl, ?_, hopened⟩⟩
  refine Sorted.append (Sorted.append (Sorted.append hsorted ?_) ?_) ?_
  · intro p hp
    rw [List.eq_of_mem_replicate hp]
  · intro p hp
    rw [hbefore p hp]
  · intro p hp
    rw [List.eq_of_mem_replicate hp]

/-- A record that a call can read is handed over as far as the call has room. -/
lemma wp_run_record (h : Between protocol ⟨[], r :: queue⟩ c w) (hsn : sn < sockNum)
    (hturns : 0 < turns) (hreadable : Readable protocol call) :
    wp received (call.run undefined turns sn)
      (fun res c' w' => res = ⟨(r.payload.take call.len).length, r.payload.take call.len⟩ ∧
        Between protocol ⟨r.payload.drop call.len, queue⟩ c' w') (fun _ _ => False) c w := by
  obtain ⟨hports, hswitch⟩ := Blocking.of_mode h.blocking.mode
  apply wp_run_info h hsn hturns
  intro c' w' hblocking hremained hunread hsorted hopened
  rw [recvfromPacket]
  simp only [r.info_length, hswitch]
  rcases hreadable with hudp | ⟨hipraw, haddr⟩
  · have hcase : protocol &&& 0x07 = snMrUdp4 := by
      rw [hudp]
      rfl
    rw [if_pos hcase, if_neg (Option.some_ne_none call.addr)]
    refine wp_packet_part hblocking hports ?_ ?_ hunread hsorted hopened h.splits
    · rw [hudp]
      decide
    · rw [hudp]
      decide
  · have hcase : protocol &&& 0x07 = snMrIpraw4 := by
      rw [hipraw]
      rfl
    rw [hcase, if_neg (by decide), if_neg (by decide), wp_bind, wp_get, if_pos hremained]
    split
    · next hnone => exact absurd hnone (Option.some_ne_none call.addr)
    · next hzero => exact absurd (Option.some.inj hzero) haddr
    · refine wp_packet_part hblocking hports ?_ ?_ hunread hsorted hopened h.splits
      · rw [hipraw]
        decide
      · rw [hipraw]
        decide

/-- A blocking call that finds nothing waits, and then fails. -/
lemma wp_run_empty (h : Between protocol ⟨[], []⟩ c w) (hsn : sn < sockNum) :
    wp received (call.run undefined turns sn)
      (fun res c' w' => (res.ret < 0 ∧ res.bytes = []) ∧ Between protocol ⟨[], []⟩ c' w')
      (fun c' w' => Between protocol ⟨[], []⟩ c' w') c w := by
  have hremained : c.sock.remainedSize = 0 := h.remained
  apply wp_run h hsn
  rw [if_pos hremained, wp_bind]
  refine wp_mono (Q := fun a c' w' => a = .error sockerrTimeout ∧ c' = c ∧ w' = w)
    (H := fun c' w' => c' = c ∧ w' = w) ?_ ?_ ?_
  · apply wp_loop (fun _ c' w' => c' = c ∧ w' = w) _ (fun _ _ _ h => h) _ ⟨rfl, rfl⟩
    rintro - c' w' ⟨rfl, rfl⟩
    have hunread : w'.unread = [] := h.unread
    simp only [recvfromLook, wp_bind, wp_perform]
    rintro n _ ⟨hn, rfl⟩ sr _ ⟨hsr, rfl⟩
    have hopen : sr ≠ sockClosed := fun hclosed => by
      rw [hsr, h.opened] at hclosed
      exact Bool.false_ne_true hclosed
    have hnone : ¬ n ≠ 0 := not_not.2 (hn.2 hunread)
    rw [if_neg hopen, if_neg hnone, if_neg Bool.false_ne_true]
    simp only [wp_bind, wp_pure, wp_perform, wp_ite]
    rintro late _ rfl
    exact ⟨fun _ => ⟨trivial, trivial, rfl⟩, fun _ => ⟨trivial, rfl⟩⟩
  · rintro a c' w' ⟨rfl, rfl, rfl⟩
    exact ⟨⟨by decide, rfl⟩, h⟩
  · rintro c' w' ⟨rfl, rfl⟩
    exact h

/-- A call that finds the rest of a payload takes it for a packet info. -/
lemma wp_run_rest {b : Byte} {rest : List Byte} (h : Between protocol ⟨b :: rest, queue⟩ c w)
    (hsn : sn < sockNum) :
    wp received (call.run undefined turns sn)
      (fun _ _ w' => (Part.info, Part.payload) ∈ w'.reads)
      (fun _ w' => (Part.info, Part.payload) ∈ w'.reads) c w := by
  have hremained : c.sock.remainedSize ≠ 0 := by
    rw [h.remained]
    exact Nat.succ_ne_zero _
  apply wp_run h hsn
  rw [if_neg hremained]
  simp only [recvfromInfo, wp_bind, wp_get]
  apply wp_recvPart_read
  intro data _ _
  have hread : (Part.info, Part.payload) ∈ (w.read 2 .info).reads := by
    apply List.mem_append_right
    rw [h.unread]
    exact List.mem_cons_self
  refine wp_of_within (within_all _) (fun _ (w' : Rx) => (Part.info, Part.payload) ∈ w'.reads)
    (fun _ _ _ _ h => h) ?_ hread
  exact fun e _ m w₁ x w₂ hmem hstep => (received_reads hstep).subset hmem

/-- What a call does that finds a record and cannot read it is not right. -/
lemma wp_run_refused (h : Between protocol ⟨[], r :: queue⟩ c w) (hsn : sn < sockNum)
    (hturns : 0 < turns) (hrefused : ¬ Readable protocol call) :
    wp received (call.run undefined turns sn)
      (fun res c' _ => ¬ (res.ret = (r.payload.take call.len).length ∧
        c'.sock.remainedSize = (r.payload.drop call.len).length)) (fun _ _ => True) c w := by
  obtain ⟨hports, hswitch⟩ := Blocking.of_mode h.blocking.mode
  apply wp_run_info h hsn hturns
  intro c' w' hblocking hremained hunread hsorted hopened
  rw [recvfromPacket]
  simp only [hswitch]
  rcases h.splits with hudp | hipraw | hmacraw
  · exact absurd (.inl hudp) hrefused
  · have haddr : call.addr = 0 := by
      by_contra haddr
      exact hrefused (.inr ⟨hipraw, haddr⟩)
    have hcase : protocol &&& 0x07 = snMrIpraw4 := by
      rw [hipraw]
      rfl
    rw [hcase, if_neg (by decide), if_neg (by decide), wp_bind, wp_get, if_pos hremained, haddr]
    rintro ⟨hret, -⟩
    have hret : sockerrArg = (r.payload.take call.len).length := hret
    have hneg : sockerrArg < 0 := by decide
    omega
  · have hcase : protocol &&& 0x07 = snMrMacraw := by
      rw [hmacraw]
      rfl
    have hmode : c.sock.mode &&& 0x03 ≠ 0x02 := by
      rw [hports, hmacraw]
      decide
    rw [hcase, if_neg (by decide), if_pos rfl]
    apply wp_mono (wp_recvfromMacraw_counted hremained hmode) _ fun _ _ => id
    rintro res c₁ w₁ hres ⟨hret, hleft⟩
    rw [List.length_take] at hret
    rw [List.length_drop] at hleft
    rcases hres with hneg | ⟨hlow, hhigh, hcount, hzero⟩
    · omega
    · have hfits := r.fits
      have hq : r.payload.length / 256 < 8 := by omega
      -- a length this small leaves no flags in the packet info
      have hword : word16 (byteAt r.info 0) (byteAt r.info 1) = r.payload.length := by
        have hsmall : (r.flags ||| BitVec.ofNat 8 (r.payload.length / 256)).toNat < 8 := by
          have hhigh : (r.flags ||| BitVec.ofNat 8 (r.payload.length / 256)).toNat * 256 +
            (BitVec.ofNat 8 r.payload.length).toNat ≤ 1516 := hhigh
          omega
        change (r.flags ||| BitVec.ofNat 8 (r.payload.length / 256)).toNat * 256 +
          (BitVec.ofNat 8 r.payload.length).toNat = r.payload.length
        rw [info_word r.plain hq hsmall, BitVec.toNat_ofNat]
        omega
      rw [hword] at hlow hcount
      omega

end calls

section runs
variable {protocol : Byte} {undefined : ℤ} {turns sn : ℕ}

/-- Every run of these calls, also one whose last call still waits, is right. -/
def AllRight (undefined : ℤ) (turns sn : ℕ) (due : Due) (calls : List Call) (c : Cpu) (w : Rx) :
    Prop :=
  ∀ steps c' w', History (fun _ => received) (Call.run undefined turns sn) steps c w c' w' →
    steps.map Step.call <+: calls → RightRun due steps

/-- Calls that meet their records are right. -/
lemma allRight_of_ready (hsn : sn < sockNum) (hturns : 0 < turns) {calls : List Call} :
    ∀ {queue : List Record} {c : Cpu} {w : Rx}, Between protocol ⟨[], queue⟩ c w →
      Ready protocol queue calls → AllRight undefined turns sn ⟨[], queue⟩ calls c w := by
  induction calls with
  | nil =>
    intro queue c w _ _ steps c' w' _ hcalls
    have hsteps : steps = [] := List.map_eq_nil_iff.1 (List.prefix_nil.1 hcalls)
    rw [hsteps]
    trivial
  | cons call calls ih =>
    intro queue c w hbetween hready steps c' w' history hcalls
    cases history with
    | nil => trivial
    | @call first a rest _ _ c₁ w₁ _ _ run history =>
      obtain ⟨rfl, hrest⟩ := List.cons_prefix_cons.1 hcalls
      cases queue with
      | nil =>
        obtain ⟨hfailed, hafter⟩ := wp_returns (wp_run_empty hbetween hsn) run
        refine ⟨⟨?_, hafter.sorted, hafter.remained⟩, ?_⟩
        · rintro r ⟨⟩
          exact hfailed
        · exact ih hafter trivial _ _ _ history hrest
      | cons r queue =>
        obtain ⟨hreadable, hroom, hready⟩ := hready
        obtain ⟨hres, hafter⟩ := wp_returns (wp_run_record hbetween hsn hturns hreadable) run
        refine ⟨⟨⟨a, rfl, ?_, ?_⟩, hafter.sorted, hafter.remained⟩, ?_⟩
        · rw [hres]
        · rw [hres]
        · rcases hroom with hroom | rfl
          · have hdone : r.payload.drop first.len = [] := List.drop_eq_nil_of_le hroom
            rw [hdone] at hafter
            rw [Due.next, hdone]
            exact ih hafter hready _ _ _ history hrest
          · have hsteps : rest = [] := List.map_eq_nil_iff.1 (List.prefix_nil.1 hrest)
            rw [hsteps]
            trivial
    | @running last _ _ _ _ run =>
      obtain ⟨rfl, -⟩ := List.cons_prefix_cons.1 hcalls
      cases queue with
      | nil =>
        have hafter := wp_cuts (wp_run_empty hbetween hsn) run
        refine ⟨⟨?_, hafter.sorted, hafter.remained⟩, trivial⟩
        rintro r ⟨⟩
      | cons r queue =>
        exact (wp_cuts (wp_run_record hbetween hsn hturns hready.1) run).elim

/-- The first of some calls, in one of its runs, is right. -/
lemma AllRight.first {due : Due} {call : Call} {calls : List Call} {c : Cpu} {w : Rx}
    (h : AllRight undefined turns sn due (call :: calls) c w) {r : Option Received} {c' : Cpu}
    {w' : Rx} (run : Eval received (call.run undefined turns sn) c w r c' w') :
    Right due ⟨call, (c, w), r, (c', w')⟩ := by
  cases r with
  | some r => exact (h _ _ _ (.call run .nil) (List.prefix_append [call] calls)).1
  | none => exact (h _ _ _ (.running run) (List.prefix_append [call] calls)).1

lemma AllRight.rest {due : Due} {call : Call} {calls : List Call} {c : Cpu} {w : Rx}
    (h : AllRight undefined turns sn due (call :: calls) c w) {r : Received} {c' : Cpu} {w' : Rx}
    (run : Eval received (call.run undefined turns sn) c w (some r) c' w') :
    AllRight undefined turns sn (due.next call.len) calls c' w' := by
  intro steps c₁ w₁ history hcalls
  refine (h _ _ _ (.call run history) ?_).2
  exact List.cons_prefix_cons.2 ⟨rfl, hcalls⟩

/-- A call that is right has read its record. -/
lemma AllRight.readable (hsn : sn < sockNum) (hturns : 0 < turns) {r : Record} {queue : List Record}
    {call : Call} {calls : List Call} {c : Cpu} {w : Rx}
    (hbetween : Between protocol ⟨[], r :: queue⟩ c w)
    (h : AllRight undefined turns sn ⟨[], r :: queue⟩ (call :: calls) c w) :
    Readable protocol call := by
  by_contra hrefused
  obtain ⟨res, c', w', run⟩ := exists_eval received_total (call.run undefined turns sn) c w
  have hright := h.first run
  obtain ⟨r', hres, hret, -⟩ := hright.handed
  subst hres
  exact wp_returns (wp_run_refused hbetween hsn hturns hrefused) run ⟨hret, hright.remained⟩

/-- A call that finds the rest of a payload is not right. -/
lemma not_allRight_of_rest (hsn : sn < sockNum) {b : Byte} {rest : List Byte} {queue : List Record}
    {call : Call} {calls : List Call} {c : Cpu} {w : Rx}
    (hbetween : Between protocol ⟨b :: rest, queue⟩ c w) :
    ¬ AllRight undefined turns sn ⟨b :: rest, queue⟩ (call :: calls) c w := by
  intro h
  obtain ⟨res, c', w', run⟩ := exists_eval received_total (call.run undefined turns sn) c w
  have hinfo := (wp_iff_eval _).1 (wp_run_rest hbetween hsn) res c' w' run
  have hread : (Part.info, Part.payload) ∈ w'.reads := by
    cases res with
    | none => exact hinfo
    | some r => exact hinfo
  exact (h.first run).sorted.2 hread

lemma ready_of_allRight (hsn : sn < sockNum) (hturns : 0 < turns) {calls : List Call} :
    ∀ {queue : List Record} {c : Cpu} {w : Rx}, Between protocol ⟨[], queue⟩ c w →
      AllRight undefined turns sn ⟨[], queue⟩ calls c w → Ready protocol queue calls := by
  induction calls with
  | nil =>
    intro queue c w _ _
    cases queue with
    | nil => trivial
    | cons r queue => trivial
  | cons call calls ih =>
    intro queue c w hbetween h
    cases queue with
    | nil => trivial
    | cons r queue =>
      have hreadable := h.readable hsn hturns hbetween
      obtain ⟨res, c', w', run⟩ := exists_eval received_total (call.run undefined turns sn) c w
      cases res with
      | none => exact (wp_cuts (wp_run_record hbetween hsn hturns hreadable) run).elim
      | some res =>
        obtain ⟨-, hafter⟩ := wp_returns (wp_run_record hbetween hsn hturns hreadable) run
        have hrest := h.rest run
        rw [Due.next] at hrest
        cases hleft : r.payload.drop call.len with
        | nil =>
          rw [hleft] at hafter hrest
          exact ⟨hreadable, .inl (List.drop_eq_nil_iff.1 hleft), ih hafter hrest⟩
        | cons b left =>
          rw [hleft] at hafter hrest
          cases calls with
          | nil =>
            refine ⟨hreadable, .inr rfl, ?_⟩
            cases queue with
            | nil => trivial
            | cons r queue => trivial
          | cons next calls => exact (not_allRight_of_rest hsn hafter hrest).elim

/-- recvfrom hands datagrams over in parts exactly as long as no part is left for a later call. -/
theorem splitting_iff (hsn : sn < sockNum) (hturns : 0 < turns) {queue : List Record} {c : Cpu}
    {w : Rx} (hstart : Between protocol ⟨[], queue⟩ c w) (calls : List Call) :
    AllRight undefined turns sn ⟨[], queue⟩ calls c w ↔ Ready protocol queue calls :=
  ⟨ready_of_allRight hsn hturns hstart, allRight_of_ready hsn hturns hstart⟩

/-- A packet of two bytes. -/
def twoBytes : Record where
  flags := 0
  address := #v[192, 168, 0, 1]
  port := #v[0, 53]
  payload := [0x68, 0x69]
  plain := by decide
  fits := by decide

/-- A blocking UDP4 socket. -/
def udp4Cpu : Cpu where
  sock := ⟨false, false, .healthy, .idle, 0, 0, packCompleted, snMrUdp4⟩
  sockAnyPort := 0xC000
  ready := true
  lastError := 0
  configValid := true
  txmaxCache := 2048

lemma between_twoBytes : Between snMrUdp4 ⟨[], [twoBytes]⟩ udp4Cpu
    ⟨[twoBytes].flatMap (Record.bytes snMrUdp4), [], false⟩ := by
  constructor
  · exact .inl rfl
  · constructor <;> rfl
  · rfl
  · rfl
  · exact ⟨fun is his => absurd his List.not_mem_nil, List.not_mem_nil⟩
  · rfl

theorem splitting_iff_twoBytes :
    AllRight 0 1 0 ⟨[], [twoBytes]⟩ [⟨2, 0, by decide⟩] udp4Cpu
      ⟨[twoBytes].flatMap (Record.bytes snMrUdp4), [], false⟩ ↔
    Ready snMrUdp4 [twoBytes] [⟨2, 0, by decide⟩] :=
  splitting_iff (by decide) (by decide) between_twoBytes _

/-- Two calls for one byte each do not get the two bytes. -/
theorem splitting_misreads :
    ¬ ∀ protocol queue c w, Between protocol ⟨[], queue⟩ c w → ∀ calls,
      AllRight 0 1 0 ⟨[], queue⟩ calls c w := by
  intro h
  have hright := h _ _ _ _ between_twoBytes [⟨1, 0, by decide⟩, ⟨1, 0, by decide⟩]
  obtain ⟨-, hroom | hlast, -⟩ := ready_of_allRight (by decide) (by decide) between_twoBytes hright
  · exact absurd hroom (by decide)
  · exact List.cons_ne_nil _ _ hlast

end runs

end IoLibrary.Ipv6
