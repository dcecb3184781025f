import IoLibrary.Effects.Footprint
import IoLibrary.Mqtt.Client

/-! What the client has kept after any calls: whatever comes over the network, only the calls and what they have
returned decide it. -/
namespace IoLibrary.Mqtt
open Effects

inductive ClientCall
  | connect (options : ConnectData)
  | subscribe (topicFilter : List Byte) (qos : ℕ) (fp : Bool)
  | unsubscribe (topicFilter : List Byte)
  | publish (topicName : List Byte) (qos retained id : ℕ) (payload : List Byte)
  | yield
  | disconnect
  deriving DecidableEq

def ClientCall.run (charSigned : Bool) (turns : ℕ) : ClientCall → ClientProg ℤ
  | connect options => mqttConnect turns options
  | subscribe topicFilter qos fp => mqttSubscribe charSigned turns topicFilter qos fp
  | unsubscribe topicFilter => mqttUnsubscribe turns topicFilter
  | publish topicName qos retained id payload => mqttPublish turns topicName qos retained id payload
  | yield => mqttYield turns
  | disconnect => mqttDisconnect turns

def runCalls (charSigned : Bool) (turns : ℕ) : List ClientCall → ClientProg (List ℤ)
  | [] => return []
  | call :: calls => do
    let rc ← call.run charSigned turns
    let rcs ← runCalls charSigned turns calls
    return rc :: rcs

/-- What a client keeps from one call to the next, but for its buffers and the ping. -/
structure Book where
  isconnected : Bool
  nextPacketid : ℕ
  messageHandlers : List (Option Handler)

def Client.book (c : Client) : Book := ⟨c.isconnected, c.nextPacketid, c.messageHandlers⟩

def ClientCall.takesId : ClientCall → Bool
  | subscribe .. => true
  | unsubscribe _ => true
  | publish _ qos _ _ _ => qos = 1 ∨ qos = 2
  | _ => false

/-- The entry of a call that has returned `rc`. -/
def Book.enter (k : Book) (call : ClientCall) (rc : ℤ) : Book where
  isconnected := match call with
    | .connect _ => k.isconnected || rc = 0
    | .disconnect => false
    | _ => k.isconnected
  nextPacketid :=
    if k.isconnected ∧ call.takesId then if k.nextPacketid = maxPacketId then 1 else k.nextPacketid + 1
    else k.nextPacketid
  messageHandlers := match call with
    | .subscribe topicFilter _ fp => if rc = 0 then register ⟨topicFilter, fp⟩ k.messageHandlers else k.messageHandlers
    | _ => k.messageHandlers

def Book.entries (k : Book) : List (ClientCall × ℤ) → Book
  | [] => k
  | (call, rc) :: history => (k.enter call rc).entries history

section footprint
variable {turns type : ℕ}

/-- An update that leaves the book as it is. -/
def Aside (f : Client → Client) : Prop := ∀ c, (f c).book = c.book

/-- A part of the client that leaves the book as it is, whatever the network, the timers and the handlers do. -/
abbrev Unbooked {α : Type} (p : ClientProg α) : Prop := Within Aside (fun _ => True) p

lemma unbooked_get : Unbooked Prog.get := within_get fun _ => rfl

lemma unbooked_ask (e : Io) : Unbooked (ask e) := (within_perform e).2 trivial

lemma unbooked_sendPacket (turns length : ℕ) : Unbooked (sendPacket turns length) := by
  refine within_bind (within_loop (fun sent => ?_) _ _) fun sent => ?_
  · refine within_ite (within_pure _) (within_bind (unbooked_ask _) fun expired => within_ite (within_pure _) ?_)
    refine within_bind unbooked_get fun c => within_bind (unbooked_ask _) fun rc => ?_
    exact within_ite (within_pure _) (within_pure _)
  · exact within_ite (within_bind (unbooked_ask _) fun _ => within_pure _) (within_pure _)

lemma unbooked_sendBytes (turns : ℕ) (packet : Except ℤ (List Byte)) : Unbooked (sendBytes turns packet) := by
  cases packet with
  | error e => exact within_pure _
  | ok bytes => exact within_bind ((within_modify _).2 fun _ => rfl) fun _ => unbooked_sendPacket _ _

lemma unbooked_decodePacket (digits multiplier value : ℕ) : Unbooked (decodePacket digits multiplier value) := by
  induction digits generalizing multiplier value with
  | zero => exact within_pure _
  | succ digits ih =>
    refine within_bind (unbooked_ask _) fun data => within_ite (within_pure _) ?_
    exact within_ite (ih _ _) (within_pure _)

lemma unbooked_storeRead (p : ℕ) (data : List Byte) : Unbooked (storeRead p data) := (within_modify _).2 fun _ => rfl

lemma unbooked_readPacket : Unbooked readPacket := by
  refine within_bind (unbooked_ask _) fun data => within_bind (unbooked_storeRead _ _) fun _ => ?_
  refine within_ite (within_pure _) (within_bind (unbooked_decodePacket _ _ _) fun rem => ?_)
  refine within_bind (unbooked_storeRead _ _) fun _ => within_ite ?_ (within_bind unbooked_get fun _ => within_pure _)
  refine within_bind (unbooked_ask _) fun data => within_bind (unbooked_storeRead _ _) fun _ => ?_
  exact within_ite (within_pure _) (within_bind unbooked_get fun _ => within_pure _)

lemma unbooked_deliverLoop (topicName : List Byte) (message : Message) (i : ℕ) (handlers : List (Option Handler)) :
    Unbooked (deliverLoop topicName message i handlers) := by
  induction handlers generalizing i with
  | nil => exact within_pure _
  | cons h handlers ih =>
    rw [deliverLoop]
    refine within_ite (within_bind (unbooked_ask _) fun _ => ?_) (ih _)
    exact within_bind (ih _) fun _ => within_pure _

lemma unbooked_deliverMessage (topicName : List Byte) (message : Message) :
    Unbooked (deliverMessage topicName message) := by
  refine within_bind unbooked_get fun c => within_bind (unbooked_deliverLoop _ _ _ _) fun called => ?_
  exact within_ite (within_pure _) (within_ite (unbooked_ask _) (within_pure _))

lemma unbooked_keepalive (turns : ℕ) : Unbooked (keepalive turns) := by
  refine within_bind unbooked_get fun c => within_ite (within_pure _) (within_bind (unbooked_ask _) fun expired => ?_)
  refine within_ite (within_ite (within_bind (unbooked_sendBytes _ _) fun rc => ?_) (within_pure _)) (within_pure _)
  exact within_ite ((within_modify _).2 fun _ => rfl) (within_pure _)

lemma unbooked_ackMessage (turns : ℕ) (out : PublishOut) : Unbooked (ackMessage turns out) := by
  refine within_bind unbooked_get fun c => within_ite (within_pure _) (within_ite (unbooked_sendBytes _ _) ?_)
  exact within_ite (unbooked_sendBytes _ _) (within_pure _)

lemma unbooked_cyclePublish (turns : ℕ) : Unbooked (cyclePublish turns) := by
  refine within_bind unbooked_get fun c => ?_
  rcases deserializePublish c.readbuf with ⟨rc, out⟩
  refine within_ite (within_pure _) ?_
  rcases out with _ | ⟨dup, qos, retained, _ | topicName, packetid, _ | ⟨p, payloadlen⟩⟩
  · exact within_bind (unbooked_ask _) fun _ => within_cut
  · exact within_bind (unbooked_ask _) fun _ => within_cut
  · exact within_bind (unbooked_ask _) fun _ => within_cut
  · exact within_bind (unbooked_ask _) fun _ => within_cut
  · refine within_bind (unbooked_deliverMessage _ _) fun _ => within_bind (unbooked_ackMessage _ _) fun rc => ?_
    exact within_pure _

lemma unbooked_cyclePubrec (turns : ℕ) : Unbooked (cyclePubrec turns) := by
  refine within_bind unbooked_get fun c => ?_
  rcases deserializeAck c.readbuf with ⟨rc, out⟩
  exact within_ite (within_pure _) (within_bind (unbooked_sendBytes _ _) fun rc => within_pure _)

lemma unbooked_cycleSwitch (turns type : ℕ) : Unbooked (cycleSwitch turns type) := by
  refine within_ite (unbooked_cyclePublish _) (within_ite (unbooked_cyclePubrec _) (within_ite ?_ (within_pure _)))
  exact within_bind ((within_modify _).2 fun _ => rfl) fun _ => within_pure _

lemma unbooked_cycle (turns : ℕ) : Unbooked (cycle turns) := by
  refine within_bind unbooked_readPacket fun read => within_bind (unbooked_cycleSwitch _ _) fun r => ?_
  obtain ⟨leaves, rc⟩ := r
  exact within_ite (within_pure _) (within_bind (unbooked_keepalive _) fun _ => within_pure _)

lemma unbooked_waitfor (turns type : ℕ) : Unbooked (waitfor turns type) := by
  refine within_loop (fun rc => within_bind (unbooked_ask _) fun expired => within_ite (within_pure _) ?_) _ _
  exact within_bind (unbooked_cycle _) fun rc => within_pure _

end footprint

section calls
variable {W α : Type} {env : Env Client W Io Io.Res} {Q : α → Client → W → Prop} {c : Client} {w : W}
  {charSigned : Bool} {turns : ℕ}

/-- The runs that go on; a client that has looked at an unset topic name is not followed. -/
def goesOn (_ : Client) (_ : W) : Prop := True

lemma wp_unbooked {p : ClientProg α} (hp : Unbooked p) (h : ∀ a c' w', c'.book = c.book → Q a c' w') :
    wp env p Q goesOn c w := by
  have hbook : wp env p (fun _ c' _ => c'.book = c.book) (fun c' _ => c'.book = c.book) c w :=
    wp_of_within hp (fun c' _ => c'.book = c.book) (fun f hf c' _ hc => (hf c').trans hc)
      (fun _ _ _ _ _ _ hc _ => hc) rfl
  exact wp_mono hbook h fun _ _ _ => trivial

/-- What a call leaves in the book is its entry. -/
def Books (charSigned : Bool) (turns : ℕ) (call : ClientCall) : Prop := ∀ (W : Type) (env : Env Client W Io Io.Res) c w,
  wp env (call.run charSigned turns) (fun rc c' _ => c'.book = c.book.enter call rc) goesOn c w

lemma books_yield : Books charSigned turns .yield := by
  intro W env c w
  refine (wp_bind _ _).2 (wp_unbooked (unbooked_cycle _) fun rc c' w' hbook => ?_)
  rw [wp_pure, hbook]
  simp [Book.enter, ClientCall.takesId]

lemma books_disconnect : Books charSigned turns .disconnect := by
  intro W env c w
  rw [ClientCall.run, mqttDisconnect, wp_bind, wp_get]
  refine (wp_bind _ _).2 (wp_unbooked (unbooked_sendBytes _ _) fun rc c' w' hbook => ?_)
  rw [wp_bind, wp_modify, wp_pure]
  have hid : c'.nextPacketid = c.nextPacketid := congrArg Book.nextPacketid hbook
  have hhandlers : c'.messageHandlers = c.messageHandlers := congrArg Book.messageHandlers hbook
  simp [Book.enter, ClientCall.takesId, Client.book, hid, hhandlers]

lemma books_connect (options : ConnectData) : Books charSigned turns (.connect options) := by
  intro W env c w
  have hrefused : ∀ rc : ℤ, rc ≠ 0 → ∀ c' : Client, c'.book = c.book → c'.book = c.book.enter (.connect options) rc := by
    intro rc hrc c' hbook
    simp [Book.enter, ClientCall.takesId, hrc, hbook]
  rw [ClientCall.run, mqttConnect, wp_bind, wp_get]
  by_cases hconnected : c.isconnected
  · rw [if_pos hconnected]
    exact hrefused _ (by decide) c rfl
  rw [if_neg hconnected, wp_bind, wp_modify]
  refine (wp_bind _ _).2 (wp_unbooked (unbooked_ask _) fun _ c₁ w₁ hbook₁ => ?_)
  rcases serializeConnect c.bufSize options with e | bytes
  · exact hrefused _ (by decide) c₁ hbook₁
  refine (wp_bind _ _).2 (wp_unbooked (unbooked_sendBytes _ _) fun rc c₂ w₂ hbook₂ => ?_)
  have hbook₂ := hbook₂.trans hbook₁
  by_cases hsent : rc ≠ successs
  · rw [if_pos hsent]
    exact hrefused rc hsent c₂ hbook₂
  rw [if_neg hsent]
  refine (wp_bind _ _).2 (wp_unbooked (unbooked_waitfor _ _) fun answer c₃ w₃ hbook₃ => ?_)
  have hbook₃ := hbook₃.trans hbook₂
  by_cases hanswer : answer ≠ msgConnack
  · rw [if_pos hanswer]
    exact hrefused _ (by decide) c₃ hbook₃
  rw [if_neg hanswer, wp_bind, wp_get]
  split
  · rename_i out hout
    generalize (((out.map Prod.snd).getD 255 : ℕ) : ℤ) = code
    by_cases hcode : code = successs
    · simp only [if_pos hcode, wp_bind, wp_modify, wp_pure]
      have hid : c₃.nextPacketid = c.nextPacketid := congrArg Book.nextPacketid hbook₃
      have hhandlers : c₃.messageHandlers = c.messageHandlers := congrArg Book.messageHandlers hbook₃
      simp [Book.enter, ClientCall.takesId, Client.book, hid, hhandlers, hcode, successs]
    · simp only [if_neg hcode, wp_pure]
      exact hrefused code hcode c₃ hbook₃
  · exact hrefused _ (by decide) c₃ hbook₃

lemma enter_left {k : Book} {call : ClientCall} {rc : ℤ} (htakes : call.takesId) (hconnected : k.isconnected = false)
    (hrc : rc ≠ 0) : k.enter call rc = k := by
  obtain ⟨_, id, handlers⟩ := k
  obtain rfl := hconnected
  cases call with
  | subscribe topicFilter qos fp => simp [Book.enter, hrc]
  | unsubscribe topicFilter => simp [Book.enter]
  | publish topicName qos retained id payload => simp [Book.enter]
  | _ => cases htakes

/-- The id that a call takes is gone whatever becomes of the call. -/
lemma enter_taken {call : ClientCall} {rc : ℤ} (htakes : call.takesId) (hconnected : c.isconnected = true)
    (hrc : ∀ topicFilter qos fp, call = .subscribe topicFilter qos fp → rc ≠ 0) :
    c.book.enter call rc = { c.book with nextPacketid := c.nextId } := by
  cases call with
  | subscribe topicFilter qos fp =>
    simp [Book.enter, Client.book, Client.nextId, ClientCall.takesId, hconnected, hrc _ _ _ rfl]
  | unsubscribe topicFilter => simp [Book.enter, Client.book, Client.nextId, ClientCall.takesId, hconnected]
  | publish topicName qos retained id payload =>
    have hqos : qos = 1 ∨ qos = 2 := of_decide_eq_true htakes
    simp [Book.enter, Client.book, Client.nextId, ClientCall.takesId, hconnected, hqos]
  | _ => cases htakes

lemma books_unsubscribe (topicFilter : List Byte) : Books charSigned turns (.unsubscribe topicFilter) := by
  intro W env c w
  rw [ClientCall.run, mqttUnsubscribe, wp_bind, wp_get]
  cases hconnected : c.isconnected with
  | false =>
    rw [if_pos rfl, wp_pure]
    exact (enter_left rfl hconnected (by decide)).symm
  | true =>
    rw [if_neg (by decide), wp_bind, getNextPacketId, wp_bind, wp_modify, wp_bind, wp_get, wp_pure]
    refine wp_unbooked ?_ fun rc c' w' hbook =>
      hbook.trans (enter_taken rfl hconnected fun _ _ _ => by rintro ⟨⟩).symm
    rcases serializeUnsubscribe c.bufSize 0 c.nextId [.ofC topicFilter] with e | bytes
    · exact within_pure _
    refine within_bind (unbooked_sendBytes _ _) fun rc => within_ite (within_pure _) ?_
    refine within_bind (unbooked_waitfor _ _) fun answer => within_ite (within_pure _) ?_
    exact within_bind unbooked_get fun c => within_pure _

lemma unbooked_waitAck (turns type : ℕ) : Unbooked (waitAck turns type) :=
  within_bind (unbooked_waitfor _ _) fun _ =>
    within_ite (within_pure _) (within_bind unbooked_get fun _ => within_pure _)

lemma books_publish (topicName : List Byte) (qos retained id : ℕ) (payload : List Byte) :
    Books charSigned turns (.publish topicName qos retained id payload) := by
  intro W env c w
  have hsent : ∀ bytes, Unbooked (do
      let rc ← sendBytes turns (.ok bytes)
      if rc ≠ successs then return rc
      if qos = 1 then waitAck turns msgPuback
      else if qos = 2 then waitAck turns msgPubcomp
      else return rc) := by
    intro bytes
    refine within_bind (unbooked_sendBytes _ _) fun rc => within_ite (within_pure _) ?_
    exact within_ite (unbooked_waitAck _ _) (within_ite (unbooked_waitAck _ _) (within_pure _))
  rw [ClientCall.run, mqttPublish, wp_bind, wp_get]
  by_cases hqos : qos = 1 ∨ qos = 2
  · have htakes : ClientCall.takesId (.publish topicName qos retained id payload) := decide_eq_true hqos
    cases hconnected : c.isconnected with
    | false =>
      rw [if_pos rfl, wp_pure]
      exact (enter_left htakes hconnected (by decide)).symm
    | true =>
      rw [if_neg (by decide), if_pos hqos, wp_bind, getNextPacketId, wp_bind, wp_modify, wp_bind, wp_get, wp_pure]
      refine wp_unbooked ?_ fun rc c' w' hbook =>
        hbook.trans (enter_taken htakes hconnected fun _ _ _ => by rintro ⟨⟩).symm
      beta_reduce
      rcases serializePublish c.bufSize 0 qos retained _ (.ofC topicName) payload with e | bytes
      · exact within_pure _
      · exact hsent bytes
  · have hkept : ∀ rc, c.book.enter (.publish topicName qos retained id payload) rc = c.book := by
      intro rc
      simp [Book.enter, ClientCall.takesId, hqos]
    refine wp_unbooked (within_ite (within_pure _) ?_) fun rc c' w' hbook => hbook.trans (hkept rc).symm
    rw [if_neg hqos, pure_bind]
    beta_reduce
    rcases serializePublish c.bufSize 0 qos retained id (.ofC topicName) payload with e | bytes
    · exact within_pure _
    · exact hsent bytes

lemma register_full (h : Handler) {handlers : List (Option Handler)} (hfull : handlers.any Option.isNone = false) :
    register h handlers = handlers := by
  induction handlers with
  | nil => rfl
  | cons h' handlers ih =>
    cases h' with
    | none => cases hfull
    | some h' => rw [register, ih hfull]

lemma books_subscribe (topicFilter : List Byte) (qos : ℕ) (fp : Bool) :
    Books charSigned turns (.subscribe topicFilter qos fp) := by
  intro W env c w
  have hfailed : ∀ rc : ℤ, rc ≠ 0 → c.isconnected = true → ∀ c' : Client,
      c'.book = { c.book with nextPacketid := c.nextId } → c'.book = c.book.enter (.subscribe topicFilter qos fp) rc :=
    fun rc hrc hconnected c' hbook => hbook.trans (enter_taken rfl hconnected fun _ _ _ _ => hrc).symm
  rw [ClientCall.run, mqttSubscribe, wp_bind, wp_get]
  cases hconnected : c.isconnected with
  | false =>
    rw [if_pos rfl, wp_pure]
    exact (enter_left rfl hconnected (by decide)).symm
  | true =>
    rw [if_neg (by decide), wp_bind, getNextPacketId, wp_bind, wp_modify, wp_bind, wp_get, wp_pure]
    rcases serializeSubscribe c.bufSize 0 c.nextId [(.ofC topicFilter, qos)] with e | bytes
    · exact hfailed _ (by decide) hconnected _ rfl
    refine (wp_bind _ _).2 (wp_unbooked (unbooked_sendBytes _ _) fun rc c₂ w₂ hbook₂ => ?_)
    by_cases hsent : rc ≠ successs
    · rw [if_pos hsent]
      exact hfailed rc hsent hconnected _ hbook₂
    rw [if_neg hsent]
    refine (wp_bind _ _).2 (wp_unbooked (unbooked_waitfor _ _) fun answer c₃ w₃ hbook₃ => ?_)
    have hbook₃ := hbook₃.trans hbook₂
    by_cases hanswer : answer ≠ msgSuback
    · rw [if_pos hanswer]
      exact hfailed _ (by decide) hconnected _ hbook₃
    rw [if_neg hanswer, wp_bind, wp_get]
    have hhandlers : c₃.messageHandlers = c.messageHandlers := congrArg Book.messageHandlers hbook₃
    have hid : c₃.nextPacketid = c.nextId := congrArg Book.nextPacketid hbook₃
    have hflag : c₃.isconnected = c.isconnected := congrArg Book.isconnected hbook₃
    have hfull : c.messageHandlers.any Option.isNone = false →
        register ⟨topicFilter, fp⟩ c.messageHandlers = c.messageHandlers := register_full _
    have hsettled : ∀ code : ℤ, wp env (if code ≠ 0x80 then do
          Prog.modify fun c => { c with messageHandlers := register ⟨topicFilter, fp⟩ c.messageHandlers }
          return if c₃.messageHandlers.any Option.isNone then 0 else code
        else return code) (fun rc c' _ => c'.book = c.book.enter (.subscribe topicFilter qos fp) rc) goesOn c₃ w₃ := by
      intro code
      by_cases hcode : code ≠ 0x80
      · rw [if_pos hcode, wp_bind, wp_modify, wp_pure, hhandlers]
        cases hfree : c.messageHandlers.any Option.isNone with
        | false =>
          simp [Book.enter, Client.book, Client.nextId, ClientCall.takesId, hconnected, hid, hflag, hfull hfree]
        | true => simp [Book.enter, Client.book, Client.nextId, ClientCall.takesId, hconnected, hid, hflag]
      · rw [if_neg hcode, wp_pure]
        exact hfailed code (by rw [not_not.1 hcode]; decide) hconnected _ hbook₃
    exact hsettled _

lemma books (call : ClientCall) : Books charSigned turns call := by
  cases call with
  | connect options => exact books_connect options
  | subscribe topicFilter qos fp => exact books_subscribe topicFilter qos fp
  | unsubscribe topicFilter => exact books_unsubscribe topicFilter
  | publish topicName qos retained id payload => exact books_publish topicName qos retained id payload
  | yield => exact books_yield
  | disconnect => exact books_disconnect

lemma runCalls_book (calls : List ClientCall) : wp env (runCalls charSigned turns calls) (fun rcs c' _ =>
    rcs.length = calls.length ∧ c'.book = c.book.entries (calls.zip rcs)) goesOn c w := by
  induction calls generalizing c w with
  | nil => exact ⟨rfl, rfl⟩
  | cons call calls ih =>
    refine (wp_bind _ _).2 (wp_mono (books call W env c w) (fun rc c' w' hbook => ?_) fun _ _ => id)
    refine (wp_bind _ _).2 (wp_mono ih (fun rcs c'' w'' h => ?_) fun _ _ => id)
    rw [wp_pure]
    exact ⟨congrArg Nat.succ h.1, by rw [h.2, hbook]; rfl⟩

end calls

section entries
variable {k : Book} {history : List (ClientCall × ℤ)}

/-- A connection has been accepted and the client has not disconnected since. -/
def Connected (history : List (ClientCall × ℤ)) : Prop :=
  ∃ before options after, history = before ++ (.connect options, 0) :: after ∧ ∀ e ∈ after, e.1 ≠ .disconnect

/-- How many ids have been taken. -/
def Book.idsTaken (k : Book) : List (ClientCall × ℤ) → ℕ
  | [] => 0
  | (call, rc) :: history => (if k.isconnected ∧ call.takesId then 1 else 0) + (k.enter call rc).idsTaken history

/-- The handlers of the subscriptions that have returned 0. -/
def subscribed (history : List (ClientCall × ℤ)) : List Handler := history.filterMap fun e => match e with
  | (.subscribe topicFilter _ fp, rc) => if rc = 0 then some ⟨topicFilter, fp⟩ else none
  | _ => none

lemma connected_cons {e : ClientCall × ℤ} : Connected (e :: history) ↔
    Connected history ∨ ((∃ options, e = (.connect options, 0)) ∧ ∀ e ∈ history, e.1 ≠ .disconnect) := by
  constructor
  · rintro ⟨before, options, after, heq, hafter⟩
    rcases before with _ | ⟨e', before⟩
    · obtain ⟨rfl, rfl⟩ := List.cons.inj heq
      exact .inr ⟨⟨options, rfl⟩, hafter⟩
    · exact .inl ⟨before, options, after, (List.cons.inj heq).2, hafter⟩
  · rintro (⟨before, options, after, rfl, hafter⟩ | ⟨⟨options, rfl⟩, hafter⟩)
    · exact ⟨e :: before, options, after, rfl, hafter⟩
    · exact ⟨[], options, history, rfl, hafter⟩

lemma entries_isconnected : (k.entries history).isconnected = true ↔
    Connected history ∨ (k.isconnected = true ∧ ∀ e ∈ history, e.1 ≠ .disconnect) := by
  induction history generalizing k with
  | nil =>
    have hnone : ¬Connected [] := by
      rintro ⟨_ | ⟨e, before⟩, options, after, heq, -⟩ <;> cases heq
    simp [Book.entries, hnone]
  | cons e history ih =>
    obtain ⟨call, rc⟩ := e
    rw [Book.entries, ih, connected_cons, List.forall_mem_cons]
    cases call with
    | connect options =>
      simp [Book.enter]
      tauto
    | _ => simp [Book.enter]

lemma entries_nextPacketid (hpos : 1 ≤ k.nextPacketid) (hle : k.nextPacketid ≤ maxPacketId) :
    (k.entries history).nextPacketid = (k.nextPacketid - 1 + k.idsTaken history) % 65535 + 1 := by
  induction history generalizing k with
  | nil =>
    rw [maxPacketId] at hle
    rw [Book.entries, Book.idsTaken]
    omega
  | cons e history ih =>
    obtain ⟨call, rc⟩ := e
    have hmax : maxPacketId = 65535 := rfl
    have hnext : (k.enter call rc).nextPacketid = if k.isconnected ∧ call.takesId then
        if k.nextPacketid = maxPacketId then 1 else k.nextPacketid + 1 else k.nextPacketid := rfl
    have hid : 1 ≤ (k.enter call rc).nextPacketid ∧ (k.enter call rc).nextPacketid ≤ maxPacketId := by
      rw [hnext]
      split_ifs <;> omega
    rw [Book.entries, ih hid.1 hid.2, Book.idsTaken, hnext]
    generalize (k.enter call rc).idsTaken history = n
    split_ifs <;> omega

lemma register_free (h : Handler) (handlers : List Handler) (n : ℕ) :
    register h (handlers.map some ++ .replicate (n + 1) none) = (handlers ++ [h]).map some ++ .replicate n none := by
  induction handlers with
  | nil => rfl
  | cons h' handlers ih =>
    rw [List.map_cons, List.cons_append, register, ih]
    rfl

lemma entries_messageHandlers {handlers : List Handler} {n : ℕ}
    (hk : k.messageHandlers = handlers.map some ++ .replicate n none) :
    (k.entries history).messageHandlers = (handlers ++ (subscribed history).take n).map some ++
      .replicate (n - (subscribed history).length) none := by
  induction history generalizing k handlers n with
  | nil => simp [Book.entries, subscribed, hk]
  | cons e history ih =>
    obtain ⟨call, rc⟩ := e
    rw [Book.entries]
    by_cases hsub : ∃ topicFilter qos fp, (call, rc) = (.subscribe topicFilter qos fp, 0)
    · obtain ⟨topicFilter, qos, fp, heq⟩ := hsub
      obtain ⟨rfl, rfl⟩ := Prod.mk.inj heq
      have hcons : subscribed ((.subscribe topicFilter qos fp, 0) :: history) =
          ⟨topicFilter, fp⟩ :: subscribed history := rfl
      have hregister : (k.enter (.subscribe topicFilter qos fp) 0).messageHandlers =
          register ⟨topicFilter, fp⟩ (handlers.map some ++ .replicate n none) := hk ▸ rfl
      rw [hcons]
      cases n with
      | zero =>
        have hfull : (handlers.map some ++ List.replicate 0 none).any Option.isNone = false := by simp
        rw [register_full _ hfull] at hregister
        rw [ih hregister]
        simp
      | succ n =>
        rw [register_free] at hregister
        rw [ih hregister]
        simp
    · have hskip : subscribed ((call, rc) :: history) = subscribed history ∧
          (k.enter call rc).messageHandlers = k.messageHandlers := by
        cases call with
        | subscribe topicFilter qos fp =>
          have hrc : rc ≠ 0 := fun hrc => hsub ⟨topicFilter, qos, fp, by rw [hrc]⟩
          simp [subscribed, Book.enter, hrc]
        | _ => exact ⟨rfl, rfl⟩
      rw [hskip.1, ih (hskip.2.trans hk)]

end entries

section client
variable {W : Type} {env : Env Client W Io Io.Res} {w : W}

/-- Whatever comes over the network, whatever the timers and the handlers do: after any calls a client counts as
connected exactly when a connection has been accepted and it has not disconnected since, so that a connection that is
lost is never noticed; the packet ids have gone round from 1 by one for each call that has taken one; and its handlers
are those of the first five subscriptions that have returned 0, in their order, none of them ever taken out. -/
theorem runCalls_history (charSigned : Bool) (turns : ℕ) (sendbuf : Mem) (sendbufSize : ℕ) (readbuf : Mem)
    (keepAliveInterval : ℕ) (calls : List ClientCall) :
    wp env (runCalls charSigned turns calls) (fun rcs c' _ => rcs.length = calls.length ∧
      (c'.isconnected = true ↔ Connected (calls.zip rcs)) ∧
      c'.nextPacketid =
        (mqttClientInit sendbuf sendbufSize readbuf keepAliveInterval).book.idsTaken (calls.zip rcs) % 65535 + 1 ∧
      c'.messageHandlers = ((subscribed (calls.zip rcs)).take maxMessageHandlers).map some ++
        .replicate (maxMessageHandlers - (subscribed (calls.zip rcs)).length) none) goesOn
      (mqttClientInit sendbuf sendbufSize readbuf keepAliveInterval) w := by
  refine wp_mono (runCalls_book calls) (fun rcs c' w' h => ?_) fun _ _ => id
  obtain ⟨hlen, hbook⟩ := h
  refine ⟨hlen, ?_, ?_, ?_⟩
  · have hconnected := @entries_isconnected (mqttClientInit sendbuf sendbufSize readbuf keepAliveInterval).book
      (calls.zip rcs)
    rw [← hbook] at hconnected
    simpa [Client.book, mqttClientInit] using hconnected
  · have hid := congrArg Book.nextPacketid hbook
    have hmax : 1 ≤ maxPacketId := by decide
    rw [entries_nextPacketid (Nat.le_refl 1) hmax] at hid
    simpa [Client.book, mqttClientInit] using hid
  · have hhandlers := congrArg Book.messageHandlers hbook
    have hfree : (mqttClientInit sendbuf sendbufSize readbuf keepAliveInterval).book.messageHandlers =
        ([] : List Handler).map some ++ .replicate maxMessageHandlers none := rfl
    rw [entries_messageHandlers hfree] at hhandlers
    exact hhandlers

end client

end IoLibrary.Mqtt
