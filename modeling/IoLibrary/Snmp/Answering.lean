import IoLibrary.Snmp.Serving

/-! What the agent writes for a request as a whole. -/
namespace IoLibrary.Snmp
open Effects
open Ber (Form Element)

variable {m : Request} {a : Agent} {p turns : ℕ} {msg : Message}

/-- The size that parseRequest finds for its PDU, with the header of the PDU and without that of the
list. -/
def Message.pduSize (msg : Message) (bindings : List Binding) : ℕ :=
  msg.pdu.header.length + msg.requestId.bytes.length + msg.errorStatus.bytes.length +
    msg.errorIndex.bytes.length + (bindingBytes bindings).length

/-- The PDU of the response, with that size. -/
def Message.pduWritten (msg : Message) (bindings : List Binding) (s : Served) : List Byte :=
  let answer := msg.respond bindings s
  getResponse :: (msg.pduForm.octets (msg.pduSize bindings) ++
    (answer.requestId.bytes ++ answer.errorStatus.bytes ++ answer.errorIndex.bytes ++
      answer.list.bytes))

/-- The size that parseSNMPMessage finds, with the header of the message. -/
def Message.size (msg : Message) (bindings : List Binding) : ℕ :=
  msg.element.header.length + msg.version.bytes.length + msg.community.bytes.length +
    msg.pduSize bindings

/-- The response. -/
def Message.written (msg : Message) (bindings : List Binding) (s : Served) : List Byte :=
  snmpdtypeSequence :: (msg.form.octets (msg.size bindings) ++
    (msg.version.bytes ++ msg.community.bytes ++ msg.pduWritten bindings s))

lemma view_moved {n : ℕ} {bytes : List Byte} {a' : Agent} (hview : a'.view = a.view.add n bytes)
    (hindex : a.index = p) : a'.index = (p + n : ℕ) ∧ a'.respIndex = a.respIndex + bytes.length ∧
      a'.served = a.served := by
  have hp : a'.index = a.index + (n : ℕ) := congrArg View.p hview
  refine ⟨?_, ?_, congrArg View.served hview⟩
  · rw [hp, hindex]
    omega
  · rw [respIndex_view hview, respIndex_view (a := a) rfl]
    exact List.length_append

lemma lands_copyTLV_view {e : Element} (hhas : m.Has p e.bytes) (hwf : e.WellFormed)
    (hplain : ¬ constructed e.tag) (hindex : a.index = p) {Q : Tlv → Agent → Prop} {P : Prop}
    (h : a.respIndex + e.bytes.length ≤ maxSnmpmsgLen →
      ∀ a', a'.view = a.view.add e.bytes.length e.bytes → (Q (m.tlv p) a' ↔ P)) :
    lands (tolerates False) (copyTLV m) Q a ↔ a.respIndex + e.bytes.length ≤ maxSnmpmsgLen ∧ P := by
  have hheader := hasHeader hhas hwf
  rw [copyTLV, lands_bind, lands_get, hindex, lands_bind, lands_parseTLV,
    and_iff_right hheader.readable, lands_bind]
  apply lands_copyElement hhas hheader hplain hindex
  intro hroom a' hview
  rw [lands_pure]
  exact h hroom a' hview

/-- The tag of an element is read with it. -/
lemma lands_readElement {e : Element} (hhas : m.Has p e.bytes) (hwf : e.WellFormed)
    (hindex : a.index = p) {f : Agent → Tlv → Byte → Parser ℤ} {Q : ℤ → Agent → Prop} :
    lands (tolerates False) (do
        let a ← get
        let tlv ← parseTLV m a.index
        let tag ← m.byte tlv.start
        f a tlv tag) Q a ↔
      lands (tolerates False) (f a (m.tlv p) e.tag) Q a := by
  have hheader := hasHeader hhas hwf
  have hlast := hhas.1
  have hlong := e.length_bytes
  have hread : 0 ≤ (m.tlv p).start ∧ (m.tlv p).start < m.limit := by
    have hstart : (m.tlv p).start = p := rfl
    omega
  have htag : m.buffer (m.tlv p).start.toNat = e.tag := hheader.tag
  rw [lands_bind, lands_get, hindex, lands_bind, lands_parseTLV, and_iff_right hheader.readable,
    lands_bind, lands_byte, and_iff_right hread, htag]

lemma lands_list (hmsg : msg.IsRequest) (hhas : m.Has p msg.list.bytes)
    (hend : p + msg.list.bytes.length = m.len) (hindex : a.index = p) {Q : ℤ → Agent → Prop}
    {P : List Binding × Served → Prop}
    (h : ∀ r a', a.respIndex + msg.list.header.length + (bindingBytes r.1).length ≤ maxSnmpmsgLen →
      a'.view = View.add { a.view with served := r.2 } msg.list.bytes.length
        (Element.bytes ⟨snmpdtypeSequence, msg.listForm, bindingBytes r.1⟩) →
      (Q ((bindingBytes r.1).length : ℕ) a' ↔ P r)) :
    lands (tolerates False) (parseSequenceOf m turns msg.pduType) Q a ↔
      ∃ r, answers msg.pduType 0 msg.bindings a.served = some r ∧ msg.bindings.length < turns ∧
        a.respIndex + msg.list.header.length + (bindingBytes r.1).length ≤ maxSnmpmsgLen ∧ P r := by
  have hheader := hasHeader hhas hmsg.list
  have hcontent : m.Has (p + msg.list.header.length) (bindingBytes msg.bindings) := by
    rw [Element.bytes, Request.has_append] at hhas
    exact hhas.2
  have hbytes : msg.list.bytes.length = msg.list.header.length + (bindingBytes msg.bindings).length :=
    List.length_append
  rw [parseSequenceOf]
  refine (lands_readElement (f := fun a seqof tag => do
    if tag ≠ snmpdtypeSequence then return -1
    copySegment m seqof seqof.header
    let size ← parseBindings m msg.pduType turns 0 0
    insertRespLen m seqof.start a.respIndex size
    return size) hhas hmsg.list hindex).trans ?_
  have htag : msg.list.tag = snmpdtypeSequence := rfl
  rw [htag, if_neg (not_not.2 rfl), lands_bind]
  refine (lands_copyHeader (P := ∃ r, answers msg.pduType 0 msg.bindings a.served = some r ∧
    msg.bindings.length < turns ∧
    a.respIndex + msg.list.header.length + (bindingBytes r.1).length ≤ maxSnmpmsgLen ∧ P r)
    hheader hindex ?_).trans ?_
  · intro hroom a' hview
    obtain ⟨hindex', hresp, hserved⟩ := view_moved hview hindex
    rw [lands_bind, ← hserved, ← hresp]
    apply lands_bindings hmsg.pduType hmsg.bindings hcontent (by omega) hindex' (by omega)
    intro r a'' hroom' hview'
    have hout : a''.view.out = a.view.out ++ msg.list.header ++ bindingBytes r.1 := by
      rw [hview', hview]
      rfl
    rw [lands_bind, Nat.zero_add]
    apply lands_closeElement hheader hout (respIndex_view rfl).symm (by omega)
    intro a₃ hview₃
    rw [lands_pure]
    apply h r a₃ (by omega)
    rw [hview₃, hview', hview]
    simp only [View.add, hbytes, Int.natCast_add, Int.add_assoc]
    rfl
  · constructor
    · exact fun hboth => hboth.2
    · rintro ⟨r, hr, hturns, hroom, hP⟩
      exact ⟨by omega, r, hr, hturns, hroom, hP⟩

/-- A byte is written in the place of an element's content. -/
lemma lands_putContent {e : Element} {x b : Byte} (hcontent : e.content = [x]) {pre post : List Byte}
    {q : ℕ} (hout : a.view.out = pre ++ e.bytes ++ post) (hq : pre.length = q)
    (hroom : q + e.bytes.length ≤ maxSnmpmsgLen) {Q : Unit → Agent → Prop} {P : Prop}
    (h : ∀ a', a'.view =
      { a.view with out := pre ++ (Element.bytes { e with content := [b] }) ++ post } →
      (Q () a' ↔ P)) :
    lands (tolerates False) (put ((q : ℤ) + 1 + e.form.size) [b]) Q a ↔ P := by
  have hlong := e.length_bytes
  have hheader := e.length_header
  rw [hcontent, List.length_singleton] at hlong
  have hput : (q : ℤ) + 1 + e.form.size + [b].length ≤ maxSnmpmsgLen := by
    rw [List.length_singleton]
    omega
  have hat : ((q : ℤ) + 1 + e.form.size).toNat = q + (e.form.size + 1) := by omega
  have hout' : a.view.out = (pre ++ e.header) ++ [x] ++ post := by
    rw [hout, Element.bytes, hcontent]
    simp only [List.append_assoc]
  have hsame : Element.header { e with content := [b] } = e.header := by
    rw [Element.header, Element.header, hcontent]
    rfl
  have hbytes : Element.bytes { e with content := [b] } = e.header ++ [b] := by
    rw [Element.bytes, hsame]
  rw [lands_put, and_iff_right (.inr ⟨by omega, hput⟩), hat]
  apply h
  have hview := put_view (d := [b]) hout' (by rw [List.length_append, hq, hheader]) rfl
  rw [hview, hbytes, List.append_assoc pre]

/-- The error goes into the fields of the response. -/
lemma lands_putErrors (hmsg : msg.IsRequest) {r : List Binding × Served} {q : ℕ} {pre post : List Byte}
    (hout : a.view.out = pre ++ (msg.errorStatus.bytes ++ msg.errorIndex.bytes) ++ post)
    (hserved : a.served = r.2) (hq : pre.length = q)
    (hroom : q + msg.errorStatus.bytes.length + msg.errorIndex.bytes.length ≤ maxSnmpmsgLen)
    {size : ℤ} {Q : ℤ → Agent → Prop} {P : Prop}
    (h : ∀ a', a'.view = { a.view with out := pre ++ ((msg.respond r.1 r.2).errorStatus.bytes ++
        (msg.respond r.1 r.2).errorIndex.bytes) ++ post } → (Q size a' ↔ P)) :
    lands (tolerates False) (do
        let a ← get
        if a.errorStatus ≠ 0 then
          put ((q : ℤ) + 1 + msg.errorStatus.form.size) [a.errorStatus]
          put (((q + msg.errorStatus.bytes.length : ℕ) : ℤ) + 1 + msg.errorIndex.form.size)
            [a.errorIndex + 1]
        return size) Q a ↔ P := by
  have hstatus : a.errorStatus = r.2.errorStatus := congrArg Served.errorStatus hserved
  have hindex : a.errorIndex = r.2.errorIndex := congrArg Served.errorIndex hserved
  rw [lands_bind, lands_get, lands_ite, hstatus, hindex]
  rw [Message.respond] at h
  by_cases herror : r.2.errorStatus ≠ 0
  · simp only [if_pos herror] at h ⊢
    have hlength : (Element.bytes { msg.errorStatus with content := [r.2.errorStatus] }).length =
        msg.errorStatus.bytes.length := by
      rw [Element.length_bytes, Element.length_bytes, hmsg.noStatus]
      rfl
    have hout' : a.view.out = pre ++ msg.errorStatus.bytes ++ (msg.errorIndex.bytes ++ post) := by
      rw [hout]
      simp only [List.append_assoc]
    rw [lands_bind]
    apply lands_putContent hmsg.noStatus hout' hq (by omega)
    intro a' hview
    rw [lands_bind]
    have hout'' : a'.view.out =
        (pre ++ (Element.bytes { msg.errorStatus with content := [r.2.errorStatus] })) ++
          msg.errorIndex.bytes ++ post := by
      rw [hview]
      simp only [List.append_assoc]
    apply lands_putContent hmsg.noIndex hout'' (by rw [List.length_append, hq, hlength]) (by omega)
    intro a'' hview'
    rw [lands_pure]
    apply h
    rw [hview', hview]
    simp only [List.append_assoc]
  · rw [if_neg herror, lands_pure]
    simp only [if_neg herror] at h
    apply h
    rw [← hout]

lemma Message.IsRequest.plain (hmsg : msg.IsRequest) : ¬ constructed msg.requestId.tag ∧
    ¬ constructed msg.errorStatus.tag ∧ ¬ constructed msg.errorIndex.tag ∧
    ¬ constructed msg.version.tag ∧ ¬ constructed msg.community.tag := by
  rw [hmsg.requestIdType, hmsg.errorStatusType, hmsg.errorIndexType, hmsg.versionType,
    hmsg.communityType]
  decide

/-- The PDU's header is that of its response, but for the type and the length. -/
lemma Message.length_pduWritten (hmsg : msg.IsRequest) (bindings : List Binding) (s : Served) :
    (msg.pduWritten bindings s).length = msg.pdu.header.length + msg.requestId.bytes.length +
      msg.errorStatus.bytes.length + msg.errorIndex.bytes.length + msg.list.header.length +
      (bindingBytes bindings).length := by
  have hstatus : (msg.respond bindings s).errorStatus.bytes.length = msg.errorStatus.bytes.length := by
    rw [Message.respond]
    split_ifs
    · rw [Element.length_bytes, Element.length_bytes, hmsg.noStatus]
      rfl
    · rfl
  have hindex : (msg.respond bindings s).errorIndex.bytes.length = msg.errorIndex.bytes.length := by
    rw [Message.respond]
    split_ifs
    · rw [Element.length_bytes, Element.length_bytes, hmsg.noIndex]
      rfl
    · rfl
  have hheader := msg.pdu.length_header
  have hlist : (msg.respond bindings s).list.bytes.length =
      msg.list.header.length + (bindingBytes bindings).length := by
    rw [Element.length_bytes, Element.length_header]
    rfl
  have hform : msg.pdu.form = msg.pduForm := rfl
  have hid : (msg.respond bindings s).requestId = msg.requestId := rfl
  rw [Message.pduWritten, List.length_cons, List.length_append, Form.length_octets, List.length_append,
    List.length_append, List.length_append, hstatus, hindex, hlist, hid, hheader, hform]
  omega

/-- The PDU gets its length, and its error. -/
lemma lands_closePdu (hmsg : msg.IsRequest) (hheader : m.HasHeader p msg.pdu) {q : ℕ}
    {r : List Binding × Served} {out : List Byte} (hout : a.view.out = out ++ [getResponse] ++
      msg.pdu.form.octets msg.pdu.content.length ++ (msg.requestId.bytes ++
        (msg.errorStatus.bytes ++ msg.errorIndex.bytes) ++ (msg.respond r.1 r.2).list.bytes))
    (hp : out.length = p) (hserved : a.served = r.2)
    (hq : q = p + msg.pdu.header.length + msg.requestId.bytes.length)
    (hroom : p + (msg.pduWritten r.1 r.2).length ≤ maxSnmpmsgLen) {Q : ℤ → Agent → Prop} {P : Prop}
    (h : ∀ a', a'.view = { a.view with out := out ++ msg.pduWritten r.1 r.2 } →
      (Q (msg.pduSize r.1 : ℕ) a' ↔ P)) :
    lands (tolerates False) (do
        insertRespLen m p p (msg.pduSize r.1 : ℕ)
        let a ← get
        if a.errorStatus ≠ 0 then
          put ((q : ℤ) + 1 + msg.errorStatus.form.size) [a.errorStatus]
          put (((q + msg.errorStatus.bytes.length : ℕ) : ℤ) + 1 + msg.errorIndex.form.size)
            [a.errorIndex + 1]
        return ((msg.pduSize r.1 : ℕ) : ℤ)) Q a ↔ P := by
  have hlength := Message.length_pduWritten hmsg r.1 r.2
  have hheaderLen := msg.pdu.length_header
  have hsize : msg.pduSize r.1 < 0x10000 := by
    rw [maxSnmpmsgLen] at hroom
    rw [Message.pduSize]
    omega
  rw [lands_bind]
  apply lands_insertLength hheader hsize hout
  · rw [List.length_append, hp]
    rfl
  · omega
  · intro a₁ hview
    have hout₁ : a₁.view.out = (out ++ [getResponse] ++ msg.pdu.form.octets (msg.pduSize r.1) ++
        msg.requestId.bytes) ++ (msg.errorStatus.bytes ++ msg.errorIndex.bytes) ++
        (msg.respond r.1 r.2).list.bytes := by
      rw [hview]
      simp only [List.append_assoc]
    have hserved₁ : a₁.served = r.2 := (congrArg View.served hview).trans hserved
    have hq₁ : (out ++ [getResponse] ++ msg.pdu.form.octets (msg.pduSize r.1) ++
        msg.requestId.bytes).length = q := by
      rw [List.length_append, List.length_append, List.length_append, Form.length_octets, hp, hq,
        hheaderLen, List.length_singleton]
      omega
    apply lands_putErrors hmsg hout₁ hserved₁ hq₁ (by omega)
    intro a₂ hview₂
    apply h
    rw [hview₂, hview]
    simp only [Message.pduWritten, List.append_assoc, List.singleton_append]
    rfl

/-- The three fields before the list are copied one after the other. -/
lemma lands_fields (hmsg : msg.IsRequest)
    (hhas : m.Has p (msg.requestId.bytes ++ msg.errorStatus.bytes ++ msg.errorIndex.bytes)) (hindex : a.index = p)
    {f : Tlv → Tlv → Tlv → Parser ℤ} {Q : ℤ → Agent → Prop} {P : Prop}
    (hP : P → a.respIndex + msg.requestId.bytes.length + msg.errorStatus.bytes.length + msg.errorIndex.bytes.length ≤
      maxSnmpmsgLen)
    (h : a.respIndex + msg.requestId.bytes.length + msg.errorStatus.bytes.length + msg.errorIndex.bytes.length ≤
        maxSnmpmsgLen →
      ∀ a' : Agent, a'.index =
          (p + msg.requestId.bytes.length + msg.errorStatus.bytes.length + msg.errorIndex.bytes.length : ℕ) →
        a'.view = ⟨a'.index, a.view.out ++ (msg.requestId.bytes ++ (msg.errorStatus.bytes ++ msg.errorIndex.bytes)),
          a.served⟩ →
        (lands (tolerates False) (f (m.tlv p) (m.tlv (p + msg.requestId.bytes.length : ℕ))
          (m.tlv (p + msg.requestId.bytes.length + msg.errorStatus.bytes.length : ℕ))) Q a' ↔ P)) :
    lands (tolerates False) (do
        let requestid ← copyTLV m
        let errStatus ← copyTLV m
        let errIndex ← copyTLV m
        f requestid errStatus errIndex) Q a ↔ P := by
  obtain ⟨hid, hstatus, hindexType, -, -⟩ := hmsg.plain
  simp only [Request.has_append, List.length_append, ← Nat.add_assoc] at hhas
  obtain ⟨⟨hhasId, hhasStatus⟩, hhasIndex⟩ := hhas
  rw [lands_bind]
  refine (lands_copyTLV_view (P := P) hhasId hmsg.requestId hid hindex ?_).trans
    (and_iff_right_of_imp fun hp => by have hroom := hP hp; omega)
  intro _ a₁ hview₁
  obtain ⟨hindex₁, hresp₁, -⟩ := view_moved hview₁ hindex
  rw [lands_bind]
  refine (lands_copyTLV_view (P := P) hhasStatus hmsg.errorStatus hstatus hindex₁ ?_).trans
    (and_iff_right_of_imp fun hp => by have hroom := hP hp; omega)
  intro _ a₂ hview₂
  obtain ⟨hindex₂, hresp₂, -⟩ := view_moved hview₂ hindex₁
  rw [lands_bind]
  refine (lands_copyTLV_view (P := P) hhasIndex hmsg.errorIndex hindexType hindex₂ ?_).trans
    (and_iff_right_of_imp fun hp => by have hroom := hP hp; omega)
  intro hroom a₃ hview₃
  obtain ⟨hindex₃, -, -⟩ := view_moved hview₃ hindex₂
  apply h (by omega) a₃ hindex₃
  have hp : a₃.index = a₃.view.p := rfl
  rw [hp, hview₃, hview₂, hview₁]
  simp only [View.add, List.append_assoc]
  rfl

lemma Message.length_pdu (msg : Message) : msg.pdu.bytes.length = msg.pdu.header.length + msg.requestId.bytes.length +
    msg.errorStatus.bytes.length + msg.errorIndex.bytes.length + msg.list.bytes.length := by
  have hlong := msg.pdu.length_bytes
  have hheaderLen := msg.pdu.length_header
  have hsum : msg.pdu.content.length = msg.requestId.bytes.length + msg.errorStatus.bytes.length +
      msg.errorIndex.bytes.length + msg.list.bytes.length := by
    change (msg.requestId.bytes ++ _ ++ _ ++ _).length = _
    rw [List.length_append, List.length_append, List.length_append]
  omega

/-- parseRequest adds up the sizes of what it has copied. -/
lemma sizes_eq_pduSize (hmsg : msg.IsRequest) (hheader : m.HasHeader p msg.pdu)
    (hhas : m.Has (p + msg.pdu.header.length) (msg.requestId.bytes ++ msg.errorStatus.bytes ++ msg.errorIndex.bytes))
    (bindings : List Binding) : (m.tlv p).header + (m.tlv (p + msg.pdu.header.length : ℕ)).size +
      (m.tlv (p + msg.pdu.header.length + msg.requestId.bytes.length : ℕ)).size +
      (m.tlv (p + msg.pdu.header.length + msg.requestId.bytes.length + msg.errorStatus.bytes.length : ℕ)).size +
      ((bindingBytes bindings).length : ℕ) = (msg.pduSize bindings : ℕ) := by
  obtain ⟨hid, hstatus, hindexType, -, -⟩ := hmsg.plain
  have hheaderLen := msg.pdu.length_header
  simp only [Request.has_append, List.length_append, ← Nat.add_assoc] at hhas
  obtain ⟨⟨hhasId, hhasStatus⟩, hhasIndex⟩ := hhas
  rw [hheader.header, (hasHeader hhasId hmsg.requestId).size hid, (hasHeader hhasStatus hmsg.errorStatus).size hstatus,
    (hasHeader hhasIndex hmsg.errorIndex).size hindexType, Message.pduSize]
  omega

/-- The header of the PDU is copied, and gets the type of a response. -/
lemma lands_openPdu (hheader : m.HasHeader p msg.pdu) (hindex : a.index = p) (hresp : a.respIndex = p) {k : Parser ℤ}
    {Q : ℤ → Agent → Prop} {P : Prop} (hP : P → a.respIndex + msg.pdu.header.length ≤ maxSnmpmsgLen)
    (h : ∀ a' : Agent, a'.index = (p + msg.pdu.header.length : ℕ) → a'.respIndex = p + msg.pdu.header.length →
      a'.view.out = a.view.out ++ [getResponse] ++ msg.pdu.form.octets msg.pdu.content.length →
      a'.served = a.served → (lands (tolerates False) k Q a' ↔ P)) :
    lands (tolerates False) (do
        copySegment m (m.tlv p) (m.tlv p).header
        put (m.tlv p).start [getResponse]
        k) Q a ↔ P := by
  have hheaderLen := msg.pdu.length_header
  have htype : msg.pdu.tag = msg.pduType := rfl
  rw [lands_bind]
  refine (lands_copyHeader (P := P) hheader hindex ?_).trans (and_iff_right_of_imp hP)
  intro hroom a₁ hview₁
  obtain ⟨hindex₁, hresp₁, hserved₁⟩ := view_moved hview₁ hindex
  have hout₁ : a₁.view.out = a.view.out ++ [msg.pduType] ++ msg.pdu.form.octets msg.pdu.content.length := by
    rw [hview₁]
    simp [View.add, Element.header, htype]
  have hput : (p : ℤ) + [getResponse].length ≤ maxSnmpmsgLen := by
    rw [List.length_singleton]
    omega
  have hview₂ := put_view (d := [getResponse]) hout₁ ((respIndex_view rfl).symm.trans hresp) rfl
  have hstart : (m.tlv p).start = p := rfl
  rw [hstart, lands_bind, lands_put, and_iff_right (.inr ⟨by omega, hput⟩), Int.toNat_natCast]
  refine h _ hindex₁ ?_ (congrArg View.out hview₂) hserved₁
  rw [← hresp]
  exact hresp₁

lemma lands_pdu (hmsg : msg.IsRequest) (hhas : m.Has p msg.pdu.bytes)
    (hend : p + msg.pdu.bytes.length = m.len) (hindex : a.index = p) (hresp : a.respIndex = p)
    {Q : ℤ → Agent → Prop} {P : List Binding × Served → Prop}
    (h : ∀ r a', p + (msg.pduWritten r.1 r.2).length ≤ maxSnmpmsgLen →
      a'.view = View.add { a.view with served := r.2 } msg.pdu.bytes.length
        (msg.pduWritten r.1 r.2) → (Q (msg.pduSize r.1 : ℕ) a' ↔ P r)) :
    lands (tolerates False) (parseRequest m turns) Q a ↔
      ∃ r, answers msg.pduType 0 msg.bindings a.served = some r ∧ msg.bindings.length < turns ∧
        p + (msg.pduWritten r.1 r.2).length ≤ maxSnmpmsgLen ∧ P r := by
  have hheader := hasHeader hhas hmsg.pdu
  have hparts : m.Has (p + msg.pdu.header.length) (msg.requestId.bytes ++ msg.errorStatus.bytes ++
      msg.errorIndex.bytes ++ msg.list.bytes) := by
    rw [Element.bytes, Request.has_append] at hhas
    exact hhas.2
  rw [Request.has_append] at hparts
  obtain ⟨hhasFields, hhasList⟩ := hparts
  simp only [List.length_append, ← Nat.add_assoc] at hhasList
  have hfields := hhasFields
  simp only [Request.has_append, List.length_append, ← Nat.add_assoc] at hfields
  obtain ⟨⟨-, hhasStatus⟩, hhasIndex⟩ := hfields
  have hcontent := msg.length_pdu
  have htype : msg.pdu.tag = msg.pduType := rfl
  rw [parseRequest]
  refine (lands_readElement (f := fun _ snmpreq reqType => do
    if ¬ ValidRequest reqType then return -1
    copySegment m snmpreq snmpreq.header
    put snmpreq.start [getResponse]
    let requestid ← copyTLV m
    let errStatus ← copyTLV m
    let errIndex ← copyTLV m
    let ret ← parseSequenceOf m turns reqType
    if ret = -1 then return -1
    let size := snmpreq.header + requestid.size + errStatus.size + errIndex.size + ret
    insertRespLen m snmpreq.start snmpreq.start size
    let a ← get
    if a.errorStatus ≠ 0 then
      put errStatus.vstart [a.errorStatus]
      put errIndex.vstart [a.errorIndex + 1]
    return size) hhas hmsg.pdu hindex).trans ?_
  rw [htype, if_neg (not_not.2 hmsg.pduType)]
  let done := ∃ r, answers msg.pduType 0 msg.bindings a.served = some r ∧
    msg.bindings.length < turns ∧ p + (msg.pduWritten r.1 r.2).length ≤ maxSnmpmsgLen ∧ P r
  have hdone : done → p + msg.pdu.header.length + msg.requestId.bytes.length +
      msg.errorStatus.bytes.length + msg.errorIndex.bytes.length ≤ maxSnmpmsgLen := by
    rintro ⟨r, -, -, hroom, -⟩
    rw [Message.length_pduWritten hmsg] at hroom
    omega
  refine lands_openPdu (P := done) hheader hindex hresp (fun hd => ?_) ?_
  · have hroom := hdone hd
    omega
  intro a₂ hindex₂ hresp₂ hout₂ hserved₂
  refine lands_fields (P := done) hmsg hhasFields hindex₂ (fun hd => ?_) ?_
  · have hroom := hdone hd
    omega
  intro hroom₅ a₅ hindex₅ hview₅
  have hview : a₅.view = ⟨a₅.index, a.view.out ++ [getResponse] ++
      msg.pdu.form.octets msg.pdu.content.length ++ (msg.requestId.bytes ++
        (msg.errorStatus.bytes ++ msg.errorIndex.bytes)), a.served⟩ := by
    rw [hview₅, hout₂, hserved₂]
  have hserved₅ : a₅.served = a.served := congrArg View.served hview
  have hresp₅ : a₅.respIndex = p + msg.pdu.header.length + msg.requestId.bytes.length +
      msg.errorStatus.bytes.length + msg.errorIndex.bytes.length := by
    rw [← hresp₂, respIndex_view (a := a₅) rfl, hview₅, respIndex_view (a := a₂) rfl]
    simp only [List.length_append, Nat.add_assoc]
  rw [lands_bind]
  refine (lands_list (P := fun r => p + (msg.pduWritten r.1 r.2).length ≤ maxSnmpmsgLen ∧ P r)
    hmsg hhasList (by omega) hindex₅ ?_).trans ?_
  · intro r a₆ hroom₆ hview₆
    have hlength := Message.length_pduWritten hmsg r.1 r.2
    have hroom : p + (msg.pduWritten r.1 r.2).length ≤ maxSnmpmsgLen := by omega
    have hretry : ¬ ((bindingBytes r.1).length : ℕ) = (-1 : ℤ) := by omega
    have hsize := sizes_eq_pduSize hmsg hheader hhasFields r.1
    have hout₆ : a₆.view.out = a.view.out ++ [getResponse] ++
        msg.pdu.form.octets msg.pdu.content.length ++ (msg.requestId.bytes ++
          (msg.errorStatus.bytes ++ msg.errorIndex.bytes) ++ (msg.respond r.1 r.2).list.bytes) := by
      rw [hview₆, hview]
      simp only [View.add, List.append_assoc]
      rfl
    have hserved₆ : a₆.served = r.2 := congrArg View.served hview₆
    rw [and_iff_right hroom, if_neg hretry, hsize,
      (hasHeader hhasStatus hmsg.errorStatus).vstart, (hasHeader hhasIndex hmsg.errorIndex).vstart]
    apply lands_closePdu hmsg hheader hout₆ ((respIndex_view rfl).symm.trans hresp) hserved₆ rfl hroom
    intro a₇ hview₇
    apply h r a₇ hroom
    rw [hview₇, hview₆, hview]
    have hp : a.view.p = p := hindex
    have hend₅ : (a₅.index : ℤ) + (msg.list.bytes.length : ℕ) =
        a.view.p + (msg.pdu.bytes.length : ℕ) := by
      rw [hp, hindex₅, hcontent]
      omega
    simp only [View.add, hend₅]
  · rw [hserved₅, hresp₅]
    apply exists_congr
    intro r
    rw [Message.length_pduWritten hmsg]
    constructor
    · rintro ⟨hr, hturns, -, hroom, hP⟩
      exact ⟨hr, hturns, hroom, hP⟩
    · rintro ⟨hr, hturns, hroom, hP⟩
      exact ⟨hr, hturns, by omega, hroom, hP⟩

/-- The agent's own community is copied in front of the PDU. -/
lemma lands_ownCommunity (hmsg : msg.IsRequest) (hhas : m.Has p (msg.community.bytes ++ msg.pdu.bytes))
    (hend : p + (msg.community.bytes ++ msg.pdu.bytes).length = m.len) (hindex : a.index = p)
    (hresp : a.respIndex = p) {Q : ℤ → Agent → Prop} {P : List Binding × Served → Prop}
    (h : ∀ r a', p + (msg.community.bytes ++ msg.pduWritten r.1 r.2).length ≤ maxSnmpmsgLen →
      a'.view = View.add { a.view with served := r.2 } (msg.community.bytes ++ msg.pdu.bytes).length
        (msg.community.bytes ++ msg.pduWritten r.1 r.2) →
      (Q (msg.community.bytes.length + msg.pduSize r.1 : ℕ) a' ↔ P r)) :
    lands (tolerates False) (parseCommunity m turns) Q a ↔
      ∃ r, answers msg.pduType 0 msg.bindings a.served = some r ∧ msg.bindings.length < turns ∧
        p + (msg.community.bytes ++ msg.pduWritten r.1 r.2).length ≤ maxSnmpmsgLen ∧ P r := by
  obtain ⟨-, -, -, -, hplain⟩ := hmsg.plain
  rw [Request.has_append] at hhas
  rw [List.length_append] at hend
  have hheader := hasHeader hhas.1 hmsg.community
  have hsize := hheader.size hplain
  have hcontent : m.Has (p + (msg.community.form.size + 1)) Snmp.community := by
    have hparts := hhas.1
    rw [Element.bytes, Request.has_append, Element.length_header, hmsg.ownCommunity] at hparts
    exact hparts.2
  have hat : ((p : ℤ) + 1 + msg.community.form.size).toNat = p + (msg.community.form.size + 1) := by
    omega
  have hinside : community.length = 0 ∨ 0 ≤ (p : ℤ) + 1 + msg.community.form.size ∧
      (p : ℤ) + 1 + msg.community.form.size + community.length ≤ m.limit := by
    have hlast := hcontent.1
    omega
  rw [parseCommunity]
  refine (lands_readElement (f := fun _ tlv tag => do
    if ¬ (tag = snmpdtypeOctetString ∧ tlv.len = community.length) then return -1
    let bytes ← m.bytes tlv.vstart community.length
    if bytes = community then
      copySegment m tlv tlv.size
      let size ← parseRequest m turns
      return tlv.size + size
    else return -1) hhas.1 hmsg.community hindex).trans ?_
  rw [hheader.len, hheader.vstart, hmsg.ownCommunity, if_neg (not_not.2 ⟨hmsg.communityType, rfl⟩),
    lands_bind, lands_bytes, and_iff_right hinside, hat, hcontent.2, if_pos rfl, lands_bind]
  refine (lands_copyElement (P := ∃ r, answers msg.pduType 0 msg.bindings a.served = some r ∧
    msg.bindings.length < turns ∧
    p + (msg.community.bytes ++ msg.pduWritten r.1 r.2).length ≤ maxSnmpmsgLen ∧ P r)
    hhas.1 hheader hplain hindex ?_).trans (and_iff_right_of_imp ?_)
  · intro _ a' hview
    obtain ⟨hindex', hresp', hserved⟩ := view_moved hview hindex
    have hlength (r : List Binding × Served) :
        p + (msg.community.bytes ++ msg.pduWritten r.1 r.2).length =
          p + msg.community.bytes.length + (msg.pduWritten r.1 r.2).length := by
      rw [List.length_append, Nat.add_assoc]
    simp only [hlength] at h ⊢
    rw [lands_bind, ← hserved]
    apply lands_pdu hmsg hhas.2 (by omega) hindex' (by omega)
    intro r a'' hroom hview'
    rw [lands_pure, hsize, ← Int.natCast_add]
    apply h r a'' hroom
    rw [hview', hview]
    simp only [View.add, List.length_append, Int.natCast_add, Int.add_assoc, List.append_assoc]
  · rintro ⟨r, -, -, hroom, -⟩
    rw [List.length_append] at hroom
    omega

/-- So is the version in front of the community. -/
lemma lands_ownVersion (hmsg : msg.IsRequest)
    (hhas : m.Has p (msg.version.bytes ++ (msg.community.bytes ++ msg.pdu.bytes)))
    (hend : p + (msg.version.bytes ++ (msg.community.bytes ++ msg.pdu.bytes)).length = m.len)
    (hindex : a.index = p) (hresp : a.respIndex = p) {Q : ℤ → Agent → Prop}
    {P : List Binding × Served → Prop}
    (h : ∀ r a',
      p + (msg.version.bytes ++ (msg.community.bytes ++ msg.pduWritten r.1 r.2)).length ≤
        maxSnmpmsgLen →
      a'.view = View.add { a.view with served := r.2 }
        (msg.version.bytes ++ (msg.community.bytes ++ msg.pdu.bytes)).length
        (msg.version.bytes ++ (msg.community.bytes ++ msg.pduWritten r.1 r.2)) →
      (Q (msg.community.bytes.length + msg.pduSize r.1 + msg.version.bytes.length : ℕ) a' ↔ P r)) :
    lands (tolerates False) (parseVersion m turns) Q a ↔
      ∃ r, answers msg.pduType 0 msg.bindings a.served = some r ∧ msg.bindings.length < turns ∧
        p + (msg.version.bytes ++ (msg.community.bytes ++ msg.pduWritten r.1 r.2)).length ≤
          maxSnmpmsgLen ∧ P r := by
  obtain ⟨-, -, -, hplain, -⟩ := hmsg.plain
  rw [Request.has_append] at hhas
  rw [List.length_append] at hend
  have hheader := hasHeader hhas.1 hmsg.version
  have hsize := hheader.size hplain
  have hcontent : m.Has (p + (msg.version.form.size + 1)) [snmpV1] := by
    have hparts := hhas.1
    rw [Element.bytes, Request.has_append, Element.length_header, hmsg.ownVersion] at hparts
    exact hparts.2
  have hat : ((p : ℤ) + 1 + msg.version.form.size).toNat = p + (msg.version.form.size + 1) := by omega
  have hinside : 0 ≤ (p : ℤ) + 1 + msg.version.form.size ∧
      (p : ℤ) + 1 + msg.version.form.size < m.limit := by
    have hlast := hcontent.1
    rw [List.length_singleton] at hlast
    omega
  rw [Request.has_cons] at hcontent
  rw [parseVersion]
  refine (lands_readElement (f := fun _ tlv tag => do
    if tag ≠ snmpdtypeInteger then return -1
    let version ← m.byte tlv.vstart
    if version ≠ snmpV1 then return -1
    copySegment m tlv tlv.size
    let size ← parseCommunity m turns
    if size = -1 then return -1
    return size + tlv.size) hhas.1 hmsg.version hindex).trans ?_
  rw [hheader.vstart, if_neg (not_not.2 hmsg.versionType), lands_bind, lands_byte,
    and_iff_right hinside, hat, hcontent.1.2, if_neg (not_not.2 rfl), lands_bind]
  refine (lands_copyElement (P := ∃ r, answers msg.pduType 0 msg.bindings a.served = some r ∧
    msg.bindings.length < turns ∧
    p + (msg.version.bytes ++ (msg.community.bytes ++ msg.pduWritten r.1 r.2)).length ≤
      maxSnmpmsgLen ∧ P r) hhas.1 hheader hplain hindex ?_).trans (and_iff_right_of_imp ?_)
  · intro _ a' hview
    obtain ⟨hindex', hresp', hserved⟩ := view_moved hview hindex
    have hlength (r : List Binding × Served) :
        p + (msg.version.bytes ++ (msg.community.bytes ++ msg.pduWritten r.1 r.2)).length =
          p + msg.version.bytes.length +
            (msg.community.bytes ++ msg.pduWritten r.1 r.2).length := by
      rw [List.length_append, Nat.add_assoc]
    simp only [hlength] at h ⊢
    rw [lands_bind, ← hserved]
    apply lands_ownCommunity hmsg hhas.2 (by omega) hindex' (by omega)
    intro r a'' hroom hview'
    rw [if_neg (by omega), lands_pure, hsize, ← Int.natCast_add]
    apply h r a'' hroom
    rw [hview', hview]
    simp only [View.add, List.length_append, Int.natCast_add, Int.add_assoc, List.append_assoc]
  · rintro ⟨r, -, -, hroom, -⟩
    rw [List.length_append] at hroom
    omega

lemma Message.length_written (msg : Message) (bindings : List Binding) (s : Served) :
    (msg.written bindings s).length = msg.element.header.length +
      (msg.version.bytes ++ (msg.community.bytes ++ msg.pduWritten bindings s)).length := by
  have hheader := msg.element.length_header
  have hform : msg.element.form = msg.form := rfl
  rw [Message.written, List.length_cons, List.length_append, Form.length_octets, List.append_assoc,
    hheader, hform]
  omega

/-- What the agent does with a request: it answers the bindings, if C says how and the response has
room, and the response gets the sizes that the agent finds. -/
lemma lands_message (hmsg : msg.IsRequest) (hhas : m.Has 0 msg.bytes) (hend : msg.bytes.length = m.len)
    (snmpData : List DataEntry) {Q : ℤ → Agent → Prop} {P : List Binding × Served → Prop}
    (h : ∀ r a', a'.response.slice 0 a'.respIndex = msg.written r.1 r.2 → a'.served = r.2 →
      (Q 0 a' ↔ P r)) :
    lands (tolerates False) (parseSNMPMessage m turns) Q (Agent.start snmpData) ↔
      ∃ r, answers msg.pduType 0 msg.bindings (.start snmpData) = some r ∧
        msg.bindings.length < turns ∧ (msg.written r.1 r.2).length ≤ maxSnmpmsgLen ∧ P r := by
  have hcontent : msg.element.content =
      msg.version.bytes ++ (msg.community.bytes ++ msg.pdu.bytes) := List.append_assoc _ _ _
  have hparts : m.Has (0 + msg.element.header.length)
      (msg.version.bytes ++ (msg.community.bytes ++ msg.pdu.bytes)) := by
    rw [Message.bytes, Element.bytes, Request.has_append, hcontent] at hhas
    exact hhas.2
  have hlong : msg.bytes.length = msg.element.header.length +
      (msg.version.bytes ++ (msg.community.bytes ++ msg.pdu.bytes)).length := by
    rw [← hcontent]
    exact List.length_append
  have hheader := hasHeader hhas hmsg.element
  have hindex : (Agent.start snmpData).index = (0 : ℕ) := rfl
  have hview₀ : (Agent.start snmpData).view = ⟨0, [], .start snmpData⟩ := rfl
  have htag : msg.element.tag = snmpdtypeSequence := rfl
  have hstart : (m.tlv (0 : ℕ)).start = (0 : ℕ) := rfl
  rw [parseSNMPMessage]
  refine (lands_readElement (f := fun _ tlv tag => do
    if tag ≠ snmpdtypeSequence then return -1
    copySegment m tlv tlv.header
    let size ← parseVersion m turns
    if size = -1 then return -1
    insertRespLen m tlv.start tlv.start (size + tlv.header)
    return 0) hhas hmsg.element hindex).trans ?_
  rw [htag, if_neg (not_not.2 rfl), lands_bind]
  refine (lands_copyHeader (P := ∃ r, answers msg.pduType 0 msg.bindings (.start snmpData) = some r ∧
    msg.bindings.length < turns ∧ (msg.written r.1 r.2).length ≤ maxSnmpmsgLen ∧ P r)
    hheader hindex ?_).trans (and_iff_right_of_imp ?_)
  · intro _ a₁ hview
    obtain ⟨hindex₁, hresp₁, hserved₁⟩ := view_moved hview hindex
    have hzero : (Agent.start snmpData).respIndex = 0 := rfl
    have hserved₀ : (Agent.start snmpData).served = .start snmpData := rfl
    simp only [Message.length_written]
    rw [lands_bind, ← hserved₀, ← hserved₁]
    rw [hzero] at hresp₁
    rw [Nat.zero_add] at hindex₁ hparts hresp₁
    apply lands_ownVersion hmsg hparts (by omega) hindex₁ hresp₁
    intro r a₂ hroom hview₂
    have hsize : ((msg.community.bytes.length + msg.pduSize r.1 + msg.version.bytes.length : ℕ) : ℤ) +
        (m.tlv (0 : ℕ)).header = (msg.size r.1 : ℕ) := by
      rw [hheader.header, Message.size, Element.length_header]
      omega
    have hout : a₂.view.out = [snmpdtypeSequence] ++
        msg.element.form.octets msg.element.content.length ++
        (msg.version.bytes ++ (msg.community.bytes ++ msg.pduWritten r.1 r.2)) := by
      rw [hview₂, hview, hview₀]
      simp [View.add, Element.header, htag]
    have hk : msg.size r.1 < 0x10000 := by
      have hpdu := Message.length_pduWritten hmsg r.1 r.2
      rw [maxSnmpmsgLen, List.length_append, List.length_append] at hroom
      rw [Message.size, Message.pduSize]
      omega
    have hfit : 0 + 1 + msg.element.form.size ≤ maxSnmpmsgLen := by
      have hheaderLen := msg.element.length_header
      omega
    rw [if_neg (by omega), lands_bind, hsize, hstart]
    apply lands_insertLength hheader hk hout rfl hfit
    intro a₃ hview₃
    rw [lands_pure]
    have hout₃ := congrArg View.out hview₃
    have hserved₃ := congrArg View.served hview₃
    apply h r a₃
    · refine hout₃.trans ?_
      simp only [Message.written, List.append_assoc, List.singleton_append]
      rfl
    · exact hserved₃.trans (congrArg View.served hview₂)
  · rintro ⟨r, -, -, hroom, -⟩
    have hzero : (Agent.start snmpData).respIndex = 0 := rfl
    rw [Message.length_written] at hroom
    omega

/-- snmpd_run sends this response to a datagram, and leaves this behind. -/
def Answered (turns : ℕ) (stale : Mem) (datagram : List Byte) (snmpData : List DataEntry)
    (response : List Byte) (s : Served) : Prop :=
  datagram.length ≤ maxSnmpmsgLen ∧ ∃ ret a,
    parseSNMPMessage (asReceived stale datagram) turns (Agent.start snmpData) = .ok (ret, a) ∧
      ret ≠ -1 ∧ a.response.slice 0 a.respIndex = response ∧ a.served = s

lemma asReceived_has {datagram : List Byte} (stale : Mem) (h : datagram.length ≤ maxSnmpmsgLen) :
    (asReceived stale datagram).Has 0 datagram := by
  constructor
  · rw [Nat.zero_add]
    exact Nat.le_min.2 ⟨Nat.le_refl _, h⟩
  · exact Mem.slice_fill stale datagram

/-- A request is answered with what its bindings ask for. -/
lemma answered_iff (hmsg : msg.IsRequest) (stale : Mem) (snmpData : List DataEntry)
    {response : List Byte} {s : Served} :
    Answered turns stale msg.bytes snmpData response s ↔
      msg.bytes.length ≤ maxSnmpmsgLen ∧
        ∃ r, answers msg.pduType 0 msg.bindings (.start snmpData) = some r ∧
          msg.bindings.length < turns ∧ (msg.written r.1 r.2).length ≤ maxSnmpmsgLen ∧
          msg.written r.1 r.2 = response ∧ r.2 = s := by
  apply and_congr_right
  intro hlength
  have hlands : lands (tolerates False) (parseSNMPMessage (asReceived stale msg.bytes) turns)
      (fun ret a => ret ≠ -1 ∧ a.response.slice 0 a.respIndex = response ∧ a.served = s)
      (Agent.start snmpData) ↔
      ∃ r, answers msg.pduType 0 msg.bindings (.start snmpData) = some r ∧
        msg.bindings.length < turns ∧ (msg.written r.1 r.2).length ≤ maxSnmpmsgLen ∧
        msg.written r.1 r.2 = response ∧ r.2 = s := by
    apply lands_message hmsg (asReceived_has stale hlength) rfl
    intro r a hout hserved
    rw [hout, hserved]
    exact and_iff_right (by decide)
  rw [← hlands, tolerates_false, lands_iff]

end IoLibrary.Snmp
