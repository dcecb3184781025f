import IoLibrary.Http.Connections

/-! The bodies of the responses: what of a content the sends accept, byte by byte with its place. -/
namespace IoLibrary.Http
open Effects

/-- A response with a content: the bytes of the body that have been accepted, each with the place in
the content that it was read from, and whether the sending of a part has fallen short. -/
structure Serving where
  content : List Byte
  accepted : List (Byte × ℕ)
  short : Bool

def serve (content : List Byte) : Serving := ⟨content, [], false⟩

/-- `n` bytes, if there are that many, of a part that begins at `offset` are accepted. -/
def Serving.accept (sv : Serving) (offset : ℕ) (part : List Byte) (n : ℕ) : Serving :=
  { sv with
    accepted := sv.accepted ++ (part.zipIdx offset).take n
    short := sv.short || decide (n < part.length) }

def bodyOf (actions : List Action) : List Byte :=
  actions.flatMap fun
    | .body bytes => bytes
    | _ => []

variable (site : List WebContent)

/-- The response that a call works on: a request begins a new one. -/
def servedBy (h : HttpSocket) (sv : Option Serving) (i : Input) : Option Serving :=
  if i.sr = .established ∧ h.sockStatus = .idle then
    match i.asked with
    | some (.content num) => (site[num]?).map fun content => serve content.bytes
    | some _ => none
    | none => sv
  else sv

/-- The part of a body that a call sends. -/
def partSent (h : HttpSocket) (i : Input) : List Byte := bodyOf (httpServerRun site h i).2

/-- The server with the response that it is sending. -/
def serving : Machine (HttpSocket × Option Serving) Input (List Action) := fun s i =>
  (((httpServerRun site s.1 i).1, (servedBy site s.1 s.2 i).map fun sv =>
      sv.accept s.1.fileOffset (partSent site s.1 i) i.accepts), (httpServerRun site s.1 i).2)

/-- The call brings the server into RES_DONE. -/
def Ends (h : HttpSocket) (i : Input) : Prop :=
  h.sockStatus ≠ .resDone ∧ (httpServerRun site h i).1.sockStatus = .resDone

/-- What has been accepted of a content is its beginning, byte by byte, and all of it at the end. -/
def Delivers (s : HttpSocket × Option Serving) (i : Input) : Prop :=
  ∀ sv, (serving site s i).1.2 = some sv → sv.accepted <+: sv.content.zipIdx ∧
    (Ends site s.1 i → sv.accepted = sv.content.zipIdx)

/-- Nothing is accepted of a response after one of its parts has fallen short, and no part of a
response that comes to its end falls short. -/
def AcceptsAll (s : HttpSocket × Option Serving) (i : Input) : Prop :=
  ∀ sv, servedBy site s.1 s.2 i = some sv →
    (0 < min i.accepts (partSent site s.1 i).length → sv.short = false) ∧
    (Ends site s.1 i → sv.short = false ∧ (partSent site s.1 i).length ≤ i.accepts)

section places
variable (content : List Byte)

lemma zipIdx_part (offset size : ℕ) : ((content.drop offset).take size).zipIdx offset =
    (content.zipIdx.drop offset).take size := by
  apply List.ext_getElem
  · simp
  · intro k h₁ h₂
    simp

/-- Bytes from a later place do not go on with the beginning. -/
lemma not_prefix_of_gap {n offset a : ℕ} (hgap : n < offset) (hin : offset < content.length)
    (ha : 0 < a) :
    ¬ content.zipIdx.take n ++ (content.zipIdx.drop offset).take a <+: content.zipIdx := by
  intro hpre
  have hlen : (content.zipIdx.take n).length = n := by
    simp
    omega
  have hi : n < (content.zipIdx.take n ++ (content.zipIdx.drop offset).take a).length := by
    simp
    omega
  have hat := congrArg Prod.snd (hpre.getElem hi)
  rw [List.getElem_append_right (by omega)] at hat
  simp [hlen] at hat
  omega

lemma take_append_chunk (n a : ℕ) :
    content.zipIdx.take n ++ (content.zipIdx.drop n).take a = content.zipIdx.take (n + a) := by
  rw [List.take_add]

lemma take_eq_all {n : ℕ} : content.zipIdx.take n = content.zipIdx ↔ content.length ≤ n := by
  constructor
  · intro h
    have hlen := congrArg List.length h
    simp at hlen
    omega
  · intro h
    exact List.take_of_length_le (by simpa using h)

end places

/-- The server is sending the content, and has parts left. -/
structure Sending (h : HttpSocket) (content : List Byte) : Prop where
  registered : ∃ c, site[h.fileStart]? = some c ∧ c.bytes = content
  storage : h.storageType = .codeflash
  length : h.fileLen = content.length
  left : h.fileOffset < content.length

/-- The size of the part that begins at `offset`. -/
def partSize (content : List Byte) (offset : ℕ) : ℕ :=
  min (content.length - offset) (dataBufSize - 1)

/-- A call that sends the part of the content at the offset: the server goes on behind it, or ends
the response with it. -/
structure SendsPart (h : HttpSocket) (i : Input) (content : List Byte) : Prop where
  part : partSent site h i = (content.drop h.fileOffset).take (partSize content h.fileOffset)
  left : h.fileOffset ≤ content.length
  next : content.length ≤ h.fileOffset + partSize content h.fileOffset ∧
      (httpServerRun site h i).1.sockStatus = .resDone ∨
    h.fileOffset + partSize content h.fileOffset < content.length ∧
      (httpServerRun site h i).1.sockStatus = .resInproc ∧
      (httpServerRun site h i).1.fileOffset = h.fileOffset + partSize content h.fileOffset ∧
      Sending site (httpServerRun site h i).1 content

lemma readUserRegWebContent_part {content : List Byte} {offset size : ℕ}
    (h : size ≤ content.length - offset) :
    readUserRegWebContent content offset size = (content.drop offset).take size := by
  simp [readUserRegWebContent, Nat.sub_eq_zero_of_le h]

@[simp] lemma bodyOf_sent (h : HttpSocket) (part : List Byte) (last : Bool) :
    bodyOf (sendPart h part last).2 = part := by
  have hsent : bodyOf (if part = [] then [] else [Action.body part]) = part := by
    split
    · rename_i hnil
      rw [hnil]
      rfl
    · simp [bodyOf]
  simp only [sendPart]
  split
  · exact hsent
  · exact hsent

lemma sendPart_last (h : HttpSocket) (part : List Byte) : (sendPart h part true).1.fileLen = 0 := by
  simp [sendPart]

lemma sendPart_more (h : HttpSocket) {part : List Byte} (hne : part ≠ []) :
    (sendPart h part false).1 = { h with fileOffset := h.fileOffset + part.length } := by
  simp [sendPart, hne]

lemma readPart_sending {h : HttpSocket} {content : List Byte} (hs : Sending site h content)
    {size : ℕ} (hle : size ≤ content.length - h.fileOffset) :
    readPart site h h.fileStart size = (content.drop h.fileOffset).take size := by
  obtain ⟨c, hc, rfl⟩ := hs.registered
  rw [readPart, hs.storage]
  simp only [hc]
  exact readUserRegWebContent_part hle

lemma httpEstablished_inproc {h : HttpSocket} (hs : h.sockStatus = .resInproc)
    (asked : Option Asked) : httpEstablished site h asked =
      if (sendHttpResponseBody site h 0 0).1.fileLen = 0 then
        ({ (sendHttpResponseBody site h 0 0).1 with sockStatus := .resDone },
          (sendHttpResponseBody site h 0 0).2)
      else sendHttpResponseBody site h 0 0 := by
  simp only [httpEstablished, hs]

lemma httpEstablished_idle_content {h : HttpSocket} (hs : h.sockStatus = .idle) {num : ℕ}
    {c : WebContent} (hc : site[num]? = some c) {r : HttpSocket × List Action}
    (hr : sendHttpResponseBody site { h with storageType := .codeflash } num c.bytes.length = r) :
    httpEstablished site h (some (.content num)) =
      ({ r.1 with sockStatus := if 0 < r.1.fileLen then .resInproc else .resDone },
        .header :: r.2) := by
  subst hr
  cases h
  cases hs
  simp only [httpEstablished, httpProcessHandler, hc]
  split <;> rfl

/-- A call that goes on with the response. -/
lemma sendsPart_more {h : HttpSocket} {i : Input} {content : List Byte} (hsr : i.sr = .established)
    (hstatus : h.sockStatus = .resInproc) (hs : Sending site h content) :
    SendsPart site h i content := by
  have hleft := hs.left
  have hpos : h.fileLen ≠ 0 := by
    rw [hs.length]
    omega
  have hbuf : dataBufSize - 1 = 2047 := rfl
  have hrun : httpServerRun site h i = httpEstablished site h i.asked :=
    httpServerRun_established site h hsr
  by_cases hmore : dataBufSize - 1 < content.length - h.fileOffset
  · have hsize : partSize content h.fileOffset = dataBufSize - 1 := by
      rw [partSize]
      omega
    have hread := readPart_sending site hs (Nat.le_of_lt hmore)
    have hlen : ((content.drop h.fileOffset).take (dataBufSize - 1)).length = dataBufSize - 1 := by
      simp
      omega
    have hne : (content.drop h.fileOffset).take (dataBufSize - 1) ≠ [] := by
      intro hnil
      rw [hnil] at hlen
      simp [hbuf] at hlen
    have hbody : sendHttpResponseBody site h 0 0 =
        sendPart h ((content.drop h.fileOffset).take (dataBufSize - 1)) false := by
      rw [sendHttpResponseBody, if_neg hpos, hs.length]
      simp only [if_pos hmore, hread]
    have hnext : httpServerRun site h i = sendPart h
        ((content.drop h.fileOffset).take (dataBufSize - 1)) false := by
      rw [hrun, httpEstablished_inproc site hstatus, hbody, if_neg]
      rw [sendPart_more h hne]
      exact hpos
    constructor
    · rw [partSent, hnext, bodyOf_sent, hsize]
    · exact Nat.le_of_lt hleft
    · right
      rw [hnext, sendPart_more h hne, hsize, hlen]
      refine ⟨by omega, hstatus, rfl, hs.registered, hs.storage, hs.length, ?_⟩
      change h.fileOffset + (dataBufSize - 1) < content.length
      omega
  · have hsize : partSize content h.fileOffset = content.length - h.fileOffset := by
      rw [partSize]
      omega
    have hread := readPart_sending site hs (Nat.le_refl _)
    have hbody : sendHttpResponseBody site h 0 0 =
        sendPart h ((content.drop h.fileOffset).take (content.length - h.fileOffset)) true := by
      rw [sendHttpResponseBody, if_neg hpos, hs.length]
      simp only [if_neg hmore, hread]
    have hnext : httpServerRun site h i = _ :=
      (hrun.trans (httpEstablished_inproc site hstatus i.asked)).trans
        (if_pos (by rw [hbody]; exact sendPart_last h _))
    constructor
    · rw [partSent, hnext, hbody, bodyOf_sent, hsize]
    · exact Nat.le_of_lt hleft
    · left
      rw [hnext]
      exact ⟨by omega, rfl⟩

lemma readPart_first {h : HttpSocket} {num : ℕ} {c : WebContent} (hc : site[num]? = some c)
    (hs : h.storageType = .codeflash) (hoff : h.fileOffset = 0) {size : ℕ}
    (hle : size ≤ c.bytes.length) : readPart site h num size = c.bytes.take size := by
  rw [readPart, hs]
  simp only [hc]
  rw [readUserRegWebContent_part (by omega), hoff]
  rfl

/-- A call that begins a response. -/
lemma sendsPart_first {h : HttpSocket} {i : Input} {num : ℕ} {c : WebContent}
    (hsr : i.sr = .established) (hclean : Clean h) (hasked : i.asked = some (.content num))
    (hc : site[num]? = some c) : SendsPart site h i c.bytes := by
  have hbuf : dataBufSize - 1 = 2047 := rfl
  have hoff := hclean.fileOffset
  have hrun : httpServerRun site h i = httpEstablished site h (some (.content num)) := by
    rw [httpServerRun_established site h hsr, hasked]
  by_cases hmore : dataBufSize - 1 < c.bytes.length
  · have hlen : (c.bytes.take (dataBufSize - 1)).length = dataBufSize - 1 := by
      simp
      omega
    have hne : c.bytes.take (dataBufSize - 1) ≠ [] := by
      intro hnil
      rw [hnil] at hlen
      simp [hbuf] at hlen
    have hsize : partSize c.bytes h.fileOffset = dataBufSize - 1 := by
      rw [partSize, hoff]
      omega
    let begun : HttpSocket :=
      { h with storageType := .codeflash, fileStart := num, fileLen := c.bytes.length }
    have hbody : sendHttpResponseBody site { h with storageType := .codeflash } num
        c.bytes.length = sendPart begun (c.bytes.take (dataBufSize - 1)) false := by
      rw [sendHttpResponseBody, if_pos hclean.fileLen, if_pos hmore]
      exact congrArg (sendPart begun · false)
        (readPart_first site (h := begun) hc rfl hoff (Nat.le_of_lt hmore))
    have hnext := hrun.trans (httpEstablished_idle_content site hclean.sockStatus hc hbody)
    have hpos : 0 < c.bytes.length := by omega
    constructor
    · rw [partSent, hnext, hsize, hoff]
      exact bodyOf_sent _ _ _
    · omega
    · right
      rw [hnext, sendPart_more begun hne, hsize, hlen]
      refine ⟨by omega, if_pos hpos, rfl, ⟨c, hc, rfl⟩, rfl, rfl, ?_⟩
      change h.fileOffset + (dataBufSize - 1) < c.bytes.length
      omega
  · have hsize : partSize c.bytes h.fileOffset = c.bytes.length := by
      rw [partSize, hoff]
      omega
    have hread : readPart site { h with storageType := .codeflash } num c.bytes.length = c.bytes := by
      have htake := readPart_first site (h := { h with storageType := .codeflash }) hc rfl hoff
        (Nat.le_refl _)
      rw [htake, List.take_length]
    have hbody : sendHttpResponseBody site { h with storageType := .codeflash } num
        c.bytes.length = sendPart { h with storageType := .codeflash } c.bytes false := by
      rw [sendHttpResponseBody, if_pos hclean.fileLen, if_neg hmore, hread]
    have hnext := hrun.trans (httpEstablished_idle_content site hclean.sockStatus hc hbody)
    have hzero : (sendPart { h with storageType := .codeflash } c.bytes false).1.fileLen = 0 := by
      simp only [sendPart]
      split
      · rfl
      · exact hclean.fileLen
    constructor
    · rw [partSent, hnext, hsize, hoff, List.drop_zero, List.take_length]
      exact bodyOf_sent _ _ _
    · omega
    · left
      rw [hnext]
      refine ⟨by omega, if_neg ?_⟩
      rw [hzero]
      exact Nat.lt_irrefl 0

/-- What has been accepted of a response, when its next part begins at `offset`. -/
structure Upto (sv : Serving) (offset : ℕ) : Prop where
  full : sv.short = false → sv.accepted = sv.content.zipIdx.take offset
  gap : sv.short = true → ∃ n < offset, sv.accepted = sv.content.zipIdx.take n

/-- The server and the response between the calls. -/
structure Serves (s : HttpSocket × Option Serving) : Prop where
  reached : s.1.sockStatus = .idle ∨ s.1.sockStatus = .resInproc ∨ s.1.sockStatus = .resDone
  clean : s.1.sockStatus = .idle → Clean s.1
  taken : ∀ sv, s.2 = some sv → sv.accepted <+: sv.content.zipIdx
  sending : s.1.sockStatus = .resInproc →
    ∃ sv, s.2 = some sv ∧ Sending site s.1 sv.content ∧ Upto sv s.1.fileOffset

lemma upto_serve (content : List Byte) : Upto (serve content) 0 := ⟨fun _ => rfl, nofun⟩

section part
variable {sv : Serving} {h : HttpSocket} {i : Input}

lemma accept_part (hp : SendsPart site h i sv.content) :
    (sv.accept h.fileOffset (partSent site h i) i.accepts).accepted = sv.accepted ++
      (sv.content.zipIdx.drop h.fileOffset).take
        (min i.accepts (partSize sv.content h.fileOffset)) := by
  rw [Serving.accept, hp.part, zipIdx_part, List.take_take]

lemma length_part (hp : SendsPart site h i sv.content) :
    (partSent site h i).length = partSize sv.content h.fileOffset := by
  rw [hp.part, partSize]
  simp

lemma ends_iff (hstatus : h.sockStatus ≠ .resDone) (hp : SendsPart site h i sv.content) :
    Ends site h i ↔ sv.content.length ≤ h.fileOffset + partSize sv.content h.fileOffset := by
  rcases hp.next with ⟨hend, hdone⟩ | ⟨hmore, hinproc, -⟩
  · exact iff_of_true ⟨hstatus, hdone⟩ hend
  · apply iff_of_false
    · intro hends
      rw [Ends, hinproc] at hends
      exact absurd hends.2 (by decide)
    · omega

/-- A part is delivered as the claim wants exactly where the sends accept all. -/
lemma part_delivers (hstatus : h.sockStatus ≠ .resDone) (hp : SendsPart site h i sv.content)
    (hu : Upto sv h.fileOffset) :
    ((sv.accept h.fileOffset (partSent site h i) i.accepts).accepted <+: sv.content.zipIdx ∧
      (Ends site h i → (sv.accept h.fileOffset (partSent site h i) i.accepts).accepted =
        sv.content.zipIdx)) ↔
    ((0 < min i.accepts (partSent site h i).length → sv.short = false) ∧
      (Ends site h i → sv.short = false ∧ (partSent site h i).length ≤ i.accepts)) := by
  have hleft := hp.left
  have hsize : partSize sv.content h.fileOffset ≤ sv.content.length - h.fileOffset :=
    Nat.min_le_left _ _
  rw [accept_part site hp, length_part site hp, ends_iff site hstatus hp]
  generalize partSize sv.content h.fileOffset = size at hsize ⊢
  cases hshort : sv.short with
  | false =>
    rw [hu.full hshort, take_append_chunk, take_eq_all]
    constructor
    · intro hd
      refine ⟨fun _ => rfl, fun hend => ⟨rfl, ?_⟩⟩
      have hall := hd.2 hend
      omega
    · intro hc
      refine ⟨List.take_prefix _ _, fun hend => ?_⟩
      have hall := (hc.2 hend).2
      omega
  | true =>
    obtain ⟨n, hn, haccepted⟩ := hu.gap hshort
    rw [haccepted]
    by_cases hzero : 0 < min i.accepts size
    · apply iff_of_false
      · intro hd
        exact not_prefix_of_gap sv.content hn (by omega) hzero hd.1
      · intro hc
        exact absurd (hc.1 hzero) (by decide)
    · have hnone : min i.accepts size = 0 := by omega
      rw [hnone, List.take_zero, List.append_nil, take_eq_all]
      constructor
      · intro hd
        refine ⟨fun h0 => absurd h0 (by decide), fun hend => ?_⟩
        have hall := hd.2 hend
        omega
      · intro hc
        refine ⟨List.take_prefix _ _, fun hend => ?_⟩
        exact absurd (hc.2 hend).1 (by decide)

/-- What is accepted after a part that the condition holds of. -/
lemma part_upto (hp : SendsPart site h i sv.content) (hu : Upto sv h.fileOffset)
    (hc : 0 < min i.accepts (partSent site h i).length → sv.short = false)
    (hpos : 0 < partSize sv.content h.fileOffset) :
    Upto (sv.accept h.fileOffset (partSent site h i) i.accepts)
      (h.fileOffset + partSize sv.content h.fileOffset) := by
  have hshort' : (sv.accept h.fileOffset (partSent site h i) i.accepts).short =
      (sv.short || decide (i.accepts < partSize sv.content h.fileOffset)) := by
    rw [Serving.accept, length_part site hp]
  have haccepted := accept_part site hp
  rw [length_part site hp] at hc
  constructor
  · intro hfull
    rw [hshort', Bool.or_eq_false_iff] at hfull
    have hall : min i.accepts (partSize sv.content h.fileOffset) =
        partSize sv.content h.fileOffset := by
      have := of_decide_eq_false hfull.2
      omega
    rw [haccepted, hu.full hfull.1, take_append_chunk, hall]
    rfl
  · intro hgap
    rw [haccepted]
    cases hshort : sv.short with
    | false =>
      rw [hshort', hshort, Bool.false_or] at hgap
      have hlt := of_decide_eq_true hgap
      rw [hu.full hshort, take_append_chunk]
      exact ⟨_, by omega, rfl⟩
    | true =>
      obtain ⟨n, hn, hacc⟩ := hu.gap hshort
      have hnone : min i.accepts (partSize sv.content h.fileOffset) = 0 := by
        by_contra hne
        rw [hc (by omega)] at hshort
        cases hshort
      rw [hacc, hnone, List.take_zero, List.append_nil]
      exact ⟨n, by omega, rfl⟩

end part

/-- The claim about a call is equivalent to its condition, which keeps the invariant. -/
structure Decided (s : HttpSocket × Option Serving) (i : Input) : Prop where
  iff : Delivers site s i ↔ AcceptsAll site s i
  next : AcceptsAll site s i → Serves site (serving site s i).1

lemma accept_nil (sv : Serving) (offset n : ℕ) : sv.accept offset [] n = sv := by
  simp [Serving.accept]

/-- A call that sends no part of a body. -/
lemma decided_quiet {s : HttpSocket × Option Serving} {i : Input} (h : Serves site s)
    (hserved : servedBy site s.1 s.2 i = s.2) (hpart : partSent site s.1 i = [])
    (hends : ¬ Ends site s.1 i)
    (hrest : (httpServerRun site s.1 i).1 = s.1 ∨ Clean (httpServerRun site s.1 i).1) :
    Decided site s i := by
  have hsame : (serving site s i).1.2 = s.2 := by
    simp only [serving, hserved, hpart, accept_nil, Option.map_id']
  constructor
  · apply iff_of_true
    · intro sv hsv
      rw [hsame] at hsv
      exact ⟨h.taken sv hsv, fun he => absurd he hends⟩
    · intro sv _
      rw [hpart]
      exact ⟨fun hpos => by simp at hpos, fun he => absurd he hends⟩
  · intro _
    have hstate : (serving site s i).1.1 = (httpServerRun site s.1 i).1 := rfl
    rcases hrest with hrest | hrest
    · constructor
      · rw [hstate, hrest]
        exact h.reached
      · rw [hstate, hrest]
        exact h.clean
      · rw [hsame]
        exact h.taken
      · rw [hstate, hrest, hsame]
        exact h.sending
    · constructor
      · exact .inl hrest.sockStatus
      · exact fun _ => hrest
      · rw [hsame]
        exact h.taken
      · intro hinproc
        rw [hstate, hrest.sockStatus] at hinproc
        cases hinproc

/-- A call that sends a part. -/
lemma decided_part {s : HttpSocket × Option Serving} {i : Input} {sv : Serving}
    (hserved : servedBy site s.1 s.2 i = some sv) (hstatus : s.1.sockStatus ≠ .resDone)
    (hp : SendsPart site s.1 i sv.content) (hu : Upto sv s.1.fileOffset) :
    Decided site s i := by
  have hnext : (serving site s i).1.2 =
      some (sv.accept s.1.fileOffset (partSent site s.1 i) i.accepts) := by
    simp only [serving, hserved, Option.map_some]
  have hdelivers := part_delivers site (i := i) hstatus hp hu
  have haccepts : AcceptsAll site s i ↔
      (0 < min i.accepts (partSent site s.1 i).length → sv.short = false) ∧
        (Ends site s.1 i → sv.short = false ∧ (partSent site s.1 i).length ≤ i.accepts) := by
    rw [AcceptsAll, hserved]
    simp
  constructor
  · rw [haccepts, ← hdelivers, Delivers, hnext]
    simp [Serving.accept]
  · intro hall
    rw [haccepts] at hall
    have htaken := (hdelivers.2 hall).1
    have hstate : (serving site s i).1.1 = (httpServerRun site s.1 i).1 := rfl
    have hbegins : ∀ sv', (serving site s i).1.2 = some sv' →
        sv'.accepted <+: sv'.content.zipIdx := by
      rw [hnext]
      rintro _ ⟨⟩
      exact htaken
    rcases hp.next with ⟨-, hdone⟩ | ⟨hmore, hinproc, hoffset, hsending⟩
    · constructor
      · rw [hstate, hdone]
        exact .inr (.inr rfl)
      · rw [hstate, hdone]
        exact nofun
      · exact hbegins
      · rw [hstate, hdone]
        exact nofun
    · have hpos : 0 < partSize sv.content s.1.fileOffset := by
        have hbuf : dataBufSize - 1 = 2047 := rfl
        rw [partSize] at hmore ⊢
        omega
      constructor
      · rw [hstate, hinproc]
        exact .inr (.inl rfl)
      · rw [hstate, hinproc]
        exact nofun
      · exact hbegins
      · intro _
        refine ⟨_, hnext, hsending, ?_⟩
        rw [hstate, hoffset]
        exact part_upto site hp hu hall.1 hpos

/-- A request for something else than a registered content. -/
lemma decided_other {s : HttpSocket × Option Serving} {i : Input}
    (hserved : servedBy site s.1 s.2 i = none)
    (hdone : (httpServerRun site s.1 i).1.sockStatus = .resDone) : Decided site s i := by
  have hnext : (serving site s i).1.2 = none := by
    simp only [serving, hserved, Option.map_none]
  constructor
  · rw [Delivers, AcceptsAll, hnext, hserved]
    simp
  · intro _
    have hstate : (serving site s i).1.1 = (httpServerRun site s.1 i).1 := rfl
    constructor
    · rw [hstate, hdone]
      exact .inr (.inr rfl)
    · rw [hstate, hdone]
      exact nofun
    · rw [hnext]
      exact nofun
    · rw [hstate, hdone]
      exact nofun

lemma decided {s : HttpSocket × Option Serving} (h : Serves site s) (i : Input) :
    Decided site s i := by
  by_cases hsr : i.sr = .established
  · have hrun := httpServerRun_established site s.1 hsr
    rcases h.reached with hs | hs | hs
    · have hclean := h.clean hs
      cases hasked : i.asked with
      | none =>
        have hsame : httpServerRun site s.1 i = (s.1, []) := by
          rw [hrun, hasked]
          simp only [httpEstablished, hs]
        apply decided_quiet site h
        · simp [servedBy, hsr, hs, hasked]
        · rw [partSent, hsame]
          rfl
        · rw [Ends, hsame, hs]
          exact fun he => absurd he.2 (by decide)
        · rw [hsame]
          exact .inl rfl
      | some asked =>
        have hother (hserved : servedBy site s.1 s.2 i = none)
            (hhandled : (httpProcessHandler site s.1 asked).1 = s.1) : Decided site s i := by
          apply decided_other site hserved
          rw [hrun, hasked]
          simp only [httpEstablished, hs, hhandled, hclean.fileLen]
          rfl
        cases asked with
        | bad => exact hother (by simp [servedBy, hsr, hs, hasked]) rfl
        | notFound => exact hother (by simp [servedBy, hsr, hs, hasked]) rfl
        | cgi => exact hother (by simp [servedBy, hsr, hs, hasked]) rfl
        | content num =>
          cases hc : site[num]? with
          | none =>
            apply hother
            · simp [servedBy, hsr, hs, hasked, hc]
            · simp only [httpProcessHandler, hc]
          | some c =>
            have hserved : servedBy site s.1 s.2 i = some (serve c.bytes) := by
              simp [servedBy, hsr, hs, hasked, hc]
            apply decided_part site hserved
            · rw [hs]
              decide
            · exact sendsPart_first site hsr hclean hasked hc
            · rw [hclean.fileOffset]
              exact upto_serve c.bytes
    · obtain ⟨sv, hsv, hsending, hu⟩ := h.sending hs
      have hserved : servedBy site s.1 s.2 i = some sv := by
        simp [servedBy, hs, hsv]
      apply decided_part site hserved
      · rw [hs]
        decide
      · exact sendsPart_more site hsr hs hsending
      · exact hu
    · have hstep : httpServerRun site s.1 i =
          ({ s.1 with fileLen := 0, fileOffset := 0, fileStart := 0, sockStatus := .idle },
            [.discon]) := by
        rw [hrun]
        simp only [httpEstablished, hs]
      apply decided_quiet site h
      · simp [servedBy, hs]
      · rw [partSent, hstep]
        rfl
      · exact fun he => he.1 hs
      · rw [hstep]
        exact .inr ⟨rfl, rfl, rfl, rfl⟩
  · have haway := httpServerRun_away site s.1 hsr
    apply decided_quiet site h
    · simp [servedBy, hsr]
    · cases hi : i.sr <;> simp_all [partSent, httpServerRun, bodyOf]
    · rw [Ends, haway]
      exact fun he => he.1 he.2
    · exact .inl haway

lemma serves_start : Serves site (boot, none) :=
  ⟨.inl rfl, fun _ => ⟨rfl, rfl, rfl, rfl⟩, nofun, nofun⟩

lemma each_delivers (calls : List Input) :
    (serving site).Each (boot, none) calls (Delivers site) ↔
      (serving site).Each (boot, none) calls (AcceptsAll site) := by
  apply Machine.each_congr (Serves site)
  · exact serves_start site
  · intro s i _ h hall
    exact (decided site h i).next hall
  · intro s i _ h
    exact (decided site h i).iff

/-- The bodies of a run are delivered exactly where the sends of their parts accept all of it, save
that nothing more is accepted of a response that is left unfinished. -/
theorem bodies_delivered (calls : List Input) :
    (serving site).Each (boot, none) calls (Delivers site) ↔
      (serving site).Each (boot, none) calls (AcceptsAll site) :=
  each_delivers site calls

/-- The first part of a page of 3000 bytes is accepted in its first 1000 bytes only. -/
theorem body_loses_bytes :
    ¬ ∀ site calls, (serving site).Each (boot, none) calls (Delivers site) := by
  intro hall
  let first : Input := ⟨.established, some (.content 0), 1000⟩
  let second : Input := ⟨.established, none, 953⟩
  let between := (serving [page]).after (boot, none) [first]
  have haccepts : AcceptsAll [page] between second :=
    (each_delivers [page] [first, second]).1 (hall [page] [first, second]) [first] second [] rfl
  have hshort : (servedBy [page] between.1 between.2 second).map Serving.short = some true := by
    decide +kernel
  obtain ⟨sv, hsv, hfell⟩ := Option.map_eq_some_iff.1 hshort
  have hfull := (haccepts sv hsv).1 (by decide +kernel)
  rw [hfell] at hfull
  cases hfull

end IoLibrary.Http
