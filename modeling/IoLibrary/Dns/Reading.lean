import IoLibrary.Dns.Records
import IoLibrary.Effects.Faults

/-! parseDNSMSG load by load: what a reply must be so that the parser stays inside it. -/
namespace IoLibrary.Dns
open Effects

/-- What the chip reports, and what recvfrom does: the value that it returns and the bytes that it stores. -/
structure Receipt where
  size : ℕ
  ret : ℤ
  stored : List Byte

/-- The bytes that recvfrom has delivered: none where it has failed. -/
def Receipt.delivered (a : Receipt) : List Byte := if a.ret < 0 then [] else a.stored

/-- A byte is loaded that has not been delivered. -/
inductive Fault
  | undelivered

/-- The state is ip_from_dns. -/
abbrev Parse := StateT Ip (Except Fault)

section program
variable (d : List Byte)

def load (i : ℕ) : Parse Byte :=
  match d[i]? with
  | some b => return b
  | none => throw .undelivered

def load16 (i : ℕ) : Parse ℕ := do
  let hi ← load d i
  let lo ← load d (i + 1)
  return word16 hi lo

def loadIp (i : ℕ) : Parse Ip := do
  let b₀ ← load d i
  let b₁ ← load d (i + 1)
  let b₂ ← load d (i + 2)
  let b₃ ← load d (i + 3)
  return #v[b₀, b₁, b₂, b₃]

/-- The bytes of a label. -/
def loadLabel : ℕ → ℕ → Parse Unit
  | _, 0 => return ()
  | i, n + 1 => do
    let _ ← load d i
    loadLabel (i + 1) n

def loadSegment (cp : ℕ) : Parse (ℕ × ℕ × Bool) := do
  let slen ← load d cp
  if slen.toNat &&& 0xC0 = 0xC0 then
    let low ← load d (cp + 1)
    let target := ((slen.toNat &&& 0x3F) <<< 8) + low.toNat
    let slen ← load d target
    return (slen.toNat, target + 1, true)
  else return (slen.toNat, cp + 1, false)

/-- The loop of parse_name; every turn that goes on takes two from the budget at least. -/
def loadNameLoop : ℕ → ℕ → ℕ → ℕ → Bool → Parse (Option ℕ)
  | 0, _, _, _, _ => return none
  | turns + 1, cp, len, clen, indirect => do
    let (slen, next, followed) ← loadSegment d cp
    let clen := if indirect then clen else if followed then clen + 2 else clen + 1
    if slen = 0 then return some clen
    else if len < slen + 1 then return none
    else
      loadLabel d next slen
      loadNameLoop turns (next + slen) (len - (slen + 1)) (if indirect || followed then clen else clen + slen)
        (indirect || followed)

/-- The length of the name at `cp`. -/
def loadName (cp : ℕ) : Parse (Option ℕ) := loadNameLoop d (maxCname + 1) cp maxCname 0 false

def loadQuestions : ℕ → ℕ → Parse (Option ℕ)
  | 0, cp => return some cp
  | n + 1, cp => do
    match ← loadName d cp with
    | none => return none
    | some len => loadQuestions n (cp + len + 4)

/-- The place after a name. -/
def loadAfterName (cp : ℕ) : Parse (Option ℕ) := do
  match ← loadName d cp with
  | none => return none
  | some len => return some (cp + len)

def loadAnswerData (type cp : ℕ) : Parse (Option ℕ) :=
  if type = typeA then do
    let ip ← loadIp d cp
    set ip
    return some (cp + 4)
  else if holdsName type then loadAfterName d cp
  else if type = typeHinfo then do
    let len ← load d cp
    let cp := cp + 1 + len.toNat
    let len ← load d cp
    return some (cp + 1 + len.toNat)
  else if type = typeMx then loadAfterName d (cp + 2)
  else if type = typeSoa then do
    match ← loadAfterName d cp with
    | none => return none
    | some cp =>
      match ← loadAfterName d cp with
      | none => return none
      | some cp => return some (cp + 20)
  else return some cp

def loadAnswer (cp : ℕ) : Parse (Option ℕ) := do
  match ← loadName d cp with
  | none => return none
  | some len =>
    let type ← load16 d (cp + len)
    loadAnswerData d type (cp + len + 10)

def loadAnswers : ℕ → ℕ → Parse (Option ℕ)
  | 0, cp => return some cp
  | n + 1, cp => do
    match ← loadAnswer d cp with
    | none => return none
    | some cp => loadAnswers n cp

def loadDnsMsg : Parse ℤ := do
  let _ ← load16 d 0
  let tmp ← load16 d 2
  let qdcount ← load16 d 4
  let ancount ← load16 d 6
  let _ ← load16 d 8
  let _ ← load16 d 10
  match ← loadQuestions d qdcount 12 with
  | none => return -1
  | some cp =>
    match ← loadAnswers d ancount cp with
    | none => return -1
    | some _ => return if tmp % 16 = 0 then 1 else 0

end program

/-- The part of DNS_run that reads a reply; none where there is nothing to read. -/
def readReply (a : Receipt) : Parse (Option ℤ) := do
  if a.size = 0 then return none
  else
    let ret ← loadDnsMsg a.delivered
    return some ret

section enclosed
variable (msg : Mem) (n : ℕ)

/-- The length octet at `cp`, with the pointer that it may be and the octet that this leads to. -/
structure SegmentInside (cp : ℕ) : Prop where
  octet : cp < n
  pointer : (segment msg cp).2.2 → cp + 1 < n ∧ (segment msg cp).2.1 ≤ n

/-- A name lies in the first `n` bytes, up to its end or to the label that the buffer of `len` bytes has no room for. -/
inductive NameInside : ℕ → ℕ → Prop
  | ends {cp len : ℕ} (octets : SegmentInside msg n cp) (zero : (segment msg cp).1 = 0) : NameInside cp len
  | long {cp len : ℕ} (octets : SegmentInside msg n cp) (nonempty : (segment msg cp).1 ≠ 0)
      (exceeds : len < (segment msg cp).1 + 1) : NameInside cp len
  | label {cp len : ℕ} (octets : SegmentInside msg n cp) (nonempty : (segment msg cp).1 ≠ 0)
      (bytes : (segment msg cp).2.1 + (segment msg cp).1 ≤ n)
      (rest : NameInside ((segment msg cp).2.1 + (segment msg cp).1) len) : NameInside cp ((segment msg cp).1 + 1 + len)

/-- The names of `k` questions from `cp` on, up to one that is turned down. -/
def QuestionsInside : ℕ → ℕ → Prop
  | 0, _ => True
  | k + 1, cp => NameInside msg n cp maxCname ∧ ∀ next, dnsQuestion msg cp = some next → QuestionsInside k next

/-- What is looked at of the data at `d` of a record. -/
def DataInside (type d : ℕ) : Prop :=
  if type = typeA then d + 3 < n
  else if holdsName type then NameInside msg n d maxCname
  else if type = typeHinfo then d + 1 + (msg d).toNat < n
  else if type = typeMx then NameInside msg n (d + 2) maxCname
  else if type = typeSoa then NameInside msg n d maxCname ∧ ∀ next, afterName msg d = some next → NameInside msg n next maxCname
  else True

/-- The name, the type and the data of the answer at `cp`. -/
structure AnswerInside (cp : ℕ) : Prop where
  owner : NameInside msg n cp maxCname
  rest : ∀ data type, answerHead msg cp = some (data, type) → data - 9 < n ∧ DataInside msg n type data

def AnswersInside : ℕ → ℕ → Prop
  | 0, _ => True
  | k + 1, cp => AnswerInside msg n cp ∧ ∀ next, (dnsAnswer msg cp (.replicate 4 0)).1 = some next → AnswersInside k next

/-- A header, and the questions and answers that it counts, in the first `n` bytes. -/
structure Enclosed : Prop where
  header : 12 ≤ n
  questions : QuestionsInside msg n (dhdr msg).qdcount 12
  answers : ∀ first, IoLibrary.Dns.questions msg (dhdr msg).qdcount 12 = some first →
    AnswersInside msg n (dhdr msg).ancount first

end enclosed


section loads
variable {d : List Byte} {msg : Mem} {ip : Ip}

/-- The memory in which a message stands. -/
def Holds (msg : Mem) (d : List Byte) : Prop := ∀ i (h : i < d.length), msg i = d.get ⟨i, h⟩

lemma holds_fill (m : Mem) (d : List Byte) : Holds (m.fill d) d := by
  intro i h
  simp [Mem.fill, h]

/-- The place behind the length octet is one past the end at most. -/
lemma SegmentInside.next_le {n cp : ℕ} (h : SegmentInside msg n cp) : (segment msg cp).2.1 ≤ n := by
  obtain ⟨hoctet, hpointer⟩ := h
  rw [segment] at hpointer ⊢
  split_ifs at hpointer ⊢
  · exact (hpointer rfl).2
  · exact hoctet

lemma nameInside_iff {n cp len : ℕ} : NameInside msg n cp len ↔ SegmentInside msg n cp ∧
    ((segment msg cp).1 ≠ 0 → (segment msg cp).1 + 1 ≤ len → (segment msg cp).2.1 + (segment msg cp).1 ≤ n ∧
      NameInside msg n ((segment msg cp).2.1 + (segment msg cp).1) (len - ((segment msg cp).1 + 1))) := by
  constructor
  · rintro (⟨octets, zero⟩ | ⟨octets, -, exceeds⟩ | ⟨octets, -, bytes, rest⟩)
    · exact ⟨octets, fun hne => absurd zero hne⟩
    · exact ⟨octets, fun _ hle => absurd exceeds (Nat.not_lt.2 hle)⟩
    · refine ⟨octets, fun _ _ => ⟨bytes, ?_⟩⟩
      rwa [Nat.add_sub_cancel_left]
  · rintro ⟨octets, hlabel⟩
    by_cases hzero : (segment msg cp).1 = 0
    · exact .ends octets hzero
    by_cases hover : len < (segment msg cp).1 + 1
    · exact .long octets hzero hover
    · obtain ⟨hbytes, hrest⟩ := hlabel hzero (Nat.le_of_not_lt hover)
      have hname := NameInside.label octets hzero hbytes hrest
      rwa [Nat.add_sub_cancel' (Nat.le_of_not_lt hover)] at hname

variable (hmsg : Holds msg d)
include hmsg

lemma lands_load {i : ℕ} {Q : Byte → Ip → Prop} :
    lands (fun _ => False) (load d i) Q ip ↔ i < d.length ∧ Q (msg i) ip := by
  rw [load]
  by_cases h : i < d.length
  · rw [hmsg i h]
    simp [h]
  · simp [h]

lemma lands_load16 {i : ℕ} {Q : ℕ → Ip → Prop} :
    lands (fun _ => False) (load16 d i) Q ip ↔ i + 1 < d.length ∧ Q (get16 msg i) ip := by
  simp only [load16, lands_bind, lands_load hmsg, lands_pure, ← and_assoc]
  refine and_congr ?_ Iff.rfl
  omega

lemma lands_loadIp {i : ℕ} {Q : Ip → Ip → Prop} :
    lands (fun _ => False) (loadIp d i) Q ip ↔ i + 3 < d.length ∧ Q (ipAt msg i) ip := by
  simp only [loadIp, lands_bind, lands_load hmsg, lands_pure, ← and_assoc]
  refine and_congr ?_ Iff.rfl
  omega

lemma lands_loadLabel {i n : ℕ} (hi : i ≤ d.length) {Q : Unit → Ip → Prop} :
    lands (fun _ => False) (loadLabel d i n) Q ip ↔ i + n ≤ d.length ∧ Q () ip := by
  induction n generalizing i with
  | zero => simp [loadLabel, hi]
  | succ n ih =>
    rw [loadLabel, lands_bind, lands_load hmsg]
    by_cases h : i < d.length
    · rw [and_iff_right h, ih h, show i + 1 + n = i + (n + 1) by omega]
    · exact iff_of_false (fun hlands => h hlands.1) (fun hlands => h (by omega))

lemma lands_loadSegment {cp : ℕ} {Q : ℕ × ℕ × Bool → Ip → Prop} : lands (fun _ => False) (loadSegment d cp) Q ip ↔
    SegmentInside msg d.length cp ∧ Q (segment msg cp) ip := by
  have hinside : SegmentInside msg d.length cp ↔
      cp < d.length ∧ ((segment msg cp).2.2 → cp + 1 < d.length ∧ (segment msg cp).2.1 ≤ d.length) :=
    ⟨fun ⟨octet, pointer⟩ => ⟨octet, pointer⟩, fun ⟨octet, pointer⟩ => ⟨octet, pointer⟩⟩
  simp only [hinside, loadSegment, lands_bind, lands_load hmsg, lands_ite, lands_pure, segment]
  by_cases hmark : (msg cp).toNat &&& 0xC0 = 0xC0
  · simp only [if_pos hmark, forall_prop_of_true, and_assoc, Nat.succ_le_iff]
  · simp only [if_neg hmark, Bool.false_eq_true, false_imp_iff, and_true]

/-- The name is loaded as parse_name reads it; each label takes one from the budget at least. -/
lemma lands_loadNameLoop {turns cp len clen : ℕ} {indirect : Bool} (hturns : len < turns) (nseg : ℕ) (buf : List Byte)
    {Q : Option ℕ → Ip → Prop} : lands (fun _ => False) (loadNameLoop d turns cp len clen indirect) Q ip ↔
      NameInside msg d.length cp len ∧ Q ((parseNameLoop msg cp len clen indirect nseg buf).map Prod.fst) ip := by
  induction turns generalizing cp len clen indirect nseg buf with
  | zero => exact absurd hturns (Nat.not_lt_zero len)
  | succ turns ih =>
    rw [loadNameLoop, lands_bind, lands_loadSegment hmsg, nameInside_iff, parseNameLoop, and_assoc]
    refine and_congr_right fun hinside => ?_
    have hnext := hinside.next_le
    generalize segment msg cp = seg at hnext ⊢
    obtain ⟨slen, next, followed⟩ := seg
    dsimp only at hnext ⊢
    rw [lands_ite]
    by_cases hzero : slen = 0
    · rw [if_pos hzero, if_pos hzero]
      simp [hzero]
    rw [if_neg hzero, if_neg hzero, lands_ite, forall_prop_of_true hzero]
    by_cases hover : len < slen + 1
    · rw [if_pos hover, if_pos hover]
      simp [Nat.not_le.2 hover]
    · rw [if_neg hover, if_neg hover, forall_prop_of_true (Nat.le_of_not_lt hover), lands_bind, lands_loadLabel hmsg hnext, and_assoc]
      exact and_congr_right fun _ => ih (by omega) _ _

lemma lands_loadName {cp : ℕ} {Q : Option ℕ → Ip → Prop} : lands (fun _ => False) (loadName d cp) Q ip ↔
    NameInside msg d.length cp maxCname ∧ Q ((parseName msg cp maxCname).map Prod.fst) ip :=
  lands_loadNameLoop hmsg (Nat.lt_succ_self maxCname) 0 []

lemma lands_loadQuestions {n cp : ℕ} {Q : Option ℕ → Ip → Prop} : lands (fun _ => False) (loadQuestions d n cp) Q ip ↔
    QuestionsInside msg d.length n cp ∧ Q (questions msg n cp) ip := by
  induction n generalizing cp with
  | zero => simp [loadQuestions, QuestionsInside, questions]
  | succ n ih =>
    rw [loadQuestions, lands_bind, lands_loadName hmsg, QuestionsInside, questions, dnsQuestion, and_assoc]
    refine and_congr_right fun _ => ?_
    cases parseName msg cp maxCname with
    | none => simp
    | some r =>
      simp only [Option.map_some, Option.some.injEq, forall_eq']
      exact ih

lemma lands_loadAfterName {cp : ℕ} {Q : Option ℕ → Ip → Prop} : lands (fun _ => False) (loadAfterName d cp) Q ip ↔
    NameInside msg d.length cp maxCname ∧ Q (afterName msg cp) ip := by
  rw [loadAfterName, lands_bind, lands_loadName hmsg, afterName]
  refine and_congr_right fun _ => ?_
  cases parseName msg cp maxCname with
  | none => rfl
  | some r => rfl

lemma lands_loadAnswerData {type cp : ℕ} {Q : Option ℕ → Ip → Prop} :
    lands (fun _ => False) (loadAnswerData d type cp) Q ip ↔ DataInside msg d.length type cp ∧
      Q (answerData msg type cp) (if type = typeA then ipAt msg cp else ip) := by
  rw [loadAnswerData, DataInside, answerData, lands_ite]
  by_cases htype : type = typeA
  · simp only [if_pos htype, lands_bind, lands_loadIp hmsg, lands_set, lands_pure]
  have hnames (p q : Option ℕ) : (if type = typeCname ∨ type = typeMb ∨ type = typeMg ∨ type = typeMr ∨ type = typeNs ∨
      type = typePtr then p else q) = if holdsName type then p else q := rfl
  rw [if_neg htype, if_neg htype, if_neg htype, if_neg htype, hnames, lands_ite]
  by_cases hname : holdsName type
  · rw [if_pos hname, if_pos hname, if_pos hname, lands_loadAfterName hmsg]
  rw [if_neg hname, if_neg hname, if_neg hname, lands_ite]
  by_cases hhinfo : type = typeHinfo
  · simp only [if_pos hhinfo, lands_bind, lands_load hmsg, lands_pure, ← and_assoc]
    refine and_congr ?_ Iff.rfl
    omega
  rw [if_neg hhinfo, if_neg hhinfo, if_neg hhinfo, lands_ite]
  by_cases hmx : type = typeMx
  · rw [if_pos hmx, if_pos hmx, if_pos hmx, lands_loadAfterName hmsg]
  rw [if_neg hmx, if_neg hmx, if_neg hmx, lands_ite]
  by_cases hsoa : type = typeSoa
  · rw [if_pos hsoa, if_pos hsoa, if_pos hsoa, lands_bind, lands_loadAfterName hmsg, and_assoc]
    refine and_congr_right fun _ => ?_
    cases afterName msg cp with
    | none => simp
    | some next =>
      simp only [Option.some.injEq, forall_eq', lands_bind, lands_loadAfterName hmsg]
      refine and_congr_right fun _ => ?_
      cases hperson : afterName msg next with
      | none => simp [hperson]
      | some q => simp [hperson]
  · rw [if_neg hsoa, if_neg hsoa, if_neg hsoa, lands_pure, true_and]

lemma lands_loadAnswer {cp : ℕ} {Q : Option ℕ → Ip → Prop} : lands (fun _ => False) (loadAnswer d cp) Q ip ↔
    AnswerInside msg d.length cp ∧ Q (dnsAnswer msg cp ip).1 (dnsAnswer msg cp ip).2 := by
  have hhead {x y : ℕ} {P : ℕ → ℕ → Prop} : (∀ data type, some (x, y) = some (data, type) → P data type) ↔ P x y := by
    refine ⟨fun h => h x y rfl, fun h data type heq => ?_⟩
    cases heq
    exact h
  have hinside : AnswerInside msg d.length cp ↔ NameInside msg d.length cp maxCname ∧
      ∀ data type, answerHead msg cp = some (data, type) → data - 9 < d.length ∧ DataInside msg d.length type data :=
    ⟨fun ⟨owner, rest⟩ => ⟨owner, rest⟩, fun ⟨owner, rest⟩ => ⟨owner, rest⟩⟩
  rw [hinside, loadAnswer, lands_bind, lands_loadName hmsg, dnsAnswer, answerHead, and_assoc]
  refine and_congr_right fun _ => ?_
  cases parseName msg cp maxCname with
  | none => simp
  | some r =>
    simp only [Option.map_some, hhead, lands_bind, lands_load16 hmsg, lands_loadAnswerData hmsg, and_assoc]
    exact Iff.rfl

lemma lands_loadAnswers {n cp : ℕ} {Q : Option ℕ → Ip → Prop} : lands (fun _ => False) (loadAnswers d n cp) Q ip ↔
    AnswersInside msg d.length n cp ∧ Q (answers msg n cp ip).1 (answers msg n cp ip).2 := by
  induction n generalizing cp ip with
  | zero => simp [loadAnswers, AnswersInside, answers]
  | succ n ih =>
    have hplace (ip' : Ip) : (dnsAnswer msg cp ip').1 = (dnsAnswer msg cp ip).1 := by
      rw [dnsAnswer, dnsAnswer]
      cases answerHead msg cp <;> rfl
    rw [loadAnswers, lands_bind, lands_loadAnswer hmsg, AnswersInside, answers, hplace (.replicate 4 0), and_assoc]
    refine and_congr_right fun _ => ?_
    generalize dnsAnswer msg cp ip = r
    obtain ⟨next, ip'⟩ := r
    cases next with
    | none => simp
    | some next =>
      simp only [Option.some.injEq, forall_eq']
      exact ih

/-- The parser reads the message as parseDnsMsg does, as far as it is enclosed. -/
lemma lands_loadDnsMsg {Q : ℤ → Ip → Prop} : lands (fun _ => False) (loadDnsMsg d) Q ip ↔
    Enclosed msg d.length ∧ Q (parseDnsMsg msg ip).1 (parseDnsMsg msg ip).2 := by
  have henclosed : Enclosed msg d.length ↔ 12 ≤ d.length ∧ QuestionsInside msg d.length (dhdr msg).qdcount 12 ∧
      ∀ first, questions msg (dhdr msg).qdcount 12 = some first → AnswersInside msg d.length (dhdr msg).ancount first :=
    ⟨fun ⟨header, questions, answers⟩ => ⟨header, questions, answers⟩,
      fun ⟨header, questions, answers⟩ => ⟨header, questions, answers⟩⟩
  have hheader {P : Prop} : 0 + 1 < d.length ∧ 2 + 1 < d.length ∧ 4 + 1 < d.length ∧ 6 + 1 < d.length ∧ 8 + 1 < d.length ∧
      10 + 1 < d.length ∧ P ↔ 12 ≤ d.length ∧ P := by
    simp only [← and_assoc]
    refine and_congr ?_ Iff.rfl
    omega
  simp only [henclosed, loadDnsMsg, lands_bind, lands_load16 hmsg, hheader, lands_loadQuestions hmsg, and_assoc]
  refine and_congr_right fun _ => ?_
  simp only [parseDnsMsg, dhdr]
  refine and_congr_right fun _ => ?_
  cases questions msg (get16 msg 4) 12 with
  | none => simp
  | some first =>
    simp only [Option.some.injEq, forall_eq', lands_bind, lands_loadAnswers hmsg]
    refine and_congr_right fun _ => ?_
    generalize answers msg (get16 msg 6) first ip = r
    obtain ⟨next, ip'⟩ := r
    cases next <;> rfl

end loads

section replies
variable (a : Receipt) (ip : Ip)

lemma lands_readReply (m : Mem) {Q : Option ℤ → Ip → Prop} : lands (fun _ => False) (readReply a) Q ip ↔
    if a.size = 0 then Q none ip
    else Enclosed (m.fill a.delivered) a.delivered.length ∧
      Q (some (parseDnsMsg (m.fill a.delivered) ip).1) (parseDnsMsg (m.fill a.delivered) ip).2 := by
  rw [readReply, lands_ite, lands_bind, lands_loadDnsMsg (holds_fill m a.delivered)]
  rfl

/-- DNS_run stays inside what recvfrom has delivered exactly where that holds what the counts, the names and
the types of the reply lead to. -/
theorem reply_inside_iff : (∃ ret ip', readReply a ip = .ok (ret, ip')) ↔
    a.size = 0 ∨ 0 ≤ a.ret ∧ Enclosed (Mem.fill (fun _ => 0) a.stored) a.stored.length := by
  rw [← lands_returns, lands_readReply a ip (fun _ => 0), Receipt.delivered]
  by_cases hsize : a.size = 0
  · simp [hsize]
  rw [if_neg hsize, or_iff_right hsize, and_true]
  by_cases hret : a.ret < 0
  · rw [if_pos hret]
    exact iff_of_false (fun h => absurd h.header (by decide)) (fun h => absurd h.1 (Int.not_le.2 hret))
  · rw [if_neg hret, and_iff_right (Int.not_lt.1 hret)]

/-- The socket has been closed: recvfrom delivers nothing, and the header is read from what the buffer held. -/
theorem failed_recv_parsed : ¬ ∀ a ip, ∃ ret ip', readReply a ip = .ok (ret, ip') := by
  intro hall
  obtain ⟨ret, ip', h⟩ := hall ⟨100, -7, []⟩ #v[0, 0, 0, 0]
  cases h

variable {a ip}

/-- Where the parser stays inside, the rest of the buffer does not matter. -/
lemma parseDnsMsg_of_readReply {ret : ℤ} {ip' : Ip} (h : readReply a ip = .ok (some ret, ip')) (m : Mem) :
    parseDnsMsg (m.fill a.delivered) ip = (ret, ip') := by
  have hlands : lands (fun _ => False) (readReply a) (fun r i => r = some ret ∧ i = ip') ip := by
    rw [lands, h]
    exact ⟨rfl, rfl⟩
  rw [lands_readReply a ip m] at hlands
  split_ifs at hlands with hsize
  · cases hlands.1
  · obtain ⟨-, hret, hip⟩ := hlands
    exact Prod.ext (Option.some.inj hret) hip

end replies

end IoLibrary.Dns
