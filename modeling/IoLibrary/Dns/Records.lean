import IoLibrary.Dns.Names
import IoLibrary.Dns.Answers

/-! Which resource records dns_answer steps over, and at which places it looks for them. -/
namespace IoLibrary.Dns

/-- Records whose data are one name. -/
def holdsName (type : ℕ) : Prop :=
  type = typeCname ∨ type = typeMb ∨ type = typeMg ∨ type = typeMr ∨ type = typeNs ∨ type = typePtr

instance (type : ℕ) : Decidable (holdsName type) := inferInstanceAs (Decidable (_ ∨ _))

/-- Data of this length at `d`, well formed for the type; those of the other types may be anything. -/
def DataOf (msg : Mem) (type d rdlength : ℕ) : Prop :=
  if type = typeA then rdlength = 4
  else if holdsName type then ∃ labels, DomainName msg d labels rdlength
  else if type = typeHinfo then rdlength = 1 + (msg d).toNat + 1 + (msg (d + 1 + (msg d).toNat)).toNat
  else if type = typeMx then ∃ labels size, DomainName msg (d + 2) labels size ∧ rdlength = 2 + size
  else if type = typeSoa then ∃ server size person size', DomainName msg d server size ∧
    DomainName msg (d + size) person size' ∧ rdlength = size + size' + 20
  else True

/-- A resource record at `p` whose name takes `size` bytes. -/
structure Record (msg : Mem) (p size : ℕ) : Prop where
  owner : ∃ labels, DomainName msg p labels size
  data : DataOf msg (get16 msg (p + size)) (p + size + 10) (get16 msg (p + size + 8))

/-- The place behind it. -/
def recordEnd (msg : Mem) (p size : ℕ) : ℕ := p + size + 10 + get16 msg (p + size + 8)

/-- A name that parse_name reads: no pointer leads to a pointer, and the labels with their dots fit the buffer. -/
def Readable (msg : Mem) (p : ℕ) : Prop :=
  ∃ labels size, DomainName msg p labels size ∧ Direct msg p ∧ (dotted labels).length ≤ maxCname

/-- The names in the data are read, or the type is one that is stepped over, or there are no data. -/
def DataRead (msg : Mem) (type d rdlength : ℕ) : Prop :=
  if type = typeA ∨ type = typeHinfo then True
  else if holdsName type then Readable msg d
  else if type = typeMx then Readable msg (d + 2)
  else if type = typeSoa then Readable msg d ∧ ∀ server size, DomainName msg d server size → Readable msg (d + size)
  else rdlength = 0

structure SteppedOver (msg : Mem) (p size : ℕ) : Prop where
  owner : Readable msg p
  data : DataRead msg (get16 msg (p + size)) (p + size + 10) (get16 msg (p + size + 8))

/-- The calls of dns_answer in the loop over `n` answers from `cp` on: their places and results. -/
def answerCalls (msg : Mem) : ℕ → ℕ → Ip → List (ℕ × Option ℕ)
  | 0, _, _ => []
  | n + 1, cp, ip => (cp, (dnsAnswer msg cp ip).1) ::
    match dnsAnswer msg cp ip with
    | (none, _) => []
    | (some cp, ip) => answerCalls msg n cp ip

/-- The calls of dns_answer in parseDNSMSG. -/
def parserCalls (msg : Mem) (ip : Ip) : List (ℕ × Option ℕ) :=
  match questions msg (dhdr msg).qdcount 12 with
  | none => []
  | some cp => answerCalls msg (dhdr msg).ancount cp ip

/-- Questions from `p` on at these places, and the place behind them. -/
inductive QuestionSection (msg : Mem) : ℕ → List ℕ → ℕ → Prop
  | nil {p : ℕ} : QuestionSection msg p [] p
  | cons {p size q : ℕ} {labels : List (List Byte)} {places : List ℕ} (name : DomainName msg p labels size)
      (rest : QuestionSection msg (p + size + 4) places q) : QuestionSection msg p (p :: places) q

/-- Records from `p` on, by their places and the sizes of their names. -/
inductive AnswerSection (msg : Mem) : ℕ → List (ℕ × ℕ) → Prop
  | nil {p : ℕ} : AnswerSection msg p []
  | cons {p size : ℕ} {records : List (ℕ × ℕ)} (record : Record msg p size)
      (rest : AnswerSection msg (recordEnd msg p size) records) : AnswerSection msg p ((p, size) :: records)

section names
variable {msg : Mem} {p size : ℕ} {labels : List (List Byte)}

/-- A name of the message determines its labels and its size. -/
lemma DomainName.unique {size' : ℕ} {labels' : List (List Byte)} (h : DomainName msg p labels size)
    (h' : DomainName msg p labels' size') : labels = labels' ∧ size = size' := by
  induction h generalizing labels' size' with
  | root zero =>
    cases h' with
    | root => exact ⟨rfl, rfl⟩
    | pointer mark =>
      rw [zero] at mark
      cases mark
    | label nonempty =>
      rw [zero] at nonempty
      cases nonempty
  | pointer mark rest ih =>
    cases h' with
    | root zero =>
      rw [zero] at mark
      cases mark
    | pointer mark' rest' => exact ⟨(ih rest').1, rfl⟩
    | label nonempty short => exact absurd mark (by omega)
  | label nonempty short rest ih =>
    cases h' with
    | root zero =>
      rw [zero] at nonempty
      cases nonempty
    | pointer mark => exact absurd mark (by omega)
    | label nonempty' short' rest' =>
      obtain ⟨rfl, rfl⟩ := ih rest'
      exact ⟨rfl, rfl⟩

/-- parse_name reads the readable names only. -/
lemma parseName_eq_some (h : DomainName msg p labels size) {r : ℕ × List Byte} : parseName msg p maxCname = some r ↔
    Readable msg p ∧ r = (size, dotted labels ++ nameEnd labels.length) := by
  have hbudget : (nameScan p maxCname).Budget := nameScan_budget p (by decide)
  have hturns := nameScan_turns p maxCname
  have hscan := @run_parseNameLoop msg _ _ hbudget hturns
  have hloop : parseNameLoop msg (nameScan p maxCname).cp (nameScan p maxCname).len.toNat (nameScan p maxCname).clen
      (nameScan p maxCname).indirect (nameScan p maxCname).nseg (nameScan p maxCname).buf = parseName msg p maxCname := rfl
  rw [hloop] at hscan
  have hread (hdirect : Direct msg p) (hfit : (dotted labels).length ≤ maxCname) :
      (nameScan p maxCname).run msg (maxCname / 2 + 1) = some ((size : ℤ), dotted labels ++ nameEnd labels.length) := by
    rw [h.run hdirect rfl hbudget (Int.ofNat_le.2 hfit) hturns, nameScan]
    simp
  cases hparse : parseName msg p maxCname with
  | none =>
    rw [hparse] at hscan
    obtain ⟨buf, hscan⟩ := hscan
    refine iff_of_false (by rintro ⟨⟩) ?_
    rintro ⟨⟨labels', size', h', hdirect, hfit⟩, -⟩
    obtain ⟨rfl, rfl⟩ := h.unique h'
    have hsize := (Prod.mk.inj (Option.some.inj ((hread hdirect hfit).symm.trans hscan))).1
    omega
  | some r' =>
    obtain ⟨clen, buf⟩ := r'
    rw [hparse] at hscan
    obtain ⟨hdirect, hfit⟩ := h.direct rfl hbudget (show (maxCname : ℤ) ≤ 192 by decide) hscan (Int.natCast_nonneg clen)
    have hfit : (dotted labels).length ≤ maxCname := Int.ofNat_le.1 hfit
    obtain ⟨hsize, rfl⟩ := Prod.mk.inj (Option.some.inj ((hread hdirect hfit).symm.trans hscan))
    obtain rfl := Int.ofNat_inj.1 hsize
    rw [Option.some.injEq, and_iff_right ⟨labels, size, h, hdirect, hfit⟩, eq_comm]

lemma afterName_eq_some (h : DomainName msg p labels size) {q : ℕ} :
    afterName msg p = some q ↔ Readable msg p ∧ q = p + size := by
  rw [afterName]
  cases hparse : parseName msg p maxCname with
  | none =>
    refine iff_of_false nofun fun hread => ?_
    exact absurd ((parseName_eq_some h).2 ⟨hread.1, rfl⟩) (by simp [hparse])
  | some r =>
    obtain ⟨hread, rfl⟩ := (parseName_eq_some h).1 hparse
    rw [Option.some.injEq, and_iff_right hread, eq_comm]

lemma questions_eq_some {q n : ℕ} {places : List ℕ} (h : QuestionSection msg p places q) {cp : ℕ} (hn : places.length = n) :
    questions msg n p = some cp ↔ (∀ place ∈ places, Readable msg place) ∧ cp = q := by
  induction h generalizing n with
  | nil =>
    subst hn
    simp [questions, eq_comm]
  | @cons p size q labels places name rest ih =>
    subst hn
    rw [List.length_cons, questions, dnsQuestion, List.forall_mem_cons]
    cases hparse : parseName msg p maxCname with
    | none =>
      refine iff_of_false nofun fun hread => ?_
      exact absurd ((parseName_eq_some name).2 ⟨hread.1.1, rfl⟩) (by simp [hparse])
    | some r =>
      obtain ⟨hread, rfl⟩ := (parseName_eq_some name).1 hparse
      rw [and_iff_right hread]
      exact ih rfl

end names

section records
variable {msg : Mem} {p size : ℕ}

lemma answerData_of_name {type d : ℕ} (h : holdsName type) : answerData msg type d = afterName msg d := by
  have ha : type ≠ typeA := by
    rintro rfl
    exact absurd h (by decide)
  exact (if_neg ha).trans (if_pos h)

/-- The data of a record are stepped over where their names are read. -/
lemma answerData_eq_some {type d rdlength : ℕ} (h : DataOf msg type d rdlength) :
    answerData msg type d = some (d + rdlength) ↔ DataRead msg type d rdlength := by
  rw [DataRead]
  rw [DataOf] at h
  by_cases ha : type = typeA
  · rw [if_pos ha] at h
    rw [answerData, if_pos ha, if_pos (.inl ha), h]
    simp
  rw [if_neg ha] at h
  by_cases hname : holdsName type
  · rw [if_pos hname] at h
    obtain ⟨labels, hlabels⟩ := h
    have hhinfo : type ≠ typeHinfo := by
      rintro rfl
      exact absurd hname (by decide)
    rw [answerData_of_name hname, if_neg (not_or_intro ha hhinfo), if_pos hname, afterName_eq_some hlabels, and_iff_left rfl]
  rw [if_neg hname] at h
  have hdata : answerData msg type d = if type = typeHinfo then
        some (d + 1 + (msg d).toNat + 1 + (msg (d + 1 + (msg d).toNat)).toNat)
      else if type = typeMx then afterName msg (d + 2)
      else if type = typeSoa then (afterName msg d).bind fun cp => (afterName msg cp).bind fun cp => some (cp + 20)
      else some d := (if_neg ha).trans (if_neg hname)
  rw [hdata]
  by_cases hhinfo : type = typeHinfo
  · rw [if_pos hhinfo] at h
    rw [if_pos hhinfo, if_pos (.inr hhinfo), h, iff_true]
    congr 1
    omega
  rw [if_neg hhinfo] at h
  rw [if_neg hhinfo, if_neg (not_or_intro ha hhinfo), if_neg hname]
  by_cases hmx : type = typeMx
  · rw [if_pos hmx] at h
    obtain ⟨labels, size, hlabels, rfl⟩ := h
    rw [if_pos hmx, if_pos hmx, afterName_eq_some hlabels, and_iff_left (Nat.add_assoc d 2 size).symm]
  rw [if_neg hmx] at h
  rw [if_neg hmx, if_neg hmx]
  by_cases hsoa : type = typeSoa
  · rw [if_pos hsoa] at h
    obtain ⟨server, size, person, size', hserver, hperson, rfl⟩ := h
    rw [if_pos hsoa, if_pos hsoa]
    simp only [Option.bind_eq_some_iff, afterName_eq_some hserver]
    constructor
    · rintro ⟨_, ⟨hread, rfl⟩, cp, hcp, -⟩
      refine ⟨hread, fun server' size hserver' => ?_⟩
      obtain ⟨-, rfl⟩ := hserver.unique hserver'
      exact ((afterName_eq_some hperson).1 hcp).1
    · rintro ⟨hread, hrest⟩
      refine ⟨_, ⟨hread, rfl⟩, _, (afterName_eq_some hperson).2 ⟨hrest _ _ hserver, rfl⟩, ?_⟩
      simp only [Nat.add_assoc]
  · rw [if_neg hsoa, if_neg hsoa, Option.some.injEq]
    omega

lemma dnsAnswer_eq_some (ip : Ip) (h : Record msg p size) :
    (dnsAnswer msg p ip).1 = some (recordEnd msg p size) ↔ SteppedOver msg p size := by
  obtain ⟨labels, howner⟩ := h.owner
  rw [dnsAnswer, answerHead]
  cases hparse : parseName msg p maxCname with
  | none =>
    refine iff_of_false (by rintro ⟨⟩) fun hover => ?_
    exact absurd ((parseName_eq_some howner).2 ⟨hover.owner, rfl⟩) (by simp [hparse])
  | some r =>
    obtain ⟨hread, rfl⟩ := (parseName_eq_some howner).1 hparse
    exact (answerData_eq_some h.data).trans ⟨fun hdata => ⟨hread, hdata⟩, SteppedOver.data⟩

/-- The loop over the answers calls dns_answer for each record at its place, as long as those before it are stepped over. -/
lemma answerCalls_eq {records : List (ℕ × ℕ)} {n : ℕ} (h : AnswerSection msg p records) (hn : records.length = n) (ip : Ip) :
    answerCalls msg n p ip = records.map (fun record => (record.1, some (recordEnd msg record.1 record.2))) ↔
      ∀ record ∈ records, SteppedOver msg record.1 record.2 := by
  induction h generalizing n ip with
  | nil =>
    subst hn
    simp [answerCalls]
  | @cons p size records record rest ih =>
    subst hn
    rw [List.length_cons, answerCalls, List.map_cons, List.forall_mem_cons, ← dnsAnswer_eq_some ip record]
    cases hanswer : dnsAnswer msg p ip with
    | mk next ip =>
      cases next with
      | none => simp
      | some cp =>
        by_cases hcp : cp = recordEnd msg p size
        · subst hcp
          simp only [true_and, List.cons.injEq]
          exact ih rfl ip
        · simp [hcp]

end records

/-- dns_answer returns the place behind a record exactly where it is stepped over; and the calls of parseDNSMSG
are at the answers, each with the place behind it, exactly where the names of the questions are read and every
answer is stepped over. -/
theorem answers_stepped_over (msg : Mem) (ip : Ip) :
    (∀ p size, Record msg p size → ((dnsAnswer msg p ip).1 = some (recordEnd msg p size) ↔ SteppedOver msg p size)) ∧
    ∀ places first records, QuestionSection msg 12 places first → places.length = (dhdr msg).qdcount →
      AnswerSection msg first records → records.length = (dhdr msg).ancount →
      (parserCalls msg ip = records.map (fun record => (record.1, some (recordEnd msg record.1 record.2))) ↔
        records = [] ∨ (∀ place ∈ places, Readable msg place) ∧ ∀ record ∈ records, SteppedOver msg record.1 record.2) := by
  refine ⟨fun p size h => dnsAnswer_eq_some ip h, fun places first records hquestions hplaces hanswers hrecords => ?_⟩
  rw [parserCalls]
  cases hparse : questions msg (dhdr msg).qdcount 12 with
  | none =>
    have hread : ¬ ∀ place ∈ places, Readable msg place := fun hread =>
      absurd ((questions_eq_some hquestions hplaces).2 ⟨hread, rfl⟩) (by simp [hparse])
    rw [eq_comm, List.map_eq_nil_iff]
    exact ⟨.inl, fun h => h.resolve_right fun h => hread h.1⟩
  | some cp =>
    obtain ⟨hread, rfl⟩ := (questions_eq_some hquestions hplaces).1 hparse
    rw [and_iff_right hread, ← answerCalls_eq hanswers hrecords ip]
    refine ⟨.inr, fun h => h.elim (fun hnil => ?_) id⟩
    subst hnil
    rw [← hrecords]
    rfl

/-- A TXT record of two bytes for the root. -/
def txtRecord : Mem := fun i => ([0, 0, 16, 0, 1, 0, 0, 0, 0, 0, 2, 1, 0x61] : List Byte).getD i 0

theorem txt_not_stepped_over : ¬ ∀ msg p size ip, Record msg p size → (dnsAnswer msg p ip).1 = some (recordEnd msg p size) := by
  intro hall
  have htype : get16 txtRecord 1 = 16 := by decide
  have hlength : get16 txtRecord 9 = 2 := by decide
  have hdata : DataOf txtRecord (get16 txtRecord (0 + 1)) (0 + 1 + 10) (get16 txtRecord (0 + 1 + 8)) := by
    rw [htype, DataOf, if_neg (by decide), if_neg (by decide), if_neg (by decide), if_neg (by decide), if_neg (by decide)]
    trivial
  have hover := (dnsAnswer_eq_some #v[0, 0, 0, 0] ⟨⟨[], .root rfl⟩, hdata⟩).1 (hall txtRecord 0 1 #v[0, 0, 0, 0] ⟨⟨[], .root rfl⟩, hdata⟩)
  have hread := hover.data
  rw [htype, hlength, DataRead, if_neg (by decide), if_neg (by decide), if_neg (by decide), if_neg (by decide)] at hread
  exact absurd hread (by decide)

end IoLibrary.Dns
