import IoLibrary.Dns.Message

/-! The query name that dns_makequery writes is the name that parse_name reads back. -/
namespace IoLibrary.Dns

/-- The labels of a host name of dns_makequery. -/
structure HostName (labels : List (List Byte)) : Prop where
  some : labels ≠ []
  nonempty : ∀ label ∈ labels, label ≠ []
  short : ∀ label ∈ labels, label.length ≤ 63
  no_dot : ∀ label ∈ labels, dot ∉ label
  no_nul : ∀ label ∈ labels, 0 ∉ label
  total : ([dot].intercalate labels).length ≤ 190

/-- The octets of the labels without the zero octet at the end. -/
def encodeLabels : List (List Byte) → List Byte
  | [] => []
  | label :: labels => BitVec.ofNat 8 label.length :: label ++ encodeLabels labels

/-- The labels as parse_name writes them, each with a dot. -/
def dotted : List (List Byte) → List Byte
  | [] => []
  | label :: labels => label ++ [dot] ++ dotted labels

lemma length_encodeLabels (labels : List (List Byte)) :
    (encodeLabels labels).length = (dotted labels).length := by
  induction labels with
  | nil => rfl
  | cons label labels ih =>
    simp only [encodeLabels, dotted, List.length_append, List.length_cons, List.length_nil, ih]

lemma dotted_eq {labels : List (List Byte)} (h : labels ≠ []) :
    dotted labels = [dot].intercalate labels ++ [dot] := by
  induction labels with
  | nil => exact absurd rfl h
  | cons label labels ih =>
    cases labels with
    | nil => simp [dotted, List.intercalate]
    | cons next labels =>
      rw [dotted, ih (List.cons_ne_nil _ _)]
      simp [List.intercalate, List.intersperse]

section encoder
variable {label rest : List Byte}

lemma takeWhile_label (hdot : dot ∉ label) (tail : List Byte) :
    (label ++ tail).takeWhile (· ≠ dot) = label ++ tail.takeWhile (· ≠ dot) := by
  apply List.takeWhile_append_of_pos
  intro x hx
  exact decide_eq_true fun h => hdot (h ▸ hx)

lemma queryName_last (hne : label ≠ []) (hdot : dot ∉ label) :
    queryName label = BitVec.ofNat 8 label.length :: label ++ [0] := by
  have hlabel := takeWhile_label hdot []
  rw [List.append_nil, List.takeWhile_nil, List.append_nil] at hlabel
  rw [queryName, hlabel, if_neg hne, dif_neg (Nat.lt_irrefl _)]

lemma queryName_more (hne : label ≠ []) (hdot : dot ∉ label) :
    queryName (label ++ dot :: rest) =
      BitVec.ofNat 8 label.length :: label ++ queryName rest := by
  have hlabel : (label ++ dot :: rest).takeWhile (· ≠ dot) = label := by
    rw [takeWhile_label hdot]
    simp
  rw [queryName, hlabel, if_neg hne, dif_pos (by simp)]
  congr 2
  rw [List.drop_append]
  simp

/-- The induction is on the labels: each turn of the loop writes one of them. -/
lemma queryName_intercalate {labels : List (List Byte)} (hsome : labels ≠ [])
    (hne : ∀ label ∈ labels, label ≠ []) (hdot : ∀ label ∈ labels, dot ∉ label) :
    queryName ([dot].intercalate labels) = encodeLabels labels ++ [0] := by
  induction labels with
  | nil => exact absurd rfl hsome
  | cons label labels ih =>
    have hne₁ : label ≠ [] := hne label List.mem_cons_self
    have hdot₁ : dot ∉ label := hdot label List.mem_cons_self
    cases labels with
    | nil =>
      have hname : [dot].intercalate [label] = label := by simp [List.intercalate]
      rw [hname, queryName_last hne₁ hdot₁]
      simp [encodeLabels]
    | cons next labels =>
      have hname : [dot].intercalate (label :: next :: labels) =
          label ++ dot :: [dot].intercalate (next :: labels) := by simp [List.intercalate]
      rw [hname, queryName_more hne₁ hdot₁, ih (List.cons_ne_nil _ _)
        (fun l hl => hne l (List.mem_cons_of_mem _ hl))
        (fun l hl => hdot l (List.mem_cons_of_mem _ hl))]
      simp only [encodeLabels, List.cons_append, List.append_assoc]

end encoder

section decoder
variable {msg : Mem} {cp len clen nseg : ℕ} {buf : List Byte}

lemma segment_plain {slen : ℕ} (hslen : slen ≤ 63) (h : msg cp = BitVec.ofNat 8 slen) :
    segment msg cp = (slen, cp + 1, false) := by
  have hnat : (msg cp).toNat = slen := by
    rw [h, BitVec.toNat_ofNat]
    omega
  have hflag : slen &&& 0xC0 ≠ 0xC0 := by
    intro hand
    have hle : slen &&& 0xC0 ≤ slen := Nat.and_le_left
    omega
  simp only [segment, hnat, if_neg hflag]

/-- The induction is on the labels: the budget that is left covers those that are. -/
lemma parseNameLoop_labels {labels : List (List Byte)} (hshort : ∀ label ∈ labels, label.length ≤ 63)
    (hne : ∀ label ∈ labels, label ≠ [])
    (hmsg : msg.slice cp (encodeLabels labels ++ [0]).length = encodeLabels labels ++ [0])
    (hlen : (encodeLabels labels).length ≤ len) (hsome : labels ≠ [] ∨ nseg ≠ 0) :
    parseNameLoop msg cp len clen false nseg buf =
      some (clen + (encodeLabels labels).length + 1, buf ++ dotted labels ++ [0]) := by
  induction labels generalizing cp len clen nseg buf with
  | nil =>
    have hzero : msg cp = BitVec.ofNat 8 0 := by
      simpa [encodeLabels, Mem.slice_succ] using hmsg
    have hnseg : nseg ≠ 0 := hsome.resolve_left fun h => h rfl
    rw [parseNameLoop, segment_plain (Nat.zero_le _) hzero]
    simp [encodeLabels, dotted, hnseg]
  | cons label labels ih =>
    have hslen : label.length ≤ 63 := hshort label List.mem_cons_self
    have hpos : label.length ≠ 0 := by simpa using hne label List.mem_cons_self
    have hcell : msg cp = BitVec.ofNat 8 label.length := by
      have hsplit := hmsg
      simp only [encodeLabels, List.cons_append, List.length_cons, Mem.slice_succ] at hsplit
      exact (List.cons.inj hsplit).1
    have hlabel : msg.slice (cp + 1) label.length = label := by
      apply Mem.slice_part msg label cp [BitVec.ofNat 8 label.length] (encodeLabels labels ++ [0])
      simpa [encodeLabels] using hmsg
    have hrest : msg.slice (cp + 1 + label.length) (encodeLabels labels ++ [0]).length =
        encodeLabels labels ++ [0] := by
      have hpart := Mem.slice_part msg (encodeLabels labels ++ [0]) cp
        (BitVec.ofNat 8 label.length :: label) [] (by simpa [encodeLabels] using hmsg)
      rw [List.length_cons, Nat.add_comm label.length, ← Nat.add_assoc] at hpart
      exact hpart
    have hfits : label.length + 1 + (encodeLabels labels).length ≤ len := by
      simp only [encodeLabels, List.length_append, List.length_cons] at hlen
      omega
    rw [parseNameLoop, segment_plain hslen hcell]
    simp only [Bool.false_eq_true, if_false, hpos, Bool.or_false]
    rw [if_neg (by omega), ih (fun l hl => hshort l (List.mem_cons_of_mem _ hl))
      (fun l hl => hne l (List.mem_cons_of_mem _ hl)) hrest (by omega) (.inr (Nat.succ_ne_zero _)),
      hlabel]
    simp only [encodeLabels, dotted, List.length_append, List.length_cons, List.append_assoc,
      Option.some.injEq, Prod.mk.injEq, and_true]
    omega

end decoder

/-- The query that dns_makequery leaves in the buffer, read back by parse_name at offset 12. -/
theorem query_round_trip (labels : List (List Byte)) (h : HostName labels) (msgId : ℕ) (m : Mem) :
    parseName (m.fill (dnsMakequery msgId 0 ([dot].intercalate labels))) 12 maxCname =
        some ((queryName ([dot].intercalate labels)).length, [dot].intercalate labels ++ [dot, 0]) ∧
      int16 (dnsMakequery msgId 0 ([dot].intercalate labels)).length =
        12 + (queryName ([dot].intercalate labels)).length + 4 := by
  have hname := queryName_intercalate h.some h.nonempty h.no_dot
  have hdotted := dotted_eq h.some
  have hlen : (encodeLabels labels).length ≤ 191 := by
    rw [length_encodeLabels, hdotted, List.length_append]
    exact Nat.add_le_add_right h.total 1
  rw [hname]
  constructor
  · have hquery : dnsMakequery msgId 0 ([dot].intercalate labels) =
        (put16 msgId ++ put16 0x0100 ++ put16 1 ++ put16 0 ++ put16 0 ++ put16 0) ++
          (encodeLabels labels ++ [0]) ++ (put16 1 ++ put16 1) := by
      rw [dnsMakequery, hname]
      simp
    have hmsg := Mem.slice_fill m (dnsMakequery msgId 0 ([dot].intercalate labels))
    rw [hquery] at hmsg ⊢
    have hheader : (put16 msgId ++ put16 0x0100 ++ put16 1 ++ put16 0 ++ put16 0 ++
        put16 0).length = 12 := rfl
    have hpart := Mem.slice_part _ _ 0 _ _ hmsg
    rw [hheader, Nat.zero_add] at hpart
    have hbudget : (encodeLabels labels).length ≤ maxCname := Nat.le_trans hlen (by decide)
    rw [parseName, parseNameLoop_labels h.short h.nonempty hpart hbudget (.inl h.some), hdotted]
    simp
  · rw [int16, dnsMakequery, hname]
    simp only [List.length_append, List.length_cons, List.length_nil, put16, bytes16]
    omega

/-- The name a.bc. -/
theorem query_round_trip_two :
    parseName (Mem.fill (fun _ => 0xFF) (dnsMakequery 0x1123 0 [0x61, dot, 0x62, 0x63])) 12 maxCname =
        some (6, [0x61, dot, 0x62, 0x63, dot, 0]) ∧
      int16 (dnsMakequery 0x1123 0 [0x61, dot, 0x62, 0x63]).length = 22 := by
  have hname : HostName [[0x61], [0x62, 0x63]] := by
    constructor <;> decide
  have hround := query_round_trip [[0x61], [0x62, 0x63]] hname 0x1123 fun _ => 0xFF
  have hquery : (queryName ([dot].intercalate [[0x61], [0x62, 0x63]])).length = 6 := by
    rw [queryName_intercalate hname.some hname.nonempty hname.no_dot]
    rfl
  rw [hquery] at hround
  exact hround

end IoLibrary.Dns
