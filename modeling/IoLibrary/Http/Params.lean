import IoLibrary.Http.Unescape
import IoLibrary.Search
import Mathlib.Data.List.TakeWhile

/-! get_http_param_value of httpParser.c: the value behind the first place where the name occurs. -/
namespace IoLibrary.Http
open Percent Search

def bufpubSize : ℕ := 256

/-- The first occurrence of a string in another. -/
def strstr (p : List Byte) : List Byte → Option ℕ
  | [] => if p = [] then some 0 else none
  | c :: s => if p <+: c :: s then some 0 else (strstr p s).map (· + 1)

def crlf : List Byte := [0x0D, 0x0A]

/-- "Content-Length: " -/
def contentLength : List Byte :=
  [0x43, 0x6F, 0x6E, 0x74, 0x65, 0x6E, 0x74, 0x2D, 0x4C, 0x65, 0x6E, 0x67, 0x74, 0x68, 0x3A, 0x20]

def ampersand : Byte := 0x26
def equals : Byte := 0x3D
def plus : Byte := 0x2B
def space : Byte := 0x20

/-- The text between two strings; its length is a uint16_t. Where one of them does not occur, the
source goes on with a null pointer. -/
def mid (src s1 s2 : List Byte) : Option (List Byte) := do
  let i ← strstr s1 src
  let sub1 := src.drop (i + s1.length)
  let n ← strstr s2 sub1
  return sub1.take (n % 0x10000)

def atoi (str : List Byte) (base : ℕ) : ℕ :=
  ((str.takeWhile fun c => c ≠ 0 ∧ c ≠ space).foldl (fun num c => num * base + (c2d c).toNat) 0) % 0x10000

def replacetochar (str : List Byte) (oldchar newchar : Byte) : List Byte :=
  str.map fun c => if c = oldchar then newchar else c

/-- The string at the beginning of a memory that has a NUL at `n`. -/
def stringAt (m : Mem) (n : ℕ) : List Byte := (m.slice 0 n).takeWhile (· ≠ 0)

/-- The request, as the string at `uri`, and BUFPUB. -/
structure Session where
  uri : List Byte
  bufpub : Mem

/-- What a lookup returns (nothing for a null pointer) and leaves, the length of the string that it
has copied to BUFPUB, and the places that it has read there to unescape it. -/
structure Lookup where
  value : Option (List Byte)
  session : Session
  copied : ℕ
  read : List ℕ

/-- What is made of the body. There is no result where the source leaves BUFPUB or the string. -/
def paramValue (turns : ℕ) (s : Session) (uri paramName : List Byte) : Option Lookup :=
  match strstr paramName uri with
  | none => some ⟨none, s, 0, []⟩
  | some j =>
    if uri.length ≤ j + paramName.length then none
    else
      let name := uri.drop (j + paramName.length + 1)
      let len := ((strstr [ampersand] name).getD name.length) % 0x10000
      if len = 0 then some ⟨some [], { s with bufpub := Function.update s.bufpub 0 0 }, 0, []⟩
      else if bufpubSize ≤ len then none
      else
        (unescapeHttpUrl turns (Mem.fill (Function.update s.bufpub len 0) (name.take len))).bind fun u =>
          if ∀ i ∈ u.read, i < bufpubSize then
            let ret := replacetochar (stringAt u.url u.x) plus space
            some ⟨some ret, { s with bufpub := Mem.fill u.url ret }, len, u.read⟩
          else none

/-- The place of the body in the request, and its length. There is nothing either where the source
leaves `tmp_buf`. -/
def requestBody (uri : List Byte) : Option (ℕ × ℕ) := do
  let tmpBuf ← mid uri contentLength crlf
  if 10 ≤ tmpBuf.length then none
  else
    let i ← strstr (crlf ++ crlf) uri
    return (i + 4, atoi tmpBuf 10)

def getHttpParamValue (turns : ℕ) (s : Session) (paramName : List Byte) : Option Lookup := do
  let (place, contentLen) ← requestBody s.uri
  let uri := (s.uri.drop place).take contentLen
  paramValue turns { s with uri := s.uri.take place ++ uri } uri paramName

/-- Parameters are looked up one after the other, in one request. -/
inductive Queried : Session → List (List Byte) → List (Option (List Byte)) → Prop
  | nil (s : Session) : Queried s [] []
  | cons {s : Session} {turns : ℕ} {p : List Byte} {l : Lookup} {ps : List (List Byte)}
      {rs : List (Option (List Byte))} :
      getHttpParamValue turns s p = some l → Queried l.session ps rs → Queried s (p :: ps) (l.value :: rs)

lemma Queried.head {s : Session} {p : List Byte} {ps : List (List Byte)} {r : Option (List Byte)}
    {rs : List (Option (List Byte))} (h : Queried s (p :: ps) (r :: rs)) :
    ∃ l turns, getHttpParamValue turns s p = some l ∧ l.value = r := by
  cases h with
  | cons hret _ => exact ⟨_, _, hret, rfl⟩

section strstr
variable {p s t : List Byte} {i : ℕ}

lemma strstr_iff : strstr p s = some i ↔ FirstAt p s i := by
  induction s generalizing i with
  | nil =>
    rw [strstr]
    by_cases hp : p = []
    · rw [if_pos hp, hp]
      constructor
      · rintro ⟨⟩
        exact ⟨List.nil_prefix, fun j hj => absurd hj (Nat.not_lt_zero j)⟩
      · rintro ⟨-, hfirst⟩
        by_contra hne
        exact hfirst 0 (Nat.pos_of_ne_zero fun hzero => hne (congrArg some hzero.symm)) List.nil_prefix
    · rw [if_neg hp]
      refine ⟨nofun, fun hfirst => ?_⟩
      have hoccurs := hfirst.1
      rw [OccursAt, List.drop_nil, List.prefix_nil] at hoccurs
      exact absurd hoccurs hp
  | cons c s ih =>
    rw [strstr]
    by_cases hp : p <+: c :: s
    · rw [if_pos hp]
      constructor
      · rintro ⟨⟩
        exact ⟨hp, fun j hj => absurd hj (Nat.not_lt_zero j)⟩
      · rintro ⟨-, hfirst⟩
        by_contra hne
        exact hfirst 0 (Nat.pos_of_ne_zero fun hzero => hne (congrArg some hzero.symm)) hp
    · rw [if_neg hp, Option.map_eq_some_iff]
      constructor
      · rintro ⟨k, hk, rfl⟩
        obtain ⟨hoccurs, hfirst⟩ := ih.1 hk
        refine ⟨hoccurs, fun j hj => ?_⟩
        cases j with
        | zero => exact hp
        | succ j => exact hfirst j (Nat.lt_of_succ_lt_succ hj)
      · rintro ⟨hoccurs, hfirst⟩
        cases i with
        | zero => exact absurd hoccurs hp
        | succ k =>
          exact ⟨k, ih.2 ⟨hoccurs, fun j hj => hfirst (j + 1) (Nat.succ_lt_succ hj)⟩, rfl⟩

lemma strstr_none (hno : ∀ i, ¬ OccursAt p s i) : strstr p s = none := by
  cases hfound : strstr p s with
  | none => rfl
  | some i => exact absurd (strstr_iff.1 hfound).1 (hno i)

/-- What stands in front of the first occurrence of one byte. -/
lemma strstr_byte (c : Byte) : s.take ((strstr [c] s).getD s.length) = s.takeWhile (· ≠ c) := by
  induction s with
  | nil => rfl
  | cons b s ih =>
    rw [strstr]
    by_cases hb : b = c
    · have hp : [c] <+: b :: s := by
        rw [hb]
        exact List.prefix_append [c] s
      rw [if_pos hp, List.takeWhile_cons_of_neg (by simpa using hb)]
      rfl
    · have hp : ¬ [c] <+: b :: s := by
        rintro ⟨rest, hrest⟩
        exact hb (List.cons.inj hrest).1.symm
      rw [if_neg hp, List.takeWhile_cons_of_pos (by simpa using hb), ← ih]
      cases strstr [c] s with
      | none => rfl
      | some k => rfl

end strstr

/-- The value of a field of a form: plus signs are spaces, and then come the escapes. -/
def formDecode (value : List Byte) : List Byte :=
  decode (value.map fun c => if c = plus then space else c)

def pairText (pair : List Byte × List Byte) : List Byte := pair.1 ++ equals :: pair.2

def formBody : List (List Byte × List Byte) → List Byte
  | [] => []
  | [pair] => pairText pair
  | pair :: pairs => pairText pair ++ ampersand :: formBody pairs

/-- A POST request: its head with the blank line, the digits of its length, the pairs of its body,
and what the buffer has behind them. -/
structure Post where
  head : List Byte
  digits : List Byte
  pairs : List (List Byte × List Byte)
  behind : List Byte

def Post.body (post : Post) : List Byte := formBody post.pairs

def Post.text (post : Post) : List Byte := post.head ++ (post.body ++ post.behind)

def decimal (digits : List Byte) : ℕ := digits.foldl (fun n c => n * 10 + (c.toNat - 0x30)) 0

/-- A request with the length of its body in the first field of that name, and pairs without the signs
that end them. An st_http_request has room for 512 bytes of it. -/
structure Post.WellFormed (post : Post) : Prop where
  fits : post.text.length < 0x10000
  blank : ∃ i, FirstAt (crlf ++ crlf) post.head i ∧ post.head.length = i + 4
  length : ∃ i k, FirstAt contentLength post.head i ∧
    FirstAt crlf (post.head.drop (i + contentLength.length)) k ∧
    (post.head.drop (i + contentLength.length)).take k = post.digits
  digits : ∀ c ∈ post.digits, 0x30 ≤ c ∧ c ≤ 0x39
  correct : decimal post.digits = post.body.length
  names : ∀ pair ∈ post.pairs, equals ∉ pair.1 ∧ ampersand ∉ pair.1 ∧ 0 ∉ pair.1
  values : ∀ pair ∈ post.pairs, ampersand ∉ pair.2 ∧ 0 ∉ pair.2 ∧ pair.2.length < bufpubSize

/-- What a parameter is to be: the value of the first pair of its name. -/
def Post.param (post : Post) (name : List Byte) : Option (List Byte) :=
  (post.pairs.lookup name).map formDecode

section body
variable {s t : List Byte} {pairs : List (List Byte × List Byte)} {n : ℕ}

/-- The value that begins at `n`, up to the next ampersand. -/
def valueFrom (body : List Byte) (n : ℕ) : List Byte := (body.drop n).takeWhile (· ≠ ampersand)

/-- What a value becomes: first come the escapes, and then the plus signs, up to a NUL. There is
nothing for a value that has its last escape cut. -/
def shown (value : List Byte) : Option (List Byte) :=
  (unescaped value).map fun s => replacetochar (s.takeWhile (· ≠ 0)) plus space

lemma formBody_cons (pair : List Byte × List Byte) (pairs : List (List Byte × List Byte)) :
    formBody (pair :: pairs) =
      pairText pair ++ if pairs = [] then [] else ampersand :: formBody pairs := by
  cases pairs with
  | nil => rw [if_pos rfl, List.append_nil, formBody]
  | cons next pairs =>
    rw [if_neg (List.cons_ne_nil _ _), formBody]
    exact List.cons_ne_nil _ _

lemma formBody_noNul (hnames : ∀ pair ∈ pairs, 0 ∉ pair.1) (hvalues : ∀ pair ∈ pairs, 0 ∉ pair.2) :
    0 ∉ formBody pairs := by
  induction pairs with
  | nil => exact List.not_mem_nil
  | cons pair pairs ih =>
    rw [List.forall_mem_cons] at hnames hvalues
    rw [formBody_cons, pairText, List.mem_append, List.mem_append, List.mem_cons]
    rintro ((hmem | hzero | hmem) | hmem)
    · exact hnames.1 hmem
    · exact absurd hzero (by decide)
    · exact hvalues.1 hmem
    · split_ifs at hmem
      · exact List.not_mem_nil hmem
      · rcases List.mem_cons.1 hmem with hzero | hmem
        · exact absurd hzero (by decide)
        · exact ih hnames.2 hvalues.2 hmem

lemma valueFrom_noNul {body : List Byte} (hnul : 0 ∉ body) (n : ℕ) : 0 ∉ valueFrom body n := fun hmem =>
  hnul (List.mem_of_mem_drop ((List.takeWhile_prefix _).subset hmem))

/-- A pair of the body has its name in it. -/
lemma lookup_occurs {p v : List Byte} (h : pairs.lookup p = some v) : ∃ i, OccursAt p (formBody pairs) i := by
  induction pairs with
  | nil => cases h
  | cons pair pairs ih =>
    obtain ⟨name, value⟩ := pair
    rw [formBody_cons]
    by_cases hname : p = name
    · refine ⟨0, ?_⟩
      rw [OccursAt, List.drop_zero, pairText, List.append_assoc, hname]
      exact List.prefix_append _ _
    · have hrest : pairs.lookup p = some v := by
        have hno : (p == name) = false := by simpa using hname
        rw [List.lookup_cons, hno] at h
        exact h
      obtain ⟨i, hi⟩ := ih hrest
      have hne : pairs ≠ [] := by
        rintro rfl
        cases hrest
      refine ⟨(pairText (name, value)).length + (i + 1), ?_⟩
      rw [if_neg hne, OccursAt, List.drop_append, List.drop_of_length_le (by omega), List.nil_append,
        Nat.add_sub_cancel_left, List.drop_succ_cons]
      exact hi

/-- The place of the first pair of a name. -/
def placeOf (name : List Byte) : List (List Byte × List Byte) → Option ℕ
  | [] => none
  | pair :: pairs =>
    if pair.1 = name then some 0 else (placeOf name pairs).map (· + ((pairText pair).length + 1))

/-- The value of that pair is behind the byte that follows the name. -/
lemma value_at_place {p v : List Byte} {j : ℕ} (hvalues : ∀ pair ∈ pairs, ampersand ∉ pair.2)
    (hplace : placeOf p pairs = some j) (hv : pairs.lookup p = some v) :
    j + p.length < (formBody pairs).length ∧ valueFrom (formBody pairs) (j + p.length + 1) = v := by
  induction pairs generalizing j with
  | nil => cases hv
  | cons pair pairs ih =>
    obtain ⟨name, value⟩ := pair
    rw [List.forall_mem_cons] at hvalues
    rw [placeOf] at hplace
    by_cases hname : name = p
    · rw [if_pos hname] at hplace
      cases hplace
      rw [List.lookup_cons, hname, beq_self_eq_true] at hv
      cases hv
      have hplain : ∀ c ∈ v, c ≠ ampersand := fun c hc hand => hvalues.1 (hand ▸ hc)
      rw [formBody_cons, pairText, hname, valueFrom, List.append_assoc, Nat.zero_add]
      refine ⟨by simp, ?_⟩
      rw [← List.drop_drop, List.drop_left, List.cons_append, List.drop_succ_cons, List.drop_zero,
        List.takeWhile_append_of_pos fun c hc => by simpa using hplain c hc]
      split_ifs
      · exact List.append_nil _
      · rw [List.takeWhile_cons_of_neg (by simp), List.append_nil]
    · rw [if_neg hname] at hplace
      obtain ⟨k, hk, rfl⟩ := Option.map_eq_some_iff.1 hplace
      have hrest : pairs.lookup p = some v := by
        have hno : (p == name) = false := by simpa using Ne.symm hname
        rw [List.lookup_cons, hno] at hv
        exact hv
      have hne : pairs ≠ [] := by
        rintro rfl
        cases hrest
      obtain ⟨hlt, hvalue⟩ := ih hvalues.2 hk hrest
      rw [formBody_cons, if_neg hne]
      constructor
      · rw [List.length_append, List.length_cons]
        omega
      · rw [← hvalue, valueFrom, valueFrom, List.drop_append, List.drop_of_length_le (by omega), List.nil_append,
          show k + ((pairText (name, value)).length + 1) + p.length + 1 - (pairText (name, value)).length =
            k + p.length + 1 + 1 by omega, List.drop_succ_cons]

/-- The two ways of decoding differ in plus signs and spaces. -/
lemma formDecode_shown (v : List Byte) (hv : Escaped v) :
    replacetochar (formDecode v) plus space = replacetochar (decode v) plus space := by
  match v with
  | [] => rfl
  | c :: s =>
    by_cases hc : c = percent
    · subst hc
      obtain ⟨hcons, htail⟩ := escaped_cons.1 hv
      obtain ⟨h, l, r, rfl, hh, hl⟩ := hcons rfl
      have hr : Escaped r := (escaped_escape hh hl).1 hv
      have hkeep {d : Byte} (hd : IsHex d) : (if d = plus then space else d) = d := by
        refine if_neg ?_
        rintro rfl
        exact absurd hd (by decide)
      rw [formDecode, List.map_cons, List.map_cons, List.map_cons, hkeep hh, hkeep hl, if_neg (by decide),
        decode_escape hh hl, decode_escape hh hl]
      exact congrArg (List.cons _) (formDecode_shown r hr)
    · have hs : Escaped s := (escaped_cons.1 hv).2
      have hswap : (if c = plus then space else c) ≠ percent := by
        split_ifs
        · decide
        · exact hc
      rw [formDecode, List.map_cons, decode_copy fun _ _ _ _ hesc => hswap hesc.1,
        decode_copy fun _ _ _ _ hesc => hc hesc.1]
      have htail := formDecode_shown s hs
      rw [replacetochar, replacetochar, List.map_cons, List.map_cons]
      refine congrArg₂ List.cons ?_ htail
      by_cases hplus : c = plus
      · rw [hplus]
        rfl
      · rw [if_neg hplus, if_neg hplus]
termination_by v.length


/-- What is shown has no plus sign and no NUL in it. -/
lemma shown_plain {value ret : List Byte} (h : shown value = some ret) : plus ∉ ret ∧ 0 ∉ ret := by
  obtain ⟨s, -, rfl⟩ := Option.map_eq_some_iff.1 h
  rw [replacetochar, List.mem_map, List.mem_map]
  constructor
  · rintro ⟨c, -, hc⟩
    split_ifs at hc with hplus
    · exact absurd hc (by decide)
    · exact hplus hc
  · rintro ⟨c, hmem, hc⟩
    split_ifs at hc
    · exact absurd hc (by decide)
    · have hne := List.mem_takeWhile_imp hmem
      simp [hc] at hne

/-- A value is shown as it is to be decoded if its escapes are complete and it has no plus sign and
no NUL in it then. -/
lemma shown_formDecode {v : List Byte} (hv : Escaped v) (hplus : plus ∉ formDecode v) (hnul : 0 ∉ formDecode v) :
    shown v = some (formDecode v) := by
  have hkeep : replacetochar (formDecode v) plus space = formDecode v := by
    have hother : ∀ c ∈ formDecode v, c ≠ plus := fun c hc hsign => hplus (hsign ▸ hc)
    rw [replacetochar, List.map_congr_left fun c hc => if_neg (hother c hc)]
    exact List.map_id' _
  rw [formDecode_shown v hv] at hkeep
  have hzero : ∀ c ∈ decode v, c ≠ 0 := by
    rintro c hmem rfl
    refine hnul ?_
    rw [← hkeep]
    exact List.mem_map.2 ⟨0, hmem, if_neg (by decide)⟩
  rw [shown, (unescaped_iff v).2 hv, Option.map_some,
    List.takeWhile_eq_self_iff.2 fun c hc => by simpa using hzero c hc, hkeep]

end body

section lookup
variable {body p value ret : List Byte} {r : Option (List Byte)} {s : Session} {l : Lookup} {turns n j : ℕ}

/-- A BUFPUB without a NUL. -/
def unending : Mem := fun _ => 0x41

lemma unescapeLoop_unending {url : Mem} {x y : ℕ} (hxy : x ≤ y) (hurl : ∀ i, y ≤ i → url i = 0x41) :
    unescapeLoop n url x y = none := by
  induction n generalizing url x y with
  | zero => rfl
  | succ n ih =>
    have hy := hurl y (Nat.le_refl y)
    rw [unescapeLoop_copy (by rw [hy]; decide) (by rw [hy]; decide), ih (Nat.add_le_add_right hxy 1), Option.map_none]
    intro i hi
    rw [Function.update_of_ne (by omega)]
    exact hurl i (by omega)

/-- An escape that goes past the NUL takes the loop into what is behind it. -/
lemma unescapeLoop_cut (value : List Byte) {url : Mem} {n x y : ℕ} (hs : StringAt url y value) (hxy : x ≤ y)
    (hnone : unescaped value = none) (hurl : ∀ i, y + value.length < i → url i = 0x41) :
    unescapeLoop n url x y = none := by
  match n with
  | 0 => rfl
  | n + 1 =>
  match value with
  | [] => exact Option.noConfusion rfl (heq_of_eq hnone)
  | c :: value =>
    obtain ⟨rfl, hc, htail⟩ := hs.head
    have hkeep {k : ℕ} (hk : y < k) (v : Byte) : Function.update url x v k = url k :=
      Function.update_of_ne (by omega) _ _
    by_cases hpercent : url y = percent
    · rw [unescapeLoop_escape hpercent hxy, Option.map_eq_none_iff]
      match value with
      | [] | [h] =>
        refine unescapeLoop_unending (by omega) fun i hi => ?_
        rw [hkeep (by omega)]
        refine hurl i ?_
        simp only [List.length_cons, List.length_nil]
        omega
      | h :: l :: value =>
        obtain ⟨rfl, -, htail⟩ := htail.head
        obtain ⟨rfl, -, htail⟩ := htail.head
        rw [hpercent, unescaped_escape] at hnone
        refine unescapeLoop_cut value (htail.update (by omega) _) (by omega) (Option.map_eq_none_iff.1 hnone)
          fun i hi => ?_
        rw [hkeep (by omega)]
        refine hurl i ?_
        simp only [List.length_cons]
        omega
    · rw [unescapeLoop_copy hc hpercent, Option.map_eq_none_iff]
      rw [unescaped_copy hpercent] at hnone
      refine unescapeLoop_cut value (htail.update (Nat.lt_succ_of_le hxy) _) (Nat.add_le_add_right hxy 1)
        (Option.map_eq_none_iff.1 hnone) fun i hi => ?_
      rw [hkeep (by omega)]
      refine hurl i ?_
      simp only [List.length_cons]
      omega

/-- The copy in BUFPUB. -/
def copy (m : Mem) (value : List Byte) : Mem := Mem.fill (Function.update m value.length 0) value

lemma copy_behind (m : Mem) {i : ℕ} (hi : value.length ≤ i) :
    copy m value i = if i = value.length then 0 else m i := by
  rw [copy, Mem.fill, List.getD_eq_getElem?_getD, List.getElem?_eq_none hi, Option.getD_none,
    Function.update_apply]

lemma stringAt_copy (m : Mem) (hnul : 0 ∉ value) : StringAt (copy m value) 0 value where
  bytes := Mem.slice_fill _ _
  noNul := hnul
  nul := by rw [Nat.zero_add, copy_behind m (Nat.le_refl _), if_pos rfl]

/-- What is made of the copy. -/
lemma copy_shown (m : Mem) (hnul : 0 ∉ value) (hret : shown value = some ret) :
    ∃ turns u, unescapeHttpUrl turns (copy m value) = some u ∧ (∀ i ∈ u.read, i ≤ value.length) ∧
      replacetochar (stringAt u.url u.x) plus space = ret := by
  obtain ⟨out, hout, rfl⟩ := Option.map_eq_some_iff.1 hret
  obtain ⟨turns, u, hu, hturned⟩ := unescapeLoop_turned value (stringAt_copy m hnul) (Nat.le_refl 0) hout
  refine ⟨turns, u, hu, fun i hi => ?_, ?_⟩
  · have hle := hturned.read i hi
    omega
  · rw [stringAt, hturned.place, Nat.zero_add, hturned.bytes]

/-- What a lookup has to say of a body: nothing if the name occurs nowhere, and otherwise the value
that begins behind the byte that follows its first occurrence. -/
def Answer (body p : List Byte) (r : Option (List Byte)) : Prop :=
  r = none ∧ (∀ i, ¬ OccursAt p body i) ∨
    ∃ j, FirstAt p body j ∧ j + p.length < body.length ∧
      (valueFrom body (j + p.length + 1)).length < bufpubSize ∧
      ∃ ret, shown (valueFrom body (j + p.length + 1)) = some ret ∧ r = some ret

/-- The text of the value in the body, and its length in a uint16_t. -/
lemma value_length (hlen : body.length < 0x10000) (n : ℕ) :
    ((strstr [ampersand] (body.drop n)).getD (body.drop n).length) % 0x10000 = (valueFrom body n).length ∧
      (body.drop n).take (valueFrom body n).length = valueFrom body n := by
  have htake := strstr_byte (s := body.drop n) ampersand
  have hle : (strstr [ampersand] (body.drop n)).getD (body.drop n).length ≤ (body.drop n).length := by
    cases hfound : strstr [ampersand] (body.drop n) with
    | none => exact Nat.le_refl _
    | some i => exact Nat.le_of_add_right_le (strstr_iff.1 hfound).place
  have hlength := congrArg List.length htake
  rw [List.length_take_of_le hle] at hlength
  have hdrop : (body.drop n).length ≤ body.length := by
    rw [List.length_drop]
    exact Nat.sub_le _ _
  rw [Nat.mod_eq_of_lt (by omega), hlength]
  exact ⟨rfl, (List.prefix_iff_eq_take.1 (List.takeWhile_prefix _)).symm⟩

lemma paramValue_absent (hno : ∀ i, ¬ OccursAt p body i) : paramValue turns s body p = some ⟨none, s, 0, []⟩ := by
  rw [paramValue, strstr_none hno]

lemma paramValue_first (hlen : body.length < 0x10000) (hfirst : FirstAt p body j)
    (hvalue : valueFrom body (j + p.length + 1) = value) :
    paramValue turns s body p =
      if body.length ≤ j + p.length then none
      else if value.length = 0 then some ⟨some [], { s with bufpub := Function.update s.bufpub 0 0 }, 0, []⟩
      else if bufpubSize ≤ value.length then none
      else
        (unescapeHttpUrl turns (copy s.bufpub value)).bind fun u =>
          if ∀ i ∈ u.read, i < bufpubSize then
            some ⟨some (replacetochar (stringAt u.url u.x) plus space),
              { s with bufpub := Mem.fill u.url (replacetochar (stringAt u.url u.x) plus space) }, value.length, u.read⟩
          else none := by
  obtain ⟨hlength, htext⟩ := value_length hlen (j + p.length + 1)
  rw [hvalue] at hlength htext
  simp only [paramValue, strstr_iff.2 hfirst, hlength, htext]
  rfl

lemma paramValue_uri (h : paramValue turns s body p = some l) : l.session.uri = s.uri := by
  rw [paramValue] at h
  split at h
  · cases h
    rfl
  · simp only at h
    split_ifs at h
    · cases h
      rfl
    · obtain ⟨u, -, hu⟩ := Option.bind_eq_some_iff.1 h
      split_ifs at hu
      cases hu
      rfl

/-- A lookup that has an answer reads nothing behind the string in BUFPUB. -/
lemma paramValue_answers (hnul : 0 ∉ body) (hlen : body.length < 0x10000) (h : Answer body p r) (s : Session) :
    ∃ turns l, paramValue turns s body p = some l ∧ l.value = r ∧ ∀ i ∈ l.read, i ≤ l.copied := by
  rcases h with ⟨rfl, hno⟩ | ⟨j, hfirst, hlt, hfits, ret, hret, rfl⟩
  · exact ⟨0, _, paramValue_absent hno, rfl, nofun⟩
  · have hzero := valueFrom_noNul hnul (j + p.length + 1)
    obtain ⟨turns, u, hu, hread, hshown⟩ := copy_shown s.bufpub hzero hret
    by_cases hempty : (valueFrom body (j + p.length + 1)).length = 0
    · rw [List.length_eq_zero_iff.1 hempty] at hret
      cases hret
      refine ⟨0, ⟨some [], { s with bufpub := Function.update s.bufpub 0 0 }, 0, []⟩, ?_, rfl, nofun⟩
      rw [paramValue_first hlen hfirst rfl, if_neg (Nat.not_le_of_gt hlt), if_pos hempty]
    · have hwithin : ∀ i ∈ u.read, i < bufpubSize := fun i hi => Nat.lt_of_le_of_lt (hread i hi) hfits
      refine ⟨turns, ⟨some ret, ⟨s.uri, Mem.fill u.url ret⟩, _, u.read⟩, ?_, rfl, hread⟩
      rw [paramValue_first hlen hfirst rfl, if_neg (Nat.not_le_of_gt hlt), if_neg hempty,
        if_neg (Nat.not_le_of_gt hfits), hu, Option.bind_some, if_pos hwithin, hshown]

/-- Any other answer comes from what BUFPUB has behind the string. -/
lemma answer_of_paramValue (hnul : 0 ∉ body) (hlen : body.length < 0x10000)
    (h : paramValue turns s body p = some l) (hread : s.bufpub = unending ∨ ∀ i ∈ l.read, i ≤ l.copied) :
    Answer body p l.value := by
  by_cases hoccurs : ∃ i, OccursAt p body i
  · obtain ⟨i, hi⟩ := hoccurs
    obtain ⟨j, hfirst⟩ := hi.exists_first
    have hzero := valueFrom_noNul hnul (j + p.length + 1)
    rw [paramValue_first hlen hfirst rfl] at h
    split_ifs at h with hend hempty hfits
    · cases h
      refine .inr ⟨j, hfirst, Nat.lt_of_not_ge hend, ?_, [], ?_, rfl⟩
      · rw [hempty]
        decide
      · rw [List.length_eq_zero_iff.1 hempty]
        rfl
    · obtain ⟨u, hu, hret⟩ := Option.bind_eq_some_iff.1 h
      split_ifs at hret
      cases hout : unescaped (valueFrom body (j + p.length + 1)) with
      | none =>
        have hstring := stringAt_copy s.bufpub hzero
        rcases hread with hunending | hread
        · rw [unescapeHttpUrl, unescapeLoop_cut _ hstring (Nat.le_refl 0) hout] at hu
          · cases hu
          · intro i hi
            rw [copy_behind _ (by omega), if_neg (by omega), hunending]
            rfl
        · cases hret
          obtain ⟨i, hi, hpast⟩ := unescapeLoop_past _ hstring (Nat.le_refl 0) hout hu
          have hle := hread i hi
          simp only at hle
          omega
      | some out =>
        have hshown : shown (valueFrom body (j + p.length + 1)) =
            some (replacetochar (out.takeWhile (· ≠ 0)) plus space) := by
          rw [shown, hout, Option.map_some]
        obtain ⟨m, u', hu', -, hsame⟩ := copy_shown s.bufpub hzero hshown
        obtain rfl := unescapeLoop_unique hu hu'
        cases hret
        exact .inr ⟨j, hfirst, Nat.lt_of_not_ge hend, Nat.lt_of_not_ge hfits, _, hshown, by rw [hsame]⟩
  · rw [not_exists] at hoccurs
    rw [paramValue_absent hoccurs] at h
    cases h
    exact .inl ⟨rfl, hoccurs⟩

end lookup

section request
variable {post : Post} {s : Session} {l : Lookup} {p : List Byte} {r : Option (List Byte)} {turns : ℕ}

/-- The string begins as the request does, with the whole of its body. The lookups leave it so. -/
def Post.HeldBy (post : Post) (s : Session) : Prop :=
  ∃ tail, s.uri = post.head ++ tail ∧ tail.take post.body.length = post.body

lemma Post.heldBy_text (post : Post) (bufpub : Mem) : post.HeldBy ⟨post.text, bufpub⟩ :=
  ⟨post.body ++ post.behind, rfl, List.take_left⟩

lemma Post.heldBy_body (post : Post) (h : s.uri = post.head ++ post.body) : post.HeldBy s :=
  ⟨post.body, h, List.take_length⟩

lemma c2d_digit {c : Byte} (hc : 0x30 ≤ c ∧ c ≤ 0x39) : (c2d c).toNat = c.toNat - 0x30 := by
  revert c
  decide +kernel

lemma atoi_decimal {digits : List Byte} (hdigits : ∀ c ∈ digits, 0x30 ≤ c ∧ c ≤ 0x39)
    (hlt : decimal digits < 0x10000) : atoi digits 10 = decimal digits := by
  have hall : ∀ c ∈ digits, c ≠ 0 ∧ c ≠ space := by
    refine fun c hc => ⟨?_, ?_⟩
    all_goals
      rintro rfl
      exact absurd (hdigits _ hc).1 (by decide)
  rw [atoi, List.takeWhile_eq_self_iff.2 fun c hc => by simpa using hall c hc,
    List.foldl_ext _ (fun n c => n * 10 + (c.toNat - 0x30)) 0 fun n c hc => by rw [c2d_digit (hdigits c hc)]]
  exact Nat.mod_eq_of_lt hlt

lemma Post.WellFormed.body_noNul (h : post.WellFormed) : 0 ∉ post.body :=
  formBody_noNul (fun pair hpair => (h.names pair hpair).2.2) fun pair hpair => (h.values pair hpair).2.1

lemma Post.WellFormed.body_length (h : post.WellFormed) : post.body.length < 0x10000 := by
  have hfits := h.fits
  simp only [Post.text, List.length_append] at hfits
  omega

/-- The digits of the length, found in whatever string holds the request. -/
lemma Post.WellFormed.mid_digits (h : post.WellFormed) (tail : List Byte) :
    mid (post.head ++ tail) contentLength crlf = some post.digits := by
  obtain ⟨i, k, hi, hk, hdigits⟩ := h.length
  have hfits := h.fits
  have hplace := hi.place
  have hend := hk.place
  simp only [Post.text, List.length_append, List.length_drop] at hfits hend
  rw [mid, strstr_iff.2 (hi.append tail), Option.bind_eq_bind, Option.bind_some,
    List.drop_append_of_le_length hplace]
  simp only
  rw [strstr_iff.2 (hk.append tail), Option.bind_some, Nat.mod_eq_of_lt (by omega),
    List.take_append_of_le_length (by rw [List.length_drop]; omega), hdigits]
  rfl

/-- The lookup finds the body. -/
lemma getHttpParamValue_body (h : post.WellFormed) (hs : post.HeldBy s) :
    getHttpParamValue turns s p = if 10 ≤ post.digits.length then none
      else paramValue turns { s with uri := post.head ++ post.body } post.body p := by
  obtain ⟨tail, huri, htail⟩ := hs
  obtain ⟨i, hi, hhead⟩ := h.blank
  have hatoi : atoi post.digits 10 = post.body.length := by
    rw [← h.correct]
    exact atoi_decimal h.digits (h.correct ▸ h.body_length)
  have hbody : requestBody (post.head ++ tail) =
      if 10 ≤ post.digits.length then none else some (post.head.length, post.body.length) := by
    rw [requestBody, h.mid_digits tail, Option.bind_eq_bind, Option.bind_some, strstr_iff.2 (hi.append tail),
      hatoi, hhead]
    rfl
  rw [getHttpParamValue, huri, hbody]
  split_ifs
  · rfl
  · rw [Option.bind_eq_bind, Option.bind_some]
    simp only [List.drop_left, List.take_left, htail]

lemma getHttpParamValue_held (h : post.WellFormed) (hs : post.HeldBy s)
    (hret : getHttpParamValue turns s p = some l) : post.HeldBy l.session := by
  rw [getHttpParamValue_body h hs] at hret
  split_ifs at hret
  exact post.heldBy_body (paramValue_uri hret)

lemma getHttpParamValue_answers (h : post.WellFormed) (hs : post.HeldBy s) (hdigits : post.digits.length < 10)
    (hanswer : Answer post.body p r) : ∃ turns l, getHttpParamValue turns s p = some l ∧ l.value = r := by
  simp only [getHttpParamValue_body h hs, if_neg (Nat.not_le_of_gt hdigits)]
  obtain ⟨turns, l, hret, hvalue, -⟩ := paramValue_answers h.body_noNul h.body_length hanswer _
  exact ⟨turns, l, hret, hvalue⟩

lemma answer_of_getHttpParamValue (h : post.WellFormed) (hs : post.HeldBy s)
    (hstale : s.bufpub = unending) (hret : getHttpParamValue turns s p = some l) :
    post.digits.length < 10 ∧ Answer post.body p l.value := by
  rw [getHttpParamValue_body h hs] at hret
  split_ifs at hret with hlong
  refine ⟨Nat.lt_of_not_ge hlong, ?_⟩
  exact answer_of_paramValue h.body_noNul h.body_length hret (.inl hstale)

/-- When a lookup gives the parameter: if the name occurs at all, there is a pair of that name, whose
value has no plus sign and no NUL in it when it is decoded, and either the first occurrence is that
pair's own and the escapes of the value are complete, or the text behind it comes to the same. -/
def Post.Found (post : Post) (p : List Byte) : Prop :=
  post.digits.length < 10 ∧ ∀ j, FirstAt p post.body j →
    ∃ v, post.pairs.lookup p = some v ∧ plus ∉ formDecode v ∧ 0 ∉ formDecode v ∧
      (placeOf p post.pairs = some j ∧ Escaped v ∨
        j + p.length < post.body.length ∧ (valueFrom post.body (j + p.length + 1)).length < bufpubSize ∧
          shown (valueFrom post.body (j + p.length + 1)) = some (formDecode v))

lemma found_iff (h : post.WellFormed) :
    post.Found p ↔ post.digits.length < 10 ∧ Answer post.body p (post.param p) := by
  refine and_congr_right fun _ => ?_
  constructor
  · intro hfound
    by_cases hoccurs : ∃ i, OccursAt p post.body i
    · obtain ⟨i, hi⟩ := hoccurs
      obtain ⟨j, hj⟩ := hi.exists_first
      obtain ⟨v, hv, hplus, hnul, hplace⟩ := hfound j hj
      have hparam : post.param p = some (formDecode v) := by rw [Post.param, hv, Option.map_some]
      rcases hplace with ⟨hown, hescaped⟩ | ⟨hlt, hfits, hsame⟩
      · obtain ⟨before, after, hsplit, -⟩ := List.lookup_eq_some_iff.1 hv
        have hfits := (h.values (p, v) (by rw [hsplit]; simp)).2.2
        obtain ⟨hlt, htext⟩ := value_at_place (fun pair hpair => (h.values pair hpair).1) hown hv
        refine .inr ⟨j, hj, hlt, ?_, formDecode v, ?_, hparam⟩
        · rw [Post.body, htext]
          exact hfits
        · rw [Post.body, htext]
          exact shown_formDecode hescaped hplus hnul
      · exact .inr ⟨j, hj, hlt, hfits, formDecode v, hsame, hparam⟩
    · rw [not_exists] at hoccurs
      refine .inl ⟨?_, hoccurs⟩
      cases hv : post.pairs.lookup p with
      | none => rw [Post.param, hv, Option.map_none]
      | some v =>
        obtain ⟨i, hi⟩ := lookup_occurs hv
        exact absurd hi (hoccurs i)
  · rintro (⟨-, hno⟩ | ⟨i, hi, hlt, hfits, ret, hret, hparam⟩) j hj
    · exact absurd hj.1 (hno j)
    · obtain rfl := hi.unique hj
      obtain ⟨v, hv, rfl⟩ := Option.map_eq_some_iff.1 hparam
      obtain ⟨hplus, hnul⟩ := shown_plain hret
      exact ⟨v, hv, hplus, hnul, .inr ⟨hlt, hfits, hret⟩⟩

/-- The request of the form xa=1&a=2. -/
def nested : Post where
  head := contentLength ++ 0x38 :: crlf ++ crlf
  digits := [0x38]
  pairs := [([0x78, 0x61], [0x31]), ([0x61], [0x32])]
  behind := []

lemma nested_wellFormed : nested.WellFormed where
  fits := by decide
  blank := ⟨17, strstr_iff.1 (by decide), rfl⟩
  length := ⟨0, 1, strstr_iff.1 (by decide), strstr_iff.1 (by decide), rfl⟩
  digits := by decide
  correct := by decide
  names := by simp [nested, equals, ampersand]
  values := by simp [nested, ampersand, bufpubSize]

end request

end IoLibrary.Http
