import IoLibrary.Http.Params
import IoLibrary.Http.Server

/-! The way of a request through httpServer.c and httpParser.c: what is received, its parts, and what
is made of them. There is no result where the source leaves an object or goes through a null pointer. -/
namespace IoLibrary.Http
open Percent Search

def maxUriSize : ℕ := 512

def ascii (s : String) : List Byte := s.toList.map fun c => BitVec.ofNat 8 c.toNat

def question : Byte := 0x3F
def slash : Byte := 0x2F

/-- A token of the string, and what is behind the delimiter that ends it. -/
def strtok (delims s : List Byte) : Option (List Byte) × List Byte :=
  let s := s.dropWhile (· ∈ delims)
  if s = [] then (none, [])
  else (some (s.takeWhile (· ∉ delims)), (s.dropWhile (· ∉ delims)).drop 1)

inductive Method
  | err
  | get
  | head
  | post
  deriving DecidableEq

def methodOf (token : List Byte) : Method :=
  if token = ascii "GET" ∨ token = ascii "get" then .get
  else if token = ascii "HEAD" ∨ token = ascii "head" then .head
  else if token = ascii "POST" ∨ token = ascii "post" then .post
  else .err

/-- What is copied to the URI: all that is left of the request for a POST, and the first token itself
if it is no method. -/
def nexttok (first rest : List Byte) : Option (List Byte) :=
  match methodOf first with
  | .get | .head => (strtok [space] rest).1
  | .post => (strtok [] rest).1
  | .err => some first

def tokens (buf : List Byte) : Option (Method × List Byte) := do
  let first ← (strtok [space] buf).1
  let uri ← nexttok first (strtok [space] buf).2
  return (methodOf first, uri)

def parseHttpRequest (buf : List Byte) : Option (Method × List Byte) :=
  match tokens buf with
  | none => some (.err, [])
  | some (method, uri) => if maxUriSize ≤ uri.length then none else some (method, uri)

def getHttpUriName (uri : List Byte) : Option (List Byte) := do
  let name ← (strtok [space, question] uri).1
  return if name = [slash] then name else name.drop 1

inductive Ptype
  | err
  | html
  | gif
  | text
  | jpeg
  | flash
  | cgi
  | xml
  | css
  | js
  | json
  | png
  | ico
  | ttf
  | otf
  | woff
  | eot
  | svg
  deriving DecidableEq

/-- The parts of a name that say its type, in the order in which they are looked for. -/
def extensions : List (List String × Ptype) :=
  [([".htm", ".html"], .html), ([".gif"], .gif), ([".text", ".txt"], .text), ([".jpeg", ".jpg"], .jpeg),
    ([".swf"], .flash), ([".cgi", ".CGI"], .cgi), ([".json", ".JSON"], .json), ([".js", ".JS"], .js),
    ([".CGI", ".cgi"], .cgi), ([".xml", ".XML"], .xml), ([".css", ".CSS"], .css), ([".png", ".PNG"], .png),
    ([".ico", ".ICO"], .ico), ([".ttf", ".TTF"], .ttf), ([".otf", ".OTF"], .otf), ([".woff", ".WOFF"], .woff),
    ([".eot", ".EOT"], .eot), ([".svg", ".SVG"], .svg)]

def findHttpUriType (name : List Byte) : Ptype :=
  ((extensions.find? fun e => e.1.any fun p => (strstr (ascii p) name).isSome).map Prod.snd).getD .err

/-- The head of a response is copied from a null pointer if the type has none. -/
def makeHttpResponseHead : Ptype → Option Unit
  | .err => none
  | _ => some ()

/-- send_http_response_header for STATUS_OK. -/
def sendHeaderOk (type : Ptype) : Option Unit :=
  if type ≠ .cgi ∧ type ≠ .xml then makeHttpResponseHead type else some ()

/-- The page that a name stands for. -/
def webpage (name : List Byte) : List Byte :=
  let name := if name = ascii "/" then ascii "index.html" else name
  let name := if name = ascii "m" then ascii "m/index.html" else name
  if name = ascii "mobile" then ascii "mobile/index.html" else name

/-- What becomes of a request: a response, or a call of the CGI processor with the URI. -/
inductive Reply
  | response
  | process (uri : List Byte)

/-- http_process_handler, with the names of the registered contents. The CGI processor for GET gets
the name alone. -/
def dispatch (site : List (List Byte)) (uri : List Byte) : Method → Option Reply
  | .err => some .response
  | .get | .head => do
    let name := webpage (← getHttpUriName uri)
    if findHttpUriType name ≠ .cgi ∧ name ∈ site then sendHeaderOk (findHttpUriType name)
    return .response
  | .post => do
    let name ← mid uri [slash] (ascii " HTTP")
    if maxUriSize ≤ name.length then none
    else if findHttpUriType name = .cgi then return .process uri
    else return .response

/-- What recv has returned, as a uint16_t. -/
def received (ret : BitVec 32) : ℕ := ret.toNat % 0x10000

/-- The idle state of httpServer_run, which puts a NUL behind what is received. -/
def handle (site : List (List Byte)) (request : Mem) (ret : BitVec 32) : Option Reply :=
  if dataBufSize ≤ received ret then none
  else do
    let (method, uri) ← parseHttpRequest (stringAt request (received ret))
    dispatch site uri method

/-- get_http_param_value in the URI of an st_http_request, which reads nothing behind the string in
BUFPUB. -/
def lookupParam (turns : ℕ) (s : Session) (paramName : List Byte) : Option Session := do
  let (place, contentLen) ← requestBody s.uri
  if maxUriSize ≤ place + contentLen then none
  else
    let l ← getHttpParamValue turns s paramName
    if ∀ i ∈ l.read, i ≤ l.copied then some l.session else none

/-- A CGI processor looks up parameters. -/
inductive Processed : Session → List (List Byte) → Prop
  | nil (s : Session) : Processed s []
  | cons {s s' : Session} {turns : ℕ} {p : List Byte} {names : List (List Byte)} :
      lookupParam turns s p = some s' → Processed s' names → Processed s (p :: names)

/-- The request is handled to its end, with a CGI processor that looks up `names`. -/
def Handled (site : List (List Byte)) (request : Mem) (ret : BitVec 32) (bufpub : Mem)
    (names : List (List Byte)) : Prop :=
  ∃ reply, handle site request ret = some reply ∧
    ∀ uri, reply = .process uri → Processed ⟨uri, bufpub⟩ names

/-- What stands between the first place of a string and the next one of another. -/
def Between (src s1 s2 sub : List Byte) : Prop :=
  ∃ i n, FirstAt s1 src i ∧ FirstAt s2 (src.drop (i + s1.length)) n ∧ (src.drop (i + s1.length)).take n = sub

/-- A request has a Content-Length of at most nine characters and a blank line, behind which the body
begins. -/
def HasBody (uri : List Byte) (place n : ℕ) : Prop :=
  ∃ digits i, Between uri contentLength crlf digits ∧ digits.length < 10 ∧ FirstAt (crlf ++ crlf) uri i ∧
    place = i + 4 ∧ n = atoi digits 10

/-- Behind the first occurrence of a name there is one byte and then a text for BUFPUB, whose last
escape is not cut. -/
def ValueEnds (body p : List Byte) : Prop :=
  ∀ j, FirstAt p body j → j + p.length < body.length ∧
    (valueFrom body (j + p.length + 1)).length < bufpubSize ∧ unescaped (valueFrom body (j + p.length + 1)) ≠ none

/-- Each lookup finds a body that ends in the URI, and an end of the value. It cuts the request behind
the body for those that come after it. -/
def Readable : List Byte → List (List Byte) → Prop
  | _, [] => True
  | uri, p :: names => ∃ place n, HasBody uri place n ∧ place + n < maxUriSize ∧
      ValueEnds ((uri.drop place).take n) p ∧ Readable (uri.take (place + n)) names

/-- What a URI needs for its method: a name, not that of a content whose type has no head, or a name
between a slash and the protocol and then, for a CGI processor, parameters. -/
def Served (site names : List (List Byte)) (uri : List Byte) : Method → Prop
  | .err => True
  | .get | .head => (∃ c ∈ uri, c ≠ space ∧ c ≠ question) ∧
      ∀ name, getHttpUriName uri = some name → webpage name ∈ site → findHttpUriType (webpage name) ≠ .err
  | .post => ∃ name, Between uri [slash] (ascii " HTTP") name ∧ (findHttpUriType name = .cgi → Readable uri names)

section strings
variable {s s1 s2 sub delims token uri body p : List Byte} {place n : ℕ}

lemma strtok_subset :
    (∀ token, (strtok delims s).1 = some token → token ⊆ s) ∧ (strtok delims s).2 ⊆ s := by
  have hdrop : s.dropWhile (· ∈ delims) ⊆ s := (List.dropWhile_suffix _).subset
  rw [strtok]
  split_ifs
  · exact ⟨nofun, List.nil_subset s⟩
  · constructor
    · rintro token ⟨⟩
      exact fun c hc => hdrop ((List.takeWhile_prefix _).subset hc)
    · exact fun c hc => hdrop ((List.dropWhile_suffix _).subset (List.mem_of_mem_drop hc))

lemma strtok_none : (strtok delims s).1 = none ↔ ∀ c ∈ s, c ∈ delims := by
  rw [strtok]
  have hempty : s.dropWhile (· ∈ delims) = [] ↔ ∀ c ∈ s, c ∈ delims := by simp
  split_ifs with hnil
  · exact ⟨fun _ => hempty.1 hnil, fun _ => rfl⟩
  · exact ⟨nofun, fun hall => absurd (hempty.2 hall) hnil⟩

lemma getHttpUriName_some :
    (∃ name, getHttpUriName uri = some name) ↔ ∃ c ∈ uri, c ≠ space ∧ c ≠ question := by
  have hnone : (strtok [space, question] uri).1 = none ↔ ∀ c ∈ uri, c ∈ [space, question] := strtok_none
  cases htoken : (strtok [space, question] uri).1 with
  | none =>
    have hall := hnone.1 htoken
    rw [getHttpUriName, htoken]
    refine ⟨nofun, ?_⟩
    rintro ⟨c, hc, hspace, hquestion⟩
    have hdelim := hall c hc
    simp [hspace, hquestion] at hdelim
  | some token =>
    rw [getHttpUriName, htoken]
    refine ⟨fun _ => ?_, fun _ => ⟨_, rfl⟩⟩
    by_contra hno
    have hall : ∀ c ∈ uri, c ∈ [space, question] := by
      intro c hc
      by_contra hdelim
      simp only [List.mem_cons, List.not_mem_nil, or_false, not_or] at hdelim
      exact hno ⟨c, hc, hdelim⟩
    rw [hnone.2 hall] at htoken
    cases htoken

lemma tokens_noNul {buf : List Byte} {method : Method} (hbuf : 0 ∉ buf) (h : tokens buf = some (method, uri)) :
    0 ∉ uri := by
  obtain ⟨first, hfirst, h⟩ := Option.bind_eq_some_iff.1 h
  obtain ⟨token, htoken, h⟩ := Option.bind_eq_some_iff.1 h
  cases h
  have hsubset := strtok_subset.1 first hfirst
  have hrest : (strtok [space] buf).2 ⊆ buf := strtok_subset.2
  refine fun hnul => hbuf ?_
  rw [nexttok] at htoken
  split at htoken
  · exact hrest (strtok_subset.1 _ htoken hnul)
  · exact hrest (strtok_subset.1 _ htoken hnul)
  · exact hrest (strtok_subset.1 _ htoken hnul)
  · cases htoken
    exact hsubset hnul

lemma mid_iff (hs : s.length < 0x10000) : mid s s1 s2 = some sub ↔ Between s s1 s2 sub := by
  constructor
  · intro h
    obtain ⟨i, hi, h⟩ := Option.bind_eq_some_iff.1 h
    obtain ⟨n, hn, h⟩ := Option.bind_eq_some_iff.1 h
    have hplace := (strstr_iff.1 hn).place
    rw [List.length_drop] at hplace
    rw [Nat.mod_eq_of_lt (by omega)] at h
    exact ⟨i, n, strstr_iff.1 hi, strstr_iff.1 hn, Option.some.inj h⟩
  · rintro ⟨i, n, hi, hn, rfl⟩
    have hplace := hn.place
    rw [List.length_drop] at hplace
    rw [mid, strstr_iff.2 hi, Option.bind_eq_bind, Option.bind_some]
    simp only
    rw [strstr_iff.2 hn, Option.bind_some, Nat.mod_eq_of_lt (by omega)]
    rfl

lemma Between.length_lt (h : Between s s1 s2 sub) (hs : s.length < n) : sub.length < n := by
  obtain ⟨i, k, -, -, rfl⟩ := h
  rw [List.length_take, List.length_drop]
  omega

lemma requestBody_iff (huri : uri.length < 0x10000) : requestBody uri = some (place, n) ↔ HasBody uri place n := by
  constructor
  · intro h
    obtain ⟨digits, hdigits, h⟩ := Option.bind_eq_some_iff.1 h
    split_ifs at h with hlong
    obtain ⟨i, hi, h⟩ := Option.bind_eq_some_iff.1 h
    cases h
    exact ⟨digits, i, (mid_iff huri).1 hdigits, Nat.lt_of_not_ge hlong, strstr_iff.1 hi, rfl, rfl⟩
  · rintro ⟨digits, i, hdigits, hshort, hi, rfl, rfl⟩
    rw [requestBody, (mid_iff huri).2 hdigits, Option.bind_eq_bind, Option.bind_some,
      if_neg (Nat.not_le_of_gt hshort), strstr_iff.2 hi]
    rfl

lemma valueEnds_iff : ValueEnds body p ↔ ∃ r, Answer body p r := by
  constructor
  · intro hends
    by_cases hoccurs : ∃ i, OccursAt p body i
    · obtain ⟨i, hi⟩ := hoccurs
      obtain ⟨j, hj⟩ := hi.exists_first
      obtain ⟨hlt, hfits, hwhole⟩ := hends j hj
      obtain ⟨out, hout⟩ := Option.ne_none_iff_exists'.1 hwhole
      exact ⟨_, .inr ⟨j, hj, hlt, hfits, _, by rw [shown, hout, Option.map_some], rfl⟩⟩
    · exact ⟨none, .inl ⟨rfl, not_exists.1 hoccurs⟩⟩
  · rintro ⟨r, ⟨-, hno⟩ | ⟨i, hi, hlt, hfits, ret, hret, -⟩⟩ j hj
    · exact absurd hj.1 (hno j)
    · obtain rfl := hi.unique hj
      obtain ⟨out, hout, -⟩ := Option.map_eq_some_iff.1 hret
      exact ⟨hlt, hfits, by rw [hout]; exact Option.some_ne_none out⟩

end strings

section handling
variable {site names : List (List Byte)} {request bufpub : Mem} {ret : BitVec 32}
  {uri p : List Byte} {s s' : Session} {turns : ℕ}

/-- What a lookup that ends leaves of the request. -/
lemma lookupParam_uri (h : lookupParam turns s p = some s') (hs : s.uri.length < maxUriSize) :
    ∃ place n, HasBody s.uri place n ∧ s'.uri = s.uri.take (place + n) := by
  obtain ⟨⟨place, n⟩, hbody, h⟩ := Option.bind_eq_some_iff.1 h
  simp only at h
  split_ifs at h
  obtain ⟨l, hl, h⟩ := Option.bind_eq_some_iff.1 h
  split_ifs at h
  cases h
  refine ⟨place, n, (requestBody_iff (Nat.lt_trans hs (by decide))).1 hbody, ?_⟩
  rw [getHttpParamValue, hbody, Option.bind_eq_bind, Option.bind_some] at hl
  rw [paramValue_uri hl, List.take_add]

lemma lookupParam_iff (hnul : 0 ∉ s.uri) (hs : s.uri.length < maxUriSize) :
    (∃ turns s', lookupParam turns s p = some s') ↔
      ∃ place n, HasBody s.uri place n ∧ place + n < maxUriSize ∧ ValueEnds ((s.uri.drop place).take n) p := by
  have hbody {place n : ℕ} : requestBody s.uri = some (place, n) ↔ HasBody s.uri place n :=
    requestBody_iff (Nat.lt_trans hs (by decide))
  have hpart {place n : ℕ} : 0 ∉ (s.uri.drop place).take n ∧ ((s.uri.drop place).take n).length < 0x10000 := by
    refine ⟨fun hmem => hnul (List.mem_of_mem_drop (List.mem_of_mem_take hmem)), ?_⟩
    rw [List.length_take, List.length_drop]
    simp only [maxUriSize] at hs
    omega
  constructor
  · rintro ⟨turns, s', h⟩
    obtain ⟨⟨place, n⟩, hplace, h⟩ := Option.bind_eq_some_iff.1 h
    simp only at h
    split_ifs at h with hlong
    obtain ⟨l, hl, h⟩ := Option.bind_eq_some_iff.1 h
    split_ifs at h with hread
    rw [getHttpParamValue, hplace, Option.bind_eq_bind, Option.bind_some] at hl
    refine ⟨place, n, hbody.1 hplace, Nat.lt_of_not_ge hlong, valueEnds_iff.2 ⟨l.value, ?_⟩⟩
    exact answer_of_paramValue hpart.1 hpart.2 hl (.inr hread)
  · rintro ⟨place, n, hplace, hroom, hends⟩
    obtain ⟨r, hanswer⟩ := valueEnds_iff.1 hends
    obtain ⟨turns, l, hl, -, hread⟩ := paramValue_answers hpart.1 hpart.2 hanswer
      { s with uri := s.uri.take place ++ (s.uri.drop place).take n }
    refine ⟨turns, l.session, ?_⟩
    have hret : getHttpParamValue turns s p = some l := by
      rw [getHttpParamValue, hbody.2 hplace, Option.bind_eq_bind, Option.bind_some]
      exact hl
    rw [lookupParam, hbody.2 hplace, Option.bind_eq_bind, Option.bind_some]
    simp only [if_neg (Nat.not_le_of_gt hroom), hret, Option.bind_eq_bind, Option.bind_some, if_pos hread]

lemma HasBody.unique {place place' n n' : ℕ} (huri : uri.length < maxUriSize) (h : HasBody uri place n)
    (h' : HasBody uri place' n') : place = place' ∧ n = n' := by
  have hbody {place n : ℕ} : requestBody uri = some (place, n) ↔ HasBody uri place n :=
    requestBody_iff (Nat.lt_trans huri (by decide))
  exact Prod.mk.inj (Option.some.inj ((hbody.2 h).symm.trans (hbody.2 h')))

lemma processed_iff (hnul : 0 ∉ s.uri) (hs : s.uri.length < maxUriSize) :
    Processed s names ↔ Readable s.uri names := by
  induction names generalizing s with
  | nil => exact ⟨fun _ => trivial, fun _ => .nil s⟩
  | cons p names ih =>
    have hrest {s' : Session} {m : ℕ} (huri : s'.uri = s.uri.take m) :
        Processed s' names ↔ Readable (s.uri.take m) names := by
      rw [← huri]
      refine ih ?_ ?_
      · rw [huri]
        exact fun hmem => hnul (List.mem_of_mem_take hmem)
      · rw [huri, List.length_take]
        omega
    constructor
    · rintro (_ | ⟨hp, hnames⟩)
      obtain ⟨place, n, hbody, huri⟩ := lookupParam_uri hp hs
      obtain ⟨place', n', hbody', hroom, hends⟩ := (lookupParam_iff hnul hs).1 ⟨_, _, hp⟩
      obtain ⟨rfl, rfl⟩ := hbody.unique hs hbody'
      exact ⟨place, n, hbody, hroom, hends, (hrest huri).1 hnames⟩
    · rintro ⟨place, n, hbody, hroom, hends, hnames⟩
      obtain ⟨turns, s', hp⟩ := (lookupParam_iff hnul hs).2 ⟨place, n, hbody, hroom, hends⟩
      obtain ⟨place', n', hbody', huri⟩ := lookupParam_uri hp hs
      obtain ⟨rfl, rfl⟩ := hbody.unique hs hbody'
      exact .cons hp ((hrest huri).2 hnames)

lemma sendHeaderOk_some {type : Ptype} : sendHeaderOk type = some () ↔ type ≠ .err := by
  cases type <;> decide

/-- The answer to a GET or a HEAD. -/
lemma dispatch_get {method : Method} (hmethod : method = .get ∨ method = .head) {reply : Reply} :
    dispatch site uri method = some reply ↔ reply = .response ∧ ∃ name, getHttpUriName uri = some name ∧
      (webpage name ∈ site → findHttpUriType (webpage name) ≠ .err) := by
  have hdispatch : dispatch site uri method = (getHttpUriName uri).bind fun name =>
      if findHttpUriType (webpage name) ≠ .cgi ∧ webpage name ∈ site then
        (sendHeaderOk (findHttpUriType (webpage name))).bind fun _ => some .response
      else some .response := by
    rcases hmethod with rfl | rfl
    all_goals
      rw [dispatch, Option.bind_eq_bind]
      congr
  rw [hdispatch, Option.bind_eq_some_iff]
  constructor
  · rintro ⟨name, hname, h⟩
    split_ifs at h with hsite
    · obtain ⟨_, hheader, h⟩ := Option.bind_eq_some_iff.1 h
      cases h
      exact ⟨rfl, name, hname, fun _ => sendHeaderOk_some.1 hheader⟩
    · cases h
      refine ⟨rfl, name, hname, fun hmem herr => hsite ⟨?_, hmem⟩⟩
      rw [herr]
      decide
  · rintro ⟨rfl, name, hname, htype⟩
    refine ⟨name, hname, ?_⟩
    split_ifs with hsite
    · rw [sendHeaderOk_some.2 (htype hsite.2), Option.bind_some]
    · rfl

lemma served_iff (hnul : 0 ∉ uri) (huri : uri.length < maxUriSize) (method : Method) :
    (∃ reply, dispatch site uri method = some reply ∧
      ∀ uri, reply = .process uri → Processed ⟨uri, bufpub⟩ names) ↔ Served site names uri method := by
  have hget (hmethod : method = .get ∨ method = .head) :
      (∃ reply, dispatch site uri method = some reply ∧
        ∀ uri, reply = .process uri → Processed ⟨uri, bufpub⟩ names) ↔
      (∃ c ∈ uri, c ≠ space ∧ c ≠ question) ∧ ∀ name, getHttpUriName uri = some name →
        webpage name ∈ site → findHttpUriType (webpage name) ≠ .err := by
    simp only [dispatch_get hmethod, ← getHttpUriName_some]
    constructor
    · rintro ⟨_, ⟨rfl, name, hname, htype⟩, -⟩
      refine ⟨⟨name, hname⟩, fun name' hname' => ?_⟩
      obtain rfl := Option.some.inj (hname.symm.trans hname')
      exact htype
    · rintro ⟨⟨name, hname⟩, htype⟩
      exact ⟨.response, ⟨rfl, name, hname, htype name hname⟩, nofun⟩
  cases method with
  | err => exact ⟨fun _ => trivial, fun _ => ⟨.response, rfl, nofun⟩⟩
  | get => exact hget (.inl rfl)
  | head => exact hget (.inr rfl)
  | post =>
    have hmid {name : List Byte} : mid uri [slash] (ascii " HTTP") = some name ↔
        Between uri [slash] (ascii " HTTP") name := mid_iff (Nat.lt_trans huri (by decide))
    have hprocessed : Processed ⟨uri, bufpub⟩ names ↔ Readable uri names := processed_iff hnul huri
    constructor
    · rintro ⟨reply, h, hreply⟩
      obtain ⟨name, hname, h⟩ := Option.bind_eq_some_iff.1 h
      refine ⟨name, hmid.1 hname, fun hcgi => hprocessed.1 (hreply uri ?_)⟩
      simp only [hcgi, if_true] at h
      split_ifs at h
      exact (Option.some.inj h).symm
    · rintro ⟨name, hname, hcgi⟩
      have hshort := Nat.not_le_of_gt (hname.length_lt huri)
      rw [dispatch, hmid.2 hname, Option.bind_eq_bind, Option.bind_some, if_neg hshort]
      by_cases htype : findHttpUriType name = .cgi
      · rw [if_pos htype]
        refine ⟨.process uri, rfl, ?_⟩
        rintro uri ⟨⟩
        exact hprocessed.2 (hcgi htype)
      · rw [if_neg htype]
        exact ⟨.response, rfl, nofun⟩

/-- A request is handled without a bad access if it is received within its buffer, fits the URI and
can be served. -/
theorem handled_iff (site : List (List Byte)) (request : Mem) (ret : BitVec 32) (bufpub : Mem)
    (names : List (List Byte)) : Handled site request ret bufpub names ↔
      received ret < dataBufSize ∧ ∀ method uri, tokens (stringAt request (received ret)) = some (method, uri) →
        uri.length < maxUriSize ∧ Served site names uri method := by
  have hnul : 0 ∉ stringAt request (received ret) := fun hmem => by
    have hne := List.mem_takeWhile_imp hmem
    simp at hne
  rw [Handled, handle]
  by_cases hsize : dataBufSize ≤ received ret
  · rw [if_pos hsize]
    constructor
    · rintro ⟨reply, h, -⟩
      cases h
    · rintro ⟨hlt, -⟩
      omega
  rw [if_neg hsize, parseHttpRequest]
  cases htokens : tokens (stringAt request (received ret)) with
  | none =>
    refine ⟨fun _ => ⟨Nat.lt_of_not_ge hsize, nofun⟩, fun _ => ⟨.response, rfl, nofun⟩⟩
  | some parsed =>
    obtain ⟨method, uri⟩ := parsed
    by_cases hlong : maxUriSize ≤ uri.length
    · simp only [if_pos hlong]
      constructor
      · rintro ⟨reply, h, -⟩
        cases h
      · rintro ⟨-, hall⟩
        have hfits := (hall method uri rfl).1
        omega
    · have huri := Nat.lt_of_not_ge hlong
      simp only [if_neg hlong, Option.bind_eq_bind, Option.bind_some]
      rw [served_iff (tokens_noNul hnul htokens) huri method]
      constructor
      · refine fun hserved => ⟨Nat.lt_of_not_ge hsize, ?_⟩
        rintro _ _ ⟨⟩
        exact ⟨huri, hserved⟩
      · rintro ⟨-, hall⟩
        exact (hall method uri rfl).2

/-- A request that asks for a question mark: get_http_uri_name finds no token. -/
theorem question_unhandled : ¬ Handled [] (stored (ascii "GET ?")) 5 (fun _ => 0) [] := by
  rintro ⟨reply, h, -⟩
  have hnone : (handle [] (stored (ascii "GET ?")) 5).isNone := by decide +kernel
  rw [h] at hnone
  cases hnone

end handling

end IoLibrary.Http
