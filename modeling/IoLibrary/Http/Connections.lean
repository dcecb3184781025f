import IoLibrary.Http.Server

/-! What a new connection finds. The state of the server moves on only while a connection is
established, so that it is clean again only after the last step of a response. -/
namespace IoLibrary.Http
open Effects

variable (site : List WebContent)

structure Clean (h : HttpSocket) : Prop where
  sockStatus : h.sockStatus = .idle
  fileLen : h.fileLen = 0
  fileOffset : h.fileOffset = 0
  fileStart : h.fileStart = 0

/-- The call ends a response, or finds nothing to do. -/
def Settles (h : HttpSocket) (i : Input) : Prop :=
  h.sockStatus = .resDone ∨ h.sockStatus = .idle ∧ i.asked = none

instance (h : HttpSocket) (i : Input) : Decidable (Settles h i) :=
  inferInstanceAs (Decidable (_ ∨ _))

/-- Whether the last call has seen a connection, and whether the last one that has seen a connection
has settled it. -/
structure Link where
  up : Bool
  settled : Bool

def Link.next (l : Link) (h : HttpSocket) (i : Input) : Link :=
  if i.sr = .established then ⟨true, Settles h i⟩ else ⟨false, l.settled⟩

/-- The server with its connection. -/
def linked : Machine (HttpSocket × Link) Input (List Action) := fun s i =>
  (((httpServerRun site s.1 i).1, s.2.next s.1 i), (httpServerRun site s.1 i).2)

/-- The call is the first one that sees a connection. -/
def Connects (s : HttpSocket × Link) (i : Input) : Prop := i.sr = .established ∧ s.2.up = false

/-- A new connection finds the server as it was at the beginning. -/
def StartsClean (s : HttpSocket × Link) (i : Input) : Prop := Connects s i → Clean s.1

/-- The connection before a new one has been left settled. -/
def LeftSettled (s : HttpSocket × Link) (i : Input) : Prop := Connects s i → s.2.settled = true

/-- The server between its calls: only the states of the table occur, idle is clean, and is where
a connection has been settled. -/
structure Resting (s : HttpSocket × Link) : Prop where
  reached : s.1.sockStatus = .idle ∨ s.1.sockStatus = .resInproc ∨ s.1.sockStatus = .resDone
  clean : s.1.sockStatus = .idle → Clean s.1
  settled : s.2.settled = true ↔ s.1.sockStatus = .idle

lemma sendPart_sockStatus (h : HttpSocket) (part : List Byte) (last : Bool) :
    (sendPart h part last).1.sockStatus = h.sockStatus := by
  simp only [sendPart]
  split <;> rfl

lemma sendHttpResponseBody_sockStatus (h : HttpSocket) (start len : ℕ) :
    (sendHttpResponseBody site h start len).1.sockStatus = h.sockStatus := by
  simp only [sendHttpResponseBody]
  split
  · split
    · rw [sendPart_sockStatus]
    · rw [sendPart_sockStatus]
  · split
    · rw [sendPart_sockStatus]
    · rw [sendPart_sockStatus]

/-- A call that sees the connection leaves the server idle exactly where it settles it. -/
lemma httpEstablished_idle {h : HttpSocket} (i : Input)
    (hreached : h.sockStatus = .idle ∨ h.sockStatus = .resInproc ∨ h.sockStatus = .resDone) :
    (httpEstablished site h i.asked).1.sockStatus = .idle ↔ Settles h i := by
  rcases hreached with hs | hs | hs
  · cases hasked : i.asked with
    | none => simp [httpEstablished, Settles, hs, hasked]
    | some asked =>
      simp only [httpEstablished, Settles, hs, hasked]
      split <;> simp
  · simp only [httpEstablished, Settles, hs]
    split <;> simp [sendHttpResponseBody_sockStatus, hs]
  · simp [httpEstablished, Settles, hs]

lemma httpEstablished_reached {h : HttpSocket} (asked : Option Asked)
    (hreached : h.sockStatus = .idle ∨ h.sockStatus = .resInproc ∨ h.sockStatus = .resDone) :
    (httpEstablished site h asked).1.sockStatus = .idle ∨
      (httpEstablished site h asked).1.sockStatus = .resInproc ∨
      (httpEstablished site h asked).1.sockStatus = .resDone := by
  rcases hreached with hs | hs | hs
  · cases asked with
    | none => simp [httpEstablished, hs]
    | some asked =>
      simp only [httpEstablished, hs]
      split <;> simp
  · simp only [httpEstablished, hs]
    split <;> simp [sendHttpResponseBody_sockStatus, hs]
  · simp [httpEstablished, hs]

lemma httpEstablished_clean {h : HttpSocket} (i : Input) (hclean : h.sockStatus = .idle → Clean h)
    (hsettles : Settles h i) : Clean (httpEstablished site h i.asked).1 := by
  rcases hsettles with hs | ⟨hs, hasked⟩
  · simp only [httpEstablished, hs]
    exact ⟨rfl, rfl, rfl, rfl⟩
  · simp only [httpEstablished, hs, hasked]
    exact hclean hs

/-- Without a connection nothing changes. -/
lemma httpServerRun_away (h : HttpSocket) {i : Input} (hsr : i.sr ≠ .established) :
    (httpServerRun site h i).1 = h := by
  cases hi : i.sr <;> simp_all [httpServerRun]

lemma httpServerRun_established (h : HttpSocket) {i : Input} (hsr : i.sr = .established) :
    httpServerRun site h i = httpEstablished site h i.asked := by
  rw [httpServerRun, hsr]

lemma resting_step {s : HttpSocket × Link} (h : Resting s) (i : Input) :
    Resting (linked site s i).1 := by
  by_cases hsr : i.sr = .established
  · have hidle := httpEstablished_idle site i h.reached
    simp only [linked, Link.next, if_pos hsr, httpServerRun_established site s.1 hsr]
    constructor
    · exact httpEstablished_reached site i.asked h.reached
    · exact fun hs => httpEstablished_clean site i h.clean (hidle.1 hs)
    · simpa using hidle.symm
  · simp only [linked, Link.next, if_neg hsr, httpServerRun_away site s.1 hsr]
    exact ⟨h.reached, h.clean, h.settled⟩

lemma startsClean_iff {s : HttpSocket × Link} (h : Resting s) (i : Input) :
    StartsClean s i ↔ LeftSettled s i := by
  apply imp_congr_right
  intro _
  rw [h.settled]
  exact ⟨fun hclean => hclean.sockStatus, h.clean⟩

def start : HttpSocket × Link := (boot, ⟨false, true⟩)

lemma resting_start : Resting start :=
  ⟨.inl rfl, fun _ => ⟨rfl, rfl, rfl, rfl⟩, by simp [start, boot]⟩

lemma each_startsClean (calls : List Input) :
    (linked site).Each start calls StartsClean ↔ (linked site).Each start calls LeftSettled := by
  apply Machine.each_congr Resting
  · exact resting_start
  · intro s i _ h _
    exact resting_step site h i
  · intro s i _ h
    exact startsClean_iff h i

/-- The connections of a run start clean exactly where each one that is followed by another has been
settled by the last call that saw it. -/
theorem connections_start_clean (calls : List Input) :
    (linked site).Each start calls StartsClean ↔ (linked site).Each start calls LeftSettled :=
  each_startsClean site calls

def page : WebContent := ⟨List.replicate 3000 65, by decide +kernel, by decide +kernel⟩

/-- The peer closes while the page is being sent, and connects again. -/
def interrupted : List Input :=
  [⟨.established, some (.content 0), 2047⟩, ⟨.closeWait, none, 0⟩, ⟨.closed, none, 0⟩,
    ⟨.init, none, 0⟩]

theorem connection_starts_inproc :
    ¬ ∀ site calls, (linked site).Each start calls StartsClean := by
  intro hall
  let again : Input := ⟨.established, some .notFound, 0⟩
  have hclean := hall [page] (interrupted ++ [again]) interrupted again [] rfl
    ⟨rfl, by decide +kernel⟩
  exact absurd hclean.sockStatus (by decide +kernel)

end IoLibrary.Http
