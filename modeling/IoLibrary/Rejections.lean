import IoLibrary.Chips
import IoLibrary.Gate

/-! Calls that are rejected for their arguments, and what they have done by then. -/
namespace IoLibrary.Rejections
open Effects Gate

/-- The results that reject a call. -/
def Rejects (r : ℤ) : Prop :=
  r ∈ [sockerrSocknum, sockerrSockmode, sockerrSockflag, sockerrArg, sockerrIpinvalid,
    sockerrPortzero, sockerrSockopt]

instance (r : ℤ) : Decidable (Rejects r) := inferInstanceAs (Decidable (r ∈ _))

abbrev Accepts (r : ℤ) : Prop := ¬ Rejects r

lemma accepts_of_nonneg {r : ℤ} (h : 0 ≤ r) : Accepts r := by
  have hneg : ∀ e ∈ [sockerrSocknum, sockerrSockmode, sockerrSockflag, sockerrArg, sockerrIpinvalid,
      sockerrPortzero, sockerrSockopt], e < 0 := by decide
  exact fun hr => absurd h (Int.not_le.2 (hneg r hr))

section results
variable {α : Type} {P : α → Prop} {b : Build} {sn : ℕ}

lemma gives_faultedTimeout : Gives Accepts (faultedTimeout sn) := gives_then fun _ => show Accepts sockerrTimeout by decide

lemma gives_waitRegister (a : Addr) (wanted : Byte) (d : ℕ) :
    Gives Accepts (waitRegister b sn a wanted d) := by
  refine gives_then fun poll => gives_pollLoop (gives_then fun v => ?_) gives_faultedTimeout
  exact gives_ite (fun _ => looked_result (by decide)) fun _ => nofun

lemma gives_crOrTimeoutLook :
    Gives (fun r => ∀ a, r = some a → Accepts a) (crOrTimeoutLook b sn) := by
  refine gives_then fun cr => gives_ite (fun _ => looked_result (by decide)) fun _ => ?_
  exact gives_then fun late => gives_ite (fun _ => looked_result (by decide)) fun _ => nofun

lemma gives_waitDatagramCrAccepted (timeout : ℕ) (nonblocking : Bool) :
    Gives Accepts (waitDatagramCrAccepted b sn timeout nonblocking) := by
  refine gives_bind gives_crOrTimeoutLook fun r hr => ?_
  cases r with
  | some r => exact hr r rfl
  | none =>
    refine gives_ite (fun _ => show Accepts sockBusy by decide) fun _ => ?_
    refine gives_then fun d => gives_then fun poll => ?_
    exact gives_pollLoop gives_crOrTimeoutLook gives_faultedTimeout

/-- A size read has a size, or an error that rejects nothing. -/
lemma gives_stableSize (a : Addr) :
    Gives (fun r => ∀ e, r = .error e → Accepts e) (stableSize b a) := by
  have io : ∀ r : Except ℤ ℕ, some (Except.error sockerrIo) = some r → ∀ e, r = .error e → Accepts e := by
    rintro _ ⟨⟩ _ ⟨⟩
    decide
  have size (n : ℕ) : ∀ r : Except ℤ ℕ, some (Except.ok n) = some r → ∀ e, r = .error e → Accepts e := by
    rintro _ ⟨⟩ _ ⟨⟩
  have expired : ∀ e : ℤ, (Except.error sockerrDeadline : Except ℤ ℕ) = .error e → Accepts e := by
    rintro _ ⟨⟩
    decide
  refine gives_then fun opened => gives_clockLoop ?_ expired
  refine gives_then fun first => ?_
  cases first with
  | none => exact io
  | some first =>
    refine gives_then fun second => ?_
    cases second with
    | none => exact io
    | some second =>
      refine gives_ite (fun _ => size second) fun _ => gives_then fun third => ?_
      cases third with
      | none => exact io
      | some third => exact gives_ite (fun _ => size third) fun _ => nofun

lemma gives_closeCommand (d : ℕ) : Gives Accepts (closeCommand b sn d) := by
  have ok : Accepts sockOk := by decide
  refine gives_then fun m => gives_ite (fun _ => ok) fun _ => gives_then fun sr => ?_
  refine gives_ite (fun _ => ok) fun _ => gives_then fun _ => ?_
  refine gives_bind (gives_waitRegister _ _ _) fun r hr => gives_ite (fun _ => hr) fun _ => ?_
  exact gives_then fun _ => gives_waitRegister _ _ _

lemma gives_closeInternal (hsn : sn < sockNum) (d : ℕ) : Gives Accepts (closeInternal b sn d) := by
  have clear {r : ℤ} (hr : Accepts r) : Gives Accepts (closeClearState sn r) := by
    refine gives_then fun _ => gives_ite (fun _ => gives_then fun _ => hr) fun _ => hr
  refine gives_ite (fun hle => absurd hsn (Nat.not_lt.2 hle)) fun _ => gives_ite (fun _ => ?_) fun _ => ?_
  · refine gives_then fun m => gives_then fun d => ?_
    cases d with
    | none => exact clear (by decide)
    | some d => exact gives_bind (gives_closeCommand d) fun r hr => clear hr
  · exact gives_bind (gives_closeCommand d) fun r hr => clear hr

lemma gives_socketLocked (hsn : sn < sockNum) (protocol flag status : Byte) (port : ℕ) :
    Gives Accepts (socketLocked b sn protocol flag port status) := by
  have command (d : ℕ) : Gives Accepts (socketOpenClosed.openCommand b sn protocol flag port d) := by
    refine gives_then fun _ => gives_then fun _ => gives_then fun _ => ?_
    refine gives_bind (gives_waitRegister _ _ _) fun r hr => gives_ite (fun _ => hr) fun _ => ?_
    refine gives_bind (gives_waitRegister _ _ _) fun r hr => gives_ite (fun _ => hr) fun _ => ?_
    exact gives_then fun _ => accepts_of_nonneg (Int.natCast_nonneg sn)
  have opens (d : ℕ) : Gives Accepts (socketOpenClosed b sn protocol flag port d) := by
    refine gives_ite (fun _ => gives_then fun sipr => ?_) fun _ => command d
    exact gives_ite (fun _ => show Accepts sockerrSockinit by decide) fun _ => command d
  refine gives_then fun m => gives_ite (fun _ => show Accepts sockerrNotready by decide) fun _ => ?_
  refine gives_then fun d => ?_
  cases d with
  | none => exact show Accepts sockerrTimeout by decide
  | some d =>
    refine gives_then fun sr => gives_ite (fun _ => opens d) fun _ => ?_
    refine gives_ite (fun _ => show Accepts sockerrSockstatus by decide) fun _ => ?_
    refine gives_bind (gives_closeInternal hsn d) fun r hr => ?_
    exact gives_ite (fun _ => hr) fun _ => opens d

lemma gives_listenLocked : Gives Accepts (listenLocked b sn) := by
  refine gives_then fun m => gives_ite (fun _ => show Accepts sockerrIo by decide) fun _ => ?_
  refine gives_then fun sr => gives_ite (fun _ => show Accepts sockerrSockinit by decide) fun _ => ?_
  refine gives_then fun m => gives_then fun d => ?_
  cases d with
  | none => exact show Accepts sockerrTimeout by decide
  | some d =>
    refine gives_then fun _ => gives_bind (gives_waitRegister _ _ _) fun r hr => ?_
    exact gives_ite (fun _ => hr) fun _ => gives_waitRegister _ _ _

lemma gives_faultedIo : Gives Accepts (faultedIo sn) :=
  gives_then fun _ => show Accepts sockerrIo by decide

lemma gives_connectLook : Gives (fun r => ∀ a, r = some a → Accepts a) (connectLook b sn) := by
  refine gives_then fun sr => gives_ite (fun _ => looked_result (by decide)) fun _ => ?_
  refine gives_then fun late => gives_ite (fun _ => looked_result (by decide)) fun _ => ?_
  exact gives_ite (fun _ => looked_result (by decide)) fun _ => nofun

lemma gives_disconnectFinish : Gives Accepts (disconnectFinish b sn) := by
  refine gives_then fun _ => gives_then fun m => ?_
  refine gives_ite (fun _ => show Accepts sockerrTimeout by decide) fun _ => gives_then fun d => ?_
  refine gives_clockLoop (gives_then fun sr => ?_) gives_faultedIo
  refine gives_ite (fun _ => looked_result (by decide)) fun _ => gives_then fun late => ?_
  exact gives_ite (fun _ => gives_then fun _ => looked_result (by decide)) fun _ => nofun

lemma gives_disconnectCommand : Gives Accepts (disconnectCommand b sn) := by
  refine gives_then fun _ => gives_then fun m => ?_
  refine gives_ite (fun _ => show Accepts sockerrTimeout by decide) fun _ => gives_then fun d => ?_
  exact gives_waitRegister _ _ _

/-- The error of a wait is accepted. -/
abbrev ErrorAccepted {β : Type} (r : Except ℤ β) : Prop := ∀ e, r = .error e → Accepts e

lemma error_accepted {β : Type} {e : ℤ} (he : Accepts e) : ErrorAccepted (.error e : Except ℤ β) := by
  rintro _ ⟨⟩
  exact he

lemma looked_error {β : Type} {e : ℤ} (he : Accepts e) :
    ∀ r : Except ℤ β, some (.error e) = some r → ErrorAccepted r :=
  looked_result (error_accepted he)

lemma looked_ok {β : Type} (v : β) : ∀ r : Except ℤ β, some (.ok v) = some r → ErrorAccepted r :=
  looked_result fun _ => nofun

lemma gives_sendReady (buf : List Byte) (len : ℕ) :
    Gives Accepts (sendReady b sn buf len) := by
  have free (len : ℕ) (nonblocking : Bool) :
      Gives (fun r => ∀ a, r = some a → ErrorAccepted a) (freeLook b sn len nonblocking) := by
    refine gives_bind (gives_stableSize _) fun r hr => ?_
    cases r with
    | error e => exact looked_error (hr e rfl)
    | ok size =>
      refine gives_then fun sr => gives_ite (fun _ => gives_ite (fun _ => ?_) fun _ => ?_) fun _ => ?_
      · exact gives_then fun _ => looked_error (by decide)
      · exact looked_error (by decide)
      · refine gives_ite (fun _ => looked_error (by decide)) fun _ => ?_
        exact gives_ite (fun _ => looked_ok ()) fun _ => nofun
  refine gives_then fun m => gives_then fun d => gives_bind (P := ErrorAccepted) ?_ fun r hr => ?_
  · exact gives_then fun poll => gives_pollLoop (free _ _) (error_accepted (by decide))
  · cases r with
    | error e => exact hr e rfl
    | ok _ =>
      refine gives_then fun _ => gives_then fun _ => gives_then fun d => ?_
      refine gives_bind (gives_waitRegister _ _ _) fun r hr => ?_
      refine gives_ite (fun _ => gives_then fun _ => hr) fun _ => gives_then fun _ => ?_
      exact accepts_of_nonneg (Int.natCast_nonneg _)

lemma gives_sentLook (nonblocking : Bool) :
    Gives (fun r => ∀ a, r = some a → ErrorAccepted a) (sentLook b sn nonblocking) := by
  refine gives_then fun ir => gives_ite (fun _ => ?_) fun _ => gives_ite (fun _ => ?_) fun _ => ?_
  · exact gives_then fun _ => gives_then fun _ => looked_ok ()
  · exact gives_then fun _ => gives_then fun _ => looked_error (by decide)
  · refine gives_then fun sr => gives_ite (fun _ => gives_then fun _ => looked_error ?_) fun _ => ?_
    · split <;> decide
    · exact gives_ite (fun _ => looked_error (by decide)) fun _ => nofun

lemma gives_sendWaitSent (nonblocking : Bool) (d : ℕ) :
    Gives ErrorAccepted (sendWaitSent b sn nonblocking d) := by
  refine gives_then fun poll => gives_pollLoop (gives_sentLook nonblocking) ?_
  exact gives_bind gives_faultedTimeout fun e he => error_accepted he

lemma gives_recvWait (nonblocking : Bool) (d : ℕ) :
    Gives ErrorAccepted (recvWait b sn nonblocking d) := by
  refine gives_then fun poll => gives_pollLoop ?_ (error_accepted (by decide))
  refine gives_bind (gives_stableSize _) fun r hr => ?_
  cases r with
  | error e => exact looked_error (hr e rfl)
  | ok size =>
    refine gives_then fun sr => gives_ite (fun _ => gives_ite (fun _ => looked_ok size) fun _ => ?_)
      fun _ => gives_ite (fun _ => ?_) fun _ => ?_
    · refine gives_bind (gives_stableSize _) fun r hr => ?_
      cases r with
      | error e => exact looked_error (hr e rfl)
      | ok free =>
        refine gives_then fun m => gives_ite (fun _ => ?_) fun _ => nofun
        exact gives_then fun _ => looked_error (by decide)
    · exact gives_then fun _ => looked_error (by decide)
    · refine gives_ite (fun _ => looked_ok size) fun _ => ?_
      exact gives_ite (fun _ => looked_error (by decide)) fun _ => nofun

lemma gives_recvCommit (len timeout : ℕ) :
    Gives (fun r => Accepts r.1) (recvCommit b sn len timeout) := by
  refine gives_then fun data => gives_then fun _ => gives_then fun d => ?_
  refine gives_bind (gives_waitRegister _ _ _) fun r hr => ?_
  refine gives_ite (fun _ => gives_then fun _ => hr) fun _ => ?_
  exact accepts_of_nonneg (Int.natCast_nonneg _)

lemma gives_sendtoWaitFree (len : ℕ) (isMacraw nonblocking : Bool) (timeout : ℕ) :
    Gives ErrorAccepted (sendtoWaitFree b sn len isMacraw nonblocking timeout) := by
  refine gives_ite (fun _ => gives_then fun sr => ?_) fun _ => ?_
  · change ErrorAccepted (if sr = sockClosed then .error sockerrSockclosed else .ok ())
    split
    · exact error_accepted (by decide)
    · exact nofun
  · refine gives_then fun d => gives_then fun poll =>
      gives_pollLoop ?_ (error_accepted (by decide))
    refine gives_bind (gives_stableSize _) fun r hr => ?_
    cases r with
    | error e => exact looked_error (hr e rfl)
    | ok size =>
      refine gives_then fun sr => gives_ite (fun _ => looked_error (by decide)) fun _ => ?_
      refine gives_ite (fun _ => looked_ok ()) fun _ => ?_
      exact gives_ite (fun _ => looked_error (by decide)) fun _ => nofun

lemma gives_sendtoCommit (data : List Byte) (nonblocking : Bool) :
    Gives Accepts (sendtoCommit b sn data nonblocking) := by
  have sent : Gives (fun r => ∀ a, r = some a → Accepts a) (sendtoSentLook b sn data.length) := by
    refine gives_then fun ir => gives_ite (fun _ => gives_then fun _ => ?_) fun _ => ?_
    · exact looked_result (accepts_of_nonneg (Int.natCast_nonneg _))
    · exact gives_ite (fun _ => gives_then fun _ => looked_result (by decide)) fun _ => nofun
  refine gives_then fun _ => gives_then fun _ => gives_then fun _ => gives_then fun m => ?_
  refine gives_then fun d => ?_
  cases d with
  | none => exact gives_then fun _ => show Accepts sockerrTimeout by decide
  | some d =>
    refine gives_bind (gives_waitRegister _ _ _) fun r hr => ?_
    refine gives_ite (fun _ => gives_then fun _ => hr) fun _ => gives_then fun _ => ?_
    refine gives_ite (fun _ => gives_then fun _ => show Accepts sockBusy by decide) fun _ => ?_
    exact gives_then fun d => gives_then fun poll => gives_pollLoop sent gives_faultedTimeout

lemma gives_sendtoPending : Gives Accepts (sendtoPending b sn) := by
  refine gives_then fun ir => gives_ite (fun _ => gives_then fun _ => ?_) fun _ => ?_
  · exact gives_then fun m => gives_then fun _ => accepts_of_nonneg (Int.natCast_nonneg _)
  · refine gives_ite (fun _ => gives_then fun _ => gives_then fun _ => ?_) fun _ => ?_
    · exact show Accepts sockerrTimeout by decide
    · exact show Accepts sockBusy by decide

lemma gives_recvfromWait (nonblocking : Bool) (d : ℕ) :
    Gives ErrorAccepted (recvfromWait b sn nonblocking d) := by
  refine gives_then fun poll => gives_pollLoop ?_ (error_accepted (by decide))
  refine gives_bind (gives_stableSize _) fun r hr => ?_
  cases r with
  | error e => exact looked_error (hr e rfl)
  | ok size =>
    refine gives_then fun sr => gives_ite (fun _ => looked_error (by decide)) fun _ => ?_
    refine gives_ite (fun _ => looked_ok size) fun _ => ?_
    exact gives_ite (fun _ => looked_error (by decide)) fun _ => nofun

/-- What recvfrom returns is accepted. -/
abbrev ReceivedAccepted (out : Received) : Prop := Accepts out.ret

lemma gives_recvHeader (n : ℕ) (nonblocking : Bool) :
    Gives (fun r => Accepts r.1) (recvHeader b sn n nonblocking) :=
  gives_then fun _ => gives_then fun _ => gives_then fun _ =>
    gives_bind (gives_waitDatagramCrAccepted _ _) fun _ hr => hr

lemma gives_recvfromFinish (n : ℕ) (nonblocking : Bool) (out : Received) :
    Gives ReceivedAccepted (recvfromFinish b sn n nonblocking out) := by
  refine gives_then fun _ => gives_then fun m => ?_
  refine gives_bind (gives_waitDatagramCrAccepted _ _) fun r hr => gives_ite (fun _ => hr) fun _ => ?_
  exact gives_then fun _ => accepts_of_nonneg (Int.natCast_nonneg n)

lemma gives_recvfromChunk (len : ℕ) (nonblocking : Bool) (out : Received) :
    Gives ReceivedAccepted (recvfromChunk b sn len nonblocking out) :=
  gives_then fun _ => gives_then fun _ => gives_recvfromFinish _ _ _

lemma gives_recvfromPacket (len packLen : ℕ) (mode : Byte) (nonblocking : Bool) :
    Gives ReceivedAccepted (recvfromPacket b sn len packLen mode nonblocking true) := by
  have payload (out : Received) :
      Gives ReceivedAccepted (recvfromIpraw.payload b sn len packLen nonblocking out) := by
    refine gives_then fun m => gives_ite (fun _ => gives_recvfromChunk _ _ _) fun _ => ?_
    exact gives_recvfromFinish _ _ _
  have fatal : Gives ReceivedAccepted (do
      let _ ← closeInternal b sn 0
      return ({ ret := sockfatalPacklen } : Received)) :=
    gives_then fun _ => show Accepts sockfatalPacklen by decide
  refine gives_ite (fun h => absurd rfl h) fun _ => gives_ite (fun _ => ?_) fun _ =>
    gives_ite (fun _ => ?_) fun _ => ?_
  · refine gives_then fun m => gives_ite (fun _ => ?_) fun _ => gives_recvfromChunk _ _ _
    refine gives_bind (gives_recvHeader _ _) fun r hr => gives_ite (fun _ => hr) fun _ => ?_
    exact gives_then fun _ => gives_recvfromChunk _ _ _
  · refine gives_then fun m => gives_ite (fun _ => ?_) fun _ => gives_recvfromChunk _ _ _
    refine gives_bind (gives_recvHeader _ _) fun r hr => gives_ite (fun _ => hr) fun _ => ?_
    refine gives_then fun _ => gives_ite (fun _ => fatal) fun _ => gives_then fun _ => ?_
    exact gives_ite (fun _ => fatal) fun _ => gives_then fun _ => gives_recvfromChunk _ _ _
  · refine gives_then fun m => gives_ite (fun _ => ?_) fun _ => payload _
    refine gives_bind (gives_recvHeader _ _) fun r hr => gives_ite (fun _ => hr) fun _ => ?_
    exact gives_then fun _ => payload _

end results

section kept
variable {α : Type} {ret : α → ℤ} {b : Build} {sn : ℕ} {g g₀ : Globals} {t t₁ : IoTrace}

/-- A rejection leaves everything as it was at `g₀`, `t`. -/
abbrev WpKept (ret : α → ℤ) (g₀ : Globals) (t : IoTrace) (p : Drv α) (g : Globals) (t₁ : IoTrace) :
    Prop :=
  wpg (traceEnv fun _ _ _ => True) p
    (fun r g' t' => Rejects (ret r) → Clean t t' ∧ g'.sock = g₀.sock) (fun _ _ => True) g t₁

lemma kept_of_gives {p : Drv α} (h : Gives (fun r => Accepts (ret r)) p) :
    WpKept ret g₀ t p g t₁ :=
  wpv_mono (wpv_of_gives h) (fun _ _ _ hr hr' => absurd hr' hr) fun _ _ => id

lemma kept_pure {r : α} (h : Clean t t₁) (hg : g.sock = g₀.sock) :
    WpKept ret g₀ t (pure r) g t₁ := fun _ => ⟨h, hg⟩

lemma kept_locked {body : Drv α} (h : ∀ t₁, Clean t t₁ → WpKept ret g₀ t body g t₁)
    (ht₁ : Clean t t₁) : WpKept ret g₀ t (locked sn body) g t₁ := by
  have hlock : ¬ Writes (.sockLock sn) := id
  have hunlock : ¬ Writes (.sockUnlock sn) := id
  refine (wpg_locked sn body).2 ?_
  rintro x _ ⟨-, rfl⟩
  refine wpv_mono (h _ (ht₁.snoc hlock)) ?_ fun _ _ => id
  rintro r g' t' hr y _ ⟨-, rfl⟩ hrejects
  exact ⟨(hr hrejects).1.snoc hunlock, (hr hrejects).2⟩

lemma gives_locked {P : α → Prop} {body : Drv α} (h : Gives P body) : Gives P (locked sn body) :=
  gives_then fun _ => gives_bind h fun _ ha => gives_then fun _ => ha

/-- What only reads does not reject, or rejects with everything as it was. -/
lemma kept_wizchipRead {a : Addr} {f : Byte → Drv α} (ht₁ : Clean t t₁)
    (h : ∀ v t₁, Clean t t₁ → WpKept ret g₀ t (f v) g t₁) :
    WpKept ret g₀ t (wizchipRead b a >>= f) g t₁ := by
  have hread : ¬ Writes (.read8 a) := id
  refine (wpv_bind _ _).2 ((wpg_wizchipRead b a).2 ?_)
  rintro x _ ⟨-, rfl⟩
  exact h _ _ (ht₁.snoc hread)

lemma kept_get {f : Driver → Drv α} (h : ∀ m, m.toGlobals = g → WpKept ret g₀ t (f m) g t₁) :
    WpKept ret g₀ t (Prog.get >>= f) g t₁ := (wpv_bind _ _).2 (wpv_get.2 h)

lemma kept_ite {c : Prop} [Decidable c] {p q : Drv α} (hp : c → WpKept ret g₀ t p g t₁)
    (hq : ¬ c → WpKept ret g₀ t q g t₁) : WpKept ret g₀ t (if c then p else q) g t₁ :=
  (wpv_ite _ _ _).2 ⟨hp, hq⟩

/-- An exit whose result rejects nothing. -/
lemma kept_accepted {r : α} (h : Accepts (ret r)) : WpKept ret g₀ t (pure r) g t₁ :=
  fun hr => absurd hr h

lemma kept_socket (protocol flag : Byte) (port : ℕ) (ht₁ : Clean t t₁) (hg : g.sock = g₀.sock) :
    WpKept id g₀ t (socket b sn protocol port flag) g t₁ := by
  unfold socket
  cases hcheck : socketArgCheck sn protocol flag with
  | some e => exact kept_pure ht₁ hg
  | none =>
    refine kept_of_gives (gives_then fun m => gives_ite (fun _ => gives_then fun _ => ?_) fun _ => ?_)
    · exact show Accepts sockerrNotready by decide
    · exact gives_then fun status => gives_then fun port =>
        gives_locked (gives_socketLocked (lt_of_socketArgCheck hcheck) _ _ _ _)

lemma kept_close (ht₁ : Clean t t₁) (hg : g.sock = g₀.sock) : WpKept id g₀ t (close b sn) g t₁ :=
  kept_ite (fun _ => kept_pure ht₁ hg) fun hsn =>
    kept_of_gives (gives_locked (gives_closeInternal (Nat.not_le.1 hsn) 0))

lemma kept_listen (ht₁ : Clean t t₁) (hg : g.sock = g₀.sock) : WpKept id g₀ t (listen b sn) g t₁ :=
  kept_ite (fun _ => kept_pure ht₁ hg) fun _ => kept_of_gives (gives_locked gives_listenLocked)

lemma kept_connect (addr : Option (Vector Byte 4)) (port addrlen : ℕ) (ht₁ : Clean t t₁)
    (hg : g.sock = g₀.sock) : WpKept id g₀ t (connect b sn addr port addrlen) g t₁ := by
  refine kept_ite (fun _ => kept_pure ht₁ hg) fun _ => ?_
  cases addr with
  | none => exact kept_pure ht₁ hg
  | some addr =>
    refine kept_ite (fun _ => kept_pure ht₁ hg) fun _ => kept_ite (fun _ => kept_pure ht₁ hg) fun _ => ?_
    refine kept_ite (fun _ => kept_pure ht₁ hg) fun _ => kept_locked (fun t₁ ht₁ => ?_) ht₁
    refine kept_get fun m hm => kept_ite (fun _ => kept_accepted (by decide)) fun _ => ?_
    refine kept_ite (fun _ => kept_accepted (by decide)) fun _ => ?_
    refine kept_ite (fun _ => kept_pure ht₁ hg) fun _ => kept_wizchipRead ht₁ fun sr t₁ ht₁ => ?_
    refine kept_ite (fun _ => kept_accepted (by decide)) fun _ => ?_
    refine kept_ite (fun _ => kept_pure ht₁ hg) fun _ => kept_of_gives ?_
    refine gives_then fun _ => gives_then fun _ => gives_then fun _ => gives_then fun m => ?_
    refine gives_ite (fun _ => show Accepts sockerrTimeout by decide) fun _ => gives_then fun d => ?_
    refine gives_bind (gives_waitRegister _ _ _) fun r hr => gives_ite (fun _ => hr) fun _ => ?_
    exact gives_then fun d => gives_clockLoop gives_connectLook gives_faultedIo

lemma kept_disconnect (ht₁ : Clean t t₁) (hg : g.sock = g₀.sock) :
    WpKept id g₀ t (disconnect b sn) g t₁ := by
  refine kept_ite (fun _ => kept_pure ht₁ hg) fun _ => kept_locked (fun t₁ ht₁ => ?_) ht₁
  refine kept_get fun m hm => kept_ite (fun _ => kept_accepted (by decide)) fun _ => ?_
  refine kept_ite (fun _ => kept_accepted (by decide)) fun _ => ?_
  refine kept_ite (fun _ => kept_pure ht₁ hg) fun _ => kept_of_gives (gives_then fun sr => ?_)
  refine gives_ite (fun _ => show Accepts sockOk by decide) fun _ => gives_ite (fun _ => ?_) fun _ =>
    gives_disconnectFinish
  refine gives_bind gives_disconnectCommand fun r hr => gives_ite (fun _ => hr) fun _ => ?_
  exact gives_disconnectFinish

lemma kept_send {len : ℕ} (buf : Option (Vector Byte len)) (ht₁ : Clean t t₁)
    (hg : g.sock = g₀.sock) : WpKept id g₀ t (send b sn len buf) g t₁ := by
  refine kept_ite (fun _ => kept_accepted (by decide)) fun _ => ?_
  cases buf with
  | none => exact kept_pure ht₁ hg
  | some buf =>
    refine kept_ite (fun _ => kept_pure ht₁ hg) fun hsn => kept_get fun m hm => ?_
    refine kept_ite (fun _ => kept_accepted (by decide)) fun _ => kept_locked (fun t₁ ht₁ => ?_) ht₁
    refine kept_get fun m hm => kept_ite (fun _ => kept_accepted (by decide)) fun _ => ?_
    refine kept_ite (fun _ => kept_accepted (by decide)) fun _ => ?_
    refine kept_ite (fun _ => kept_pure ht₁ hg) fun _ => kept_of_gives (gives_then fun sr => ?_)
    have ready : Gives Accepts (sendReady b sn buf.toList len) := gives_sendReady _ _
    refine gives_ite (fun _ => show Accepts sockerrSockstatus by decide) fun _ =>
      gives_ite (fun _ => gives_then fun d => ?_) fun _ => ready
    refine gives_bind (gives_sendWaitSent _ _) fun r hr => ?_
    cases r with
    | error e => exact hr e rfl
    | ok _ => exact ready

lemma kept_recv (buf : Bool) (len : ℕ) (ht₁ : Clean t t₁) (hg : g.sock = g₀.sock) :
    WpKept Prod.fst g₀ t (recv b sn buf len) g t₁ := by
  refine kept_ite (fun _ => kept_accepted (by decide)) fun _ => ?_
  refine kept_ite (fun _ => kept_pure ht₁ hg) fun _ => kept_ite (fun _ => kept_pure ht₁ hg) fun _ => ?_
  refine kept_get fun m hm => kept_ite (fun _ => kept_accepted (by decide)) fun _ =>
    kept_locked (fun t₁ ht₁ => ?_) ht₁
  refine kept_get fun m hm => kept_ite (fun _ => kept_accepted (by decide)) fun _ => ?_
  refine kept_ite (fun _ => kept_accepted (by decide)) fun _ => ?_
  refine kept_ite (fun _ => kept_pure ht₁ hg) fun _ => kept_of_gives (gives_then fun d => ?_)
  refine gives_bind (gives_recvWait _ _) fun r hr => ?_
  cases r with
  | error e => exact hr e rfl
  | ok size => exact gives_recvCommit _ _

/-- The wait of recvfrom reads only. -/
lemma kept_recvfromWait {f : Except ℤ ℕ → Drv α} (nonblocking : Bool) (d : ℕ) (ht₁ : Clean t t₁)
    (h : ∀ r t₁, ErrorAccepted r → Clean t t₁ → WpKept ret g₀ t (f r) g t₁) :
    WpKept ret g₀ t (recvfromWait b sn nonblocking d >>= f) g t₁ := by
  have hsize : ¬ Writes (.readBuf (Reg.snRXRSR sn) 2) := id
  have hstatus : ¬ Writes (.read8 (Reg.snSR sn)) := id
  have reads : wpg (traceEnv fun _ _ _ => True) (recvfromWait b sn nonblocking d)
      (fun _ g' t' => g' = g ∧ Clean t t') (fun _ _ => True) g t₁ := by
    simp only [recvfromWait, wpv_bind]
    refine timed_waitPollInit.wpg ticks_clean ht₁ fun poll w hw => ?_
    refine wpg_pollLoop ticks_clean hw (fun w hw => ?_) (fun w hw => ⟨rfl, hw⟩) fun _ _ => trivial
    simp only [recvfromLook, readSnRxRsr, getSnRXRSRStable, wpv_bind]
    refine wpg_stableSize ticks_clean hw b _ (fun w x _ hw hx => ?_) (fun w hw => ⟨rfl, hw⟩)
      fun _ _ => trivial
    obtain ⟨-, rfl⟩ := hx
    have hw₁ := hw.snoc (v := ⟨g, _, x⟩) hsize
    refine ⟨fun _ => ⟨hw₁, ?_⟩, fun _ => ⟨rfl, hw₁⟩⟩
    simp only [wpv_bind, wpg_getSnSR, wpv_ite, wpv_pure, looked_some, looked_none]
    rintro y _ ⟨-, rfl⟩
    have hw₂ := hw₁.snoc (v := ⟨g, _, y⟩) hstatus
    exact ⟨fun _ => ⟨trivial, hw₂⟩, fun _ => ⟨fun _ => ⟨trivial, hw₂⟩, fun _ =>
      ⟨fun _ => ⟨trivial, hw₂⟩, fun _ => ⟨trivial, hw₂⟩⟩⟩⟩
  have both := wpv_and reads (wpv_of_gives (gives_recvfromWait (b := b) nonblocking d))
  refine (wpv_bind _ _).2 (wpv_mono both ?_ fun _ _ _ => trivial)
  rintro r _ t' ⟨⟨rfl, ht'⟩, hr⟩
  exact h r t' hr ht'

lemma kept_recvfrom (buf : Bool) (len : ℕ) (addrPort : Bool) (ht₁ : Clean t t₁)
    (hg : g.sock = g₀.sock) : WpKept Received.ret g₀ t (recvfrom b sn buf len addrPort) g t₁ := by
  have packet {t₁ : IoTrace} (ht₁ : Clean t t₁) (packLen : ℕ) (mode : Byte) (nonblocking : Bool) :
      WpKept Received.ret g₀ t (recvfromPacket b sn len packLen mode nonblocking addrPort) g t₁ := by
    cases addrPort with
    | true => exact kept_of_gives (gives_recvfromPacket _ _ _ _)
    | false => exact kept_pure ht₁ hg
  refine kept_ite (fun _ => kept_accepted (by decide)) fun _ => ?_
  refine kept_ite (fun _ => kept_pure ht₁ hg) fun _ => kept_ite (fun _ => kept_pure ht₁ hg) fun _ => ?_
  refine kept_locked (fun t₁ ht₁ => kept_get fun m hm => ?_) ht₁
  refine kept_ite (fun _ => kept_accepted (by decide)) fun _ => ?_
  refine kept_ite (fun _ => kept_accepted (by decide)) fun _ => ?_
  refine kept_ite (fun _ => kept_pure ht₁ hg) fun _ => kept_ite (fun _ => ?_) fun _ => packet ht₁ _ _ _
  refine (wpv_bind _ _).2 ((timed_deadlineAbs _).wpg ticks_clean ht₁ fun d t₂ ht₂ => ?_)
  refine kept_recvfromWait _ d ht₂ fun r t₃ hr ht₃ => ?_
  cases r with
  | error e => exact kept_accepted (hr e rfl)
  | ok size => exact packet ht₃ _ _ _

lemma kept_ctlsocket (cstype : CtlsockType) (arg : Option ArgMem) (ht₁ : Clean t t₁)
    (hg : g.sock = g₀.sock) : WpKept Prod.fst g₀ t (ctlsocket b sn cstype arg) g t₁ := by
  refine kept_ite (fun _ => kept_pure ht₁ hg) fun _ => ?_
  cases arg with
  | none => exact kept_pure ht₁ hg
  | some arg =>
    refine kept_locked (fun t₁ ht₁ => kept_get fun m hm => ?_) ht₁
    refine kept_ite (fun _ => kept_accepted (show Accepts sockOk by decide)) fun _ => ?_
    refine kept_ite (fun _ => kept_accepted (by decide)) fun _ => ?_
    have ok {out : ArgOut} : Gives (fun r => Accepts r.1) (answered out) :=
      show Accepts sockOk by decide
    cases cstype with
    | setIomode =>
      refine kept_ite (fun _ => kept_of_gives (gives_then fun _ => ok)) fun _ => ?_
      exact kept_ite (fun _ => kept_of_gives (gives_then fun _ => ok)) fun _ => kept_pure ht₁ hg
    | clrInterrupt | setIntmask =>
      exact kept_ite (fun _ => kept_pure ht₁ hg) fun _ => kept_of_gives (gives_then fun _ => ok)
    | getIomode | getMaxtxbuf | getMaxrxbuf => exact kept_of_gives ok
    | getInterrupt | getIntmask => exact kept_of_gives (gives_then fun _ => ok)
    | _ => exact kept_pure ht₁ hg

lemma kept_setsockopt (sotype : SockoptType) (arg : Option ArgMem) (ht₁ : Clean t t₁)
    (hg : g.sock = g₀.sock) : WpKept id g₀ t (setsockopt b sn sotype arg) g t₁ := by
  have ok : Gives Accepts (pure sockOk : Drv ℤ) := show Accepts sockOk by decide
  refine kept_ite (fun _ => kept_pure ht₁ hg) fun _ => kept_ite (fun _ => kept_pure ht₁ hg) fun _ => ?_
  refine kept_locked (fun t₁ ht₁ => kept_get fun m hm => ?_) ht₁
  refine kept_ite (fun _ => kept_accepted (by decide)) fun _ => ?_
  cases sotype with
  | ttl | tos | mss | destip | destport => exact kept_of_gives (gives_then fun _ => ok)
  | keepalivesend =>
    refine kept_get fun m hm => kept_ite (fun _ => kept_pure ht₁ hg) fun _ => ?_
    refine kept_wizchipRead ht₁ fun v t₁ ht₁ => kept_ite (fun _ => kept_pure ht₁ hg) fun _ => ?_
    refine kept_of_gives (gives_then fun m => gives_ite (fun _ => ?_) fun _ => ?_)
    · exact show Accepts sockerrTimeout by decide
    · exact gives_then fun d => gives_then fun poll => gives_then fun _ =>
        gives_pollLoop gives_crOrTimeoutLook gives_faultedTimeout
  | keepaliveauto =>
    exact kept_ite (fun _ => kept_pure ht₁ hg) fun _ => kept_of_gives (gives_then fun _ => ok)
  | _ => exact kept_pure ht₁ hg

lemma kept_getsockopt (sotype : SockoptType) (arg : Bool) (ht₁ : Clean t t₁)
    (hg : g.sock = g₀.sock) : WpKept Prod.fst g₀ t (getsockopt b sn sotype arg) g t₁ := by
  have ok {out : ArgOut} : Gives (fun r => Accepts r.1) (answered out) :=
    show Accepts sockOk by decide
  have size {read : Drv (Except ℤ ℕ)} : Gives (fun r => Accepts r.1) (sizeOption read) := by
    refine gives_then fun r => ?_
    cases r with
    | error e => exact show Accepts sockerrIo by decide
    | ok v => exact show Accepts sockOk by decide
  refine kept_ite (fun _ => kept_pure ht₁ hg) fun _ => kept_ite (fun _ => kept_pure ht₁ hg) fun _ => ?_
  refine kept_locked (fun t₁ ht₁ => kept_get fun m hm => ?_) ht₁
  refine kept_ite (fun _ => kept_accepted (by decide)) fun _ => ?_
  cases sotype with
  | flag | ttl | tos | mss | destip | destport | status =>
    exact kept_of_gives (gives_then fun _ => ok)
  | keepaliveauto =>
    exact kept_ite (fun _ => kept_pure ht₁ hg) fun _ => kept_of_gives (gives_then fun _ => ok)
  | sendbuf | recvbuf => exact kept_of_gives size
  | remainsize =>
    exact kept_of_gives (gives_then fun mode => gives_ite (fun _ => size) fun _ => ok)
  | packinfo =>
    have decided (mode : Byte) {t₁ : IoTrace} (ht₁ : Clean t t₁) : WpKept Prod.fst g₀ t
        (if mode &&& 0x0F = snMrTcp then pure (sockerrSockmode, ArgOut.none)
          else answered (.u8 (m.sock sn).packInfo)) g t₁ :=
      kept_ite (fun _ => kept_pure ht₁ hg) fun _ => kept_of_gives ok
    refine (wpv_bind _ _).2 ((wpv_bind _ _).2 (wpv_get.2 fun m' hm' => ?_))
    refine (wpv_ite _ _ _).2 ⟨fun _ => ?_, fun _ => decided _ ht₁⟩
    exact (wpv_bind _ _).1 (kept_wizchipRead ht₁ fun mode t₁ ht₁ => decided mode ht₁)
  | _ => exact kept_pure ht₁ hg

/-- Something has been written since `t`. -/
def Dirty (t t' : IoTrace) : Prop := ∃ added, t' = t ++ added ∧ ∃ v ∈ added, Writes v.call

lemma Dirty.not_clean {t' : IoTrace} (h : Dirty t t') : ¬ Clean t t' := by
  rintro ⟨events, rfl, hclean⟩
  obtain ⟨added, hadded, v, hv, hwrites⟩ := h
  obtain rfl := List.append_cancel_left hadded
  exact hclean v hv hwrites

lemma dirty_stays {p : Drv α} (h : Dirty t t₁) :
    wpg (traceEnv fun _ _ _ => True) p (fun _ _ t' => Dirty t t') (fun _ _ => True) g t₁ :=
  wpv_mono (wpv_adds h) (fun _ _ _ h => h) fun _ _ _ => trivial

/-- sendto gets past its mode and address length checks. -/
def PastAddress (sn : ℕ) (g : Globals) (addrlen : ℕ) : Prop :=
  ¬ AddressRefused (g.sock sn).mode addrlen

/-- A rejection of sendto comes before the first write or behind the address checks. -/
def Settled (t : IoTrace) (g : Globals) (past : Prop) (r : ℤ) (g' : Globals) (t' : IoTrace) : Prop :=
  Rejects r → Clean t t' ∧ g'.sock = g.sock ∧ ¬ past ∨ Dirty t t' ∧ past

abbrev WpSettled (t : IoTrace) (g : Globals) (past : Prop) (p : Drv ℤ) (g₁ : Globals) (t₁ : IoTrace) :
    Prop :=
  wpg (traceEnv fun _ _ _ => True) p (Settled t g past) (fun _ _ => True) g₁ t₁

lemma settled_of_gives {past : Prop} {p : Drv ℤ} {g₁ : Globals} (h : Gives Accepts p) :
    WpSettled t g past p g₁ t₁ :=
  wpv_mono (wpv_of_gives h) (fun _ _ _ hr hr' => absurd hr' hr) fun _ _ => id

lemma settled_sendtoIdle (buf : List Byte) (len : ℕ) (addr : Vector Byte 4) (port addrlen : ℕ)
    (ht₁ : Clean t t₁) : WpSettled t g (PastAddress sn g addrlen)
      (sendtoIdle b sn buf len addr port addrlen) g t₁ := by
  have early {r : ℤ} (h : AddressRefused (g.sock sn).mode addrlen) :
      Settled t g (PastAddress sn g addrlen) r g t₁ := fun _ => .inl ⟨ht₁, rfl, not_not.2 h⟩
  have rest (len : ℕ) (isMacraw : Bool) (m : Driver) {k : Except ℤ Unit → Drv ℤ}
      (hfail : ∀ e, k (.error e) = pure e)
      (hfree : ∀ u, k (.ok u) = sendtoCommit b sn (buf.take len) (m.sock sn).ioMode) :
      Gives Accepts (sendtoWaitFree b sn len isMacraw (m.sock sn).ioMode m.operationTimeoutUs >>= k) := by
    refine gives_bind (gives_sendtoWaitFree _ _ _ _) fun r hr => ?_
    cases r with
    | error e =>
      rw [hfail]
      exact hr e rfl
    | ok u =>
      rw [hfree]
      exact gives_sendtoCommit _ _
  refine (wpv_bind _ _).2 (wpv_get.2 ?_)
  rintro m rfl
  refine (wpv_bind _ _).2 ?_
  simp only [sendtoAddress]
  refine (wpv_ite _ _ _).2 ⟨fun hmode => early (.inl ?_), fun hmode => ?_⟩
  · rintro (h | h | h | h)
    · exact hmode.1 h
    · exact hmode.2.2.1 h
    · exact hmode.2.2.2 h
    · exact hmode.2.1 h
  refine (wpv_ite _ _ _).2 ⟨fun hne => ?_, fun hmacraw => ?_⟩
  · refine (wpv_ite _ _ _).2 ⟨fun h16 => early (.inr ⟨hne, .inl (by omega)⟩), fun h16 => ?_⟩
    refine (wpv_ite _ _ _).2 ⟨fun h4 => ?_, fun h4 => early (.inr ⟨hne, .inl h4⟩)⟩
    refine (wpv_ite _ _ _).2 ⟨fun h6 => early (.inr ⟨hne, .inr h6⟩), fun h6 => ?_⟩
    refine (wpv_bind _ _).2 ((wpg_wizchipWriteBuf b _ _).2 ⟨fun hnil => absurd hnil (by simp), ?_⟩)
    rintro - x _ ⟨-, rfl⟩
    have hdirty : Dirty t (t₁ ++ [⟨m.toGlobals, .writeBuf (Reg.snDIPR sn) addr.toList, x⟩]) := ht₁.adds trivial
    have past : PastAddress sn m.toGlobals addrlen := by
      rintro (h | ⟨-, h | h⟩)
      · exact h (by simp only [Datagram]; tauto)
      · exact h h4
      · exact h6 h
    exact (wpv_bind _ _).1 (wpv_mono (dirty_stays hdirty) (fun _ _ _ h _ => .inr ⟨h, past⟩)
      fun _ _ => id)
  · have hmode : (m.sock sn).mode = snMrMacraw := not_not.1 hmacraw
    simp only [sendtoAddress.portCheck, sendtoAddress.statusCheck, wpv_ite, wpv_pure, hmode]
    refine ⟨fun h2 => absurd h2 (by decide), fun _ => ⟨fun _ => ?_, fun hne => absurd rfl hne⟩⟩
    exact settled_of_gives (rest _ _ m (fun _ => rfl) fun _ => rfl)

lemma sendto_rejects {len : ℕ} (buf : Option (Vector Byte len)) (addr : Vector Byte 4)
    (port addrlen : ℕ) : WpSettled t g (buf ≠ none ∧ sn < sockNum ∧ PastAddress sn g addrlen)
      (sendto b sn len buf addr port addrlen) g t := by
  refine (wpv_ite _ _ _).2 ⟨fun _ hr => absurd hr (by decide), fun _ => ?_⟩
  cases buf with
  | none => exact fun _ => .inl ⟨.refl, rfl, fun h => h.1 rfl⟩
  | some buf =>
    refine (wpv_ite _ _ _).2 ⟨fun hle _ => .inl ⟨.refl, rfl, fun h => ?_⟩, fun hsn => ?_⟩
    · exact absurd h.2.1 (Nat.not_lt.2 hle)
    have hlock : ¬ Writes (.sockLock sn) := id
    have hunlock : ¬ Writes (.sockUnlock sn) := id
    refine (wpg_locked sn _).2 ?_
    rintro x _ ⟨-, rfl⟩
    have body : WpSettled t g (PastAddress sn g addrlen)
        (sendtoLocked b sn buf.toList len addr port addrlen) g (t ++ [⟨g, .sockLock sn, x⟩]) := by
      refine (wpv_bind _ _).2 (wpv_get.2 fun m hm => ?_)
      refine (wpv_ite _ _ _).2 ⟨fun _ hr => absurd hr (by decide), fun _ => ?_⟩
      refine (wpv_ite _ _ _).2 ⟨fun _ hr => absurd hr (by decide), fun _ => ?_⟩
      refine (wpv_ite _ _ _).2 ⟨fun _ hr => absurd hr (by decide), fun _ => ?_⟩
      refine (wpv_ite _ _ _).2 ⟨fun _ => settled_of_gives gives_sendtoPending, fun _ => ?_⟩
      exact settled_sendtoIdle _ _ _ _ _ (Extends.refl.snoc hlock)
    refine wpv_mono body ?_ fun _ _ => id
    rintro r g' t' hr y _ ⟨-, rfl⟩ hrejects
    rcases hr hrejects with ⟨hclean, hsock, hpast⟩ | ⟨hdirty, hpast⟩
    · exact .inl ⟨hclean.snoc hunlock, hsock, fun h => hpast h.2.2⟩
    · obtain ⟨added, rfl, v, hv, hwrites⟩ := hdirty
      refine .inr ⟨⟨added ++ [_], List.append_assoc _ _ _, v, List.mem_append_left _ hv, hwrites⟩, ?_⟩
      exact ⟨Option.some_ne_none _, Nat.not_le.1 hsn, hpast⟩

end kept

/-- Nothing has been written, and the state of the sockets is what it was. -/
def Unchanged (added : IoTrace) (m m' : Driver) : Prop :=
  (∀ v ∈ added, ¬ Writes v.call) ∧ m'.sock = m.sock

/-- A rejection can only come behind a register write. -/
def Late (sn : ℕ) (m : Driver) : Op → Prop
  | .sendto _ buf _ _ addrlen => buf ≠ none ∧ sn < sockNum ∧ PastAddress sn m.toGlobals addrlen
  | _ => False

/-- A rejected call changes nothing in exactly these cases, whatever the chip answers. -/
theorem unchanged_iff {b : Build} {sn : ℕ} {op : Op} {m m' : Driver} {t added : IoTrace} {r : ℤ}
    (run : Eval anyChip (op.run b sn) m t (some r) m' (t ++ added)) (hr : Rejects r) :
    Unchanged added m m' ↔ ¬ Late sn m op := by
  have kept {α : Type} {ret : α → ℤ} {p : Drv α} {a : α} (hlate : ¬ Late sn m op)
      (h : WpKept ret m.toGlobals t p m.toGlobals t)
      (run : Eval anyChip p m t (some a) m' (t ++ added)) (ha : ret a = r) :
      Unchanged added m m' ↔ ¬ Late sn m op := by
    obtain ⟨⟨events, hevents, hclean⟩, hsock⟩ := wp_returns (wp_of_wpg h) run (ha ▸ hr)
    obtain rfl := List.append_cancel_left hevents
    exact ⟨fun _ => hlate, fun _ => ⟨hclean, hsock⟩⟩
  cases op with
  | socket protocol port flag => exact kept id (kept_socket protocol flag port .refl rfl) run rfl
  | close => exact kept id (kept_close .refl rfl) run rfl
  | listen => exact kept id (kept_listen .refl rfl) run rfl
  | connect addr port addrlen => exact kept id (kept_connect addr port addrlen .refl rfl) run rfl
  | disconnect => exact kept id (kept_disconnect .refl rfl) run rfl
  | send len buf => exact kept id (kept_send buf .refl rfl) run rfl
  | recv buf len =>
    obtain ⟨a, ha, hrun⟩ := Eval.of_map run
    exact kept id (kept_recv buf len .refl rfl) hrun ha
  | sendto len buf addr port addrlen =>
    rcases wp_returns (wp_of_wpg (sendto_rejects buf addr port addrlen)) run hr with
      ⟨⟨events, hevents, hclean⟩, hsock, hpast⟩ | ⟨hdirty, hpast⟩
    · obtain rfl := List.append_cancel_left hevents
      exact ⟨fun _ => hpast, fun _ => ⟨hclean, hsock⟩⟩
    · refine ⟨fun h => ?_, fun h => absurd hpast h⟩
      exact absurd ⟨added, rfl, h.1⟩ hdirty.not_clean
  | recvfrom buf len addrPort =>
    obtain ⟨a, ha, hrun⟩ := Eval.of_map run
    exact kept id (kept_recvfrom buf len addrPort .refl rfl) hrun ha
  | ctlsocket cstype arg =>
    obtain ⟨a, ha, hrun⟩ := Eval.of_map run
    exact kept id (kept_ctlsocket cstype arg .refl rfl) hrun ha
  | setsockopt sotype arg => exact kept id (kept_setsockopt sotype arg .refl rfl) run rfl
  | getsockopt sotype arg =>
    obtain ⟨a, ha, hrun⟩ := Eval.of_map run
    exact kept id (kept_getsockopt sotype arg .refl rfl) hrun ha

/-- A driver with a UDP socket. -/
def udpOpen : Driver :=
  { Driver.boot 1000 1000 with chipState := .ready }.setSock 0 fun s => { s with mode := snMrUdp }

/-- sendto of a byte to 10.0.0.1. -/
@[irreducible] def sent (port addrlen : ℕ) : Option ℤ × Driver × IoTrace :=
  exec (recorded (holding (fun _ => 0) (fun _ => []) 0))
    ((Op.sendto 1 (some #v[7]) #[10, 0, 0, 1].toVector port addrlen).run .oneTurn 0) udpOpen []

lemma eval_sent {port addrlen : ℕ} {r : ℤ} (h : (sent port addrlen).1 = some r) :
    Eval anyChip ((Op.sendto 1 (some #v[7]) #v[10, 0, 0, 1] port addrlen).run .oneTurn 0) udpOpen []
      (some r) (sent port addrlen).2.1 ([] ++ (sent port addrlen).2.2) := by
  unfold sent at h ⊢
  exact eval_of_exec h

theorem unchanged_iff_sixteen : (sent 53 16).1 = some sockerrSockmode ∧
    Unchanged (sent 53 16).2.2 udpOpen (sent 53 16).2.1 := by
  have hresult : (sent 53 16).1 = some sockerrSockmode := by
    unfold sent
    decide +kernel
  refine ⟨hresult, (unchanged_iff (eval_sent hresult) (by decide)).2 fun h => ?_⟩
  exact h.2.2 (.inr ⟨by decide, .inl (by decide)⟩)

/-- sendto to port 0 is rejected behind the write of Sn_DIPR. -/
theorem port_zero_late : ¬ ∀ b sn op m m' t added r,
    Eval anyChip (Op.run b sn op) m t (some r) m' (t ++ added) → Rejects r → Unchanged added m m' := by
  intro claim
  have hresult : (sent 0 4).1 = some sockerrPortzero := by
    unfold sent
    decide +kernel
  have hwritten : (sent 0 4).2.2.any fun v => v.call = .writeBuf (Reg.snDIPR 0) [10, 0, 0, 1] := by
    unfold sent
    decide +kernel
  obtain ⟨v, hv, hcall⟩ := List.any_eq_true.1 hwritten
  have hunchanged := claim _ _ _ _ _ _ _ _ (eval_sent hresult) (by decide)
  refine hunchanged.1 v hv ?_
  rw [of_decide_eq_true hcall]
  trivial

end IoLibrary.Rejections
