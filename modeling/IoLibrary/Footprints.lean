import IoLibrary.Deadline
import IoLibrary.Effects.Results

/-! Footprints of the transfers and the clock. A transfer makes one call and otherwise only
touches what the globals do not show. -/
namespace IoLibrary
open Effects

/-- An update that the globals do not show, and that makes the chip at most faulted. -/
def Noise (f : Driver → Driver) : Prop :=
  ∀ m, (f m).toGlobals = m.toGlobals ∧ ((f m).chipState = m.chipState ∨ (f m).chipState = .faulted)

section transfers
variable {U : (Driver → Driver) → Prop} {C : Io → Prop} (hU : ∀ f, Noise f → U f) (b : Build)
include hU

lemma within_noise {f : Driver → Driver} (hf : Noise f) : Within U C (Prog.modify f : Drv Unit) :=
  (within_modify f).2 (hU f hf)

lemma within_look : Within U C (Prog.get : Drv Driver) := within_get (hU id fun _ => ⟨rfl, .inl rfl⟩)

lemma within_wizchipSpiFault : Within U C wizchipSpiFault :=
  within_bind (within_noise hU fun _ => ⟨rfl, .inr rfl⟩) fun _ => within_pure _

lemma within_readStatus (fault : Bool) : Within U C (readStatus b fault) := by
  have hfault : Within U C wizchipSpiFault := within_wizchipSpiFault hU
  refine within_ite (within_ite hfault (within_pure _)) ?_
  refine within_bind (within_look hU) fun m => within_ite (within_pure _) (within_ite hfault ?_)
  exact within_bind (within_noise hU fun _ => ⟨rfl, .inl rfl⟩) fun _ => within_pure _

lemma within_writeStatus (fault : Bool) : Within U C (writeStatus b fault) :=
  within_ite (within_wizchipSpiFault hU) (within_pure _)

lemma within_wizchipRead8CheckedOut {a : Addr} (hC : C (.read8 a)) :
    Within U C (wizchipRead8CheckedOut b a) :=
  within_bind ((within_perform _).2 hC) fun _ =>
    within_bind (within_readStatus hU b _) fun _ => within_pure _

lemma within_wizchipWrite8Checked {a : Addr} {v : Byte} (hC : C (.write8 a v)) :
    Within U C (wizchipWrite8Checked b a v) :=
  within_bind (within_noise hU fun _ => ⟨rfl, .inl rfl⟩) fun _ =>
    within_bind ((within_perform _).2 hC) fun _ => within_writeStatus hU b _

lemma within_wizchipReadBufChecked {a : Addr} {len : ℕ} (hC : C (.readBuf a len)) :
    Within U C (wizchipReadBufChecked b a len) :=
  within_ite (within_pure _) (within_bind ((within_perform _).2 hC) fun _ =>
    within_bind (within_readStatus hU b _) fun _ => within_pure _)

lemma within_wizchipWriteBufChecked {a : Addr} {data : List Byte} (hC : C (.writeBuf a data)) :
    Within U C (wizchipWriteBufChecked b a data) :=
  within_ite (within_pure _) (within_bind (within_noise hU fun _ => ⟨rfl, .inl rfl⟩) fun _ =>
    within_bind ((within_perform _).2 hC) fun _ => within_writeStatus hU b _)

lemma within_wizchipRead {a : Addr} (hC : C (.read8 a)) : Within U C (wizchipRead b a) :=
  within_bind (within_wizchipRead8CheckedOut hU b hC) fun _ => within_pure _

lemma within_wizchipWrite {a : Addr} {v : Byte} (hC : C (.write8 a v)) :
    Within U C (wizchipWrite b a v) :=
  within_bind (within_wizchipWrite8Checked hU b hC) fun _ => within_pure _

lemma within_wizchipReadBuf {a : Addr} {len : ℕ} (hC : C (.readBuf a len)) :
    Within U C (wizchipReadBuf b a len) :=
  within_bind (within_wizchipReadBufChecked hU b hC) fun _ => within_pure _

lemma within_wizchipWriteBuf {a : Addr} {data : List Byte} (hC : C (.writeBuf a data)) :
    Within U C (wizchipWriteBuf b a data) :=
  within_bind (within_wizchipWriteBufChecked hU b hC) fun _ => within_pure _

lemma within_wizchipRead16 {a : Addr} (hC : C (.readBuf a 2)) : Within U C (wizchipRead16 b a) :=
  within_bind ((within_perform _).2 hC) fun _ =>
    within_bind (within_readStatus hU b _) fun _ => within_pure _

lemma within_wizchipRead16Value {a : Addr} (hC : C (.readBuf a 2)) :
    Within U C (wizchipRead16Value b a) :=
  within_bind (within_wizchipRead16 hU b hC) fun _ => within_pure _

section clock
variable (now : C .now) (wait : C .wait)

include now in
lemma within_wizchipTimeNow : Within U C wizchipTimeNow := by
  refine within_bind (within_look hU) fun _ => within_ite ?_ (within_pure _)
  refine within_bind ((within_perform _).2 now) fun raw => ?_
  refine within_bind (within_noise hU fun _ => ⟨rfl, .inl rfl⟩) fun _ => ?_
  exact within_bind (within_look hU) fun _ => within_pure _

include now in
lemma within_wizchipDeadlineAbs (t : ℕ) : Within U C (wizchipDeadlineAbs t) := by
  refine within_bind (within_look hU) fun _ => within_ite ?_ ?_
  · exact within_bind (within_wizchipTimeNow hU now) fun _ => within_pure _
  · exact within_bind (within_noise hU fun _ => ⟨rfl, .inl rfl⟩) fun _ => within_pure _

include now in
lemma within_wizchipDeadlineExpired (d : ℕ) : Within U C (wizchipDeadlineExpired d) := by
  refine within_bind (within_look hU) fun _ => within_ite ?_ ?_
  · exact within_bind (within_wizchipTimeNow hU now) fun _ => within_pure _
  · refine within_bind (within_noise hU fun _ => ⟨rfl, .inl rfl⟩) fun _ => ?_
    exact within_bind (within_look hU) fun _ => within_pure _

include now in
lemma within_sockDeadlineBegin (budget : ℕ) : Within U C (sockDeadlineBegin budget) := by
  refine within_bind (within_look hU) fun _ => within_ite ?_ (within_pure _)
  exact within_bind (within_wizchipDeadlineAbs hU now _) fun _ => within_pure _

include now in
lemma within_waitPollInit : Within U C waitPollInit :=
  within_bind (within_wizchipTimeNow hU now) fun _ => within_pure _

include now wait

lemma within_waitPollExpired (poll : Poll) (d : ℕ) : Within U C (waitPollExpired poll d) := by
  have callback : Within U C waitCallback :=
    within_bind (within_look hU) fun _ => within_ite ((within_perform _).2 wait) (within_pure _)
  have deadline : Within U C (wizchipDeadlinePoll poll) := by
    refine within_bind callback fun _ => within_ite (within_pure _) ?_
    refine within_bind (within_look hU) fun _ => within_ite ?_ (within_pure _)
    exact within_bind (within_wizchipTimeNow hU now) fun _ => within_pure _
  refine within_bind deadline fun _ => within_ite (within_pure _) ?_
  exact within_bind (within_wizchipDeadlineExpired hU now d) fun _ => within_pure _

variable {α : Type} {look : Drv (Option α)} {expired : Drv α}

omit wait in
lemma within_clockLoop (hlook : Within U C look) (hexp : Within U C expired) (d : ℕ) :
    Within U C (clockLoop b d look expired) := by
  refine within_loop (fun _ => within_bind hlook fun r => ?_) _ _
  cases r with
  | some a => exact within_pure _
  | none =>
    refine within_bind (within_wizchipDeadlineExpired hU now d) fun _ => within_ite ?_ (within_pure _)
    exact within_bind hexp fun _ => within_pure _

lemma within_pollLoop (hlook : Within U C look) (hexp : Within U C expired) (d : ℕ) (poll : Poll) :
    Within U C (pollLoop b d poll look expired) := by
  refine within_loop (fun _ => within_bind hlook fun r => ?_) _ _
  cases r with
  | some a => exact within_pure _
  | none =>
    refine within_bind (within_waitPollExpired hU now wait _ d) fun _ => within_ite ?_ (within_pure _)
    exact within_bind hexp fun _ => within_pure _

omit wait in
lemma within_stableSize {a : Addr} (hC : C (.readBuf a 2)) : Within U C (stableSize b a) := by
  have sample : Within U C (wizchipRead16 b a) := within_wizchipRead16 hU b hC
  refine within_bind (within_wizchipDeadlineAbs hU now _) fun _ => ?_
  refine within_clockLoop hU b now ?_ (within_pure _) _
  refine within_bind sample fun r => ?_
  cases r with
  | none => exact within_pure _
  | some first =>
    refine within_bind sample fun r => ?_
    cases r with
    | none => exact within_pure _
    | some second =>
      refine within_ite (within_pure _) (within_bind sample fun r => ?_)
      cases r with
      | none => exact within_pure _
      | some third => exact within_ite (within_pure _) (within_pure _)

end clock

end transfers

section results
variable {α : Type} {P : α → Prop} {b : Build}

lemma gives_clockLoop {d : ℕ} {look : Drv (Option α)} {expired : Drv α}
    (hlook : Gives (fun r => ∀ a, r = some a → P a) look) (hexpired : Gives P expired) :
    Gives P (clockLoop b d look expired) := by
  refine gives_loop (fun _ => gives_bind hlook fun r hr => ?_) _ _
  cases r with
  | some a => exact fun _ ha => Prog.Turn.leave.inj ha ▸ hr a rfl
  | none =>
    refine gives_then fun late => gives_ite (fun _ => ?_) fun _ => nofun
    exact gives_bind hexpired fun a ha _ h => Prog.Turn.leave.inj h ▸ ha

lemma gives_pollLoop {d : ℕ} {poll : Poll} {look : Drv (Option α)} {expired : Drv α}
    (hlook : Gives (fun r => ∀ a, r = some a → P a) look) (hexpired : Gives P expired) :
    Gives P (pollLoop b d poll look expired) := by
  refine gives_loop (fun _ => gives_bind hlook fun r hr => ?_) _ _
  cases r with
  | some a => exact fun _ ha => Prog.Turn.leave.inj ha ▸ hr a rfl
  | none =>
    refine gives_then fun late => gives_ite (fun _ => ?_) fun _ => nofun
    exact gives_bind hexpired fun a ha _ h => Prog.Turn.leave.inj h ▸ ha

/-- A look with a result. -/
lemma looked_result {a : α} (h : P a) : ∀ a', some a = some a' → P a' := fun _ ha => Option.some.inj ha ▸ h

end results

end IoLibrary
