import IoLibrary.Chips
import IoLibrary.Locking
import IoLibrary.W5300.Socket

/-! close_internal of the W5300 build under the lock of its socket: when it takes no lock that it
holds, bounds the polls of its waits and sends its dummy datagram. -/
namespace IoLibrary.W5300
open Effects

/-- The write of a command. -/
def command (sn : ℕ) (cr : Byte) : Io := .writeBuf (snCR sn) [0, cr]

/-- The polls of Sn_CR and Sn_SSR since the last write of a register. -/
def polled (sn n : ℕ) : Io → ℕ
  | .readBuf a _ => if a = snCR sn ∨ a = snSSR sn then n + 1 else n
  | .writeBuf _ _ => 0
  | _ => n

def polls (sn : ℕ) (calls : List Io) : ℕ := calls.foldl (polled sn) 0

/-- What a call that was entered with `t` has done by `t'`: it acquired no lock that was held,
polled a bounded number of times in each wait, and where it opened the socket for the dummy
datagram it sent one before its CLOSE. -/
structure Safe (sn : ℕ) (t t' : IoTrace) : Prop where
  locks : ∀ before v after, t' = t ++ before ++ v :: after → ∀ l, v.call.lockAct = .acquire l →
    l ∉ heldAfter Io.lockAct (Trace.calls (t ++ before))
  polls : ∀ before after, t' = t ++ before ++ after → polls sn (Trace.calls before) ≤ pollMax
  dummy : ∀ before v after, t' = t ++ before ++ v :: after → v.call = command sn snCrClose →
    command sn snCrOpen ∈ Trace.calls before → (Trace.calls before).count (command sn snCrSend) = 1

/-- A healthy TCP socket, closed within a deadline. -/
structure Erratum (sn d : ℕ) (g : Globals) : Prop where
  number : sn < sockNum
  healthy : (g.sock sn).health ≠ .faulted
  deadline : d = 0 → g.deadlineConfigValid
  tcp : (g.sock sn).mode &&& 0x0F = snMrTcp

section bus
variable {W : Type} {env : Env Globals W Io Io.Res} {g : Globals} {w : W} {H : Globals → W → Prop}

@[simp] lemma wpg_wizchipRead {Q : BitVec 16 → Globals → W → Prop} (a : Addr) :
    wpg env (wizchipRead a) Q H g w ↔
      ∀ x w₁, env g w (.readBuf a 2) x w₁ → Q (getElem x.1 0 Nat.zero_lt_two ++ getElem x.1 1 Nat.one_lt_two) g w₁ := by
  simp [wizchipRead]

@[simp] lemma wpg_wizchipWrite {Q : Unit → Globals → W → Prop} (a : Addr) (wb : BitVec 16) :
    wpg env (wizchipWrite a wb) Q H g w ↔ ∀ x w₁,
      env g w (.writeBuf a [(wb >>> 8).setWidth 8, wb.setWidth 8]) x w₁ → Q () g w₁ := by
  simp [wizchipWrite]

lemma low_append (high low : Byte) : (high ++ low : BitVec 16).setWidth 8 = low :=
  BitVec.setWidth_append_eq_right

@[simp] lemma wpg_readLow {Q : Byte → Globals → W → Prop} (a : Addr) :
    wpg env (readLow a) Q H g w ↔ ∀ x w₁, env g w (.readBuf a 2) x w₁ → Q (getElem x.1 1 Nat.one_lt_two) g w₁ := by
  simp [readLow, low_append]

end bus

section safe
variable {b : Build} {sn d n : ℕ} {g : Globals} {t t' : IoTrace}

/-- Nothing has been locked or opened since `t`, and the last wait has polled `n` times. -/
structure Harmless (sn : ℕ) (added : IoTrace) : Prop where
  calls : ∀ v ∈ added, Lockless v.call ∧ v.call ≠ command sn snCrOpen
  polls : ∀ before after, added = before ++ after → polls sn (Trace.calls before) ≤ pollMax

def Going (sn : ℕ) (t : IoTrace) (n : ℕ) (t' : IoTrace) : Prop :=
  ∃ added, t' = t ++ added ∧ polls sn (Trace.calls added) = n ∧ Harmless sn added

lemma going_start : Going sn t 0 t := by
  refine ⟨[], by simp, rfl, by simp, fun before after h => ?_⟩
  rw [(List.append_eq_nil_iff.1 h.symm).1]
  exact Nat.zero_le _

lemma Going.le (h : Going sn t n t') : n ≤ pollMax := by
  obtain ⟨added, -, rfl, hadded⟩ := h
  exact hadded.polls added [] (by simp)

lemma Going.call {e : Io} {x : e.Res} (h : Going sn t n t') (he : Lockless e)
    (hopen : e ≠ command sn snCrOpen) (hmax : polled sn n e ≤ pollMax) :
    Going sn t (polled sn n e) (t' ++ [⟨g, e, x⟩]) := by
  obtain ⟨added, rfl, rfl, hcalls, hpolls⟩ := h
  have last : polls sn (Trace.calls (added ++ [⟨g, e, x⟩])) = polled sn (polls sn (Trace.calls added)) e := by
    simp [polls, Trace.calls]
  refine ⟨added ++ [⟨g, e, x⟩], by simp, last, fun v hv => ?_, fun before after hsplit => ?_⟩
  · rcases List.mem_append.1 hv with hv | hv
    · exact hcalls v hv
    · obtain rfl := List.mem_singleton.1 hv
      exact ⟨he, hopen⟩
  · rcases List.eq_nil_or_concat after with rfl | ⟨after', v, rfl⟩
    · rw [List.append_nil] at hsplit
      rw [← hsplit, last]
      exact hmax
    · rw [List.concat_eq_append, ← List.append_assoc] at hsplit
      exact hpolls before after' (List.append_inj' hsplit rfl).1

lemma Going.safe (h : Going sn t n t') : Safe sn t t' := by
  obtain ⟨added, rfl, -, hcalls, hpolls⟩ := h
  have within {before : IoTrace} {v : Event Globals Io Io.Res} {after : IoTrace}
      (hsplit : t ++ added = t ++ before ++ v :: after) : added = before ++ v :: after := by
    rw [List.append_assoc] at hsplit
    exact List.append_cancel_left hsplit
  refine ⟨fun before v after hsplit l hl => ?_, fun before after hsplit => ?_, fun before v after hsplit _ hopen => ?_⟩
  · have lockless : v.call.lockAct = .other := (hcalls v (by simp [within hsplit])).1
    rw [lockless] at hl
    cases hl
  · rw [List.append_assoc] at hsplit
    exact hpolls before after (List.append_cancel_left hsplit)
  · obtain ⟨u, hu, heq⟩ := List.mem_map.1 hopen
    exact absurd heq (hcalls u (by simp [within hsplit, hu])).2

abbrev anyBus : Env Globals IoTrace Io Io.Res := traceEnv fun _ _ _ => True

lemma going_ticks (n : ℕ) : Ticks anyBus g (Going sn t n) := by
  rintro t' e x _ (rfl | rfl) h ⟨-, rfl⟩
  · exact h.call rfl nofun h.le
  · exact h.call rfl nofun h.le

/-- A wait on a register polls it at most `pollMax` times. -/
lemma wpg_waitRegister {Q : ℤ → Globals → IoTrace → Prop} {H : Globals → IoTrace → Prop} {a : Addr}
    {wanted : Byte} (ha : a = snCR sn ∨ a = snSSR sn) (h : Going sn t 0 t')
    (reached : ∀ n t', Going sn t n t' → Q sockOk g t')
    (late : ∀ n t', Going sn t n t' → Q sockerrTimeout (g.setSock sn Sock.faulted) t')
    (stop : ∀ n t', Going sn t n t' → H g t') : wpg anyBus (waitRegister b sn a wanted d) Q H g t' := by
  simp only [waitRegister, waitPollInit, wpv_bind, wpv_pure]
  refine timed_timeNow.wpg (going_ticks 0) h fun now t' h => ?_
  refine wpg_pollLoop_counted going_ticks h (show 0 < pollMax by decide) (fun n t' hn h => ?_)
    (fun n t' _ h => ?_) fun n t' _ h => stop n t' h
  · simp only [waitRegister.look, wpv_bind, wpg_readLow, wpv_ite, wpv_pure, looked_some, looked_none]
    rintro x _ ⟨-, rfl⟩
    have polled : polled sn n (.readBuf a 2) = n + 1 := if_pos ha
    have h₁ : Going sn t (n + 1) (t' ++ [⟨g, .readBuf a 2, x⟩]) := polled ▸ h.call rfl (by rintro ⟨⟩) (polled ▸ hn)
    exact ⟨fun _ => reached _ _ h₁, fun _ => ⟨trivial, h₁⟩⟩
  · simp only [faultedTimeout, markFaulted, wpv_bind, wpg_modifySock, wpv_pure]
    exact late n t' h

lemma going_closeCommand (herr : (g.sock sn).health = .faulted ∨ (g.sock sn).mode &&& 0x0F ≠ snMrTcp)
    (h : Going sn t 0 t') : wpg anyBus (closeCommand b sn d)
      (fun _ g' t' => (∃ f, g' = g.setSock sn f) ∧ ∃ n, Going sn t n t') (fun _ t' => ∃ n, Going sn t n t')
      g t' := by
  have same : ∃ f, g = g.setSock sn f := ⟨id, by simp [Globals.setSock]⟩
  have waited {a : Addr} {wanted : Byte} {t' : IoTrace} {Q : ℤ → Globals → IoTrace → Prop}
      (ha : a = snCR sn ∨ a = snSSR sn) (h : Going sn t 0 t')
      (reached : ∀ n t', Going sn t n t' → Q sockOk g t')
      (late : ∀ n t', Going sn t n t' → Q sockerrTimeout (g.setSock sn Sock.faulted) t') :
      wpg anyBus (waitRegister b sn a wanted d) Q (fun _ t' => ∃ n, Going sn t n t') g t' :=
    wpg_waitRegister ha h reached late fun n _ h => ⟨n, h⟩
  simp only [closeCommand, closeCommand.issue, getSnSR, setSnCR, setSnIR, wpv_bind, wpv_get, wpv_ite,
    wpv_pure, wpg_readLow, wpg_wizchipWrite]
  rintro m rfl
  refine ⟨fun _ => ⟨same, 0, h⟩, fun hhealthy x t₁ hlook => ?_⟩
  obtain ⟨-, ht₁⟩ := hlook
  have hmode := herr.resolve_left hhealthy
  have looked : polled sn 0 (.readBuf (snSSR sn) 2) = 1 := if_pos (.inr rfl)
  have h₁ : Going sn t 1 t₁ := by
    rw [ht₁, ← looked]
    exact h.call rfl (by rintro ⟨⟩) (looked ▸ by decide)
  refine ⟨fun _ => ⟨same, 1, h₁⟩, fun _ => ⟨fun htcp => absurd htcp hmode, fun _ => ?_⟩⟩
  rintro y _ ⟨-, rfl⟩
  have close : (.writeBuf (snCR sn) [0, snCrClose] : Io) ≠ command sn snCrOpen := by
    simp [command, snCrClose, snCrOpen]
  refine waited (.inl rfl) (h₁.call rfl close (Nat.zero_le _)) (fun n t₂ h₂ => ?_) fun n t₂ h₂ => ?_
  · refine ⟨fun hok => absurd rfl hok, fun _ => ?_⟩
    rintro z _ ⟨-, rfl⟩
    have clear : (.writeBuf (snIR sn) [0, 0xFF] : Io) ≠ command sn snCrOpen := by
      simp [command, snIR, snCR, atOffset]
    exact waited (.inr rfl) (h₂.call rfl clear (Nat.zero_le _))
      (fun n t₃ h₃ => ⟨same, n, h₃⟩) fun n t₃ h₃ => ⟨⟨_, rfl⟩, n, h₃⟩
  · exact ⟨fun _ => ⟨⟨_, rfl⟩, n, h₂⟩, fun hok => absurd (by decide) hok⟩

/-- Away from the erratum the call takes no lock, opens nothing and bounds each wait. -/
lemma safe_closeInternal (herr : ¬ Erratum sn d g) :
    wpg anyBus (closeInternal b sn d) (fun _ _ t' => Safe sn t t') (fun _ t' => Safe sn t t') g t := by
  have start : Safe sn t t := going_start.safe
  have same : g = g.setSock sn id := by simp [Globals.setSock]
  have finish (hhealthy : (g.sock sn).health = .faulted ∨ (g.sock sn).mode &&& 0x0F ≠ snMrTcp)
      {d : ℕ} {t' : IoTrace} (h : Going sn t 0 t') : wpg anyBus (closeCommand b sn d)
        (fun r g' t' => wpg anyBus (closeClearState sn r) (fun _ _ t' => Safe sn t t')
          (fun _ t' => Safe sn t t') g' t') (fun _ t' => Safe sn t t') g t' := by
    refine wpv_mono (going_closeCommand hhealthy h) ?_ ?_
    · rintro r _ t' ⟨⟨f, rfl⟩, n, h⟩
      exact wpg_closeClearState r f h.safe
    · rintro _ t' ⟨n, h⟩
      exact h.safe
  simp only [closeInternal, wpv_ite, wpv_bind, wpv_pure, wpv_get]
  refine ⟨fun _ => start, fun hsn => ?_⟩
  have spared (hvalid : d = 0 → g.deadlineConfigValid) :
      (g.sock sn).health = .faulted ∨ (g.sock sn).mode &&& 0x0F ≠ snMrTcp :=
    or_iff_not_imp_left.2 fun hhealthy htcp => herr ⟨Nat.lt_of_not_le hsn, hhealthy, hvalid, htcp⟩
  refine ⟨fun hd m hm => ?_, fun hd => ?_⟩
  · subst hm
    have ticks : Ticks anyBus m.toGlobals (Going sn t 0) := going_ticks 0
    refine wpg_sockDeadlineBegin ticks going_start _ (fun hvalid d t' h => ?_) fun _ => ?_
    · exact (wpv_bind _ _).2 (finish (spared fun _ => hvalid) h)
    · rw [same]
      exact wpg_closeClearState _ _ start
  · exact finish (spared fun h => absurd h hd) going_start

end safe

/-- A chip that finds 8191 of 8192 bytes free at the first sample, and obeys at once. -/
def unsent (sn : ℕ) (a : Addr) : List Byte :=
  if a.offset < 0x200 then [8, 8]
  else if a = snSSR sn then [0, sockUdp]
  else if a = snTXFSR sn 2 then [0, 1]
  else [0, 0]

def Unsent (sn : ℕ) (t : IoTrace) (e : Io) (x : e.Res) : Prop :=
  x = IoLibrary.holding (fun _ => 0) (unsent sn) 0 t e

abbrev unsentChip (sn : ℕ) : Env Globals IoTrace Io Io.Res := traceEnv (Unsent sn)

/-- The lock of the socket was acquired while it was held. -/
def Relocked (sn : ℕ) (t t' : IoTrace) : Prop :=
  ∃ before v after, t' = t ++ before ++ v :: after ∧ v.call = .sockLock sn ∧
    .sock sn ∈ heldAfter Io.lockAct (Trace.calls (t ++ before))

section relocked
variable {b : Build} {sn d : ℕ} {g : Globals} {t t' : IoTrace} {α : Type}

lemma Relocked.not_safe (h : Relocked sn t t') : ¬ Safe sn t t' := by
  intro hsafe
  obtain ⟨before, v, after, hsplit, hv, hheld⟩ := h
  exact hsafe.locks before v after hsplit (.sock sn) (by rw [hv]; rfl) hheld

lemma Relocked.extends {P : Event Globals Io Io.Res → Prop} {t'' : IoTrace} (h : Relocked sn t t')
    (more : Extends P t' t'') : Relocked sn t t'' := by
  obtain ⟨before, v, after, rfl, hv, hheld⟩ := h
  obtain ⟨added, rfl, -⟩ := more
  exact ⟨before, v, after ++ added, by simp, hv, hheld⟩

/-- Every run from here acquires the lock that it holds. -/
abbrev Relocks (sn : ℕ) (t : IoTrace) (p : Drv α) (g : Globals) (t' : IoTrace) : Prop :=
  wpg (unsentChip sn) p (fun _ _ t'' => Relocked sn t t'') (fun _ t'' => Relocked sn t t'') g t'

lemma Relocked.relocks {p : Drv α} (h : Relocked sn t t') : Relocks sn t p g t' :=
  wpv_mono (wpv_extends (within_all p) t') (fun _ _ _ more => h.extends more) fun _ _ more => h.extends more

lemma Relocks.bind {β : Type} {p : Drv α} {f : α → Drv β} (h : Relocks sn t p g t') :
    Relocks sn t (p >>= f) g t' :=
  (wpv_bind _ _).2 (wpv_mono h (fun _ _ _ h => h.relocks) fun _ _ => id)

/-- The calls since `t`, which leave the lock of the socket held. -/
def Holds (sn : ℕ) (t t' : IoTrace) : Prop :=
  ∃ before, t' = t ++ before ∧ .sock sn ∈ heldAfter Io.lockAct (Trace.calls t')

lemma Holds.snoc {e : Io} {x : e.Res} (h : Holds sn t t') (he : Lockless e) : Holds sn t (t' ++ [⟨g, e, x⟩]) := by
  obtain ⟨before, rfl, hheld⟩ := h
  refine ⟨before ++ [⟨g, e, x⟩], by simp, ?_⟩
  have same := heldAfter_calls_snoc (t := t ++ before) (v := ⟨g, e, x⟩) he
  rw [same]
  exact hheld

lemma relocks_sockLock {β : Type} {f : Unit → Drv β} (h : Holds sn t t') :
    Relocks sn t (sockLock sn >>= f) g t' := by
  refine Relocks.bind ((wpv_perform _).2 ?_)
  rintro x _ ⟨-, rfl⟩
  obtain ⟨before, rfl, hheld⟩ := h
  exact ⟨before, ⟨g, .sockLock sn, x⟩, [], by simp, rfl, hheld⟩

lemma holds_ticks : Ticks (unsentChip sn) g (Holds sn t) := by
  rintro t' e x _ (rfl | rfl) h ⟨-, rfl⟩
  · exact h.snoc rfl
  · exact h.snoc rfl

/-- One bus cycle keeps the lock held. -/
lemma holds_word {a : Addr} {Q : BitVec 16 → Globals → IoTrace → Prop} {H : Globals → IoTrace → Prop}
    (h : Holds sn t t')
    (next : ∀ t', Holds sn t t' → Q (byteAt (unsent sn a) 0 ++ byteAt (unsent sn a) 1) g t') :
    wpg (unsentChip sn) (wizchipRead a) Q H g t' := by
  rw [wpg_wizchipRead]
  rintro x _ ⟨rfl, rfl⟩
  exact next _ (h.snoc rfl)

lemma holds_read {a : Addr} {Q : Byte → Globals → IoTrace → Prop} {H : Globals → IoTrace → Prop}
    (h : Holds sn t t') (next : ∀ t', Holds sn t t' → Q (byteAt (unsent sn a) 1) g t') :
    wpg (unsentChip sn) (readLow a) Q H g t' := by
  rw [wpg_readLow]
  rintro x _ ⟨rfl, rfl⟩
  exact next _ (h.snoc rfl)

lemma holds_write {a : Addr} {wb : BitVec 16} {Q : Unit → Globals → IoTrace → Prop}
    {H : Globals → IoTrace → Prop} (h : Holds sn t t') (next : ∀ t', Holds sn t t' → Q () g t') :
    wpg (unsentChip sn) (wizchipWrite a wb) Q H g t' := by
  rw [wpg_wizchipWrite]
  rintro x _ ⟨-, rfl⟩
  exact next _ (h.snoc rfl)

lemma holds_spin {a : Addr} {wanted : Byte} {Q : Unit → Globals → IoTrace → Prop}
    {H : Globals → IoTrace → Prop} (ha : byteAt (unsent sn a) 1 = wanted) (h : Holds sn t t')
    (next : ∀ t', Holds sn t t' → Q () g t') : wpg (unsentChip sn) (spin b a wanted) Q H g t' := by
  refine wpv_loop_first b.turns_pos ((wpv_bind _ _).2 (holds_read h fun t' h => ?_))
  rw [if_pos ha]
  exact ⟨(), rfl, next t' h⟩

lemma unsent_socket (k : ℕ) : unsent sn (atOffset (sregBlock sn + k)) =
    if k = 0x08 then [0, sockUdp] else if k = 0x26 then [0, 1] else [0, 0] := by
  simp [unsent, snSSR, snTXFSR, atOffset, sregBlock, Nat.add_assoc]

/-- The first sample is the value that the loop starts from, so it is taken for stable. -/
lemma holds_getSnTXFSR {Q : BitVec 32 → Globals → IoTrace → Prop} {H : Globals → IoTrace → Prop}
    (h : Holds sn t t') (next : ∀ t', Holds sn t t' → Q 1 g t') :
    wpg (unsentChip sn) (getSnTXFSR b sn) Q H g t' := by
  have high : unsent sn (snTXFSR sn 0) = [0, 0] := unsent_socket 0x24
  have low : unsent sn (snTXFSR sn 2) = [0, 1] := unsent_socket 0x26
  refine wpv_loop_first b.turns_pos ((wpv_bind _ _).2 (holds_word h fun t' h => ?_))
  refine (wpv_bind _ _).2 (holds_word h fun t' h => ?_)
  rw [high, low, if_pos (by decide)]
  exact ⟨1, rfl, next t' h⟩

lemma holds_getSnTxMAX {Q : BitVec 32 → Globals → IoTrace → Prop} {H : Globals → IoTrace → Prop}
    (h : Holds sn t t') (next : ∀ t', Holds sn t t' → Q 8192 g t') :
    wpg (unsentChip sn) (getSnTxMAX sn) Q H g t' := by
  have common : unsent sn (atOffset (tms01r + (sn &&& 0xFE))) = [8, 8] := by
    have hle : sn &&& 0xFE ≤ 0xFE := Nat.and_le_right
    exact if_pos (show 0x20 + (sn &&& 0xFE) < 0x200 by omega)
  simp only [getSnTxMAX, getTMSR, wpv_bind, wpv_pure]
  refine holds_word h fun t' h => ?_
  rw [common]
  split
  · exact next t' h
  · exact next t' h

lemma relocks_sendDummy (hsn : sn < sockNum) (h : Holds sn t t') : Relocks sn t (sendDummy b sn) g t' := by
  have idle : byteAt (unsent sn (snCR sn)) 1 = 0 := congrArg (byteAt · 1) (unsent_socket 0x02)
  have udp : byteAt (unsent sn (snSSR sn)) 1 = sockUdp := congrArg (byteAt · 1) (unsent_socket 0x08)
  simp only [sendDummy, setSnMR, setSnPORTR, setSnCR, wpv_bind]
  refine holds_write h fun t' h => holds_write h fun t' h => holds_write h fun t' h => ?_
  refine holds_spin idle h fun t' h => holds_spin udp h fun t' h => ?_
  rw [sendto, if_neg (by decide), if_neg (Nat.not_le.2 hsn)]
  exact wpv_mono (relocks_sockLock h) (fun _ _ _ h => h) fun _ _ => id

lemma relocks_closeCommand (hsn : sn < sockNum) (hhealthy : (g.sock sn).health ≠ .faulted)
    (htcp : (g.sock sn).mode &&& 0x0F = snMrTcp) (h : Holds sn t t') :
    Relocks sn t (closeCommand b sn d) g t' := by
  have udp : byteAt (unsent sn (snSSR sn)) 1 = sockUdp := congrArg (byteAt · 1) (unsent_socket 0x08)
  refine (wpv_bind _ _).2 (wpv_get.2 ?_)
  rintro m rfl
  rw [if_neg hhealthy]
  refine (wpv_bind _ _).2 (holds_read h fun t' h => ?_)
  rw [udp, if_neg (by decide), if_pos htcp]
  refine (wpv_bind _ _).2 (holds_getSnTXFSR h fun t' h => ?_)
  refine (wpv_bind _ _).2 (holds_getSnTxMAX h fun t' h => ?_)
  rw [if_pos (by decide)]
  exact (relocks_sendDummy hsn h).bind

lemma relocks_closeInternal (herr : Erratum sn d g) (h : Holds sn t t') :
    Relocks sn t (closeInternal b sn d) g t' := by
  obtain ⟨hsn, hhealthy, hvalid, htcp⟩ := herr
  rw [closeInternal, if_neg (Nat.not_le.2 hsn)]
  split
  · next hd =>
    refine (wpv_bind _ _).2 (wpv_get.2 ?_)
    rintro m rfl
    refine (wpv_bind _ _).2 (wpg_sockDeadlineBegin holds_ticks h _ (fun _ d t' h => ?_) fun hinvalid => ?_)
    · exact (relocks_closeCommand hsn hhealthy htcp h).bind
    · exact absurd (hvalid hd) hinvalid
  · exact (relocks_closeCommand hsn hhealthy htcp h).bind

end relocked

/-- On the path of the erratum a chip leads the call to acquire the lock that it holds. -/
lemma exists_relocked (b : Build) {sn d : ℕ} {m : Driver} {t : IoTrace} (herr : Erratum sn d m.toGlobals)
    (hheld : Lock.sock sn ∈ heldAfter Io.lockAct t.calls) :
    ∃ r m' t', Eval anyChip (closeInternal b sn d) m t r m' t' ∧ Relocked sn t t' := by
  have relocks := wp_of_wpg (relocks_closeInternal (b := b) herr ⟨[], (List.append_nil t).symm, hheld⟩)
  have total (m : Driver) (t : IoTrace) (e : Io) : ∃ x t₁, chipEnv (Unsent sn) m t e x t₁ := ⟨_, _, rfl, rfl⟩
  obtain ⟨r, m', t', run⟩ := exists_eval total (closeInternal b sn d) m t
  refine ⟨r, m', t', run.mono fun _ _ _ _ _ h => ⟨trivial, h.2⟩, ?_⟩
  cases r with
  | some r => exact wp_returns relocks run
  | none => exact wp_cuts relocks run

/-- The call is safe on every chip exactly off the path of the erratum. -/
theorem closes_safely_iff {b : Build} {sn d : ℕ} {m : Driver} {t : IoTrace}
    (hheld : Lock.sock sn ∈ heldAfter Io.lockAct t.calls) :
    (∀ r m' t', Eval anyChip (closeInternal b sn d) m t r m' t' → Safe sn t t') ↔
      ¬ Erratum sn d m.toGlobals := by
  constructor
  · intro hsafe herr
    obtain ⟨r, m', t', run, hrelocked⟩ := exists_relocked b herr hheld
    exact hrelocked.not_safe (hsafe r m' t' run)
  · intro herr r m' t' run
    have safe := wp_of_wpg (safe_closeInternal (b := b) (t := t) herr)
    cases r with
    | some r => exact wp_returns safe run
    | none => exact wp_cuts safe run

/-- An open TCP socket. -/
def opened : Driver := (Driver.boot 1000 1000).setSock 0 (Sock.opened snMrTcp 0)

/-- close has taken the lock of the socket. -/
def entered : IoTrace := [⟨opened.toGlobals, .sockLock 0, ()⟩]

lemma entered_held : Lock.sock 0 ∈ heldAfter Io.lockAct entered.calls := by
  simp [entered, Trace.calls, heldAfter, Effects.holding, Io.lockAct]

theorem closes_safely_iff_opened :
    (∀ r m' t', Eval anyChip (closeInternal .oneTurn 0 0) opened entered r m' t' → Safe 0 entered t') ↔
      ¬ Erratum 0 0 opened.toGlobals :=
  closes_safely_iff entered_held

/-- close of an open TCP socket that has data to send. -/
theorem close_relocks : ¬ ∀ (b : Build) (sn d : ℕ) (m : Driver) (t : IoTrace),
    Lock.sock sn ∈ heldAfter Io.lockAct t.calls →
    ∀ r m' t', Eval anyChip (closeInternal b sn d) m t r m' t' → Safe sn t t' := by
  intro claim
  have herr : Erratum 0 0 opened.toGlobals := ⟨by decide, by decide, fun _ => by decide, by decide⟩
  obtain ⟨r, m', t', run, hrelocked⟩ := exists_relocked .oneTurn herr entered_held
  exact hrelocked.not_safe (claim .oneTurn 0 0 opened entered entered_held r m' t' run)

end IoLibrary.W5300
