import IoLibrary.RingMemory
import IoLibrary.Effects.Exec
import IoLibrary.Socket.Options
import IoLibrary.Socket.SendRules

/-! send as a stream append. The TX memory of a socket is a ring between Sn_TX_RD, which
the chip advances, and Sn_TX_WR, which the host advances. -/
namespace IoLibrary.SendStream
open Effects RingMemory

/-- The transmit side of a socket; `sizes` are the answers of Sn_TX_FSR, newest first. -/
structure TxChip where
  mem : ℕ → Byte
  wr : BitVec 16
  rd : BitVec 16
  sizes : List ℕ

def TxChip.used (c : TxChip) : ℕ := (c.wr - c.rd).toNat

/-- The bytes the chip still has to send. -/
def TxChip.unsent (S : ℕ) (c : TxChip) : List Byte := window S c.mem c.rd.toNat c.used

def TxChip.sent (c : TxChip) (k : ℕ) : TxChip := { c with rd := c.rd + BitVec.ofNat 16 k }

@[simp] lemma sent_mem (c : TxChip) (k : ℕ) : (c.sent k).mem = c.mem := rfl

@[simp] lemma sent_wr (c : TxChip) (k : ℕ) : (c.sent k).wr = c.wr := rfl

@[simp] lemma sent_sizes (c : TxChip) (k : ℕ) : (c.sent k).sizes = c.sizes := rfl

def TxChip.written (S sn : ℕ) (a : Addr) (data : List Byte) (c : TxChip) : TxChip :=
  if a = Reg.snTXWR sn then
    { c with wr := BitVec.ofNat 16 (word16 (data.getD 0 0) (data.getD 1 0)) }
  else if a.block = .txBuf sn then { c with mem := store S c.mem a.offset data }
  else c

/-- A frame that reads `data` from `a`: Sn_TX_FSR never overstates the free space. -/
def TxChip.Reads (S sn : ℕ) (a : Addr) (data : List Byte) (c c' : TxChip) : Prop :=
  if a = Reg.snTXFSR sn ∧ data.length = 2 then
    ∃ v ≤ S - c.used, v < 65536 ∧ data = bytes16 v ∧ c' = { c with sizes := v :: c.sizes }
  else c' = c ∧ (a = Reg.snTXWR sn ∧ data.length = 2 → data = bytes16 c.wr.toNat)

/-- A chip with `S` bytes of TX memory behind a transport without errors. Before each answer
it may have sent more; every register not named here answers anything. -/
def txEnv (S sn : ℕ) : Env Globals TxChip Io Io.Res := fun _ c e x c' =>
  ∃ k ≤ c.used, match e, x with
    | .read8 _, x => x.2 = false ∧ c' = c.sent k
    | .write8 _ _, x => x = false ∧ c' = c.sent k
    | .readBuf a _, x => x.2 = false ∧ (c.sent k).Reads S sn a x.1.toList c'
    | .writeBuf a data, x => x = false ∧ c' = (c.sent k).written S sn a data
    | _, _ => c' = c.sent k

/-- What is unsent is the end of `total`. -/
def Carries (S : ℕ) (total : List Byte) (c : TxChip) : Prop :=
  c.used ≤ S ∧ ∃ n ≤ total.length, c.unsent S = total.drop n

section ring
variable {S : ℕ} {c : TxChip} {total : List Byte}

lemma used_sent {k : ℕ} (hk : k ≤ c.used) : (c.sent k).used = c.used - k := toNat_sub_advance hk

lemma unsent_sent (hS : S ∣ 2 ^ 16) {k : ℕ} (hk : k ≤ c.used) :
    (c.sent k).unsent S = (c.unsent S).drop k :=
  queue_advance hS c.mem hk

lemma carries_sent (hS : S ∣ 2 ^ 16) {k : ℕ} (hk : k ≤ c.used) (h : Carries S total c) :
    Carries S total (c.sent k) := by
  obtain ⟨hle, n, hn, hun⟩ := h
  have hlen : c.used = total.length - n := by
    have := congrArg List.length hun
    simpa [TxChip.unsent] using this
  refine ⟨by rw [used_sent hk]; omega, n + k, by omega, ?_⟩
  rw [unsent_sent hS hk, hun, List.drop_drop]

/-- Storing past the write pointer and moving it appends to the unsent bytes. -/
lemma carries_append (hS : S ∣ 2 ^ 16) (hlt : S < 2 ^ 16) {data : List Byte}
    (h : Carries S total c) (fits : data.length ≤ S - c.used) :
    Carries S (total ++ data)
      { c with mem := store S c.mem c.wr.toNat data, wr := c.wr + BitVec.ofNat 16 data.length } := by
  obtain ⟨hle, n, hn, hun⟩ := h
  have hroom : (c.wr - c.rd).toNat + data.length ≤ S := by
    rw [TxChip.used] at hle fits
    omega
  refine ⟨?_, n, by simp only [List.length_append]; omega, ?_⟩
  · change (c.wr + BitVec.ofNat 16 data.length - c.rd).toNat ≤ S
    rw [toNat_advance_sub (hroom.trans_lt hlt)]
    exact hroom
  · change queue S (store S c.mem c.wr.toNat data) c.rd (c.wr + BitVec.ofNat 16 data.length) = _
    rw [queue_store hS hlt c.mem hroom, List.drop_append_of_le_length hn]
    exact congrArg (· ++ data) hun

end ring

def TxChip.append (S : ℕ) (data : List Byte) (c : TxChip) : TxChip :=
  { c with mem := store S c.mem c.wr.toNat data, wr := c.wr + BitVec.ofNat 16 data.length }

@[simp] lemma append_nil (S : ℕ) (c : TxChip) : c.append S [] = c := by
  simp [TxChip.append, store]

/-- Since `c₀` the host has left the TX memory and Sn_TX_WR alone. -/
structure Idle (S : ℕ) (c₀ : TxChip) (total : List Byte) (c : TxChip) : Prop where
  mem : c.mem = c₀.mem
  wr : c.wr = c₀.wr
  sizes : c₀.sizes <:+ c.sizes
  carries : Carries S total c

/-- The frames that write TX memory or Sn_TX_WR. -/
def TxWrite (sn : ℕ) : Io → Prop
  | .writeBuf a _ => a = Reg.snTXWR sn ∨ a.block = .txBuf sn
  | _ => False

section runs
variable {S sn : ℕ} {c₀ c c' : TxChip} {total : List Byte} {g : Globals} {b : Build}

lemma Idle.sent (hS : S ∣ 2 ^ 16) (h : Idle S c₀ total c) {k : ℕ} (hk : k ≤ c.used) :
    Idle S c₀ total (c.sent k) :=
  ⟨h.mem, h.wr, h.sizes, carries_sent hS hk h.carries⟩

/-- What the chip may do in a frame that writes neither. -/
lemma Idle.step (hS : S ∣ 2 ^ 16) (h : Idle S c₀ total c) {e : Io} {x : e.Res}
    (he : ¬ TxWrite sn e) (hx : txEnv S sn g c e x c') : Idle S c₀ total c' := by
  obtain ⟨k, hk, hx⟩ := hx
  have hsent := h.sent hS hk
  cases e with
  | read8 a => exact hx.2 ▸ hsent
  | write8 a v => exact hx.2 ▸ hsent
  | readBuf a len =>
    obtain ⟨-, hread⟩ := hx
    simp only [TxChip.Reads] at hread
    split at hread
    · obtain ⟨v, -, -, -, rfl⟩ := hread
      exact ⟨hsent.mem, hsent.wr, hsent.sizes.trans (List.suffix_cons _ _), hsent.carries⟩
    · exact hread.1 ▸ hsent
  | writeBuf a data =>
    simp only [TxWrite, not_or] at he
    rw [hx.2, TxChip.written, if_neg he.1, if_neg he.2]
    exact hsent
  | now => exact hx ▸ hsent
  | wait => exact hx ▸ hsent
  | phyLink up => exact hx ▸ hsent
  | sockLock n => exact hx ▸ hsent
  | sockUnlock n => exact hx ▸ hsent
  | globalLock => exact hx ▸ hsent
  | globalUnlock => exact hx ▸ hsent

lemma ticks_idle (hS : S ∣ 2 ^ 16) : Ticks (txEnv S sn) g (Idle S c₀ total) := by
  rintro w _ x w₁ (rfl | rfl) hw hx
  · exact hw.step hS id hx
  · exact hw.step hS id hx

/-- The transport has no errors. -/
lemma no_fault {a : Addr} {len : ℕ} {x : (Io.readBuf a len).Res}
    (hx : txEnv S sn g c (.readBuf a len) x c') : x.2 = false := by
  obtain ⟨k, -, hf, -⟩ := hx
  exact hf

/-- A payload at the write pointer, before the pointer is moved. -/
lemma copy_spec (hS : S ∣ 2 ^ 16) (hlt : S < 2 ^ 16) {data : List Byte} (h : Idle S c₀ total c)
    (room : data.length ≤ S - c.used) {x : (Io.readBuf (Reg.snTXWR sn) 2).Res} {c₁ c₂ c₃ : TxChip}
    (hx : txEnv S sn g c (.readBuf (Reg.snTXWR sn) 2) x c₁) {y z : Bool}
    (hy : txEnv S sn g c₁ (.writeBuf ⟨word16 x.1[0] x.1[1], .txBuf sn⟩ data) y c₂)
    (hz : txEnv S sn g c₂ (.writeBuf (Reg.snTXWR sn)
      (bytes16 ((word16 x.1[0] x.1[1] + data.length) % 65536))) z c₃) :
    Idle S (c₀.append S data) (total ++ data) c₃ := by
  obtain ⟨i, hi, -, hread⟩ := hx
  obtain ⟨j, hj, -, rfl⟩ := hy
  obtain ⟨k, hk, -, rfl⟩ := hz
  obtain ⟨rfl, hptr⟩ : c₁ = c.sent i ∧ x.1.toList = bytes16 c.wr.toNat := by
    simpa [TxChip.Reads, Reg.snTXWR, Reg.snTXFSR] using hread
  have hword : word16 x.1[0] x.1[1] = c.wr.toNat := word16_of_toList hptr c.wr.isLt
  rw [hword] at hk ⊢
  set sent := ((c.sent i).sent j).sent k with hsent
  have hcopy : ((c.sent i).sent j).written S sn ⟨c.wr.toNat, .txBuf sn⟩ data =
      { (c.sent i).sent j with mem := store S c.mem c.wr.toNat data } := by
    simp [TxChip.written, Reg.snTXWR, TxChip.sent]
  rw [hcopy] at hk ⊢
  have hidle : Idle S c₀ total sent := ((h.sent hS hi).sent hS hj).sent hS hk
  have hroom : data.length ≤ S - sent.used := by
    have h₁ := used_sent hi
    have h₂ := used_sent hj
    have h₃ : sent.used = _ := used_sent hk
    omega
  have hmoved : TxChip.written S sn (Reg.snTXWR sn) (bytes16 ((c.wr.toNat + data.length) % 65536))
      (TxChip.sent { (c.sent i).sent j with mem := store S c.mem c.wr.toNat data } k) =
        sent.append S data := by
    have hlen : (c.wr.toNat + data.length) % 65536 < 65536 := Nat.mod_lt _ (by decide)
    simp only [TxChip.written, if_true, TxChip.append, hsent, TxChip.sent, TxChip.mk.injEq,
      true_and, and_true, bytes16, List.getD_cons_zero, List.getD_cons_succ, word16_bytes16 hlen]
    refine BitVec.eq_of_toNat_eq ?_
    simp [BitVec.toNat_add]
  rw [hmoved]
  refine ⟨?_, ?_, hidle.sizes, carries_append hS hlt hidle.carries hroom⟩
  · simp only [TxChip.append, hidle.mem, hidle.wr]
  · simp only [TxChip.append, hidle.wr]

lemma wpg_sendCommand (hS : S ∣ 2 ^ 16) (len t : ℕ) (h : Idle S c₀ total c) :
    wpg (txEnv S sn) (sendCommand b sn len t)
      (fun r g' c' => Idle S c₀ total c' ∧
        (r = len ∨ r = sockerrTimeout ∧ (g'.sock sn).health = .faulted))
      (fun _ c' => Idle S c₀ total c') g c := by
  simp only [sendCommand, wpv_bind, wpg_setSnCR]
  intro x c₁ hx
  refine (timed_deadlineAbs t).wpg (ticks_idle hS) (h.step hS id hx) fun d c₂ h₂ => ?_
  refine wpg_waitRegister (ticks_idle hS) h₂ _ _ d (fun c x c' hc hx => ?_) (fun c hc => ?_)
    (fun _ hc => hc)
  · have hc' := hc.step hS id hx
    refine ⟨fun _ => ?_, fun _ => hc'⟩
    simpa using hc'
  · simp only [wpv_ite, wpv_pure, wpv_bind, wpg_modifySock, markFaulted]
    refine ⟨fun _ => ⟨hc, .inr ⟨trivial, ?_⟩⟩, fun hne => absurd (by decide) hne⟩
    simp [Sock.faulted]

/-- Copy and command: the payload is appended whether or not its SEND is accepted. -/
lemma wpg_commit (hS : S ∣ 2 ^ 16) (hlt : S < 2 ^ 16) (hsn : sn < sockNum) {data : List Byte}
    (t : ℕ) (h : Idle S c₀ total c) (room : data.length ≤ S - c.used) :
    wpg (txEnv S sn) (do wizSendData b sn data; sendCommand b sn data.length t)
      (fun r g' c' => Idle S (c₀.append S data) (total ++ data) c' ∧
        (r = data.length ∨ r = sockerrTimeout ∧ (g'.sock sn).health = .faulted))
      (fun _ c' => Idle S (c₀.append S data) (total ++ data) c') g c := by
  simp only [wpv_bind]
  refine wpg_wizSendData data (fun hd => ?_) (fun _ x c₁ hx ptr hptr y c₂ hy z c₃ hz => ?_)
  · obtain rfl := hd.resolve_left (Nat.not_le.2 hsn)
    refine wpg_sendCommand hS _ t ?_
    simpa using h
  · obtain ⟨rfl, -⟩ := hptr.resolve_right fun hf => by simp [no_fault hx] at hf
    exact wpg_sendCommand hS _ t (copy_spec hS hlt h room hx hy hz)

def payload {len : ℕ} : Option (Vector Byte len) → List Byte
  | none => []
  | some v => v.toList

/-- How a call of send with `len` bytes of `buf`, begun at `c₀`, leaves the chip. -/
inductive Outcome (S sn len : ℕ) (buf : List Byte) (c₀ : TxChip) (total : List Byte) (r : ℤ)
    (g' : Globals) (c' : TxChip) : Prop
  | accepted (n : ℕ) (result : r = n) (le : n ≤ len)
      (size : ∃ v new, c'.sizes = new ++ c₀.sizes ∧ v ∈ new ∧ n ≤ v)
      (idle : Idle S (c₀.append S (buf.take n)) (total ++ buf.take n) c')
  | refused (result : r ≤ 0) (idle : Idle S c₀ total c')
  | faulted (n : ℕ) (result : r = sockerrTimeout) (health : (g'.sock sn).health = .faulted)
      (idle : Idle S (c₀.append S (buf.take n)) (total ++ buf.take n) c')

/-- Where a call of send that has not returned can be. -/
def Running (S : ℕ) (buf : List Byte) (c₀ : TxChip) (total : List Byte) (c' : TxChip) : Prop :=
  ∃ n, Idle S (c₀.append S (buf.take n)) (total ++ buf.take n) c'

lemma Idle.running (h : Idle S c₀ total c) (buf : List Byte) : Running S buf c₀ total c :=
  ⟨0, by simpa using h⟩

/-- A sample of Sn_TX_FSR is in the log and not above the free space. -/
def Sampled (S : ℕ) (c₀ : TxChip) (total : List Byte) (v : ℕ) (c : TxChip) : Prop :=
  Idle S c₀ total c ∧ v ≤ S - c.used ∧ ∃ new, c.sizes = v :: new ++ c₀.sizes

lemma sampled_of_read (hS : S ∣ 2 ^ 16) (h : Idle S c₀ total c)
    {x : (Io.readBuf (Reg.snTXFSR sn) 2).Res}
    (hx : txEnv S sn g c (.readBuf (Reg.snTXFSR sn) 2) x c') :
    Sampled S c₀ total (word16 (getElem x.1 0 Nat.zero_lt_two) (getElem x.1 1 Nat.one_lt_two)) c' := by
  refine ⟨h.step hS id hx, ?_⟩
  obtain ⟨k, hk, -, hread⟩ := hx
  simp only [TxChip.Reads, Vector.length_toList, and_self, if_true] at hread
  obtain ⟨v, hv, hlt, hdata, rfl⟩ := hread
  rw [word16_of_toList hdata hlt]
  obtain ⟨new, hnew⟩ := (h.sent hS hk).sizes
  exact ⟨hv, new, by simpa using hnew.symm⟩

lemma Sampled.read8 (hS : S ∣ 2 ^ 16) {v : ℕ} (h : Sampled S c₀ total v c) {a : Addr}
    {x : (Io.read8 a).Res} (hx : txEnv S sn g c (.read8 a) x c') : Sampled S c₀ total v c' := by
  obtain ⟨hidle, hv, hsizes⟩ := h
  refine ⟨hidle.step hS id hx, ?_⟩
  obtain ⟨k, hk, -, rfl⟩ := hx
  rw [used_sent hk]
  exact ⟨by omega, hsizes⟩

lemma wpg_sendReady (hS : S ∣ 2 ^ 16) (hlt : S < 2 ^ 16) (hsn : sn < sockNum) {len : ℕ}
    {buf : List Byte} (hbuf : len = buf.length) (h : Idle S c₀ total c) :
    wpg (txEnv S sn) (sendReady b sn buf len) (Outcome S sn len buf c₀ total)
      (fun _ => Running S buf c₀ total) g c := by
  simp only [sendReady, wpv_bind, wpv_get]
  rintro m rfl
  refine (timed_deadlineAbs _).wpg (ticks_idle hS) h fun d c h => ?_
  have stop : ∀ c, Idle S c₀ total c → Running S buf c₀ total c := fun c h => h.running buf
  refine wpg_sendWaitFree (F := Sampled S c₀ total) (ticks_idle hS) h d ?_ ?_ stop
  · constructor
    · intro c x c' hc hx
      have hsam := sampled_of_read hS hc hx
      exact ⟨fun _ => ⟨hsam.1, hsam⟩, fun hf => by simp [no_fault hx] at hf⟩
    · intro v c y c' hF hy _
      obtain ⟨hidle, hv, new, hsizes⟩ := hF.read8 hS hy
      refine ⟨hidle, fun hle => ?_, fun _ => .refused (by decide) hidle⟩
      have htake : (buf.take (min len (m.txmaxCache sn))).length = min len (m.txmaxCache sn) := by
        simp only [List.length_take]
        omega
      have hbase : Idle S { c₀ with sizes := c'.sizes } total c' :=
        ⟨hidle.mem, hidle.wr, List.suffix_refl _, hidle.carries⟩
      refine wpv_mono (wpg_commit hS hlt hsn m.commandTimeoutUs hbase (by omega)) ?_ ?_
      · rintro r g' c'' ⟨hc, hr⟩
        have hc' : Idle S (c₀.append S (buf.take (min len (m.txmaxCache sn))))
            (total ++ buf.take (min len (m.txmaxCache sn))) c'' :=
          ⟨hc.mem, hc.wr, hidle.sizes.trans hc.sizes, hc.carries⟩
        rcases hr with rfl | ⟨rfl, hf⟩
        · obtain ⟨more, hmore⟩ := hc.sizes
          refine .accepted _ (by rw [htake]) (Nat.min_le_left _ _) ⟨v, more ++ v :: new, ?_⟩ hc'
          refine ⟨?_, by simp, hle⟩
          rw [← hmore]
          simp [TxChip.append, hsizes]
        · exact .faulted _ rfl hf hc'
      · rintro g' c'' hc
        exact ⟨_, hc.mem, hc.wr, hidle.sizes.trans hc.sizes, hc.carries⟩
    · intro v c y c' hF hy _
      exact .refused (by decide) (hF.read8 hS hy).1
    · intro v c y c' hF hy _
      refine wpg_closeInternal_keep (hF.read8 hS hy).1 hsn 0 ?_
        (fun r c _ hc => .refused (by decide) hc) stop
      rintro e (_ | _) c x c' hc hx <;> exact hc.step hS id hx
  · rintro e c (rfl | rfl) hc
    · exact .refused (by decide) hc
    · exact .refused (by decide) hc

lemma wpg_sendLocked (hS : S ∣ 2 ^ 16) (hlt : S < 2 ^ 16) (hsn : sn < sockNum) {len : ℕ}
    {buf : List Byte} (hbuf : len = buf.length) (h : Idle S c₀ total c) :
    wpg (txEnv S sn) (sendLocked b sn buf len) (Outcome S sn len buf c₀ total)
      (fun _ => Running S buf c₀ total) g c := by
  simp only [sendLocked, wpv_bind, wpv_get, wpv_ite, wpv_pure, wpg_getSnSR]
  rintro m rfl
  refine ⟨fun _ => .refused (by decide) h, fun _ => ⟨fun _ => .refused (by decide) h, fun _ => ?_⟩⟩
  refine ⟨fun _ => .refused (by decide) h, fun _ x c₁ hx => ?_⟩
  have h₁ := h.step hS id hx
  refine ⟨fun _ => .refused (by decide) h₁, fun _ => ⟨fun _ => ?_, fun _ => ?_⟩⟩
  · refine (timed_deadlineAbs _).wpg (ticks_idle hS) h₁ fun d c h => ?_
    refine wpg_sendWaitSent (ticks_idle hS) h d ?_ (fun c hc => .refused (by decide) hc)
      (fun c hc => hc.running buf)
    constructor
    · intro c x c₁ y c₂ hc hx _ hy
      exact wpg_sendReady hS hlt hsn hbuf ((hc.step hS id hx).step hS id hy)
    · intro c x c₁ y c₂ hc hx _ _ hy
      exact .refused (by decide) ((hc.step hS id hx).step hS id hy)
    · intro c x c₁ y c₂ hc hx _ _ hy
      have hc₂ := (hc.step hS id hx).step hS id hy
      refine ⟨fun _ e he => .refused ?_ hc₂, fun _ => ⟨hc₂, fun _ => .refused (by decide) hc₂⟩⟩
      rcases he with rfl | rfl <;> decide
  · exact wpg_sendReady hS hlt hsn hbuf h₁

lemma Outcome.unlock (hS : S ∣ 2 ^ 16) {len : ℕ} {buf : List Byte} {r : ℤ}
    (h : Outcome S sn len buf c₀ total r g c) {y : Unit}
    (hy : txEnv S sn g c (.sockUnlock sn) y c') : Outcome S sn len buf c₀ total r g c' := by
  cases h with
  | accepted n hr hn size idle =>
    refine .accepted n hr hn ?_ (idle.step hS id hy)
    obtain ⟨k, -, rfl⟩ := hy
    exact size
  | refused hr idle => exact .refused hr (idle.step hS id hy)
  | faulted n hr hf idle => exact .faulted n hr hf (idle.step hS id hy)

lemma wpg_send (hS : S ∣ 2 ^ 16) (hlt : S < 2 ^ 16) {len : ℕ} (buf : Option (Vector Byte len))
    (h : Idle S c₀ total c) :
    wpg (txEnv S sn) (send b sn len buf) (Outcome S sn len (payload buf) c₀ total)
      (fun _ => Running S (payload buf) c₀ total) g c := by
  simp only [send, wpv_ite, wpv_pure]
  refine ⟨fun _ => .refused (by decide) h, fun _ => ?_⟩
  cases buf with
  | none => exact .refused (by decide) h
  | some buf =>
    simp only [wpv_ite, wpv_pure, wpv_bind, wpv_get, wpg_locked]
    refine ⟨fun _ => .refused (by decide) h, fun hsn m hm => ⟨fun _ => .refused (by decide) h, ?_⟩⟩
    intro _ x c₁ hx
    refine wpv_mono (wpg_sendLocked hS hlt (Nat.not_le.1 hsn) (by simp) (h.step hS id hx)) ?_ ?_
    · exact fun r g' c' hr y c₂ hy => hr.unlock hS hy
    · exact fun _ _ => id

/-- A faulted socket refuses to send. -/
lemma wpg_send_faulted (hS : S ∣ 2 ^ 16) {len : ℕ} (buf : Option (Vector Byte len))
    (hf : (g.sock sn).health = .faulted) (h : Idle S c₀ total c) :
    wpg (txEnv S sn) (send b sn len buf) (fun r g' c' => r ≤ 0 ∧ g' = g ∧ Idle S c₀ total c')
      (fun _ _ => False) g c := by
  simp only [send, wpv_ite, wpv_pure]
  refine ⟨fun _ => ⟨by decide, trivial, h⟩, fun _ => ?_⟩
  cases buf with
  | none => exact ⟨by decide, rfl, h⟩
  | some buf =>
    simp only [sendLocked, wpv_ite, wpv_pure, wpv_bind, wpv_get, wpg_locked]
    refine ⟨fun _ => ⟨by decide, trivial, h⟩, fun _ m hm => ⟨fun _ => ⟨by decide, trivial, h⟩, ?_⟩⟩
    rintro _ x c₁ hx m' rfl
    refine ⟨fun _ y c₂ hy => ⟨by decide, trivial, ?_⟩, fun hne => absurd hf hne⟩
    exact (h.step hS id hx).step hS id hy

end runs

/-- What an application does with a connected socket whose data it only sends. -/
inductive Call
  | send (len : ℕ) (buf : Option (Vector Byte len))
  | setIomode (arg : ArgMem)

def Call.run (b : Build) (sn : ℕ) : Call → Drv ℤ
  | .send len buf => IoLibrary.send b sn len buf
  | .setIomode arg => do
    let r ← ctlsocket b sn .setIomode (some arg)
    return r.1

/-- The bytes a call accepted, by its result. -/
def Call.accepted (r : ℤ) : Call → List Byte
  | .send _ buf => (payload buf).take r.toNat
  | .setIomode _ => []

def accepted (s : Step Call Driver TxChip ℤ) : List Byte :=
  match s.result with
  | some r => s.call.accepted r
  | none => []

/-- Between `c` and `c'` exactly `data` was placed at Sn_TX_WR. -/
def Appends (S : ℕ) (data : List Byte) (c c' : TxChip) : Prop :=
  c'.mem = store S c.mem c.wr.toNat data ∧ c'.wr = c.wr + BitVec.ofNat 16 data.length

/-- Since `c` the host has placed `data`, and none of it is overwritten before it is sent. -/
structure Placed (S : ℕ) (c : TxChip) (data : List Byte) (c' : TxChip) : Prop where
  wr : c'.wr = c.wr + BitVec.ofNat 16 data.length
  unsent : Carries S (c.unsent S ++ data) c'

lemma placed_nil {S : ℕ} {c : TxChip} (h : c.used ≤ S) : Placed S c [] c :=
  ⟨by simp, h, 0, Nat.zero_le _, by simp⟩

lemma Placed.idle {S : ℕ} {c c' : TxChip} {data : List Byte} (h : Placed S c data c') :
    Idle S c' (c.unsent S ++ data) c' :=
  ⟨rfl, rfl, List.suffix_refl _, h.unsent⟩

lemma Placed.append {S : ℕ} {c c₀ c' : TxChip} {data more : List Byte} (h : Placed S c data c₀)
    (hc : Idle S (c₀.append S more) (c.unsent S ++ data ++ more) c') :
    Placed S c (data ++ more) c' := by
  refine ⟨?_, ?_⟩
  · rw [hc.wr, TxChip.append, h.wr, BitVec.add_assoc, List.length_append, BitVec.ofNat_add]
  · rw [← List.append_assoc]
    exact hc.carries

lemma Placed.keep {S : ℕ} {c c₀ c' : TxChip} {data : List Byte} (h : Placed S c data c₀)
    (hc : Idle S c₀ (c.unsent S ++ data) c') : Placed S c data c' := by
  have hnil : Idle S (c₀.append S []) (c.unsent S ++ data ++ []) c' := by simpa using hc
  simpa using h.append hnil

/-- The state between calls: what was accepted is placed, and a faulted socket may have placed
more. -/
def Between (S sn : ℕ) (c : TxChip) (acc : List Byte) (g : Globals) (c' : TxChip) : Prop :=
  ∃ tail, Placed S c (acc ++ tail) c' ∧ (tail = [] ∨ (g.sock sn).health = .faulted)

/-- What one call of send guarantees. -/
structure SendSpec (S sn len : ℕ) (buf : List Byte) (r : ℤ) (c : TxChip) (g' : Globals)
    (c' : TxChip) : Prop where
  accepted : 0 ≤ r → r ≤ len ∧ Appends S (buf.take r.toNat) c c'
  room : 0 < r → ∃ v new, c'.sizes = new ++ c.sizes ∧ v ∈ new ∧ r ≤ v
  refused : r ≤ 0 → Appends S [] c c' ∨ r = sockerrTimeout ∧ (g'.sock sn).health = .faulted

lemma appends_nil {S : ℕ} {c c' : TxChip} {total : List Byte} (h : Idle S c total c') :
    Appends S [] c c' :=
  ⟨h.mem, by simpa using h.wr⟩

lemma Outcome.spec {S sn len : ℕ} {buf : List Byte} {c₀ c' : TxChip} {total : List Byte} {r : ℤ}
    {g' : Globals} (h : Outcome S sn len buf c₀ total r g' c') :
    SendSpec S sn len buf r c₀ g' c' := by
  cases h with
  | accepted n hr hn size idle =>
    subst hr
    refine ⟨fun _ => ⟨by omega, ?_⟩, fun _ => ?_, fun h0 => .inl ?_⟩
    · exact ⟨idle.mem, idle.wr⟩
    · obtain ⟨v, new, hs, hv, hle⟩ := size
      exact ⟨v, new, hs, hv, by omega⟩
    · obtain rfl : n = 0 := by omega
      exact appends_nil (by simpa using idle)
  | refused hr idle =>
    refine ⟨fun h0 => ⟨by omega, ?_⟩, fun h0 => by omega, fun _ => .inl (appends_nil idle)⟩
    obtain rfl : r = 0 := by omega
    exact appends_nil idle
  | faulted n hr hf idle =>
    subst hr
    exact ⟨fun h => absurd h (by decide), fun h => absurd h (by decide), fun _ => .inr ⟨rfl, hf⟩⟩

def Call.Spec (S sn : ℕ) (r : ℤ) (c : TxChip) (g' : Globals) (c' : TxChip) : Call → Prop
  | .send len buf => SendSpec S sn len (payload buf) r c g' c'
  | .setIomode _ => Appends S [] c c'

section histories
variable {S sn : ℕ} {c c₀ c' : TxChip} {acc : List Byte} {g : Globals} {b : Build}

lemma wpg_setIomode (hS : S ∣ 2 ^ 16) {total : List Byte} (arg : ArgMem) (h : Idle S c₀ total c) :
    wpg (txEnv S sn) (Call.run b sn (.setIomode arg))
      (fun _ g' c' => (g'.sock sn).health = (g.sock sn).health ∧ Idle S c₀ total c')
      (fun _ _ => False) g c := by
  simp only [Call.run, ctlsocket, ctlsocketLocked, answered, refused, wpv_ite, wpv_pure, wpv_bind,
    wpv_get, wpg_locked, wpg_modifySock, reduceCtorEq, false_imp_iff, not_false_eq_true,
    true_imp_iff, true_and, Globals.setSock_same]
  refine ⟨fun _ => h, ?_⟩
  rintro _ x c₁ hx m rfl
  have h₂ : ∀ {y : Unit} {c₂ g'}, txEnv S sn g' c₁ (.sockUnlock sn) y c₂ → Idle S c₀ total c₂ :=
    fun hy => (h.step hS id hx).step hS id hy
  refine ⟨fun _ y c₂ hy => h₂ hy, fun _ => ⟨fun _ y c₂ hy => h₂ hy, ?_⟩⟩
  exact fun _ => ⟨fun _ y c₂ hy => h₂ hy, fun _ y c₂ hy => h₂ hy⟩

lemma wpg_call (hS : S ∣ 2 ^ 16) (hlt : S < 2 ^ 16) (call : Call)
    (h : Between S sn c acc g c₀) :
    wpg (txEnv S sn) (call.run b sn)
      (fun r g' c' => call.Spec S sn r c₀ g' c' ∧ Between S sn c (acc ++ call.accepted r) g' c')
      (fun _ c' => ∃ tail, Placed S c (acc ++ tail) c') g c₀ := by
  obtain ⟨tail, hplaced, htail⟩ := h
  cases call with
  | setIomode arg =>
    refine wpv_mono (wpg_setIomode hS arg hplaced.idle) ?_ fun _ _ => False.elim
    rintro r g' c' ⟨hhealth, hidle⟩
    refine ⟨appends_nil hidle, tail, ?_, hhealth ▸ htail⟩
    simpa [Call.accepted] using hplaced.keep hidle
  | send len buf =>
    by_cases hf : (g.sock sn).health = .faulted
    · refine wpv_mono (wpg_send_faulted hS buf hf hplaced.idle) ?_ fun _ _ => False.elim
      rintro r g' c' ⟨hr, rfl, hidle⟩
      have hnone : r.toNat = 0 := by omega
      refine ⟨(Outcome.refused hr hidle).spec, tail, ?_, .inr hf⟩
      simpa [Call.accepted, hnone] using hplaced.keep hidle
    · obtain rfl := htail.resolve_right hf
      rw [List.append_nil] at hplaced
      refine wpv_mono (wpg_send hS hlt buf hplaced.idle) ?_ ?_
      · intro r g' c' hr
        refine ⟨hr.spec, ?_⟩
        cases hr with
        | accepted n result le size idle =>
          subst result
          refine ⟨[], ?_, .inl rfl⟩
          simpa [Call.accepted] using hplaced.append idle
        | refused result idle =>
          have hnone : r.toNat = 0 := by omega
          refine ⟨[], ?_, .inl rfl⟩
          simpa [Call.accepted, hnone] using hplaced.keep idle
        | faulted n result health idle =>
          subst result
          refine ⟨(payload buf).take n, ?_, .inr health⟩
          simpa [Call.accepted, sockerrTimeout] using hplaced.append idle
      · rintro g' c' ⟨n, idle⟩
        exact ⟨_, hplaced.append idle⟩

/-- send is a stream append. Every call places exactly the bytes it accepts, and in every state
reached the unsent bytes are the end of those unsent at first, then the accepted ones, then
at most what a call that ended faulted or still runs has placed. -/
theorem send_appends (hS : S ∣ 2 ^ 16) (hlt : S < 2 ^ 16) {steps : List (Step Call Driver TxChip ℤ)}
    {m m' : Driver} (run : History (fun _ => (txEnv S sn).along Driver.toGlobals) (Call.run b sn)
      steps m c m' c') (ring : c.used ≤ S) (before after : List (Step Call Driver TxChip ℤ))
    (s : Step Call Driver TxChip ℤ) (hs : steps = before ++ s :: after) :
    (∀ r, s.result = some r → s.call.Spec S sn r s.pre.2 s.post.1.toGlobals s.post.2) ∧
      ∃ tail, Placed S c (((before ++ [s]).map accepted).flatten ++ tail) s.post.2 ∧
        (tail = [] ∨ (s.post.1.sock sn).health = .faulted ∨ s.result = none) := by
  have rule := history_rule (fun _ _ _ _ => True)
    (fun past m c' => Between S sn c (past.map accepted).flatten m.toGlobals c')
    (fun past s => (∀ r, s.result = some r → s.call.Spec S sn r s.pre.2 s.post.1.toGlobals s.post.2) ∧
      ∃ tail, Placed S c (((past ++ [s]).map accepted).flatten ++ tail) s.post.2 ∧
        (tail = [] ∨ (s.post.1.sock sn).health = .faulted ∨ s.result = none))
    (fun past call m c₀ _ h => ?_) run [] (fun _ _ _ _ => trivial)
    ⟨[], placed_nil ring, .inl rfl⟩
  · simpa using rule.1 before s after hs
  · refine wp_mono (wp_of_wpv (wpg_call hS hlt call h)) ?_ ?_
    · rintro r m' c' ⟨hspec, tail, hplaced, htail⟩
      refine ⟨⟨fun r' hr' => ?_, tail, ?_, ?_⟩, tail, ?_, htail⟩
      · cases hr'
        exact hspec
      · simpa [accepted] using hplaced
      · exact htail.imp_right .inl
      · simpa [accepted] using hplaced
    · rintro m' c' ⟨tail, hplaced⟩
      refine ⟨fun r' hr' => (by cases hr'), tail, ?_, .inr (.inr rfl)⟩
      simpa [accepted] using hplaced

end histories

/-- A chip that accepts commands at once and sends nothing. -/
def lazyChip (S sn : ℕ) : Handler Driver TxChip Io Io.Res := fun _ c e =>
  match e with
  | .read8 a => ((if a = Reg.snSR sn then sockEstablished else 0, false), c)
  | .readBuf a len =>
    if a = Reg.snTXFSR sn ∧ len = 2 then
      ((frameBytes len (bytes16 (S - c.used)), false), { c with sizes := (S - c.used) :: c.sizes })
    else ((frameBytes len (bytes16 c.wr.toNat), false), c)
  | .writeBuf a data => (false, c.written S sn a data)
  | .write8 _ _ => (false, c)
  | .now => (0, c)
  | .wait | .phyLink _ | .sockLock _ | .sockUnlock _ | .globalLock | .globalUnlock => ((), c)

lemma lazyChip_allowed {S : ℕ} (hlt : S < 2 ^ 16) (sn : ℕ) (m : Driver) (c : TxChip) (e : Io) :
    (txEnv S sn).along Driver.toGlobals m c e (lazyChip S sn m c e).1 (lazyChip S sn m c e).2 := by
  refine ⟨0, Nat.zero_le _, ?_⟩
  have hsent : c.sent 0 = c := by simp [TxChip.sent]
  rw [hsent]
  cases e with
  | readBuf a len =>
    by_cases hlen : len = 2
    · subst hlen
      by_cases ha : a = Reg.snTXFSR sn
      · simp only [lazyChip, TxChip.Reads, ha, and_self, if_true, toList_frameBytes_two,
          true_and]
        exact ⟨S - c.used, le_refl _, by omega, rfl, rfl⟩
      · simp [lazyChip, TxChip.Reads, ha]
    · simp [lazyChip, TxChip.Reads, hlen]
  | _ => simp [lazyChip]

def connected : Driver :=
  { Driver.boot 1000 1000 with
    chipState := .ready, txmaxCache := fun _ => 2048
    sock := fun _ => { Sock.boot with mode := snMrTcp } }

def emptyChip : TxChip := ⟨fun _ => 0, 0xFFFF, 0xFFFF, []⟩

/-- Two bytes sent across the end of the pointer range. -/
def sendTwo : Call := .send 2 (some #v[0xAB, 0xCD])

@[irreducible] def twoSent : List (Step Call Driver TxChip ℤ) × Driver × TxChip :=
  replay (fun _ => lazyChip 2048 0) (Call.run ⟨true, 1, by decide⟩ 0) [sendTwo] connected emptyChip

lemma history_twoSent : History (fun _ => (txEnv 2048 0).along Driver.toGlobals)
    (Call.run ⟨true, 1, by decide⟩ 0) twoSent.1 connected emptyChip twoSent.2.1 twoSent.2.2 := by
  unfold twoSent
  exact history_replay (fun _ => lazyChip_allowed (by decide) 0) _ _ _ _

lemma twoSent_ne_nil : twoSent.1 ≠ [] := by
  unfold twoSent
  decide +kernel

theorem send_appends_two :
    accepted (twoSent.1.head twoSent_ne_nil) = [0xAB, 0xCD] ∧
      ∃ tail, Placed 2048 emptyChip ([accepted (twoSent.1.head twoSent_ne_nil)].flatten ++ tail)
        (twoSent.1.head twoSent_ne_nil).post.2 := by
  have h := send_appends (by decide) (by decide) history_twoSent (by decide) [] _ _
    (List.cons_head_tail twoSent_ne_nil).symm
  refine ⟨?_, h.2.imp fun _ h => h.1⟩
  unfold twoSent
  decide +kernel

end IoLibrary.SendStream
