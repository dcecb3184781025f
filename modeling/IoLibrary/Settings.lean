import IoLibrary.Control
import IoLibrary.Effects.Wp
import IoLibrary.MessageBuffer

/-! The control functions as a store: the settings that are kept in the registers of the chip and in the two static
variables of wizchip_conf.c, and calls that set them and ask for them. -/
namespace IoLibrary.Settings
open Effects

/-- The settings behind ctlnetwork and the interrupt calls of ctlwizchip. -/
structure Store where
  info : NetInfo
  mode : Byte
  timeout : NetTimeout
  intrmask : IntrKind
  intrtime : ℕ

inductive Call
  | network (type : CtlnetworkType)
  | setIntrmask (intr : IntrKind)
  | getIntrmask
  | setIntrtime (time : BitVec 16)
  | getIntrtime

inductive Answer
  | network (ret : ℤ) (out : CtlnetworkOut)
  | wizchip (ret : ℤ) (out : CtlwizchipOut)

def Call.run (b : Build) : Call → Drv Answer
  | network type => do
    let (ret, out) ← ctlnetwork b type
    return .network ret out
  | setIntrmask intr => do
    let (ret, out) ← ctlwizchip b (.setIntrmask (some intr))
    return .wizchip ret out
  | getIntrmask => do
    let (ret, out) ← ctlwizchip b (.getIntrmask true)
    return .wizchip ret out
  | setIntrtime time => do
    let (ret, out) ← ctlwizchip b (.setIntrtime time)
    return .wizchip ret out
  | getIntrtime => do
    let (ret, out) ← ctlwizchip b .getIntrtime
    return .wizchip ret out

def runs (b : Build) : List Call → Drv (List Answer)
  | [] => return []
  | call :: calls => do
    let answer ← call.run b
    let answers ← runs b calls
    return answer :: answers

/-- What a call is for. A time and a count of 0 are set to 1, and of the mode only the four bits that are its own are
set. -/
def Store.step (s : Store) : Call → Answer × Store
  | .network (.setNetinfo info) => (.network 0 .nothing, { s with info })
  | .network .getNetinfo => (.network 0 (.netInfo s.info), s)
  | .network (.setNetmode mode) =>
    if mode &&& ~~~netmodeMask ≠ 0 then (.network (-1) .nothing, s)
    else (.network 0 .nothing, { s with mode := (s.mode &&& ~~~netmodeMask.setWidth 8) ||| mode.setWidth 8 })
  | .network .getNetmode => (.network 0 (.netMode s.mode), s)
  | .network (.setTimeout t) =>
    (.network 0 .nothing, { s with timeout :=
      ⟨if t.retryCnt < 1 then 1 else t.retryCnt, if t.time100us < 1 then 1 else t.time100us⟩ })
  | .network .getTimeout => (.network 0 (.timeout s.timeout), s)
  | .network .other => (.network (-1) .nothing, s)
  | .setIntrmask intrmask => (.wizchip 0 .nothing, { s with intrmask })
  | .getIntrmask => (.wizchip 0 (.intr s.intrmask), s)
  | .setIntrtime time => (.wizchip 0 .nothing, { s with intrtime := time.toNat })
  | .getIntrtime => (.wizchip 0 (.time s.intrtime), s)

def Store.steps (s : Store) : List Call → List Answer × Store
  | [] => ([], s)
  | call :: calls =>
    let (answer, s) := s.step call
    let (answers, s) := s.steps calls
    (answer :: answers, s)

/-- The registers, block by block. -/
abbrev Cells := Block → Mem

def Cells.put (w : Cells) (a : Addr) (data : List Byte) : Cells :=
  Function.update w a.block ((w a.block).write a.offset data)

/-- Registers that keep what is written to them, over frames that do not fail. -/
def registers : Env Driver Cells Io Io.Res := fun _ w e x w' => match e, x with
  | .read8 a, x => x = (w a.block a.offset, false) ∧ w' = w
  | .write8 a v, x => x = false ∧ w' = w.put a [v]
  | .readBuf a len, x => x.1.toList = (w a.block).slice a.offset len ∧ x.2 = false ∧ w' = w
  | .writeBuf a data, x => x = false ∧ w' = w.put a data
  | _, _ => w' = w

def wordOf (l : List Byte) : ℕ := word16 (byteAt l 0) (byteAt l 1)

/-- The settings that the registers of the common block and the memory hold. -/
def held (m : Driver) (cells : Mem) : Store where
  info := {
    mac := frameBytes 6 (cells.slice Reg.shar.offset 6)
    ip := frameBytes 4 (cells.slice Reg.sipr.offset 4)
    sn := frameBytes 4 (cells.slice Reg.subr.offset 4)
    gw := frameBytes 4 (cells.slice Reg.gar.offset 4)
    dns := m.dns
    dhcp := m.dhcp }
  mode := byteAt (cells.slice Reg.mr.offset 1) 0
  timeout := ⟨byteAt (cells.slice Reg.rcr.offset 1) 0, BitVec.ofNat 16 (wordOf (cells.slice Reg.rtr.offset 2))⟩
  intrmask := byteAt (cells.slice Reg.simr.offset 1) 0 ++ byteAt (cells.slice Reg.imr.offset 1) 0
  intrtime := wordOf (cells.slice Reg.intlevel.offset 2)

section cells
variable {m : Mem} {a n p : ℕ} {data : List Byte}

lemma slice_write_self (m : Mem) (p : ℕ) (data : List Byte) : (m.write p data).slice p data.length = data :=
  Mem.holds_write m p data

lemma slice_write_before (h : a + n ≤ p) : (m.write p data).slice a n = m.slice a n :=
  Mem.slice_congr fun _ _ hi => if_neg fun hw => Nat.lt_irrefl _ (hw.1.trans_lt (hi.trans_le h))

lemma slice_write_behind (h : p + data.length ≤ a) : (m.write p data).slice a n = m.slice a n :=
  Mem.slice_congr fun _ hi _ => if_neg fun hw => Nat.lt_irrefl _ (hw.2.trans_le (h.trans hi))

end cells

section transfers
variable {b : Build} {m : Driver} {w : Cells} {a : Addr} {α : Type} {H : Driver → Cells → Prop}

/-- The transfers change nothing of the memory that a setting is kept in. -/
structure Kept (m m' : Driver) : Prop where
  dns : m'.dns = m.dns
  dhcp : m'.dhcp = m.dhcp

lemma Kept.refl (m : Driver) : Kept m m := ⟨rfl, rfl⟩

lemma wp_readStatus {Q : ℤ → Driver → Cells → Prop} (h : ∀ m', Kept m m' → Q 0 m' w) :
    wp registers (readStatus b false) Q H m w := by
  rw [readStatus]
  simp only [Bool.false_eq_true, if_false]
  split_ifs
  · exact h m (.refl m)
  · rw [wp_bind, wp_get]
    split_ifs
    · exact h m (.refl m)
    · exact h _ ⟨rfl, rfl⟩

lemma wp_writeStatus {Q : ℤ → Driver → Cells → Prop} (h : Q 0 m w) : wp registers (writeStatus b false) Q H m w := by
  rw [writeStatus, if_neg (by simp)]
  exact h

lemma wp_wizchipRead {Q : Byte → Driver → Cells → Prop}
    (h : ∀ m', Kept m m' → Q (byteAt ((w a.block).slice a.offset 1) 0) m' w) :
    wp registers (wizchipRead b a) Q H m w := by
  rw [wizchipRead, wizchipRead8CheckedOut, wp_bind, wp_bind, wp_perform]
  rintro _ _ ⟨rfl, rfl⟩
  rw [wp_bind]
  exact wp_readStatus fun m' hkept => h m' hkept

lemma wp_wizchipReadBuf {len : ℕ} {Q : List Byte → Driver → Cells → Prop} (hlen : 0 < len)
    (h : ∀ m', Kept m m' → Q ((w a.block).slice a.offset len) m' w) :
    wp registers (wizchipReadBuf b a len) Q H m w := by
  rw [wizchipReadBuf, wizchipReadBufChecked, if_neg hlen.ne', wp_bind, wp_bind, wp_perform]
  rintro x w' ⟨hdata, hfault, rfl⟩
  rw [hfault, hdata, wp_bind]
  exact wp_readStatus fun m' hkept => h m' hkept

lemma wp_wizchipRead16Value {Q : ℕ → Driver → Cells → Prop}
    (h : ∀ m', Kept m m' → Q (wordOf ((w a.block).slice a.offset 2)) m' w) :
    wp registers (wizchipRead16Value b a) Q H m w := by
  rw [wizchipRead16Value, wizchipRead16, wp_bind, wp_bind, wp_perform]
  rintro x w' ⟨hdata, hfault, rfl⟩
  rw [hfault, wp_bind]
  refine wp_readStatus fun m' hkept => ?_
  have hword : word16 x.1[0] x.1[1] = wordOf ((w' a.block).slice a.offset 2) := by
    rw [← hdata]
    simp [wordOf, byteAt]
  rw [if_pos rfl, wp_pure, wp_pure, Option.getD_some, hword]
  exact h m' hkept

lemma wp_wizchipWrite {v : Byte} {Q : Unit → Driver → Cells → Prop}
    (h : ∀ m', Kept m m' → Q () m' (w.put a [v])) : wp registers (wizchipWrite b a v) Q H m w := by
  rw [wizchipWrite, wizchipWrite8Checked, wp_bind, wp_bind, wp_modify, wp_bind, wp_perform]
  rintro _ _ ⟨rfl, rfl⟩
  exact wp_writeStatus (h _ ⟨rfl, rfl⟩)

lemma wp_wizchipWriteBufChecked {data : List Byte} {Q : ℤ → Driver → Cells → Prop} (hdata : data ≠ [])
    (h : ∀ m', Kept m m' → Q 0 m' (w.put a data)) : wp registers (wizchipWriteBufChecked b a data) Q H m w := by
  rw [wizchipWriteBufChecked, if_neg hdata, wp_bind, wp_modify, wp_bind, wp_perform]
  rintro _ _ ⟨rfl, rfl⟩
  exact wp_writeStatus (h _ ⟨rfl, rfl⟩)

lemma wp_wizchipWriteBuf {data : List Byte} {Q : Unit → Driver → Cells → Prop} (hdata : data ≠ [])
    (h : ∀ m', Kept m m' → Q () m' (w.put a data)) : wp registers (wizchipWriteBuf b a data) Q H m w := by
  rw [wizchipWriteBuf, wp_bind]
  exact wp_wizchipWriteBufChecked hdata h

lemma wp_globalLocked {body : Drv α} {Q : α → Driver → Cells → Prop} (h : wp registers body Q H m w) :
    wp registers (globalLocked body) Q H m w := by
  rw [globalLocked, globalLock, wp_bind, wp_perform]
  rintro _ _ rfl
  refine (wp_bind _ _).2 (wp_mono h ?_ fun _ _ => id)
  intro r m w hq
  rw [globalUnlock, wp_bind, wp_perform]
  rintro _ _ rfl
  exact hq

end transfers

section store
variable {b : Build} {m m' : Driver} {w : Cells} {cells : Mem}

lemma Kept.trans {m'' : Driver} (h : Kept m m') (h' : Kept m' m'') : Kept m m'' :=
  ⟨h'.dns.trans h.dns, h'.dhcp.trans h.dhcp⟩

lemma Kept.held (h : Kept m m') (cells : Mem) : held m' cells = held m cells := by
  simp only [Settings.held, h.dns, h.dhcp]

@[simp] lemma put_common (w : Cells) (offset : ℕ) (data : List Byte) :
    w.put ⟨offset, .common⟩ data .common = (w .common).write offset data := by
  rw [Cells.put, Function.update_self]

lemma frameBytes_toList {n : ℕ} (v : Vector Byte n) : frameBytes n v.toList = v :=
  Vector.toList_inj.1 (toList_frameBytes Vector.length_toList)

lemma wordOf_bytes16 {v : ℕ} (hv : v < 65536) : wordOf (bytes16 v) = v := word16_bytes16 hv

lemma held_info (cells : Mem) (info : NetInfo) : held { m with dns := info.dns, dhcp := info.dhcp }
    ((((cells.write Reg.shar.offset info.mac.toList).write Reg.gar.offset info.gw.toList).write Reg.subr.offset
      info.sn.toList).write Reg.sipr.offset info.ip.toList) = { held m cells with info } := by
  have hself : ∀ (cells : Mem) {n : ℕ} (a : ℕ) (v : Vector Byte n),
      (cells.write a v.toList).slice a n = v.toList := by
    intro cells n a v
    have h := slice_write_self cells a v.toList
    rwa [Vector.length_toList] at h
  simp (disch := first | decide | (simp only [Vector.length_toList]; decide)) only [held, slice_write_before,
    slice_write_behind, hself, frameBytes_toList]

lemma held_mode (v : Byte) : held m (cells.write Reg.mr.offset [v]) = { held m cells with mode := v } := by
  have hself : (cells.write Reg.mr.offset [v]).slice Reg.mr.offset 1 = [v] := slice_write_self cells Reg.mr.offset [v]
  simp (disch := simp only [List.length_singleton]; decide) only [held, slice_write_behind, hself]
  rfl

lemma held_timeout (t : NetTimeout) :
    held m ((cells.write Reg.rtr.offset (bytes16 t.time100us.toNat)).write Reg.rcr.offset [t.retryCnt]) =
      { held m cells with timeout := t } := by
  have hrcr : ∀ cells : Mem, (cells.write Reg.rcr.offset [t.retryCnt]).slice Reg.rcr.offset 1 = [t.retryCnt] :=
    fun cells => slice_write_self cells Reg.rcr.offset [t.retryCnt]
  have hrtr : (cells.write Reg.rtr.offset (bytes16 t.time100us.toNat)).slice Reg.rtr.offset 2 =
    bytes16 t.time100us.toNat := slice_write_self cells Reg.rtr.offset (bytes16 t.time100us.toNat)
  have hlen : (bytes16 t.time100us.toNat).length = 2 := rfl
  simp (disch := first | decide | (simp only [hlen, List.length_singleton]; decide)) only [held, slice_write_before,
    hrcr, hrtr, wordOf_bytes16 t.time100us.isLt, BitVec.ofNat_toNat, BitVec.setWidth_eq]
  rfl

lemma held_intrmask (intr : IntrKind) :
    held m ((cells.write Reg.imr.offset [intr.setWidth 8]).write Reg.simr.offset [(intr >>> 8).setWidth 8]) =
      { held m cells with intrmask := intr } := by
  have himr : (cells.write Reg.imr.offset [intr.setWidth 8]).slice Reg.imr.offset 1 = [intr.setWidth 8] :=
    slice_write_self cells Reg.imr.offset [intr.setWidth 8]
  have hsimr : ∀ cells : Mem, (cells.write Reg.simr.offset [(intr >>> 8).setWidth 8]).slice Reg.simr.offset 1 =
    [(intr >>> 8).setWidth 8] := fun cells => slice_write_self cells Reg.simr.offset [(intr >>> 8).setWidth 8]
  have hwhole : (intr >>> 8).setWidth 8 ++ intr.setWidth 8 = intr := by
    apply BitVec.eq_of_getLsbD_eq
    intro i hi
    rw [BitVec.getLsbD_append]
    simp only [BitVec.getLsbD_setWidth, BitVec.getLsbD_ushiftRight]
    by_cases hlow : i < 8
    · simp [hlow]
    · have hback : 8 + (i - 8) = i := by omega
      have hhigh : i - 8 < 8 := by omega
      simp [hlow, hhigh, hback]
  simp (disch := first | decide | (simp only [List.length_singleton]; decide)) only [held, slice_write_before,
    slice_write_behind, himr, hsimr, byteAt, List.getD_cons_zero, hwhole]

lemma held_intrtime {v : ℕ} (hv : v < 65536) :
    held m (cells.write Reg.intlevel.offset (bytes16 v)) = { held m cells with intrtime := v } := by
  have hself : (cells.write Reg.intlevel.offset (bytes16 v)).slice Reg.intlevel.offset 2 = bytes16 v :=
    slice_write_self cells Reg.intlevel.offset (bytes16 v)
  have hlen : (bytes16 v).length = 2 := rfl
  simp (disch := first | decide | (simp only [hlen]; decide)) only [held, slice_write_before,
    slice_write_behind, hself,
    wordOf_bytes16 hv]
/-- A call answers as the store does and leaves the registers with what the store holds. -/
def Refines (b : Build) (call : Call) : Prop := ∀ m w, wp registers (call.run b)
  (fun answer m' w' => (answer, held m' (w' .common)) = (held m (w .common)).step call) (fun _ _ => False) m w

lemma refines_setNetinfo (info : NetInfo) : Refines b (.network (.setNetinfo info)) := by
  intro m w
  have hne : ∀ {n : ℕ} (v : Vector Byte (n + 1)), v.toList ≠ [] := fun v => by
    rw [← List.length_pos_iff, Vector.length_toList]
    exact Nat.succ_pos _
  refine (wp_bind _ _).2 ((wp_bind _ _).2 (wp_globalLocked ?_))
  refine (wp_bind _ _).2 (wp_wizchipWriteBuf (hne _) fun m₁ h₁ => ?_)
  refine (wp_bind _ _).2 (wp_wizchipWriteBuf (hne _) fun m₂ h₂ => ?_)
  refine (wp_bind _ _).2 (wp_wizchipWriteBuf (hne _) fun m₃ h₃ => ?_)
  refine (wp_bind _ _).2 (wp_wizchipWriteBuf (hne _) fun m₄ h₄ => ?_)
  have hinfo := held_info (m := m₄) (w .common) info
  rw [(((h₁.trans h₂).trans h₃).trans h₄).held (w .common)] at hinfo
  exact Prod.ext rfl hinfo

lemma refines_getNetinfo : Refines b (.network .getNetinfo) := by
  intro m w
  refine (wp_bind _ _).2 ((wp_bind _ _).2 (wp_globalLocked ?_))
  refine (wp_bind _ _).2 (wp_wizchipReadBuf (by decide) fun m₁ h₁ => ?_)
  refine (wp_bind _ _).2 (wp_wizchipReadBuf (by decide) fun m₂ h₂ => ?_)
  refine (wp_bind _ _).2 (wp_wizchipReadBuf (by decide) fun m₃ h₃ => ?_)
  refine (wp_bind _ _).2 (wp_wizchipReadBuf (by decide) fun m₄ h₄ => ?_)
  have hkept := ((h₁.trans h₂).trans h₃).trans h₄
  have hheld := hkept.held (w .common)
  refine Prod.ext ?_ hheld
  exact congrArg (fun s : Store => Answer.network 0 (.netInfo s.info)) hheld

lemma refines_setNetmode (mode : BitVec 32) : Refines b (.network (.setNetmode mode)) := by
  intro m w
  refine (wp_bind _ _).2 ((wp_bind _ _).2 ?_)
  rw [wizchipSetnetmode, Store.step]
  split_ifs
  · exact rfl
  · refine (wp_bind _ _).2 (wp_wizchipRead fun m₁ h₁ => ?_)
    refine (wp_bind _ _).2 (wp_wizchipWrite fun m₂ h₂ => ?_)
    refine Prod.ext rfl ((h₁.trans h₂).held _ |>.trans ?_)
    exact held_mode _

lemma refines_getNetmode : Refines b (.network .getNetmode) := by
  intro m w
  refine (wp_bind _ _).2 ((wp_bind _ _).2 (wp_wizchipRead fun m' h => ?_))
  exact Prod.ext rfl (h.held _)

lemma refines_setTimeout (t : NetTimeout) : Refines b (.network (.setTimeout t)) := by
  intro m w
  refine (wp_bind _ _).2 ((wp_bind _ _).2 (wp_globalLocked ?_))
  have hne : ∀ v, bytes16 v ≠ [] := fun v => List.cons_ne_nil _ _
  refine (wp_bind _ _).2 ((wp_bind _ _).2 (wp_wizchipWriteBufChecked (hne _) fun m₁ h₁ => ?_))
  refine (wp_bind _ _).2 (wp_wizchipWrite fun m₂ h₂ => ?_)
  have hkept : Kept m (m₂.timeoutFloorUpdated (if t.time100us < 1 then 1 else t.time100us).toNat
    (if t.retryCnt < 1 then 1 else t.retryCnt).toNat) := (h₁.trans h₂).trans ⟨rfl, rfl⟩
  refine Prod.ext rfl ((hkept.held _).trans ?_)
  exact held_timeout ⟨if t.retryCnt < 1 then 1 else t.retryCnt, if t.time100us < 1 then 1 else t.time100us⟩

lemma refines_getTimeout : Refines b (.network .getTimeout) := by
  intro m w
  refine (wp_bind _ _).2 ((wp_bind _ _).2 (wp_globalLocked ?_))
  refine (wp_bind _ _).2 (wp_wizchipRead fun m₁ h₁ => ?_)
  refine (wp_bind _ _).2 (wp_wizchipRead16Value fun m₂ h₂ => ?_)
  exact Prod.ext rfl ((h₁.trans h₂).held _)

lemma refines_setIntrmask (intr : IntrKind) : Refines b (.setIntrmask intr) := by
  intro m w
  refine (wp_bind _ _).2 ((wp_bind _ _).2 (wp_globalLocked ?_))
  refine (wp_bind _ _).2 (wp_wizchipWrite fun m₁ h₁ => ?_)
  refine wp_wizchipWrite fun m₂ h₂ => ?_
  exact Prod.ext rfl (((h₁.trans h₂).held _).trans (held_intrmask intr))

lemma refines_getIntrmask : Refines b .getIntrmask := by
  intro m w
  refine (wp_bind _ _).2 ((wp_bind _ _).2 (wp_globalLocked ?_))
  refine (wp_bind _ _).2 (wp_wizchipRead fun m₁ h₁ => ?_)
  refine (wp_bind _ _).2 (wp_wizchipRead fun m₂ h₂ => ?_)
  exact Prod.ext rfl ((h₁.trans h₂).held _)

lemma refines_setIntrtime (time : BitVec 16) : Refines b (.setIntrtime time) := by
  intro m w
  refine (wp_bind _ _).2 ((wp_bind _ _).2 (wp_wizchipWriteBufChecked (List.cons_ne_nil _ _) fun m' h => ?_))
  exact Prod.ext rfl ((h.held _).trans (held_intrtime time.isLt))

lemma refines_getIntrtime : Refines b .getIntrtime := by
  intro m w
  refine (wp_bind _ _).2 ((wp_bind _ _).2 (wp_wizchipRead16Value fun m' h => ?_))
  exact Prod.ext rfl (h.held _)

lemma refines (b : Build) (call : Call) : Refines b call := by
  cases call with
  | network type =>
    cases type with
    | setNetinfo info => exact refines_setNetinfo info
    | getNetinfo => exact refines_getNetinfo
    | setNetmode mode => exact refines_setNetmode mode
    | getNetmode => exact refines_getNetmode
    | setTimeout t => exact refines_setTimeout t
    | getTimeout => exact refines_getTimeout
    | other => exact fun m w => rfl
  | setIntrmask intr => exact refines_setIntrmask intr
  | getIntrmask => exact refines_getIntrmask
  | setIntrtime time => exact refines_setIntrtime time
  | getIntrtime => exact refines_getIntrtime

/-- Over any sequence of calls, in every build, the control functions are a store: each call answers what the calls
before it have set, and a setting keeps all the others, over registers that keep what is written to them. -/
theorem runs_refine (b : Build) (calls : List Call) (m : Driver) (w : Cells) :
    wp registers (runs b calls) (fun answers m' w' => (answers, held m' (w' .common)) =
      (held m (w .common)).steps calls) (fun _ _ => False) m w := by
  induction calls generalizing m w with
  | nil => exact rfl
  | cons call calls ih =>
    rw [runs, Store.steps]
    refine (wp_bind _ _).2 (wp_mono (refines b call m w) ?_ fun _ _ => id)
    intro answer m' w' hcall
    rw [← hcall]
    refine (wp_bind _ _).2 (wp_mono (ih m' w') ?_ fun _ _ => id)
    intro answers m'' w'' hcalls
    simp only [wp_pure, ← hcalls]

end store

end IoLibrary.Settings
