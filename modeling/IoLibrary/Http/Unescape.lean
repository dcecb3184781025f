import IoLibrary.Percent

/-! unescape_http_url of httpParser.c, on memory that goes on behind the string. -/
namespace IoLibrary.Http
open Percent

/-- C2D: any other character is its own value. -/
def c2d (c : Byte) : Byte :=
  if 0x30 ≤ c ∧ c ≤ 0x39 then c - 0x30
  else if 0x61 ≤ c ∧ c ≤ 0x66 then 10 + c - 0x61
  else if 0x41 ≤ c ∧ c ≤ 0x46 then 10 + c - 0x41
  else c

/-- What unescape_http_url leaves behind: the memory, the place of the NUL that it writes, and the
places that it has read. -/
structure Unescaped where
  url : Mem
  x : ℕ
  read : List ℕ

def Unescaped.after (places : List ℕ) (u : Unescaped) : Unescaped := { u with read := places ++ u.read }

/-- The loop of unescape_http_url, cut after `n` tests of its condition. -/
def unescapeLoop : ℕ → Mem → ℕ → ℕ → Option Unescaped
  | 0, _, _, _ => none
  | n + 1, url, x, y =>
    if url y = 0 then some ⟨Function.update url x 0, x, [y]⟩
    else
      let copied := Function.update url x (url y)
      if copied x = percent then
        let value := c2d (copied (y + 1)) * 0x10 + c2d (copied (y + 2))
        (unescapeLoop n (Function.update copied x value) (x + 1) (y + 3)).map (.after [y, y + 1, y + 2])
      else (unescapeLoop n copied (x + 1) (y + 1)).map (.after [y])

def unescapeHttpUrl (n : ℕ) (url : Mem) : Option Unescaped := unescapeLoop n url 0 0

/-- What the loop makes of a string: nothing, if an escape goes past its end. -/
def unescaped : List Byte → Option (List Byte)
  | [] => some []
  | c :: s =>
    if c = percent then
      match s with
      | h :: l :: r => (unescaped r).map ((c2d h * 0x10 + c2d l) :: ·)
      | _ => none
    else (unescaped s).map (c :: ·)

variable {s r w : List Byte} {c h l : Byte}

lemma unescaped_copy (hc : c ≠ percent) : unescaped (c :: s) = (unescaped s).map (c :: ·) := by
  rcases s with _ | ⟨h, _ | ⟨l, r⟩⟩ <;> exact if_neg hc

lemma unescaped_escape :
    unescaped (percent :: h :: l :: r) = (unescaped r).map ((c2d h * 0x10 + c2d l) :: ·) := by
  rw [unescaped, if_pos rfl]

lemma c2d_hex (hc : IsHex c) : c2d c = hexValue c := by
  revert c
  decide +kernel

section resync

/-- What the decoding still has to read, `w`, when the loop has taken a bad escape for the percent
sign that it begins with. It never becomes empty: the decoding could only catch up at an escape %3d
that the loop has taken for other characters. -/
structure Behind (w : List Byte) : Prop where
  even : w.length % 2 = 0
  ne_nil : w ≠ []
  ne_digit : w ≠ [percent, 0x33]
  ne_percent : w ≠ [0x33, percent]
  inner : ∀ u a b, w = u ++ [a, b, percent] → a = percent

lemma Behind.pair {y : Byte} (hc : c ≠ percent) (hne : y = percent → c ≠ 0x33) : Behind [y, c] where
  even := by simp
  ne_nil := by simp
  ne_digit hw := by
    obtain ⟨hy, htail⟩ := List.cons.inj hw
    exact hne hy (List.cons.inj htail).1
  ne_percent hw := hc (List.cons.inj (List.cons.inj hw).2).1
  inner u a b hw := by
    have hlen := congrArg List.length hw
    simp at hlen

lemma Behind.copied (hlen : 3 ≤ w.length) (heven : w.length % 2 = 1) (hc : c ≠ percent) : Behind (w ++ [c]) where
  even := by simp; omega
  ne_nil := by simp
  ne_digit hw := by
    have := congrArg List.length hw
    simp at this
    omega
  ne_percent hw := by
    have := congrArg List.length hw
    simp at this
    omega
  inner u a b hw := by
    have hlast := congrArg List.getLast? hw
    simp at hlast
    exact absurd hlast hc

lemma Behind.skipped (heven : w.length % 2 = 1) : Behind (w ++ [percent, h, l]) where
  even := by simp; omega
  ne_nil := by simp
  ne_digit hw := by
    have := congrArg List.length hw
    simp at this
  ne_percent hw := by
    have := congrArg List.length hw
    simp at this
  inner u a b hw := by
    have hlast := (List.append_inj' hw rfl).2
    exact (List.cons.inj hlast).1.symm

/-- The place where the decoding could catch up. -/
lemma digit_of_value (hh : IsHex h) (hl : IsHex l) (hv : hexValue h * 16 + hexValue l = l) : h = 0x33 := by
  have hdigits : ∀ h, IsHex h → ∀ l, IsHex l → hexValue h * 16 + hexValue l = l → h = 0x33 := by decide +kernel
  exact hdigits h hh l hl hv

/-- One step of the decoding, at the front of what it has still to read. -/
lemma decode_step {x y z v : Byte} {rest out : List Byte} (h : v :: out = decode (x :: y :: z :: rest)) :
    x = percent ∧ IsHex y ∧ IsHex z ∧ v = hexValue y * 16 + hexValue z ∧ out = decode rest ∨
      v = x ∧ out = decode (y :: z :: rest) := by
  by_cases hesc : x = percent ∧ IsHex y ∧ IsHex z
  · rw [decode, if_pos hesc] at h
    obtain ⟨hv, hout⟩ := List.cons.inj h
    exact .inl ⟨hesc.1, hesc.2.1, hesc.2.2, hv, hout⟩
  · rw [decode, if_neg hesc] at h
    exact .inr (List.cons.inj h)

/-- The loop copies `c`, and the decoding goes on with its string. -/
lemma Behind.copy (hw : Behind w) (hc : c ≠ percent) {out : List Byte}
    (hcons : c :: out = decode (w ++ c :: s)) : ∃ w', Behind w' ∧ out = decode (w' ++ s) := by
  have heven := hw.even
  match w, hw, heven with
  | [], hw, _ => exact absurd rfl hw.ne_nil
  | [_], _, heven | [_, _, _], _, heven | [_, _, _, _, _], _, heven => simp at heven
  | [x, y], hw, _ =>
    rcases decode_step hcons with ⟨rfl, hy, hhex, hv, -⟩ | ⟨rfl, hout⟩
    · exact absurd (by rw [digit_of_value hy hhex hv.symm]) hw.ne_digit
    · refine ⟨[y, c], .pair hc ?_, hout⟩
      rintro rfl rfl
      exact hw.ne_percent rfl
  | [x, y, z, t], hw, _ =>
    rcases decode_step hcons with ⟨rfl, hy, hz, -, hout⟩ | ⟨-, hout⟩
    · refine ⟨[t, c], .pair hc ?_, hout⟩
      rintro rfl
      exact absurd (hw.inner [percent] y z rfl) hy.ne_percent
    · exact ⟨[y, z, t] ++ [c], .copied (by simp) (by simp) hc, hout⟩
  | x :: y :: z :: t :: u :: v :: rest, _, heven =>
    simp only [List.length_cons] at heven
    rcases decode_step hcons with ⟨-, -, -, -, hout⟩ | ⟨-, hout⟩
    · refine ⟨t :: u :: v :: rest ++ [c], .copied (by simp) ?_ hc, by rw [hout]; simp⟩
      simp only [List.length_cons]
      omega
    · refine ⟨y :: z :: t :: u :: v :: rest ++ [c], .copied (by simp) ?_ hc, by rw [hout]; simp⟩
      simp only [List.length_cons]
      omega

/-- The loop takes an escape, and the decoding goes on with its string. -/
lemma Behind.skip (hw : Behind w) {v : Byte} {out : List Byte}
    (hcons : v :: out = decode (w ++ percent :: h :: l :: s)) : ∃ w', Behind w' ∧ out = decode (w' ++ s) := by
  have heven := hw.even
  match w, hw, heven with
  | [], hw, _ => exact absurd rfl hw.ne_nil
  | [_], _, heven | [_, _, _], _, heven => simp at heven
  | [x, y], _, _ =>
    rcases decode_step hcons with ⟨-, -, hhex, -⟩ | ⟨-, hout⟩
    · exact absurd rfl hhex.ne_percent
    · exact ⟨[y] ++ [percent, h, l], .skipped (by simp), hout⟩
  | x :: y :: z :: t :: rest, _, heven =>
    simp only [List.length_cons] at heven
    rcases decode_step hcons with ⟨-, -, -, -, hout⟩ | ⟨-, hout⟩
    · refine ⟨t :: rest ++ [percent, h, l], .skipped ?_, by rw [hout]; simp⟩
      simp only [List.length_cons]
      omega
    · refine ⟨y :: z :: t :: rest ++ [percent, h, l], .skipped ?_, by rw [hout]; simp⟩
      simp only [List.length_cons]
      omega

lemma never_caught (s : List Byte) {w : List Byte} (hw : Behind w) : unescaped s ≠ some (decode (w ++ s)) := by
  intro heq
  match s with
  | [] =>
    rw [List.append_nil] at heq
    exact decode_ne_nil hw.ne_nil (Option.some.inj heq).symm
  | c :: s =>
    by_cases hc : c = percent
    · subst hc
      match s with
      | [] | [h] => exact nomatch heq
      | h :: l :: s =>
        rw [unescaped_escape] at heq
        obtain ⟨out, hout, hcons⟩ := Option.map_eq_some_iff.1 heq
        obtain ⟨w', hw', rfl⟩ := hw.skip hcons
        exact never_caught s hw' hout
    · rw [unescaped_copy hc] at heq
      obtain ⟨out, hout, hcons⟩ := Option.map_eq_some_iff.1 heq
      obtain ⟨w', hw', rfl⟩ := hw.copy hc hcons
      exact never_caught s hw' hout

/-- Two characters that are taken for the digits of a percent sign. -/
lemma Behind.start (hv : c2d h * 0x10 + c2d l = percent) : Behind [h, l] where
  even := by simp
  ne_nil := by simp
  ne_digit hw := by
    obtain ⟨rfl, htail⟩ := List.cons.inj hw
    obtain ⟨rfl, -⟩ := List.cons.inj htail
    exact absurd hv (by decide)
  ne_percent hw := by
    obtain ⟨rfl, htail⟩ := List.cons.inj hw
    obtain ⟨rfl, -⟩ := List.cons.inj htail
    exact absurd hv (by decide)
  inner u a b hw := by
    have hlen := congrArg List.length hw
    simp at hlen

end resync

/-- The loop makes of a string its decoding if every percent sign begins an escape, and otherwise not. -/
lemma unescaped_iff (s : List Byte) : unescaped s = some (decode s) ↔ Escaped s := by
  match s with
  | [] => exact ⟨fun _ => escaped_nil, fun _ => rfl⟩
  | c :: s =>
    by_cases hc : c = percent
    · subst hc
      match s with
      | [] | [h] =>
        refine ⟨fun heq => Option.noConfusion rfl (heq_of_eq heq), fun hescaped => ?_⟩
        obtain ⟨_, _, _, hsplit, -⟩ := (escaped_cons.1 hescaped).1 rfl
        simp at hsplit
      | h :: l :: r =>
        rw [unescaped_escape]
        by_cases hhex : IsHex h ∧ IsHex l
        · rw [decode_escape hhex.1 hhex.2, escaped_escape hhex.1 hhex.2, c2d_hex hhex.1, c2d_hex hhex.2,
            ← unescaped_iff r]
          simp
        · constructor
          · intro heq
            obtain ⟨out, hout, hcons⟩ := Option.map_eq_some_iff.1 heq
            rcases decode_step hcons with ⟨-, hh, hl, -⟩ | ⟨hv, rfl⟩
            · exact absurd ⟨hh, hl⟩ hhex
            · exact absurd hout (never_caught r (.start hv))
          · intro hescaped
            obtain ⟨h', l', r', hsplit, hh, hl⟩ := (escaped_cons.1 hescaped).1 rfl
            obtain ⟨rfl, htail⟩ := List.cons.inj hsplit
            obtain ⟨rfl, -⟩ := List.cons.inj htail
            exact absurd ⟨hh, hl⟩ hhex
    · rw [unescaped_copy hc, decode_copy fun _ _ _ _ hesc => hc hesc.1, escaped_cons, ← unescaped_iff s]
      simp [hc]

section loop
variable {url : Mem} {n x y : ℕ} {u : Unescaped}

/-- The string `s` is at `y`, with its terminating NUL. -/
structure StringAt (url : Mem) (y : ℕ) (s : List Byte) : Prop where
  bytes : url.slice y s.length = s
  noNul : 0 ∉ s
  nul : url (y + s.length) = 0

lemma StringAt.head (h : StringAt url y (c :: s)) : url y = c ∧ c ≠ 0 ∧ StringAt url (y + 1) s := by
  have hbytes := h.bytes
  rw [List.length_cons, Mem.slice_succ] at hbytes
  obtain ⟨rfl, htail⟩ := List.cons.inj hbytes
  have hnul := h.nul
  rw [List.length_cons, Nat.add_comm s.length, ← Nat.add_assoc] at hnul
  refine ⟨rfl, ?_, htail, fun hmem => h.noNul (List.mem_cons_of_mem _ hmem), hnul⟩
  intro hzero
  exact h.noNul (by rw [hzero]; exact List.mem_cons_self)

/-- A write before the string. -/
lemma StringAt.update (h : StringAt url y s) (hx : x < y) (v : Byte) :
    StringAt (Function.update url x v) y s where
  bytes := by
    rw [← h.bytes, Mem.length_slice]
    refine Mem.slice_congr fun i hle _ => ?_
    exact Function.update_of_ne (by omega) _ _
  noNul := h.noNul
  nul := by
    rw [Function.update_of_ne (by omega)]
    exact h.nul

/-- What the loop does from `y` on with a string that it turns into `out`. -/
structure Turned (url : Mem) (x last : ℕ) (out : List Byte) (u : Unescaped) : Prop where
  place : u.x = x + out.length
  before : ∀ i < x, u.url i = url i
  bytes : u.url.slice x out.length = out
  nul : u.url u.x = 0
  read : ∀ i ∈ u.read, i ≤ last

lemma unescapeLoop_nul (hnul : url y = 0) : unescapeLoop (n + 1) url x y = some ⟨Function.update url x 0, x, [y]⟩ := by
  rw [unescapeLoop, if_pos hnul]

lemma unescapeLoop_copy (hc : url y ≠ 0) (hplain : url y ≠ percent) :
    unescapeLoop (n + 1) url x y =
      (unescapeLoop n (Function.update url x (url y)) (x + 1) (y + 1)).map (.after [y]) := by
  have hcopied : Function.update url x (url y) x ≠ percent := by rwa [Function.update_self]
  rw [unescapeLoop, if_neg hc]
  exact if_neg hcopied

lemma unescapeLoop_escape (hc : url y = percent) (hxy : x ≤ y) :
    unescapeLoop (n + 1) url x y =
      (unescapeLoop n (Function.update url x (c2d (url (y + 1)) * 0x10 + c2d (url (y + 2)))) (x + 1)
        (y + 3)).map (.after [y, y + 1, y + 2]) := by
  have hzero : url y ≠ 0 := by rw [hc]; decide
  have hcopied : Function.update url x (url y) x = percent := by rwa [Function.update_self]
  rw [unescapeLoop, if_neg hzero]
  simp only [if_pos hcopied, Function.update_idem]
  rw [Function.update_of_ne (by omega), Function.update_of_ne (by omega)]

lemma Turned.step {v : Byte} {last : ℕ} {out : List Byte} {places : List ℕ}
    (h : Turned (Function.update url x v) (x + 1) last out u) (hplaces : ∀ i ∈ places, i ≤ last) :
    Turned url x last (v :: out) (u.after places) where
  place := by
    rw [List.length_cons]
    have hplace := h.place
    simp only [Unescaped.after]
    omega
  before i hi := by
    have hbefore := h.before i (by omega)
    rwa [Function.update_of_ne (by omega)] at hbefore
  bytes := by
    have hv := h.before x (Nat.lt_succ_self x)
    rw [Function.update_self] at hv
    rw [List.length_cons, Mem.slice_succ]
    exact congrArg₂ List.cons hv h.bytes
  nul := h.nul
  read i hi := by
    rcases List.mem_append.1 hi with hi | hi
    · exact hplaces i hi
    · exact h.read i hi

/-- The loop ends, within the string, if no escape goes past its end. -/
lemma unescapeLoop_turned (s : List Byte) {url : Mem} {x y : ℕ} {out : List Byte} (hs : StringAt url y s)
    (hxy : x ≤ y) (hout : unescaped s = some out) :
    ∃ n u, unescapeLoop n url x y = some u ∧ Turned url x (y + s.length) out u := by
  match s with
  | [] =>
    cases hout
    refine ⟨1, _, unescapeLoop_nul hs.nul, ⟨rfl, fun i hi => ?_, rfl, Function.update_self _ _ _, ?_⟩⟩
    · exact Function.update_of_ne (Nat.ne_of_lt hi) _ _
    · intro i hi
      rw [List.mem_singleton.1 hi]
      exact Nat.le_add_right _ _
  | c :: s =>
    obtain ⟨rfl, hc, htail⟩ := hs.head
    by_cases hpercent : url y = percent
    · match s with
      | [] | [h] =>
        rw [hpercent] at hout
        exact Option.noConfusion rfl (heq_of_eq hout)
      | h :: l :: s =>
        obtain ⟨rfl, -, htail⟩ := htail.head
        obtain ⟨rfl, -, htail⟩ := htail.head
        rw [hpercent, unescaped_escape] at hout
        obtain ⟨out, hrest, rfl⟩ := Option.map_eq_some_iff.1 hout
        have hafter (v : Byte) : StringAt (Function.update url x v) (y + 3) s := htail.update (by omega) v
        have hstring := hafter (c2d (url (y + 1)) * 0x10 + c2d (url (y + 2)))
        obtain ⟨n, u, hu, hturned⟩ := unescapeLoop_turned s hstring (show x + 1 ≤ y + 3 by omega) hrest
        refine ⟨n + 1, u.after [y, y + 1, y + 2], ?_, ?_⟩
        · rw [unescapeLoop_escape hpercent hxy, hu]
          rfl
        · rw [show y + (url y :: url (y + 1) :: url (y + 2) :: s).length = y + 3 + s.length by
            simp only [List.length_cons]; omega]
          refine hturned.step fun i hi => ?_
          simp only [List.mem_cons, List.not_mem_nil, or_false] at hi
          omega
    · rw [unescaped_copy hpercent] at hout
      obtain ⟨out, hrest, rfl⟩ := Option.map_eq_some_iff.1 hout
      have hafter := htail.update (Nat.lt_succ_of_le hxy) (url y)
      obtain ⟨n, u, hu, hturned⟩ := unescapeLoop_turned s hafter (Nat.add_le_add_right hxy 1) hrest
      refine ⟨n + 1, u.after [y], ?_, ?_⟩
      · rw [unescapeLoop_copy hc hpercent, hu]
        rfl
      · rw [show y + (url y :: s).length = y + 1 + s.length by simp only [List.length_cons]; omega]
        refine hturned.step fun i hi => ?_
        rw [List.mem_singleton.1 hi]
        omega

/-- A loop that ends has looked at its first place. -/
lemma unescapeLoop_reads (hu : unescapeLoop n url x y = some u) : y ∈ u.read := by
  match n with
  | 0 => exact Option.noConfusion rfl (heq_of_eq hu)
  | n + 1 =>
    simp only [unescapeLoop] at hu
    split_ifs at hu
    · cases hu
      exact List.mem_cons_self
    all_goals
      obtain ⟨u, -, rfl⟩ := Option.map_eq_some_iff.1 hu
      exact List.mem_cons_self

/-- A loop that ends has read past the string if an escape goes past its end. -/
lemma unescapeLoop_past (s : List Byte) {url : Mem} {n x y : ℕ} {u : Unescaped} (hs : StringAt url y s)
    (hxy : x ≤ y) (hnone : unescaped s = none) (hu : unescapeLoop n url x y = some u) :
    ∃ i ∈ u.read, y + s.length < i := by
  match n with
  | 0 => exact Option.noConfusion rfl (heq_of_eq hu)
  | n + 1 =>
  match s with
  | [] => exact Option.noConfusion rfl (heq_of_eq hnone)
  | c :: s =>
    obtain ⟨rfl, hc, htail⟩ := hs.head
    by_cases hpercent : url y = percent
    · rw [unescapeLoop_escape hpercent hxy] at hu
      obtain ⟨u, hrest, rfl⟩ := Option.map_eq_some_iff.1 hu
      match s with
      | [] =>
        refine ⟨y + 2, List.mem_append_left _ (by simp), ?_⟩
        simp
      | [h] =>
        refine ⟨y + 3, List.mem_append_right _ (unescapeLoop_reads hrest), ?_⟩
        simp
      | h :: l :: s =>
        obtain ⟨rfl, -, htail⟩ := htail.head
        obtain ⟨rfl, -, htail⟩ := htail.head
        rw [hpercent, unescaped_escape] at hnone
        have hafter (v : Byte) : StringAt (Function.update url x v) (y + 3) s := htail.update (by omega) v
        obtain ⟨i, hi, hlt⟩ := unescapeLoop_past s (hafter _) (by omega)
          (Option.map_eq_none_iff.1 hnone) hrest
        refine ⟨i, List.mem_append_right _ hi, ?_⟩
        simp only [List.length_cons]
        omega
    · rw [unescapeLoop_copy hc hpercent] at hu
      obtain ⟨u, hrest, rfl⟩ := Option.map_eq_some_iff.1 hu
      rw [unescaped_copy hpercent] at hnone
      obtain ⟨i, hi, hlt⟩ := unescapeLoop_past s (htail.update (Nat.lt_succ_of_le hxy) (url y))
        (Nat.add_le_add_right hxy 1) (Option.map_eq_none_iff.1 hnone) hrest
      refine ⟨i, List.mem_append_right _ hi, ?_⟩
      simp only [List.length_cons]
      omega

lemma unescapeLoop_unique {m : ℕ} {u' : Unescaped} (hu : unescapeLoop n url x y = some u)
    (hu' : unescapeLoop m url x y = some u') : u = u' := by
  induction n generalizing m url x y u u' with
  | zero => exact Option.noConfusion rfl (heq_of_eq hu)
  | succ n ih =>
    match m with
    | 0 => exact Option.noConfusion rfl (heq_of_eq hu')
    | m + 1 =>
      simp only [unescapeLoop] at hu hu'
      split_ifs at hu hu'
      · exact Option.some.inj (hu.symm.trans hu')
      all_goals
        obtain ⟨v, hv, rfl⟩ := Option.map_eq_some_iff.1 hu
        obtain ⟨v', hv', rfl⟩ := Option.map_eq_some_iff.1 hu'
        rw [ih hv hv']

/-- What unescape_http_url is to do with the string `s` at `url`: to end without a look past its NUL,
and to leave its decoding in place. -/
def Unescapes (url : Mem) (s : List Byte) : Prop :=
  ∃ n u, unescapeHttpUrl n url = some u ∧ (∀ i ∈ u.read, i ≤ s.length) ∧
    u.url.slice 0 u.x = decode s ∧ u.url u.x = 0

/-- unescape_http_url decodes the strings in which every percent sign begins an escape. -/
theorem unescapes_iff (hs : StringAt url 0 s) : Unescapes url s ↔ Escaped s := by
  rw [← unescaped_iff s]
  constructor
  · rintro ⟨n, u, hu, hread, hbytes, -⟩
    cases hout : unescaped s with
    | none =>
      obtain ⟨i, hi, hlt⟩ := unescapeLoop_past s hs (Nat.le_refl 0) hout hu
      have hle := hread i hi
      omega
    | some out =>
      obtain ⟨m, u', hu', hturned⟩ := unescapeLoop_turned s hs (Nat.le_refl 0) hout
      obtain rfl := unescapeLoop_unique hu hu'
      rw [hturned.place, Nat.zero_add, hturned.bytes] at hbytes
      rw [hbytes]
  · intro hout
    obtain ⟨n, u, hu, hturned⟩ := unescapeLoop_turned s hs (Nat.le_refl 0) hout
    refine ⟨n, u, hu, fun i hi => ?_, ?_, hturned.nul⟩
    · have hle := hturned.read i hi
      omega
    · rw [hturned.place, Nat.zero_add, hturned.bytes]

/-- The memory that begins with `s` and is zero behind it. -/
def stored (s : List Byte) : Mem := Mem.fill (fun _ => 0) s

/-- A percent sign at the end: the loop reads past the NUL. -/
theorem trailing_percent_read_past : ¬ Unescapes (stored [percent]) [percent] := by
  rintro ⟨n, u, hu, hread, -⟩
  have hs : StringAt (stored [percent]) 0 [percent] := ⟨rfl, by decide, rfl⟩
  obtain ⟨i, hi, hlt⟩ := unescapeLoop_past [percent] hs (Nat.le_refl 0) rfl hu
  exact absurd (hread i hi) (by omega)

theorem unescapes_iff_plain : Unescapes (stored [0x41]) [0x41] := by
  have hs : StringAt (stored [0x41]) 0 [0x41] := ⟨rfl, by decide, rfl⟩
  exact (unescapes_iff hs).2 (escaped_cons.2 ⟨nofun, escaped_nil⟩)

end loop

end IoLibrary.Http
