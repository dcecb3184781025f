import IoLibrary.Dhcp6.Bounds

/-! Address_Auto_Config_RA from a Router Advertisement on. Its loop over the options goes by their lengths, and
two of its cases by loops that end only at their end itself. -/
namespace IoLibrary.AddressAutoConfig
open Dhcp6 (Ip6 ip6At Comes)

section scan
variable {σ α : Type*} (place : σ → ℕ) (step : ℕ → σ → Option σ)

/-- A loop up to `e`. Each turn has the fuel that is left, for loops of its own. -/
def scan (e : ℕ) : ℕ → σ → Option σ
  | 0, _ => none
  | fuel + 1, s => if place s < e then (step fuel s).bind (scan e fuel) else some s

/-- What a turn of a loop does is settled by its place: the next place and what is logged, and whether it ends.
A turn that ends does so with any fuel from `need` on. -/
structure Settled (log : σ → List α) (next : ℕ → ℕ) (entry : ℕ → List α) (Ends : ℕ → Prop) (need : ℕ) : Prop where
  moves {fuel s t} : step fuel s = some t → place t = next (place s)
  logs {fuel s t} : step fuel s = some t → log t = log s ++ entry (place s)
  ends {fuel s t} : step fuel s = some t → Ends (place s)
  enough {fuel s} : need ≤ fuel → Ends (place s) → ∃ t, step fuel s = some t
  le (p : ℕ) : p ≤ next p

variable {place step} {log : σ → List α} {next : ℕ → ℕ} {entry : ℕ → List α} {Ends : ℕ → Prop} {need e : ℕ}
  {P : α → Prop}

/-- A loop that ends has gone on at each of its places: it would do the same again where it stood. -/
lemma of_scan (h : Settled place step log next entry Ends need) {fuel : ℕ} {s t : σ}
    (hscan : scan place step e fuel s = some t) (hlog : ∀ a ∈ log t, P a) :
    (∀ a ∈ log s, P a) ∧ ∀ q, Comes next e (place s) q → Ends q ∧ q < next q ∧ ∀ a ∈ entry q, P a := by
  induction fuel generalizing s with
  | zero => cases hscan
  | succ fuel ih =>
    rw [scan] at hscan
    split_ifs at hscan with hlt
    · obtain ⟨s', hstep, hrest⟩ := Option.bind_eq_some_iff.1 hscan
      have hrest := ih hrest
      rw [h.moves hstep, h.logs hstep, List.forall_mem_append] at hrest
      refine ⟨hrest.1.1, fun q hq => ?_⟩
      cases hq with
      | here =>
        refine ⟨h.ends hstep, ?_, hrest.1.2⟩
        by_contra hstays
        have hnext : next (place s) = place s := Nat.le_antisymm (Nat.not_lt.1 hstays) (h.le _)
        rw [hnext] at hrest
        exact hstays (hrest.2 (place s) (.here hlt)).2.1
      | after _ hq => exact hrest.2 q hq
    · cases hscan
      refine ⟨hlog, fun q hq => ?_⟩
      cases hq with
      | here h => exact absurd h hlt
      | after h => exact absurd h hlt

lemma scan_of (h : Settled place step log next entry Ends need) {s : σ} (hlog : ∀ a ∈ log s, P a)
    (hall : ∀ q, Comes next e (place s) q → Ends q ∧ q < next q ∧ ∀ a ∈ entry q, P a) {fuel : ℕ}
    (hfuel : need + (e - place s) < fuel) : ∃ t, scan place step e fuel s = some t ∧ ∀ a ∈ log t, P a := by
  induction fuel generalizing s with
  | zero => exact absurd hfuel (Nat.not_lt_zero _)
  | succ fuel ih =>
    rw [scan]
    split_ifs with hlt
    · obtain ⟨hends, hprogress, hentry⟩ := hall (place s) (.here hlt)
      have hneed : need ≤ fuel := by omega
      obtain ⟨s', hstep⟩ := h.enough hneed hends
      have hplace := h.moves hstep
      rw [hstep]
      refine ih ?_ (fun q hq => hall q (.after hlt (hplace ▸ hq))) (by omega)
      rw [h.logs hstep]
      exact List.forall_mem_append.2 ⟨hlog, hentry⟩
    · exact ⟨s, rfl, hlog⟩

theorem scan_iff (h : Settled place step log next entry Ends need) {s : σ} :
    (∃ fuel t, scan place step e fuel s = some t ∧ ∀ a ∈ log t, P a) ↔
      (∀ a ∈ log s, P a) ∧ ∀ q, Comes next e (place s) q → Ends q ∧ q < next q ∧ ∀ a ∈ entry q, P a := by
  constructor
  · rintro ⟨fuel, t, hscan, hlog⟩
    exact of_scan h hscan hlog
  · rintro ⟨hlog, hall⟩
    obtain ⟨t, ht⟩ := scan_of h hlog hall (Nat.lt_succ_self _)
    exact ⟨_, t, ht⟩

end scan

def routerAdvertisement : Byte := 134

def raoSlla : Byte := 1
def raoTlla : Byte := 2
def raoPi : Byte := 3
def raoRh : Byte := 4
def raoMtu : Byte := 5
def raoRdns : Byte := 25

/-- An access to the message, or a write to prefix, netinfo->sn6 or DNS6_Address. -/
inductive Access
  | message (i : ℕ)
  | pre (i : ℕ)
  | sn6 (i : ℕ)
  | dns (i : ℕ)

/-- The place in the message, what the options fill, and the accesses so far. -/
structure Ra where
  p : ℕ
  pre : Mem
  sn6 : Mem
  gua : Ip6
  dns : Ip6
  accesses : List Access

/-- `*p++` of `k` bytes. -/
def Ra.take (k : ℕ) (r : Ra) : Ra :=
  { r with p := r.p + k, accesses := r.accesses ++ (List.range' r.p k).map .message }

def Ra.pass (k : ℕ) (r : Ra) : Ra := { r with p := r.p + k }

/-- `while (p != e) p++`. -/
def skipTo (e : ℕ) : ℕ → Ra → Option Ra
  | 0, _ => none
  | fuel + 1, r => if r.p = e then some r else skipTo e fuel (r.pass 1)

/-- The length of the option at `p`, in a uint8_t. -/
def oLen (m : Mem) (p : ℕ) : ℕ := (m (p + 1)).toNat * 8 % 0x100

def skipOption (m : Mem) (r : Ra) : Ra :=
  { r.take 2 with p := (r.take 2).p + oLen m r.p - 2 }

def defaultOption (m : Mem) (r : Ra) : Ra :=
  if 0 < oLen m r.p then skipOption m r else (r.take 2).pass 1

/-- The bytes of the prefix. -/
def prefixBytes (m : Mem) (p : ℕ) : ℕ := (m (p + 2)).toNat / 8

def getLlar (llar : Ip6) (r : Ra) : Ra :=
  { r with pre := r.pre.fill llar.toList, accesses := r.accesses ++ (List.range 16).map .pre }

def copyPrefix (m : Mem) (r : Ra) (i : ℕ) : Ra :=
  { r with
    p := r.p + 1
    pre := Function.update r.pre i (m r.p)
    sn6 := Function.update r.sn6 i 0xFF
    accesses := r.accesses ++ [.message r.p, .pre i, .sn6 i] }

def takePrefix (m : Mem) (llar : Ip6) (r : Ra) : Ra :=
  let copied := (List.range (prefixBytes m r.p)).foldl (copyPrefix m) (getLlar llar ((r.take 12).pass 4))
  { copied with gua := ip6At copied.pre 0 }

def takeDns (m : Mem) (r : Ra) : Ra :=
  let taken := ((r.take 2).pass 2).take 4
  { taken.take 16 with
    dns := ip6At m taken.p
    accesses := (taken.take 16).accesses ++ (List.range 16).map .dns }

inductive Kind
  | skipped
  | pi
  | rdns
  | other
  deriving DecidableEq

/-- The case that the type of an option goes to. -/
def kind (t : Byte) : Kind :=
  if t = raoSlla ∨ t = raoTlla then .skipped
  else if t = raoPi then .pi
  else if t = raoRh ∨ t = raoMtu then .skipped
  else if t = raoRdns then .rdns
  else .other

def raOption (m : Mem) (llar : Ip6) (fuel : ℕ) (r : Ra) : Option Ra :=
  match kind (m r.p) with
  | .skipped => some (skipOption m r)
  | .pi => skipTo (r.p + oLen m r.p) fuel (takePrefix m llar r)
  | .rdns => skipTo (r.p + oLen m r.p) fuel (takeDns m r)
  | .other => some (defaultOption m r)

/-- Address_Auto_Config_RA after recvfrom has put `size` bytes to `m`: MO_flag, and what the options filled. -/
def addressAutoConfigRa (m : Mem) (size : ℕ) (llar : Ip6) (fuel : ℕ) (r : Ra) : Option (Byte × Ra) :=
  (scan Ra.p (raOption m llar) size fuel { r with p := 16, accesses := [] }).map fun r => (m 5 >>> 6, r)

/-- The message has `len` bytes, and each of the three arrays 16. -/
def Access.Within (len : ℕ) : Access → Prop
  | .message i => i < len
  | .pre i | .sn6 i | .dns i => i < 16

/-- The loop over the options ends, and all that it accesses is there. -/
def Bounded (m : Mem) (len : ℕ) (llar : Ip6) (r : Ra) : Prop :=
  ∃ fuel result, addressAutoConfigRa m len llar fuel r = some result ∧ ∀ a ∈ result.2.accesses, a.Within len

/-- The place after an option. -/
def next (m : Mem) (p : ℕ) : ℕ := if kind (m p) = .other ∧ oLen m p = 0 then p + 3 else p + oLen m p

/-- The option at `p` is in the message as far as its case takes it, and long enough for it. -/
def Fits (m : Mem) (len p : ℕ) : Prop :=
  match kind (m p) with
  | .skipped => p + 2 ≤ len ∧ oLen m p ≠ 0
  | .pi => p + 12 ≤ len ∧ (prefixBytes m p = 0 ∨ p + 16 + prefixBytes m p ≤ len) ∧ prefixBytes m p ≤ 16 ∧
      16 + prefixBytes m p ≤ oLen m p
  | .rdns => p + 24 ≤ len ∧ 24 ≤ oLen m p
  | .other => p + 2 ≤ len

/-- What the case of the option at `p` accesses. -/
def entry (m : Mem) (p : ℕ) : List Access :=
  match kind (m p) with
  | .pi => (List.range' p 12).map .message ++ (List.range 16).map .pre ++
      (List.range (prefixBytes m p)).flatMap fun i => [.message (p + 16 + i), .pre i, .sn6 i]
  | .rdns => (List.range' p 2).map .message ++ (List.range' (p + 4) 4).map .message ++
      (List.range' (p + 8) 16).map .message ++ (List.range 16).map .dns
  | _ => (List.range' p 2).map .message

/-- The loops that go on to the end of an option do not begin behind it. -/
def Ends (m : Mem) (p : ℕ) : Prop :=
  match kind (m p) with
  | .pi => 16 + prefixBytes m p ≤ oLen m p
  | .rdns => 24 ≤ oLen m p
  | _ => True

section option
variable {m : Mem} {llar : Ip6} {len p e k fuel : ℕ} {r t : Ra}

lemma oLen_lt : oLen m p < 256 := Nat.mod_lt _ (by decide)

lemma next_of (h : kind (m p) ≠ .other) : next m p = p + oLen m p := if_neg fun hother => h hother.1

lemma skipTo_some (h : skipTo e fuel r = some t) : r.p ≤ e ∧ t = { r with p := e } := by
  induction fuel generalizing r with
  | zero => cases h
  | succ fuel ih =>
    rw [skipTo] at h
    split_ifs at h with hp
    · cases h
      exact ⟨hp.le, hp ▸ rfl⟩
    · obtain ⟨hle, ht⟩ := ih h
      exact ⟨Nat.le_of_succ_le hle, ht⟩

lemma skipTo_of (hle : r.p ≤ e) (hfuel : e - r.p < fuel) : skipTo e fuel r = some { r with p := e } := by
  induction fuel generalizing r with
  | zero => exact absurd hfuel (Nat.not_lt_zero _)
  | succ fuel ih =>
    rw [skipTo]
    split_ifs with hp
    · rw [← hp]
    · have hpass : (r.pass 1).p = r.p + 1 := rfl
      exact ih (by omega) (by omega)

lemma copyPrefix_range (m : Mem) (r : Ra) (k : ℕ) :
    ((List.range k).foldl (copyPrefix m) r).p = r.p + k ∧
      ((List.range k).foldl (copyPrefix m) r).accesses =
        r.accesses ++ (List.range k).flatMap fun i => [.message (r.p + i), .pre i, .sn6 i] := by
  induction k with
  | zero => simp
  | succ k ih =>
    rw [List.range_succ, List.foldl_append, List.flatMap_append, List.foldl_cons, List.foldl_nil,
      List.flatMap_singleton]
    refine ⟨?_, ?_⟩
    · rw [copyPrefix, ih.1, Nat.add_assoc]
    · rw [copyPrefix, ih.1, ih.2, List.append_assoc]

lemma takePrefix_p (m : Mem) (llar : Ip6) (r : Ra) :
    (takePrefix m llar r).p = r.p + 16 + prefixBytes m r.p :=
  (copyPrefix_range m (getLlar llar ((r.take 12).pass 4)) (prefixBytes m r.p)).1

lemma takePrefix_accesses (m : Mem) (llar : Ip6) (r : Ra) : (takePrefix m llar r).accesses =
    r.accesses ++ ((List.range' r.p 12).map .message ++ (List.range 16).map .pre ++
      (List.range (prefixBytes m r.p)).flatMap fun i => [.message (r.p + 16 + i), .pre i, .sn6 i]) := by
  simp only [← List.append_assoc]
  exact (copyPrefix_range m (getLlar llar ((r.take 12).pass 4)) (prefixBytes m r.p)).2

/-- A case that goes on to the end of its option has `c` before it does, and any other case ends at once. -/
lemma raOption_cases (m : Mem) (llar : Ip6) (r : Ra) :
    (∃ c : Ra, (∀ fuel, raOption m llar fuel r = skipTo (next m r.p) fuel c) ∧ r.p ≤ c.p ∧
      c.accesses = r.accesses ++ entry m r.p ∧ (Ends m r.p ↔ c.p ≤ next m r.p)) ∨
    ∃ t : Ra, (∀ fuel, raOption m llar fuel r = some t) ∧ t.p = next m r.p ∧
      t.accesses = r.accesses ++ entry m r.p ∧ Ends m r.p := by
  cases hkind : kind (m r.p) with
  | skipped =>
    right
    refine ⟨skipOption m r, fun fuel => by simp only [raOption, hkind], ?_, ?_, ?_⟩
    · have hp : (skipOption m r).p = r.p + 2 + oLen m r.p - 2 := rfl
      rw [hp, next_of (by simp [hkind])]
      omega
    · simp only [entry, hkind]
      rfl
    · simp only [Ends, hkind]
  | pi =>
    left
    have hnext : next m r.p = r.p + oLen m r.p := next_of (by simp [hkind])
    refine ⟨takePrefix m llar r, fun fuel => by simp only [raOption, hkind, hnext], ?_, ?_, ?_⟩
    · rw [takePrefix_p]
      omega
    · simp only [takePrefix_accesses, entry, hkind]
    · simp only [Ends, hkind, takePrefix_p, hnext]
      omega
  | rdns =>
    left
    have hp : (takeDns m r).p = r.p + 24 := rfl
    have hnext : next m r.p = r.p + oLen m r.p := next_of (by simp [hkind])
    refine ⟨takeDns m r, fun fuel => by simp only [raOption, hkind, hnext], ?_, ?_, ?_⟩
    · rw [hp]
      exact Nat.le_add_right r.p 24
    · simp only [entry, hkind, ← List.append_assoc]
      rfl
    · simp only [Ends, hkind, hp, hnext]
      omega
  | other =>
    right
    refine ⟨defaultOption m r, fun fuel => by simp only [raOption, hkind], ?_, ?_, ?_⟩
    · rw [defaultOption, next, hkind]
      split_ifs with hpos hzero hzero
      · omega
      · exact (by omega : r.p + 2 + oLen m r.p - 2 = r.p + oLen m r.p)
      · rfl
      · exact absurd ⟨rfl, Nat.eq_zero_of_not_pos hpos⟩ hzero
    · simp only [entry, hkind, defaultOption]
      split_ifs <;> rfl
    · simp only [Ends, hkind]

/-- A turn of the loop, by the place of its option. -/
lemma settled (m : Mem) (llar : Ip6) :
    Settled Ra.p (raOption m llar) Ra.accesses (next m) (entry m) (Ends m) 256 where
  moves {fuel r t} h := by
    obtain ⟨c, hskip, -, -, -⟩ | ⟨t', hstep, hp, -, -⟩ := raOption_cases m llar r
    · rw [hskip] at h
      rw [(skipTo_some h).2]
    · rw [hstep, Option.some.injEq] at h
      rw [← h, hp]
  logs {fuel r t} h := by
    obtain ⟨c, hskip, -, haccesses, -⟩ | ⟨t', hstep, -, haccesses, -⟩ := raOption_cases m llar r
    · rw [hskip] at h
      rw [(skipTo_some h).2, ← haccesses]
    · rw [hstep, Option.some.injEq] at h
      rw [← h, haccesses]
  ends {fuel r t} h := by
    obtain ⟨c, hskip, -, -, hends⟩ | ⟨t', -, -, -, hends⟩ := raOption_cases m llar r
    · rw [hskip] at h
      exact hends.2 (skipTo_some h).1
    · exact hends
  enough {fuel r} hfuel h := by
    obtain ⟨c, hskip, hle, -, hends⟩ | ⟨t', hstep, -, -, -⟩ := raOption_cases m llar r
    · have hnear : next m r.p ≤ r.p + 255 := by
        have := oLen_lt (m := m) (p := r.p)
        rw [next]
        split_ifs <;> omega
      exact ⟨_, (hskip fuel).trans (skipTo_of (hends.1 h) (by omega))⟩
    · exact ⟨t', hstep fuel⟩
  le p := by
    rw [next]
    split_ifs <;> omega

lemma range_within (hk : 0 < k) :
    (∀ a ∈ (List.range' p k).map Access.message, a.Within len) ↔ p + k ≤ len := by
  rw [List.forall_mem_map]
  simp only [Access.Within, List.mem_range'_1]
  constructor
  · intro h
    have hlast := h (p + k - 1) (by omega)
    omega
  · intro h i hi
    omega

lemma copied_within :
    (∀ a ∈ (List.range k).flatMap fun i => [Access.message (p + i), .pre i, .sn6 i], a.Within len) ↔
      (k = 0 ∨ p + k ≤ len) ∧ k ≤ 16 := by
  simp only [List.forall_mem_flatMap, List.mem_range, List.forall_mem_cons, Access.Within]
  constructor
  · intro h
    by_cases hk : k = 0
    · omega
    · have hlast := h (k - 1) (by omega)
      omega
  · intro h i hi
    refine ⟨by omega, by omega, by omega, nofun⟩

/-- An option is taken as it should be exactly where it fits. -/
lemma fits_iff : (Ends m p ∧ p < next m p ∧ ∀ a ∈ entry m p, a.Within len) ↔ Fits m len p := by
  have hpre : ∀ a ∈ (List.range 16).map Access.pre, a.Within len := by simp [Access.Within]
  have hdns : ∀ a ∈ (List.range 16).map Access.dns, a.Within len := by simp [Access.Within]
  cases hkind : kind (m p) with
  | skipped =>
    rw [next_of (by simp [hkind])]
    simp only [Ends, entry, Fits, hkind, range_within Nat.zero_lt_two, true_and]
    omega
  | pi =>
    rw [next_of (by simp [hkind])]
    simp only [Ends, entry, Fits, hkind, List.forall_mem_append, range_within (show 0 < 12 by decide), copied_within,
      iff_true_intro hpre, and_true]
    omega
  | rdns =>
    rw [next_of (by simp [hkind])]
    simp only [Ends, entry, Fits, hkind, List.forall_mem_append, range_within (show 0 < 2 by decide),
      range_within (show 0 < 4 by decide), range_within (show 0 < 16 by decide), iff_true_intro hdns, and_true]
    omega
  | other =>
    simp only [Ends, next, entry, Fits, hkind, range_within Nat.zero_lt_two, true_and]
    split_ifs <;> omega

lemma bounded_scan : Bounded m len llar r ↔ ∃ fuel t, scan Ra.p (raOption m llar) len fuel
    { r with p := 16, accesses := [] } = some t ∧ ∀ a ∈ t.accesses, a.Within len := by
  simp only [Bounded, addressAutoConfigRa, Option.map_eq_some_iff]
  constructor
  · rintro ⟨fuel, _, ⟨t, ht, rfl⟩, hwithin⟩
    exact ⟨fuel, t, ht, hwithin⟩
  · rintro ⟨fuel, t, ht, hwithin⟩
    exact ⟨fuel, _, ⟨t, ht, rfl⟩, hwithin⟩

end option

/-- The loop over the options is bounded exactly where each option that it comes to fits. -/
theorem ra_bounded_iff (buf : Mem) (rest : List Byte) (llar : Ip6) (r : Ra) :
    Bounded (buf.fill (routerAdvertisement :: rest)) (rest.length + 1) llar r ↔
      ∀ p, Comes (next (buf.fill (routerAdvertisement :: rest))) (rest.length + 1) 16 p →
        Fits (buf.fill (routerAdvertisement :: rest)) (rest.length + 1) p := by
  generalize buf.fill (routerAdvertisement :: rest) = m
  rw [bounded_scan, scan_iff (settled m llar)]
  simp only [List.not_mem_nil, false_implies, implies_true, true_and, fits_iff]

/-- A source address of the length 0, which the loop comes to again and again. -/
theorem empty_option_stays : ¬ ∀ (buf : Mem) (rest : List Byte) (llar : Ip6) (r : Ra),
    Bounded (buf.fill (routerAdvertisement :: rest)) (rest.length + 1) llar r := by
  intro hall
  let buf : Mem := fun _ => 0
  let zero : Ip6 := ip6At buf 0
  obtain ⟨fuel, t, hscan, hwithin⟩ := bounded_scan.1
    (hall buf (List.replicate 15 0 ++ [raoSlla, 0]) zero ⟨0, buf, buf, zero, zero, []⟩)
  have hprogress := ((of_scan (settled _ _) hscan hwithin).2 16 (.here (by decide))).2.1
  exact absurd hprogress (by decide)

end IoLibrary.AddressAutoConfig
