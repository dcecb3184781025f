import IoLibrary.Dns.Run
import Mathlib.Order.Nat
import Mathlib.Data.Nat.Find

/-! What DNS_run sends: the query, and at each expiry of its timer an empty datagram. -/
namespace IoLibrary.Dns
open Effects

variable {s : Script} {name : List Byte}

/-- The first transmission: the uint16_t length of the query from the start of the buffer. -/
def Client.first (c : Client) (name : List Byte) : List Byte :=
  (c.start name).msg.slice 0 ((c.query name).length % 2 ^ 16)

/-- dns_1s_tick at the start of each turn, up to the first expiry. -/
def Script.tick (s : Script) : ℕ → ℕ
  | 0 => 0
  | i + 1 => (s.tick i + s.ticks i) % 2 ^ 32

/-- No datagram is there at the turns up to `i`. -/
def Script.Silent (s : Script) (i : ℕ) : Prop := ∀ j ≤ i, s.rxRsr j % 2 ^ 16 = 0

/-- The timer does not expire before a datagram is there. -/
def Script.Prompt (s : Script) : Prop := ∀ i, s.Silent i → s.tick (i + 1) < dnsWaitTime

/-- Every transmission so far is the datagram `first`. -/
def Repeats (first : List Byte) (w : World) : Prop := ∀ data ∈ w.sent, data = first

/-- Before turn `i` of a wait that has seen neither a datagram nor an expiry. -/
structure Waiting (s : Script) (first : List Byte) (i : ℕ) (c : Client) (w : World) : Prop where
  turn : w.turn = i
  tick : c.tick = s.tick i
  retry : c.retry = 0
  sent : w.sent = [first]
  silent : ∀ j < i, s.rxRsr j % 2 ^ 16 = 0

/-- One turn of the wait, until the first expiry: a datagram ends it, or it goes on, or the timer
expires and nothing is sent. -/
lemma wp_dnsPoll {first : List Byte} {i : ℕ} {c : Client} {w : World}
    {Q : Prog.Turn ℕ ℤ → Client → World → Prop} {H : Client → World → Prop}
    (h : Waiting s first i c w)
    (arrived : ¬ s.Silent i → ∀ ret c' w', w'.sent = [first] → Q (.leave ret) c' w')
    (early : s.tick (i + 1) < dnsWaitTime → ∀ c' w', Waiting s first (i + 1) c' w' →
      Q (.again 0) c' w')
    (late : s.Silent i → dnsWaitTime ≤ s.tick (i + 1) → ∀ c' w',
      w'.sent = [first, []] → Q (.again 0) c' w') :
    wp (net s) dnsPoll Q H c w := by
  simp only [dnsPoll, wp_bind, wp_perform]
  rintro rsr _ ⟨rfl, rfl⟩
  rw [h.turn, wp_ite]
  constructor
  · intro hsome
    have hnot : ¬ s.Silent i := fun hsilent => by
      have := hsilent i (Nat.le_refl i)
      omega
    simp only [wp_bind, wp_perform, wp_get, wp_modify, wp_pure]
    rintro data _ ⟨-, rfl⟩
    exact arrived hnot _ _ _ h.sent
  · intro hnone
    have hzero : s.rxRsr i % 2 ^ 16 = 0 := by omega
    have hsilent : s.Silent i := by
      intro j hj
      rcases Nat.lt_or_eq_of_le hj with hlt | rfl
      · exact h.silent j hlt
      · exact hzero
    have htick : (c.tick + s.ticks i) % 2 ^ 32 = s.tick (i + 1) := by rw [h.tick, Script.tick]
    have hretry : ¬ maxDnsRetry ≤ 0 := by decide
    rw [hzero]
    simp only [checkDnsTimeout, wp_bind, wp_perform, wp_modify, wp_get, wp_ite, wp_pure]
    rintro k _ ⟨rfl, rfl⟩
    rw [h.turn]
    simp only [Client.ticked, htick, h.retry, hretry, Mem.slice_zero]
    constructor
    · intro hlate
      simp only [Int.reduceLT, false_implies, not_false_eq_true, true_and, forall_const,
        not_true_eq_false, and_true]
      rintro - _ rfl
      apply late hsilent hlate
      simp [h.sent]
    · intro hearly
      simp only [Int.reduceLT, Int.reduceEq, false_implies, not_false_eq_true, true_and,
        forall_const]
      apply early (by omega)
      exact ⟨rfl, rfl, rfl, h.sent, fun j hj => hsilent j (Nat.le_of_lt_succ hj)⟩

/-- The first transmission, up to the wait. -/
lemma wp_dnsRun {turns : ℕ} {c : Client} {Q : ℤ → Client → World → Prop}
    {H : Client → World → Prop}
    (h : ∀ len c₀ w₀, Waiting s (c.first name) 0 c₀ w₀ →
      wp (net s) (Prog.loop (fun _ => dnsPoll) turns len) (fun r c' w' => Q r c' w') H c₀ w₀) :
    wp (net s) (dnsRun turns name) Q H c World.start := by
  simp only [dnsRun, wp_bind, wp_perform, wp_get, wp_modify, wp_pure]
  rintro - _ rfl - _ rfl
  apply wp_mono (h _ _ _ ⟨rfl, rfl, rfl, rfl, fun _ hk => absurd hk (Nat.not_lt_zero _)⟩) _ fun _ _ => id
  rintro ret c' w' hQ - _ rfl
  exact hQ

/-- A run whose timer does not expire before a datagram is there sends nothing else. -/
lemma repeats_of_prompt (hprompt : s.Prompt) (turns : ℕ) (c : Client) :
    wp (net s) (dnsRun turns name) (fun _ _ w => Repeats (c.first name) w)
      (fun _ w => Repeats (c.first name) w) c World.start := by
  have repeats {w : World} (h : w.sent = [c.first name]) : Repeats (c.first name) w := by
    intro data hdata
    rw [h] at hdata
    exact List.mem_singleton.1 hdata
  apply wp_dnsRun
  intro len c₀ w₀ hstart
  apply wp_loop (fun _ c' w => ∃ i, Waiting s (c.first name) i c' w) _ _ turns ⟨0, hstart⟩
  · rintro _ c' w ⟨i, hi⟩
    apply wp_dnsPoll hi
    · intro _ ret c' w' hsent
      exact repeats hsent
    · intro _ c' w' hnext
      exact ⟨i + 1, hnext⟩
    · intro hsilent hlate
      exact absurd (hprompt i hsilent) (Nat.not_lt.2 hlate)
  · rintro _ c' w ⟨i, hi⟩
    exact repeats hi.sent

/-- The first expiry before a datagram sends an empty one. -/
lemma empty_of_late {i : ℕ} (hsilent : s.Silent i)
    (hearly : ∀ j < i, s.tick (j + 1) < dnsWaitTime) (hlate : dnsWaitTime ≤ s.tick (i + 1))
    (c : Client) :
    wp (net s) (dnsRun (i + 1) name) (fun _ _ w => [] ∈ w.sent) (fun _ w => [] ∈ w.sent) c
      World.start := by
  apply wp_dnsRun
  intro len c₀ w₀ hstart
  apply wp_loop_count (fun n _ c' w => n = 0 ∧ [] ∈ w.sent ∨
    ∃ j, j + n = i + 1 ∧ j ≤ i ∧ Waiting s (c.first name) j c' w)
  · rintro n _ c' w (⟨hn, -⟩ | ⟨j, hj, hji, hwaiting⟩)
    · exact absurd hn (Nat.succ_ne_zero n)
    · apply wp_dnsPoll hwaiting
      · intro harrived
        exact absurd (fun k hk => hsilent k (hk.trans hji)) harrived
      · intro hj' c' w' hnext
        have hlt : j < i := by
          rcases Nat.lt_or_eq_of_le hji with hlt | rfl
          · exact hlt
          · omega
        exact .inr ⟨j + 1, by omega, hlt, hnext⟩
      · intro _ hj' c' w' hsent
        have hn : n = 0 := by
          by_contra hn
          have := hearly j (by omega)
          omega
        exact .inl ⟨hn, by simp [hsent]⟩
  · rintro _ c' w (⟨-, hmem⟩ | ⟨j, hj, hji, -⟩)
    · exact hmem
    · omega
  · exact .inr ⟨0, by omega, by omega, hstart⟩

lemma exists_empty {i : ℕ} (hsilent : s.Silent i)
    (hearly : ∀ j < i, s.tick (j + 1) < dnsWaitTime) (hlate : dnsWaitTime ≤ s.tick (i + 1))
    (c : Client) : ∃ r c' w', Eval (net s) (dnsRun (i + 1) name) c World.start r c' w' ∧
      [] ∈ w'.sent := by
  obtain ⟨r, c', w', hrun⟩ := exists_eval (net_total s) (dnsRun (i + 1) name) c World.start
  refine ⟨r, c', w', hrun, ?_⟩
  cases r with
  | some ret => exact wp_returns (empty_of_late hsilent hearly hlate c) hrun
  | none => exact wp_cuts (empty_of_late hsilent hearly hlate c) hrun

/-- Every turn that finds no datagram sends nothing or an empty datagram. -/
lemma wp_dnsPoll_empty {c : Client} {w : World} (h : Repeats [] w) :
    wp (net s) dnsPoll (fun _ _ w => Repeats [] w) (fun _ w => Repeats [] w) c w := by
  simp only [dnsPoll, wp_bind, wp_perform]
  rintro rsr w₀ ⟨rfl, hw⟩
  rw [hw, wp_ite]
  constructor
  · intro _
    simp only [wp_bind, wp_perform, wp_get, wp_modify, wp_pure]
    rintro data _ ⟨-, rfl⟩
    exact h
  · intro hnone
    have hzero : s.rxRsr w.turn % 2 ^ 16 = 0 := by omega
    have hsend (w₁ : World) (h₁ : w₁.sent = w.sent) :
        Repeats [] { w₁ with sent := w₁.sent ++ [[]] } := by
      intro data hdata
      rcases List.mem_append.1 hdata with hold | hnew
      · exact h data (h₁ ▸ hold)
      · exact List.mem_singleton.1 hnew
    rw [hzero]
    simp only [checkDnsTimeout, wp_bind, wp_perform, wp_modify, wp_get, wp_ite, wp_pure,
      Mem.slice_zero]
    rintro k _ ⟨rfl, rfl⟩
    constructor
    · intro _
      constructor
      · intro _
        exact ⟨fun _ => h, fun hneg => absurd (by decide) hneg⟩
      · intro _
        refine ⟨fun _ => h, fun _ => ⟨fun _ => ?_, fun _ => h⟩⟩
        rintro - _ rfl
        exact hsend _ rfl
    · intro _
      refine ⟨fun _ => h, fun _ => ⟨fun _ => ?_, fun _ => h⟩⟩
      rintro - _ rfl
      exact hsend _ rfl

lemma repeats_of_empty (c : Client) (hlen : (c.query name).length % 2 ^ 16 = 0) (turns : ℕ) :
    wp (net s) (dnsRun turns name) (fun _ _ w => Repeats (c.first name) w)
      (fun _ w => Repeats (c.first name) w) c World.start := by
  have hfirst : c.first name = [] := by rw [Client.first, hlen, Mem.slice_zero]
  rw [hfirst]
  apply wp_dnsRun
  intro len c₀ w₀ hstart
  apply wp_loop (fun _ _ w => Repeats [] w)
  · intro _ c' w h
    apply wp_mono (wp_dnsPoll_empty h) _ fun _ _ => id
    intro turn c₁ w₁ h₁
    cases turn with
    | again len => exact h₁
    | leave ret => exact h₁
  · exact fun _ _ _ h => h
  · intro data hdata
    rw [hstart.sent, hfirst] at hdata
    exact List.mem_singleton.1 hdata

/-- A retransmission hands over an empty datagram, so the first transmission is only ever repeated
where the timer does not expire at all, or where it is empty itself. -/
theorem retransmissions_repeat (s : Script) (name : List Byte) (c : Client) :
    (∀ turns r c' w', Eval (net s) (dnsRun turns name) c World.start r c' w' →
      Repeats (c.first name) w') ↔ s.Prompt ∨ (c.query name).length % 2 ^ 16 = 0 := by
  constructor
  · intro hall
    by_contra! hnot
    obtain ⟨hlate, hlen⟩ := hnot
    have hex : ∃ i, s.Silent i ∧ dnsWaitTime ≤ s.tick (i + 1) := by
      simpa [Script.Prompt] using hlate
    classical
    obtain ⟨hsilent, hi⟩ := Nat.find_spec hex
    have hearly : ∀ j < Nat.find hex, s.tick (j + 1) < dnsWaitTime := by
      intro j hj
      have hmin := Nat.find_min hex hj
      have hj' : s.Silent j := fun k hk => hsilent k (by omega)
      exact Nat.lt_of_not_le fun hle => hmin ⟨hj', hle⟩
    obtain ⟨r, c', w', hrun, hmem⟩ := exists_empty hsilent hearly hi c
    have hfirst := congrArg List.length (hall _ r c' w' hrun [] hmem)
    simp only [Client.first, Mem.length_slice, List.length_nil] at hfirst
    omega
  · intro hcond turns r c' w' hrun
    have hwp := hcond.elim (repeats_of_prompt · turns c) (repeats_of_empty c · turns)
    cases r with
    | some ret => exact wp_returns hwp hrun
    | none => exact wp_cuts hwp hrun

/-- Nothing arrives and the timer runs three times before the first look at it. -/
def silence : Script := ⟨fun _ => 0, fun _ => 3, []⟩

theorem retransmission_is_empty : ¬ ∀ turns r c' w',
    Eval (net silence) (dnsRun turns [0x61]) blank World.start r c' w' →
      Repeats (blank.first [0x61]) w' := by
  intro hall
  have hlate : dnsWaitTime ≤ silence.tick 1 := by decide
  obtain ⟨r, c', w', hrun, hmem⟩ :=
    exists_empty (fun _ _ => rfl) (fun j hj => absurd hj (Nat.not_lt_zero j)) hlate blank
  have hfirst : [] = blank.first [0x61] := hall _ r c' w' hrun [] hmem
  have hlen := congrArg List.length hfirst
  simp [Client.first, Client.query, dnsMakequery, queryName, put16, bytes16, dot] at hlen

end IoLibrary.Dns
