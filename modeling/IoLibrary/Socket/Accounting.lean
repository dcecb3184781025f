import IoLibrary.Chips
import IoLibrary.Effects.History
import IoLibrary.Socket.Packets

/-! The accounting of recvfrom: the remaining size of a packet after each part of it, and what
SO_PACKINFO says about that part. -/
namespace IoLibrary.Accounting
open Effects Packets

variable {b : Build} {sn len : ℕ} {s s' s₁ : Sock} {c : List Byte} {r : List (List Byte)}
  {out : Received} {added : IoTrace}

/-- The last look at Sn_CR has found the command taken. -/
def Taken (sn : ℕ) (added : IoTrace) : Prop := (commandReads sn added).getLast? = some 0

/-- A packet is begun, and its header dropped by RECV. -/
def TakesHeader (sn : ℕ) (s : Sock) (added : IoTrace) : Prop :=
  s.remainedSize = 0 ∧ 0 ∈ commandReads sn added

instance : Decidable (TakesHeader sn s added) :=
  inferInstanceAs (Decidable (s.remainedSize = 0 ∧ 0 ∈ commandReads sn added))

/-- The remaining size at the header, or before the call. -/
def sizeAtStart (sn : ℕ) (s : Sock) (added : IoTrace) : ℕ :=
  if TakesHeader sn s added then declared s.mode ((payloadReads sn added).headD []) else s.remainedSize

/-- The call has returned no more than `len`, written that much, and left the rest. -/
structure Accounted (sn len : ℕ) (added : IoTrace) (s : Sock) (out : Received) (s' : Sock) : Prop where
  fits : out.ret ≤ len
  written : out.bytes.length = out.ret
  left : (s'.remainedSize : ℤ) = sizeAtStart sn s added - out.ret

/-- A part with bytes in it is taken by RECV, and an IPRAW packet without a byte is not. -/
def Accountable (sn : ℕ) (added : IoTrace) (s : Sock) : Prop :=
  (sizeAtStart sn s added ≠ 0 → Taken sn added) ∧
    (sizeAtStart sn s added = 0 → s.mode &&& 0x07 = snMrIpraw → ¬ Taken sn added)

lemma declared_lt (mode : Byte) (head : List Byte) : declared mode head < 65536 := by
  rw [declared]
  split
  · exact word16_lt _ _
  · split
    · exact lt_of_le_of_lt (Nat.sub_le _ _) (word16_lt _ _)
    · exact word16_lt _ _

lemma begun_mode (h : Begun s c r s₁) : s₁.mode = s.mode := by
  rcases h with ⟨-, rfl⟩ | ⟨-, -, head, rest, -, rfl⟩
  · rfl
  · rfl

lemma begun_size (h : Begun s c r s₁) (hsize : s.remainedSize < 65536) :
    s₁.remainedSize < 65536 := by
  rcases h with ⟨-, rfl⟩ | ⟨-, -, head, rest, -, rfl⟩
  · exact hsize
  · exact declared_lt _ _

/-- The packet has its size at the start when its part is copied out. -/
lemma begun_start (h : Begun s (commandReads sn added) (payloadReads sn added) s₁) :
    sizeAtStart sn s added = s₁.remainedSize := by
  rw [sizeAtStart]
  rcases h with ⟨hmore, rfl⟩ | ⟨hfresh, htaken, head, rest, hr, rfl⟩
  · exact if_neg fun hheader => hmore hheader.1
  · rw [if_pos ⟨hfresh, htaken⟩, hr]
    rfl

/-- RECV takes `n` bytes off the size. -/
lemma took_remainedSize {n : ℕ} (hn : n ≤ s.remainedSize) (hsize : s.remainedSize < 65536) :
    (Sock.took n s).remainedSize = s.remainedSize - n := by
  change (s.remainedSize + 65536 - n) % 65536 = s.remainedSize - n
  rw [show s.remainedSize + 65536 - n = s.remainedSize - n + 65536 by omega, Nat.add_mod_right]
  exact Nat.mod_eq_of_lt (by omega)

/-- The accounting of a run of recvfrom without an error is right in exactly these runs. -/
theorem accounts_iff {buf addrPort : Bool} {m m' : Driver} {t : IoTrace}
    (run : Eval anyChip (recvfrom b sn buf len addrPort) m t (some out) m' (t ++ added))
    (hlen : 1 ≤ len) (hret : 0 ≤ out.ret) (hsize : (m.sock sn).remainedSize < 65536) :
    Accounted sn len added (m.sock sn) out (m'.sock sn) ↔ Accountable sn added (m.sock sn) := by
  obtain ⟨c, r, ⟨events, hevents, rfl, rfl⟩, hcame⟩ := recvfrom_came hlen hret run
  obtain rfl := List.append_cancel_left hevents
  generalize m.sock sn = s at hsize hcame ⊢
  generalize m'.sock sn = s' at hcame ⊢
  cases hcame with
  | nothing fresh untaken hout hbytes =>
    have hstart : sizeAtStart sn s added = 0 := by
      rw [sizeAtStart, if_neg fun h => untaken h.2, fresh]
    constructor
    · refine fun _ => ⟨fun hne => absurd hstart hne, fun _ _ htaken => untaken ?_⟩
      exact List.mem_of_getLast? htaken
    · refine fun _ => ⟨by omega, by rw [hbytes, hout]; rfl, ?_⟩
      rw [hstart, fresh, hout]
      rfl
  | @part s₁ n begun part taken hout =>
    have hstart := begun_start begun
    have hsize₁ := begun_size begun hsize
    by_cases hnone : s₁.remainedSize = 0
    · obtain ⟨hbytes, hip, hother⟩ := part.none hnone
      rw [begun_mode begun] at hip hother
      constructor
      · refine fun h => ⟨fun hne => absurd (hstart.trans hnone) hne, fun _ hmode _ => ?_⟩
        have hwritten := h.written
        rw [hbytes, hout, List.length_nil] at hwritten
        have := (hip hmode).1
        omega
      · intro h
        have hn : n = 0 := hother fun hmode => h.2 (hstart.trans hnone) hmode taken
        refine ⟨by omega, by rw [hbytes, hout, hn]; rfl, ?_⟩
        rw [hstart, took_remainedSize (by omega) hsize₁, hout]
        omega
    · obtain ⟨hn, hlength⟩ := part.some hnone
      constructor
      · exact fun _ => ⟨fun _ => taken, fun h0 => absurd (hstart.symm.trans h0) hnone⟩
      · refine fun _ => ⟨by omega, by rw [hlength, hout], ?_⟩
        rw [hstart, took_remainedSize (by omega) hsize₁, hout]
        omega
  | @busy _ n begun part untaken hout =>
    have hstart := begun_start begun
    by_cases hnone : s'.remainedSize = 0
    · constructor
      · exact fun _ => ⟨fun hne => absurd (hstart.trans hnone) hne, fun _ _ => untaken⟩
      · refine fun _ => ⟨by omega, by rw [(part.none hnone).1, hout]; rfl, ?_⟩
        rw [hstart, hnone, hout]
        rfl
    · obtain ⟨hn, hlength⟩ := part.some hnone
      constructor
      · intro h
        have hwritten := h.written
        rw [hlength, hout] at hwritten
        omega
      · exact fun h => absurd (h.1 (by omega)) untaken

section fetched

/-- A driver whose socket 0 is open in the given mode. -/
def opened (mode : Byte) : Driver :=
  { Driver.boot 1000 1000 with chipState := .ready }.setSock 0 fun s => { s with mode := mode }

/-- The registers of a socket that has received something and takes each command. -/
def idleRegs (a : Addr) : Byte := if a = Reg.snSR 0 then sockUdp else 0

/-- RX memory that holds `head`, and the received size. -/
def received (size : ℕ) (head : List Byte) (a : Addr) : List Byte :=
  if a.block = .rxBuf 0 then head else bytes16 size

/-- recvfrom of 8 bytes from a chip that has received `head`. -/
@[irreducible] def fetched (mode : Byte) (size : ℕ) (head : List Byte) : Option Received × Driver × IoTrace :=
  exec (recorded (holding idleRegs (received size head) 0)) (recvfrom .oneTurn 0 true 8 true)
    (opened mode) []

lemma eval_fetched {mode : Byte} {size : ℕ} {head : List Byte} {out : Received}
    (h : (fetched mode size head).1 = some out) :
    Eval anyChip (recvfrom .oneTurn 0 true 8 true) (opened mode) [] (some out)
      (fetched mode size head).2.1 ([] ++ (fetched mode size head).2.2) := by
  unfold fetched at h ⊢
  exact eval_of_exec h

/-- A UDP packet of 4 bytes. -/
theorem accounts_iff_datagram : ∃ out m' added,
    Eval anyChip (recvfrom .oneTurn 0 true 8 true) (opened snMrUdp) [] (some out) m' ([] ++ added) ∧
      Accounted 0 8 added ((opened snMrUdp).sock 0) out (m'.sock 0) := by
  have hresult : (fetched snMrUdp 12 [192, 168, 0, 1, 0, 53, 0, 4]).1 =
      some ⟨4, [192, 168, 0, 1], some [192, 168, 0, 1], some 53⟩ := by
    unfold fetched
    decide +kernel
  have htaken : Taken 0 (fetched snMrUdp 12 [192, 168, 0, 1, 0, 53, 0, 4]).2.2 := by
    unfold fetched Taken
    decide +kernel
  refine ⟨_, _, _, eval_fetched hresult, ?_⟩
  refine (accounts_iff (eval_fetched hresult) (by decide) (by decide) (by decide)).2 ?_
  exact ⟨fun _ => htaken, fun _ hmode => absurd hmode (by decide)⟩

/-- The size of an IPRAW packet without a byte is reported, and taken off its size. -/
theorem empty_ipraw_unaccounted : ¬ ∀ b sn len buf addrPort m m' t out added,
    Eval anyChip (recvfrom b sn buf len addrPort) m t (some out) m' (t ++ added) → 1 ≤ len →
      0 ≤ out.ret → (m.sock sn).remainedSize < 65536 →
      Accounted sn len added (m.sock sn) out (m'.sock sn) := by
  intro claim
  have hresult : (fetched snMrIpraw 6 [192, 168, 0, 1, 0, 0]).1 =
      some ⟨6, [], some [192, 168, 0, 1], none⟩ := by
    unfold fetched
    decide +kernel
  have h := claim _ _ _ _ _ _ _ _ _ _ (eval_fetched hresult) (by decide) (by decide) (by decide)
  exact absurd h.written (by decide)

end fetched

/-- A step that has received a part of a packet on socket `sn`, with room for `len` bytes. -/
def Receives (sn len : ℕ) (added : IoTrace) (s : Step Call Driver IoTrace ℤ) : Prop :=
  (∃ buf addrPort, s.call = .on sn (.recvfrom buf len addrPort)) ∧ (∃ r, s.result = some r ∧ 0 ≤ r) ∧
    s.post.2 = s.pre.2 ++ added ∧ Taken sn added

/-- SO_PACKINFO tells whether bytes remain, and whether the call took the header. -/
structure Told (sn : ℕ) (added : IoTrace) (s s' : Sock) : Prop where
  remained : s'.packInfo &&& packRemained ≠ 0 ↔ s'.remainedSize ≠ 0
  first : s'.packInfo &&& packFirst ≠ 0 ↔ TakesHeader sn s added

/-- The call begins a packet, or the flags of the one before are clear where they have to be. -/
def Tellable (len : ℕ) (s : Sock) : Prop :=
  s.remainedSize = 0 ∨
    s.packInfo &&& packFirst = 0 ∧ (s.remainedSize ≤ len → s.packInfo &&& packRemained = 0)

/-- What RECV of `n` bytes does to the flags: they are only set. -/
lemma took_packInfo (n : ℕ) : let s' := Sock.took n s
    (s'.packInfo &&& packRemained ≠ 0 ↔
      s.packInfo &&& packRemained ≠ 0 ∨ s'.remainedSize ≠ 0) ∧
    (s'.packInfo &&& packFirst ≠ 0 ↔ s.packInfo &&& packFirst ≠ 0) := by
  have hset : ∀ info : Byte, (info ||| packRemained) &&& packRemained ≠ 0 ∧
      ((info ||| packRemained) &&& packFirst ≠ 0 ↔ info &&& packFirst ≠ 0) := by decide
  have hclear : ∀ info : Byte, info ||| packCompleted = info := by decide
  intro s'
  have hinfo : s'.packInfo =
      s.packInfo ||| (if s'.remainedSize ≠ 0 then packRemained else packCompleted) := rfl
  rw [hinfo]
  by_cases hrest : s'.remainedSize = 0
  · rw [if_neg (not_not.2 hrest), hclear]
    simp [hrest]
  · rw [if_pos hrest]
    obtain ⟨hremained, hfirst⟩ := hset s.packInfo
    exact ⟨⟨fun _ => .inr hrest, fun _ => hremained⟩, hfirst⟩

/-- In every run, SO_PACKINFO tells the truth after exactly these calls. -/
theorem told_iff {steps : List (Step Call Driver IoTrace ℤ)} {m m' : Driver} {t t' : IoTrace}
    (run : History (fun _ => anyChip) (Call.run b) steps m t m' t')
    (word : ∀ s ∈ steps, (s.pre.1.sock sn).remainedSize < 65536) {s : Step Call Driver IoTrace ℤ}
    (hs : s ∈ steps) (receives : Receives sn len added s) :
    Told sn added (s.pre.1.sock sn) (s.post.1.sock sn) ↔ Tellable len (s.pre.1.sock sn) := by
  obtain ⟨⟨buf, addrPort, hcall⟩, ⟨ret, hresult, hret⟩, hadded, htaken⟩ := receives
  have hstep := run.eval_of_mem hs hresult
  rw [hcall] at hstep
  obtain ⟨out, rfl, hrun⟩ := Eval.of_map hstep
  have hsize := word s hs
  have hlen : 0 < len := by
    refine Nat.pos_of_ne_zero fun h0 => ?_
    rw [recvfrom, if_pos h0] at hrun
    have idle : wp anyChip (pure { ret := 0 } : Drv Received) (fun _ _ t' => t' = s.pre.2)
        (fun _ _ => True) s.pre.1 s.pre.2 := rfl
    rw [wp_returns idle hrun, List.self_eq_append_right] at hadded
    rw [hadded] at htaken
    exact absurd htaken (by simp [Taken, commandReads])
  obtain ⟨c, r, ⟨events, hevents, rfl, rfl⟩, hcame⟩ := recvfrom_came hlen hret hrun
  rw [hadded] at hevents
  obtain rfl := List.append_cancel_left hevents
  generalize s.pre.1.sock sn = s₀ at hsize hcame ⊢
  generalize s.post.1.sock sn = s' at hcame ⊢
  cases hcame with
  | nothing fresh untaken => exact absurd (List.mem_of_getLast? htaken) untaken
  | busy begun part untaken => exact absurd htaken untaken
  | @part s₁ n begun part =>
    obtain ⟨hremained, hfirst⟩ := took_packInfo (s := s₁) n
    have hmore : (Sock.took n s₁).packInfo &&& packRemained ≠ 0 ↔
        (Sock.took n s₁).remainedSize ≠ 0 ∨ s₁.packInfo &&& packRemained ≠ 0 :=
      hremained.trans or_comm
    rcases begun with ⟨hcontinues, rfl⟩ | ⟨hfresh, htakes, head, rest, -, rfl⟩
    · -- the flags of the calls before stay
      have hleft := took_remainedSize ((part.some hcontinues).1 ▸ Nat.min_le_right _ _) hsize
      have hdone : (Sock.took n s₁).remainedSize = 0 ↔ s₁.remainedSize ≤ len := by
        rw [hleft, (part.some hcontinues).1]
        omega
      constructor
      · rintro ⟨hr, hf⟩
        refine .inr ⟨?_, fun hfits => ?_⟩
        · by_contra hset
          exact hcontinues (hf.1 (hfirst.2 hset)).1
        · by_contra hset
          exact hr.1 (hmore.2 (.inr hset)) (hdone.2 hfits)
      · rintro (h0 | ⟨hf, hr⟩)
        · exact absurd h0 hcontinues
        · refine ⟨⟨fun h => ?_, fun h => hmore.2 (.inl h)⟩, ⟨fun h => ?_, fun h => ?_⟩⟩
          · refine (hmore.1 h).elim id fun hset => ?_
            exact fun h0 => hset (hr (hdone.1 h0))
          · exact absurd hf (hfirst.1 h)
          · exact absurd h.1 hcontinues
    · refine ⟨fun _ => .inl hfresh, fun _ => ⟨⟨fun h => ?_, fun h => hmore.2 (.inl h)⟩, ?_⟩⟩
      · refine (hmore.1 h).elim id fun hset => absurd ?_ hset
        change packFirst &&& packRemained = 0
        decide
      · refine ⟨fun _ => ⟨hfresh, htakes⟩, fun _ => hfirst.2 ?_⟩
        change packFirst &&& packFirst ≠ 0
        decide

section chunked

/-- A chip that opens socket 0 for UDP and has received a packet of 4 bytes. -/
def answer (t : IoTrace) : (e : Io) → e.Res
  | .read8 a =>
    if a = Reg.versionr then (4, false)
    else if a = Reg.snSR 0 then
      (if t.any fun v => v.call = .write8 (Reg.snCR 0) snCrOpen then sockUdp else sockClosed, false)
    else (0, false)
  | .readBuf a len =>
    (frameBytes len (if a.block = .rxBuf 0 then [192, 168, 0, 1, 0, 53, 0, 4] else [0, 12]), false)
  | .write8 _ _ | .writeBuf _ _ => false
  | .now => 0
  | .wait | .phyLink _ | .sockLock _ | .sockUnlock _ | .globalLock | .globalUnlock => ()

/-- A packet of 4 bytes that is read in two calls. -/
@[irreducible] def chunked : List (Step Call Driver IoTrace ℤ) × Driver × IoTrace :=
  replay (fun _ => recorded answer) (Call.run .oneTurn)
    [.init (some fun _ => 2) (some fun _ => 2), .on 0 (.socket snMrUdp 5000 0),
      .on 0 (.recvfrom true 2 true), .on 0 (.recvfrom true 2 true)] (Driver.boot 1000 1000) []

lemma history_chunked : History (fun _ => anyChip) (Call.run .oneTurn) chunked.1
    (Driver.boot 1000 1000) [] chunked.2.1 chunked.2.2 := by
  unfold chunked
  exact history_replay (fun _ _ _ _ => ⟨trivial, rfl⟩) _ _ _ _

/-- The result of a recvfrom of two bytes, what it read of Sn_CR, and the packet before and after. -/
def look (s : Step Call Driver IoTrace ℤ) : Option (Option ℤ × List Byte × ℕ × ℕ × Byte) :=
  match s.call with
  | .on 0 (.recvfrom true 2 true) => some (s.result, commandReads 0 (s.post.2.drop s.pre.2.length),
      (s.pre.1.sock 0).remainedSize, (s.post.1.sock 0).remainedSize, (s.post.1.sock 0).packInfo)
  | _ => none

lemma chunked_looks : chunked.1.map look =
    [none, none, some (some 2, [0, 0], 0, 2, 0x81), some (some 2, [0], 2, 0, 0x81)] := by
  unfold chunked
  decide +kernel

lemma exists_look {v : Option ℤ × List Byte × ℕ × ℕ × Byte}
    (h : some v ∈ chunked.1.map look) (hret : v.1 = some 2) (htaken : v.2.1.getLast? = some 0) :
    ∃ s ∈ chunked.1, ∃ added, Receives 0 2 added s ∧
      ((s.pre.1.sock 0).remainedSize, (s.post.1.sock 0).remainedSize, (s.post.1.sock 0).packInfo) =
        v.2.2 := by
  obtain ⟨s, hs, hlook⟩ := List.mem_map.1 h
  unfold look at hlook
  split at hlook
  · next hcall =>
    obtain rfl := Option.some.inj hlook
    have hstep := history_chunked.eval_of_mem hs hret
    rw [hcall] at hstep
    obtain ⟨out, hout, hrun⟩ := Eval.of_map hstep
    obtain ⟨c, r, ⟨added, hadded, -, -⟩, -⟩ := recvfrom_came (by decide) (by omega) hrun
    have hdrop : s.post.2.drop s.pre.2.length = added := by rw [hadded, List.drop_left]
    refine ⟨s, hs, added, ⟨⟨true, true, hcall⟩, ⟨2, hret, by decide⟩, hadded, ?_⟩, rfl⟩
    rw [← hdrop]
    exact htaken
  · exact absurd hlook (by simp)

theorem told_iff_chunked : ∃ s ∈ chunked.1, ∃ added, Receives 0 2 added s ∧
    Told 0 added (s.pre.1.sock 0) (s.post.1.sock 0) := by
  obtain ⟨s, hs, added, hreceives, hpacket⟩ :=
    exists_look (v := (some 2, [0, 0], 0, 2, 0x81)) (by simp [chunked_looks]) rfl rfl
  have hword : chunked.1.all fun s => (s.pre.1.sock 0).remainedSize < 65536 := by
    unfold chunked
    decide +kernel
  refine ⟨s, hs, added, hreceives, (told_iff history_chunked (fun s hs => ?_) hs hreceives).2 ?_⟩
  · exact of_decide_eq_true (List.all_eq_true.1 hword s hs)
  · exact .inl (congrArg Prod.fst hpacket)

/-- After the last part of a packet, SO_PACKINFO says that bytes remain. -/
theorem last_part_untold : ¬ ∀ steps m' t', History (fun _ => anyChip) (Call.run .oneTurn) steps
    (Driver.boot 1000 1000) [] m' t' → ∀ s ∈ steps, ∀ added, Receives 0 2 added s →
      Told 0 added (s.pre.1.sock 0) (s.post.1.sock 0) := by
  intro claim
  obtain ⟨s, hs, added, hreceives, hpacket⟩ :=
    exists_look (v := (some 2, [0], 2, 0, 0x81)) (by simp [chunked_looks]) rfl rfl
  have htold := claim _ _ _ history_chunked s hs added hreceives
  have hinfo : (s.post.1.sock 0).packInfo = 0x81 := congrArg (fun v => v.2.2) hpacket
  have hrest : (s.post.1.sock 0).remainedSize = 0 := congrArg (fun v => v.2.1) hpacket
  refine htold.remained.1 ?_ hrest
  rw [hinfo]
  decide

end chunked

end IoLibrary.Accounting
