import IoLibrary.Mqtt.Client

/-! sendPacket against a network that may take a part of what it is given. Every write is asked to take as many bytes
as the whole packet has, also when a part of it has gone out. -/
namespace IoLibrary.Mqtt
open Effects

/-- The environment of a client whose peer has got the bytes `taken`. A write fails and takes nothing, or it takes the
first bytes of what it is given. -/
def anyNetwork : Env Client (List Byte) Io Io.Res := fun _ taken e =>
  match e with
  | .mqttwrite data => fun (rc : ℤ) taken' =>
    (rc < 0 ∧ taken' = taken) ∨ ∃ n : ℕ, n ≤ data.length ∧ rc = n ∧ taken' = taken ++ data.take n
  | _ => fun _ taken' => taken' = taken

/-- A network that takes up to `size` bytes at a time, as a socket with a buffer of this size does, and timers that do
not expire. -/
def sizedNetwork (size : ℕ) : Env Client (List Byte) Io Io.Res := fun _ taken e =>
  match e with
  | .mqttwrite data => fun (rc : ℤ) taken' => rc = min size data.length ∧ taken' = taken ++ data.take size
  | .timerIsExpired => fun (expired : Bool) taken' => expired = false ∧ taken' = taken
  | _ => fun _ taken' => taken' = taken

section sending
variable {c : Client} {taken : List Byte} {turns length size sent : ℕ}

lemma slice_take (m : Mem) {n : ℕ} (h : n ≤ length) :
    m.slice 0 sent ++ (m.slice sent length).take n = m.slice 0 (sent + n) := by
  rw [Mem.take_slice m sent length n h, Mem.slice_add, Nat.zero_add]

/-- What the peer has got after `sent` bytes, and how far the last write can have gone. -/
structure Progress (c : Client) (taken : List Byte) (length sent : ℕ) (c' : Client) (taken' : List Byte) : Prop where
  same : c' = c
  taken : taken' = taken ++ c.buf.slice 0 sent
  bound : sent < 2 * length

lemma wp_sendTurn_any {c' : Client} {taken' : List Byte} (h : Progress c taken length sent c' taken') :
    wp anyNetwork (sendTurn length sent) (fun t m w => match t with
      | .again sent' => Progress c taken length sent' m w
      | .leave sent' => Progress c taken length sent' m w) (fun _ _ => True) c' taken' := by
  obtain ⟨rfl, rfl, hbound⟩ := h
  have hprogress : Progress c' taken length sent c' (taken ++ c'.buf.slice 0 sent) := ⟨rfl, rfl, hbound⟩
  rw [sendTurn]
  split_ifs with hdone
  · exact hprogress
  · rw [wp_bind, wp_perform]
    rintro expired _ rfl
    cases expired with
    | true => exact hprogress
    | false =>
      simp only [Bool.false_eq_true, if_false, wp_bind, wp_get]
      rw [wp_perform]
      rintro rc taken'' (⟨hrc, rfl⟩ | ⟨n, hn, rfl, rfl⟩)
      · rw [if_pos hrc]
        exact hprogress
      · rw [Mem.length_slice] at hn
        have hnext : sent + n < 2 * length := by omega
        rw [if_neg (Int.not_lt.2 (Int.natCast_nonneg n)), wp_pure, Int.toNat_natCast]
        refine ⟨rfl, ?_, hnext⟩
        rw [List.append_assoc, slice_take _ hn]

/-- Whatever the network takes and whenever the time is over, the peer gets the send buffer from its start on, and
sendPacket reports success exactly when it has got as many bytes as the packet has. It can get up to twice as many: a
failure may leave the whole packet, and bytes behind it, on the wire. -/
theorem sendPacket_prefix (hlength : 0 < length) :
    wp anyNetwork (sendPacket turns length) (fun rc c' taken' => c' = c ∧ ∃ sent < 2 * length,
      taken' = taken ++ c.buf.slice 0 sent ∧ (rc = successs ↔ sent = length)) (fun _ _ => True) c taken := by
  have hstart : Progress c taken length 0 c taken := ⟨rfl, (List.append_nil _).symm, by omega⟩
  have hloop := wp_loop (Q := Progress c taken length) (Progress c taken length)
    (fun sent c' taken' h => wp_mono (wp_sendTurn_any h) (fun t _ _ ht => by cases t <;> exact ht) fun _ _ => id)
    (fun _ _ _ _ => trivial) turns hstart
  refine (wp_bind _ _).2 (wp_mono hloop ?_ fun _ _ => id)
  rintro sent c' taken' ⟨rfl, rfl, hbound⟩
  split_ifs with hsent
  · rw [wp_bind, wp_perform]
    rintro _ _ rfl
    exact ⟨rfl, sent, hbound, rfl, iff_of_true rfl hsent⟩
  · exact ⟨rfl, sent, hbound, rfl, iff_of_false (by decide) hsent⟩

/-- A client with an acknowledgement in its send buffer, and the end of an older packet behind it. -/
def leftover : Client := mqttClientInit (Mem.fill (fun _ => 0) [0x40, 2, 0, 7, 0x61, 0x62]) 16 (fun _ => 0) 0

theorem sendPacket_prefix_four :
    wp anyNetwork (sendPacket 8 4) (fun rc c' taken' => c' = leftover ∧ ∃ sent < 2 * 4,
      taken' = [] ++ leftover.buf.slice 0 sent ∧ (rc = successs ↔ sent = 4)) (fun _ _ => True) leftover [] :=
  sendPacket_prefix (by decide)

/-- The bytes that go out through a buffer of `size` bytes. -/
def sizedTotal (size length : ℕ) : ℕ :=
  if length ≤ size then length else (length + size - 1) / size * size

/-- `k` writes have been done, and the last of them was due. -/
structure Pieces (c : Client) (taken : List Byte) (size length : ℕ) (n sent : ℕ) (c' : Client) (taken' : List Byte) :
    Prop where
  same : c' = c
  taken : taken' = taken ++ c.buf.slice 0 sent
  turns : 0 < n ∧ length < n + sent
  pieces : ∃ k, sent = k * min size length ∧ (0 < k → (k - 1) * min size length < length)

lemma Pieces.total {n : ℕ} {c' : Client} {taken' : List Byte} (hsize : 0 < size) (hlength : 0 < length)
    (h : Pieces c taken size length n sent c' taken') (hdone : length ≤ sent) : sent = sizedTotal size length := by
  obtain ⟨k, rfl, hlast⟩ := h.pieces
  have hk : 0 < k := by
    rcases Nat.eq_zero_or_pos k with rfl | hk
    · omega
    · exact hk
  obtain ⟨k, rfl⟩ := Nat.exists_eq_add_of_lt hk
  have hlast := hlast hk
  rw [Nat.zero_add, Nat.add_sub_cancel] at hlast
  rw [Nat.zero_add] at hdone ⊢
  rw [sizedTotal]
  split_ifs with hfits
  · rw [Nat.min_eq_right hfits] at hlast ⊢
    have hzero : k = 0 := by
      rcases Nat.eq_zero_or_pos k with hzero | hpos
      · exact hzero
      · exact absurd (Nat.le_mul_of_pos_left length hpos) (Nat.not_le.2 hlast)
    rw [hzero, Nat.zero_add, Nat.one_mul]
  · rw [Nat.min_eq_left (Nat.le_of_not_le hfits)] at hlast hdone ⊢
    have hquot : (length + size - 1) / size = k + 1 := by
      rw [Nat.div_eq_iff hsize]
      rw [Nat.add_mul, Nat.one_mul] at hdone ⊢
      omega
    rw [hquot]

lemma wp_sendTurn_sized {n : ℕ} {c' : Client} {taken' : List Byte} (hsize : 0 < size) (hlength : 0 < length)
    (h : Pieces c taken size length (n + 1) sent c' taken') :
    wp (sizedNetwork size) (sendTurn length sent) (fun t m w => match t with
      | .again sent' => Pieces c taken size length n sent' m w
      | .leave sent' => m = c ∧ w = taken ++ c.buf.slice 0 sent' ∧ sent' = sizedTotal size length)
      (fun _ _ => False) c' taken' := by
  have htotal := h.total hsize hlength
  obtain ⟨rfl, rfl, hturns, k, hsent, -⟩ := h
  rw [sendTurn]
  split_ifs with hdone
  · exact ⟨rfl, rfl, htotal hdone⟩
  · rw [wp_bind, wp_perform]
    rintro _ _ ⟨rfl, rfl⟩
    simp only [Bool.false_eq_true, if_false, wp_bind, wp_get]
    rw [wp_perform]
    rintro _ _ ⟨rfl, rfl⟩
    have hlen := Mem.length_slice c'.buf sent length
    have htake : (c'.buf.slice sent length).take size = (c'.buf.slice sent length).take (min size length) := by
      rw [List.take_eq_take_iff, hlen, Nat.min_assoc, Nat.min_self]
    have hcount : ((min size length : ℕ) : ℤ).toNat = min size length := Int.toNat_natCast _
    have hpositive : ¬((min size length : ℕ) : ℤ) < 0 := Int.not_lt.2 (Int.natCast_nonneg _)
    have hsome : 0 < min size length := Nat.lt_min.2 ⟨hsize, hlength⟩
    rw [hlen, if_neg hpositive, wp_pure, hcount]
    refine ⟨rfl, ?_, by omega, k + 1, ?_, fun _ => ?_⟩
    · rw [List.append_assoc, htake, slice_take _ (Nat.min_le_right _ _)]
    · rw [hsent, Nat.add_mul, Nat.one_mul]
    · rw [Nat.add_sub_cancel, ← hsent]
      omega

/-- Over a socket with a buffer of `size` bytes, a packet is sent with success exactly when it fits in the buffer or
its length is a multiple of the size. In every other case the peer has got the whole packet when the failure is
reported, and the bytes behind it up to the next multiple. -/
theorem sendPacket_sized (hsize : 0 < size) (hlength : 0 < length) (hturns : length < turns) :
    wp (sizedNetwork size) (sendPacket turns length) (fun rc c' taken' => c' = c ∧
      taken' = taken ++ c.buf.slice 0 (sizedTotal size length) ∧ length ≤ sizedTotal size length ∧
      (rc = successs ↔ length ≤ size ∨ size ∣ length)) (fun _ _ => False) c taken := by
  have hstart : Pieces c taken size length turns 0 c taken :=
    ⟨rfl, (List.append_nil _).symm, by omega, 0, (Nat.zero_mul _).symm, fun h => absurd h (Nat.lt_irrefl _)⟩
  have htotal : length ≤ sizedTotal size length ∧ (sizedTotal size length = length ↔ length ≤ size ∨
      size ∣ length) := by
    have hup : (length + size - 1) / size * size + (length + size - 1) % size = length + size - 1 :=
      Nat.div_add_mod' _ _
    have hmod := Nat.mod_lt (length + size - 1) hsize
    rw [sizedTotal]
    split_ifs with hfits
    · exact ⟨Nat.le_refl _, iff_of_true rfl (.inl hfits)⟩
    · refine ⟨by omega, fun h => .inr ⟨_, by rw [Nat.mul_comm, h]⟩, ?_⟩
      rintro (hfits' | ⟨q, rfl⟩)
      · exact absurd hfits' hfits
      · have hquot : (size * q + size - 1) / size = q := by
          rw [Nat.div_eq_iff hsize, Nat.mul_comm q size]
          omega
        rw [hquot, Nat.mul_comm]
  have hloop := wp_loop_count
    (Q := fun sent m w => m = c ∧ w = taken ++ c.buf.slice 0 sent ∧ sent = sizedTotal size length)
    (Pieces c taken size length)
    (fun n sent c' taken' h => wp_mono (wp_sendTurn_sized hsize hlength h) (fun t _ _ ht => by cases t <;> exact ht)
      fun _ _ => id)
    (fun _ _ _ h => Nat.lt_irrefl _ h.turns.1) turns hstart
  refine (wp_bind _ _).2 (wp_mono hloop ?_ fun _ _ => id)
  rintro sent c' taken' ⟨rfl, rfl, rfl⟩
  split_ifs with hsent
  · rw [wp_bind, wp_perform]
    rintro _ _ rfl
    exact ⟨rfl, rfl, htotal.1, iff_of_true rfl (htotal.2.1 hsent)⟩
  · exact ⟨rfl, rfl, htotal.1, iff_of_false (by decide) fun h => hsent (htotal.2.2 h)⟩

theorem sendPacket_sized_four :
    wp (sizedNetwork 3) (sendPacket 5 4) (fun rc c' taken' => c' = leftover ∧
      taken' = [] ++ leftover.buf.slice 0 (sizedTotal 3 4) ∧ 4 ≤ sizedTotal 3 4 ∧
      (rc = successs ↔ 4 ≤ 3 ∨ 3 ∣ 4)) (fun _ _ => False) leftover [] :=
  sendPacket_sized (by decide) (by decide) (by decide)

end sending

end IoLibrary.Mqtt
