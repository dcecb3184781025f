import Mathlib.Algebra.BigOperators.Intervals
import Mathlib.Algebra.Order.BigOperators.Group.Finset
import Mathlib.Data.BitVec
import Mathlib.Tactic.Ring

/-! The proleptic Gregorian calendar: the seconds from the start of an epoch year to a date and
time. Years and months are blocks of days in a row, and a day lies in one of them. -/
namespace IoLibrary.Calendar

section blocks
variable {f : ℕ → ℕ} {k n a b r s : ℕ}

/-- In a row of blocks of lengths `f` that begins with block `k`, place `n` is `r` places behind the
start of block `a`. -/
structure Place (f : ℕ → ℕ) (k n a r : ℕ) : Prop where
  start : k ≤ a
  total : n = ∑ i ∈ Finset.Ico k a, f i + r
  inside : r < f a

lemma Place.here (h : n < f k) : Place f k n k n := ⟨Nat.le_refl k, by simp, h⟩

lemma Place.next (hle : f k ≤ n) (h : Place f (k + 1) (n - f k) a r) : Place f k n a r := by
  refine ⟨Nat.le_of_succ_le h.start, ?_, h.inside⟩
  have htotal := h.total
  rw [Finset.sum_eq_sum_Ico_succ_bot h.start]
  omega

lemma block_le (hstart : k ≤ a) (hlt : a < b) :
    ∑ i ∈ Finset.Ico k a, f i + f a ≤ ∑ i ∈ Finset.Ico k b, f i := by
  rw [← Finset.sum_Ico_succ_top hstart]
  exact Finset.sum_le_sum_of_subset (Finset.Ico_subset_Ico_right hlt)

/-- A place before the start of block `b` is in an earlier block. -/
lemma Place.lt (h : Place f k n a r) (hn : n < ∑ i ∈ Finset.Ico k b, f i) : a < b := by
  by_contra hnot
  have hsub : ∑ i ∈ Finset.Ico k b, f i ≤ ∑ i ∈ Finset.Ico k a, f i :=
    Finset.sum_le_sum_of_subset (Finset.Ico_subset_Ico_right (Nat.not_lt.1 hnot))
  have htotal := h.total
  omega

lemma Place.unique (h : Place f k n a r) (h' : Place f k n b s) : a = b ∧ r = s := by
  have le {a b r s : ℕ} (h : Place f k n a r) (h' : Place f k n b s) : a ≤ b := by
    by_contra hnot
    have hblock := block_le h'.start (f := f) (Nat.not_le.1 hnot)
    have htotal := h.total
    have htotal' := h'.total
    have hinside := h'.inside
    omega
  obtain rfl := Nat.le_antisymm (le h h') (le h' h)
  exact ⟨rfl, Nat.add_left_cancel (h.total.symm.trans h'.total)⟩

end blocks

def Leap (year : ℕ) : Prop := year % 400 = 0 ∨ year % 100 ≠ 0 ∧ year % 4 = 0

instance (year : ℕ) : Decidable (Leap year) := inferInstanceAs (Decidable (_ ∨ _))

def yearDays (year : ℕ) : ℕ := if Leap year then 366 else 365

def monthDays (year month : ℕ) : ℕ :=
  if month = 2 then if Leap year then 29 else 28
  else if month = 4 ∨ month = 6 ∨ month = 9 ∨ month = 11 then 30
  else 31

lemma le_yearDays (year : ℕ) : 365 ≤ yearDays year := by
  unfold yearDays
  split <;> decide

lemma le_monthDays (year month : ℕ) : 28 ≤ monthDays year month := by
  unfold monthDays
  split_ifs <;> decide

lemma monthDays_le (year month : ℕ) : monthDays year month ≤ 31 := by
  unfold monthDays
  split_ifs <;> decide

lemma sum_monthDays (year : ℕ) : ∑ month ∈ Finset.Ico 1 13, monthDays year month = yearDays year := by
  rw [Finset.sum_Ico_eq_sum_range]
  by_cases h : Leap year <;> simp [Finset.sum_range_succ, monthDays, yearDays, h]

def secondsPerDay : ℕ := 86400

/-- The seconds from the start of the epoch year to the start of a year. -/
def yearStart (epoch year : ℕ) : ℕ := (∑ y ∈ Finset.Ico epoch year, yearDays y) * secondsPerDay

lemma day_lt {epoch year s : ℕ} (h : s < yearStart epoch year) :
    s / secondsPerDay < ∑ y ∈ Finset.Ico epoch year, yearDays y := by
  rw [yearStart, Nat.mul_comm] at h
  exact Nat.div_lt_of_lt_mul h

lemma le_yearStart (epoch year : ℕ) : (year - epoch) * 365 * secondsPerDay ≤ yearStart epoch year := by
  refine Nat.mul_le_mul_right _ ?_
  rw [← Nat.card_Ico, ← Nat.nsmul_eq_mul]
  exact Finset.card_nsmul_le_sum _ _ _ fun y _ => le_yearDays y

structure DateTime where
  year : ℕ
  month : ℕ
  day : ℕ
  hour : ℕ
  minute : ℕ
  second : ℕ
  deriving DecidableEq, Repr

namespace DateTime

/-- A date of the calendar and a time of day. -/
structure Valid (t : DateTime) : Prop where
  month_pos : 1 ≤ t.month
  month_le : t.month ≤ 12
  day_pos : 1 ≤ t.day
  day_le : t.day ≤ monthDays t.year t.month
  hour : t.hour < 24
  minute : t.minute < 60
  second : t.second < 60

def dayOfYear (t : DateTime) : ℕ := ∑ m ∈ Finset.Ico 1 t.month, monthDays t.year m + (t.day - 1)

def days (epoch : ℕ) (t : DateTime) : ℕ := ∑ y ∈ Finset.Ico epoch t.year, yearDays y + t.dayOfYear

/-- The seconds from the start of the epoch year. -/
def seconds (epoch : ℕ) (t : DateTime) : ℕ :=
  t.days epoch * secondsPerDay + (t.hour * 3600 + t.minute * 60 + t.second)

variable {t t' : DateTime} {epoch : ℕ}

lemma Valid.month_place (h : t.Valid) : Place (monthDays t.year) 1 t.dayOfYear t.month (t.day - 1) := by
  have hpos := h.day_pos
  have hle := h.day_le
  exact ⟨h.month_pos, rfl, by omega⟩

lemma Valid.dayOfYear_lt (h : t.Valid) : t.dayOfYear < yearDays t.year := by
  have hblock := block_le (f := monthDays t.year) h.month_pos (Nat.lt_succ_of_le h.month_le)
  have hplace := h.month_place
  have htotal := hplace.total
  have hinside := hplace.inside
  rw [Nat.succ_eq_add_one, sum_monthDays] at hblock
  omega

lemma Valid.year_place (h : t.Valid) (hepoch : epoch ≤ t.year) :
    Place yearDays epoch (t.days epoch) t.year t.dayOfYear := ⟨hepoch, rfl, h.dayOfYear_lt⟩

lemma Valid.time_lt (h : t.Valid) : t.hour * 3600 + t.minute * 60 + t.second < secondsPerDay := by
  have hhour := h.hour
  have hminute := h.minute
  have hsecond := h.second
  simp only [secondsPerDay]
  omega

lemma Valid.day_seconds (h : t.Valid) : t.seconds epoch / secondsPerDay = t.days epoch := by
  have htime := h.time_lt
  simp only [seconds, secondsPerDay] at *
  omega

/-- Dates and times with the same seconds are the same. -/
theorem seconds_injective (h : t.Valid) (h' : t'.Valid) (hepoch : epoch ≤ t.year)
    (hepoch' : epoch ≤ t'.year) (heq : t.seconds epoch = t'.seconds epoch) : t = t' := by
  have hdays : t.days epoch = t'.days epoch := by rw [← h.day_seconds, heq, h'.day_seconds]
  simp only [seconds, hdays, Nat.add_left_cancel_iff] at heq
  have hyears := h.year_place hepoch
  rw [hdays] at hyears
  obtain ⟨hyear, hday⟩ := hyears.unique (h'.year_place hepoch')
  have hmonths := h.month_place
  rw [hyear, hday] at hmonths
  obtain ⟨hmonth, hdate⟩ := hmonths.unique h'.month_place
  have hpos := h.day_pos
  have hpos' := h'.day_pos
  have hminute := h.minute
  have hminute' := h'.minute
  have hsecond := h.second
  have hsecond' := h'.second
  obtain ⟨year, month, day, hour, minute, second⟩ := t
  obtain ⟨year', month', day', hour', minute', second'⟩ := t'
  simp only [mk.injEq] at *
  omega

/-- A date and time before the start of year `limit`. -/
lemma Valid.year_lt {limit : ℕ} (h : t.Valid) (hepoch : epoch ≤ t.year)
    (hlt : t.seconds epoch < yearStart epoch limit) : t.year < limit := by
  refine (h.year_place hepoch).lt ?_
  rw [← h.day_seconds]
  exact day_lt hlt

end DateTime

end IoLibrary.Calendar
