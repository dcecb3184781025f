import IoLibrary.Sntp.Datetime
import Mathlib.Tactic.IntervalCases

/-! The two conversions of sntp.c against the calendar. -/
namespace IoLibrary.Sntp
open Calendar

def Datetime.dateTime (t : Datetime) : DateTime := ⟨t.yy, t.mo, t.dd, t.hh, t.mm, t.ss⟩

lemma isLeap_iff (y : ℕ) : isLeap y ↔ Leap y := Iff.rfl

lemma yearLoop_eq (n d r : ℕ) :
    yearLoop n d r =
      if n / secondsPerDay < yearDays (epoch + r) then (n, d, r)
      else yearLoop (n - yearDays (epoch + r) * secondsPerDay) (d + yearDays (epoch + r))
        ((r + 1) % 65536) := by
  have hlt (days : ℕ) : n / secondsPerDay < days ↔ n < secsPerday * days := by
    simp only [secondsPerDay, secsPerday]
    omega
  rw [yearLoop]
  simp only [hlt]
  unfold yearDays
  by_cases h : Leap (epoch + r)
  · simp only [if_pos h, if_pos ((isLeap_iff _).2 h), Nat.mul_comm 366]
    rfl
  · simp only [if_neg h, if_neg (mt (isLeap_iff _).1 h), Nat.mul_comm 365]
    rfl

/-- The year loop finds the year of the day, and takes off the days before it. -/
lemma yearLoop_place {limit : ℕ} (hlimit : limit ≤ 65536) (n d r : ℕ)
    (hn : n / secondsPerDay < ∑ y ∈ Finset.Ico (epoch + r) limit, yearDays y) :
    ∃ n' r', yearLoop n d r = (n', d + ∑ y ∈ Finset.Ico (epoch + r) (epoch + r'), yearDays y, r') ∧
      Place yearDays (epoch + r) (n / secondsPerDay) (epoch + r') (n' / secondsPerDay) := by
  induction n using Nat.strong_induction_on generalizing d r with
  | _ n ih =>
    have hr : epoch + r < limit := by
      by_contra hlast
      simp [Finset.Ico_eq_empty hlast] at hn
    rw [yearLoop_eq]
    by_cases hyear : n / secondsPerDay < yearDays (epoch + r)
    · rw [if_pos hyear]
      exact ⟨n, r, by simp, Place.here hyear⟩
    · have hle := Nat.not_lt.1 hyear
      have hpos := le_yearDays (epoch + r)
      rw [Finset.sum_eq_sum_Ico_succ_bot hr] at hn
      have hrest : (n - yearDays (epoch + r) * secondsPerDay) / secondsPerDay =
          n / secondsPerDay - yearDays (epoch + r) := by
        rw [Nat.mul_comm, Nat.sub_mul_div]
      have hepoch : 0 < epoch := by decide
      have hmod : (r + 1) % 65536 = r + 1 := Nat.mod_eq_of_lt (by omega)
      have hless : n - yearDays (epoch + r) * secondsPerDay < n := by
        simp only [secondsPerDay] at *
        omega
      obtain ⟨n', r', hloop, hplace⟩ := ih _ hless (d + yearDays (epoch + r)) (r + 1)
        (by rw [hrest, ← Nat.add_assoc]; omega)
      rw [if_neg hyear, hmod, hloop]
      rw [hrest] at hplace
      refine ⟨n', r', ?_, hplace.next hle⟩
      rw [Finset.sum_eq_sum_Ico_succ_bot (show epoch + r < epoch + r' from hplace.start), ← Nat.add_assoc d]
      rfl

lemma monthLength_month {y : ℕ} {yf : Byte} (hpos : 1 ≤ yf.toNat) (hle : yf.toNat ≤ 12) :
    monthLength y yf = some (monthDays y yf.toNat) := by
  have hmonth : yf = 1 ∨ yf = 2 ∨ yf = 3 ∨ yf = 4 ∨ yf = 5 ∨ yf = 6 ∨ yf = 7 ∨ yf = 8 ∨ yf = 9 ∨
      yf = 10 ∨ yf = 11 ∨ yf = 12 := by
    bv_omega
  rcases hmonth with rfl | rfl | rfl | rfl | rfl | rfl | rfl | rfl | rfl | rfl | rfl | rfl <;> rfl

/-- The month loop finds the month of the day, and adds up the days before it. The test of 28 days
ends it only inside a month, as no month is shorter. -/
lemma monthLoop_place (y yd rz : ℕ) (yf : Byte) (hpos : 1 ≤ yf.toNat)
    (hyd : yd < ∑ m ∈ Finset.Ico yf.toNat 13, monthDays y m) :
    ∃ rest month, monthLoop y yd rz yf =
        (rz + ∑ m ∈ Finset.Ico yf.toNat month.toNat, monthDays y m, month) ∧
      Place (monthDays y) yf.toNat yd month.toNat rest := by
  have hle : yf.toNat ≤ 12 := by
    by_contra hlast
    have hempty : Finset.Ico yf.toNat 13 = ∅ := Finset.Ico_eq_empty (by omega)
    simp [hempty] at hyd
  have hshort := le_monthDays y yf.toNat
  rw [monthLoop]
  by_cases h28 : 28 ≤ yd
  · rw [if_pos h28]
    split
    next len hlen =>
      rw [monthLength_month hpos hle] at hlen
      cases hlen
      by_cases hmonth : yd < monthDays y yf.toNat
      · rw [if_pos hmonth]
        exact ⟨yd, yf, by simp, Place.here hmonth⟩
      · have hnext : (yf + 1).toNat = yf.toNat + 1 := by bv_omega
        have hlt : yf.toNat < 13 := by omega
        rw [Finset.sum_eq_sum_Ico_succ_bot hlt] at hyd
        obtain ⟨rest, month, hloop, hplace⟩ := monthLoop_place y (yd - monthDays y yf.toNat)
          (rz + monthDays y yf.toNat) (yf + 1) (by omega) (by rw [hnext]; omega)
        rw [hnext] at hloop hplace
        rw [if_neg hmonth, hloop]
        refine ⟨rest, month, ?_, hplace.next (Nat.not_lt.1 hmonth)⟩
        rw [Finset.sum_eq_sum_Ico_succ_bot (show yf.toNat < month.toNat from hplace.start),
          Nat.add_assoc rz]
    next hlen =>
      rw [monthLength_month hpos hle] at hlen
      cases hlen
  · rw [if_neg h28]
    exact ⟨yd, yf, by simp, Place.here (by omega)⟩
termination_by yd
decreasing_by omega

lemma calcdatetime_date {limit s : ℕ} (hlimit : limit ≤ 65536) (hs : s < yearStart epoch limit) :
    (calcdatetime s).dateTime.Valid ∧ epoch ≤ (calcdatetime s).yy ∧
      (calcdatetime s).dateTime.seconds epoch = s := by
  obtain ⟨n', r, hloop, hyear⟩ := yearLoop_place hlimit s 0 0 (by rw [Nat.add_zero]; exact day_lt hs)
  rw [Nat.add_zero] at hloop hyear
  have hlt := hyear.lt (day_lt hs)
  have htotal := hyear.total
  have hinside := hyear.inside
  rw [← sum_monthDays] at hinside
  obtain ⟨rest, month, hmonths, hmonth⟩ :=
    monthLoop_place (epoch + r) (n' / secondsPerDay) 0 1 (by decide) hinside
  have hmlt := hmonth.lt hinside
  have hmstart := hmonth.start
  have hmtotal := hmonth.total
  have hminside := hmonth.inside
  have hdays : s / secsPerday - (0 + ∑ y ∈ Finset.Ico epoch (epoch + r), yearDays y) =
      n' / secondsPerDay := by
    rw [Nat.zero_add]
    exact Nat.sub_eq_of_eq_add' htotal
  have hcalc : calcdatetime s =
      { yy := epoch + r
        mo := month.toNat
        dd := rest + 1
        hh := s % secsPerday / 3600
        mm := s % secsPerday % 3600 / 60
        ss := s % secsPerday % 3600 % 60 } := by
    have hday : n' / secondsPerDay - (0 + ∑ m ∈ Finset.Ico (1 : Byte).toNat month.toNat,
        monthDays (epoch + r) m) = rest := by
      rw [Nat.zero_add]
      exact Nat.sub_eq_of_eq_add' hmtotal
    have hshort : rest < 31 := Nat.lt_of_lt_of_le hminside (monthDays_le _ _)
    have hyy : (r + epoch) % 65536 = epoch + r := by omega
    have htime : s % secsPerday < 86400 := Nat.mod_lt _ (by decide)
    simp only [calcdatetime, hloop, hdays, hyy, hmonths, hday, Datetime.mk.injEq, true_and]
    omega
  rw [hcalc]
  refine ⟨⟨hmstart, Nat.le_of_lt_succ hmlt, Nat.le_add_left 1 rest, hminside, ?_, ?_, ?_⟩,
    hyear.start, ?_⟩
  · exact Nat.div_lt_of_lt_mul (Nat.mod_lt s (by decide))
  · exact Nat.div_lt_of_lt_mul (Nat.mod_lt _ (by decide))
  · exact Nat.mod_lt _ (by decide)
  · change n' / secondsPerDay = ∑ m ∈ Finset.Ico 1 month.toNat, monthDays (epoch + r) m + rest at hmtotal
    change (∑ y ∈ Finset.Ico epoch (epoch + r), yearDays y +
        (∑ m ∈ Finset.Ico 1 month.toNat, monthDays (epoch + r) m + rest)) * secondsPerDay +
      (s % secsPerday / 3600 * 3600 + s % secsPerday % 3600 / 60 * 60 + s % secsPerday % 3600 % 60) = s
    rw [← hmtotal, ← htotal]
    simp only [secsPerday, secondsPerDay]
    omega

/-- The date and time that calcdatetime stores is the calendar's. -/
theorem calcdatetime_iff (t : DateTime) {s : ℕ} (hs : s < yearStart epoch 65536) :
    (calcdatetime s).dateTime = t ↔ t.Valid ∧ epoch ≤ t.year ∧ t.seconds epoch = s := by
  obtain ⟨hvalid, hepoch, hseconds⟩ := calcdatetime_date (Nat.le_refl _) hs
  constructor
  · rintro rfl
    exact ⟨hvalid, hepoch, hseconds⟩
  · rintro ⟨hvalid', hepoch', hseconds'⟩
    exact DateTime.seconds_injective hvalid hvalid' hepoch hepoch' (hseconds.trans hseconds'.symm)

/-- The last second before the leap day of 2000. -/
theorem calcdatetime_iff_february :
    (calcdatetime 3160771199).dateTime = ⟨2000, 2, 28, 23, 59, 59⟩ :=
  (calcdatetime_iff _ (Nat.lt_of_lt_of_le (by decide +kernel) (le_yearStart _ _))).2
    ⟨by constructor <;> decide, by decide, by decide +kernel⟩

lemma runYearCnt_eq (l i : ℕ) (hi : i ≤ l) :
    ∑ y ∈ Finset.Ico i l, yearDays y = (l - i) * 365 + runYearCnt l i := by
  fun_induction runYearCnt l i with
  | case1 i hlt ih =>
    rw [Finset.sum_eq_sum_Ico_succ_bot hlt, ih hlt, yearDays]
    simp only [isLeap_iff]
    split_ifs <;> omega
  | case2 i hge =>
    obtain rfl : i = l := Nat.le_antisymm hi (Nat.not_lt.1 hge)
    simp

lemma runYearCnt_le (l i : ℕ) : runYearCnt l i ≤ l - i := by
  fun_induction runYearCnt l i with
  | case1 i hlt ih => split_ifs <;> omega
  | case2 i hge => exact Nat.zero_le _

/-- The loop adds for a month the length of the month before it. -/
lemma monthDay_succ (l : ℕ) {m : ℕ} (hpos : 1 ≤ m) (hlt : m < 12) :
    monthDay l (m + 1) = monthDays l m := by
  interval_cases m <;> rfl

lemma sum_monthDay (l : ℕ) {mo : ℕ} (hpos : 1 ≤ mo) (hle : mo ≤ 12) :
    ∑ i ∈ Finset.Icc 1 mo, monthDay l i = ∑ m ∈ Finset.Ico 1 mo, monthDays l m := by
  have hjanuary : monthDay l 1 = 0 := rfl
  rw [← Finset.Ico_succ_right_eq_Icc, Order.succ_eq_add_one, Finset.sum_eq_sum_Ico_succ_bot (by omega),
    hjanuary, Nat.zero_add, ← Finset.sum_Ico_add' (monthDay l) 1 mo 1]
  refine Finset.sum_congr rfl fun m hm => ?_
  obtain ⟨hm1, hm2⟩ := Finset.mem_Ico.1 hm
  exact monthDay_succ l hm1 (by omega)

/-- Below 2 ^ 32 seconds' worth of days no sum of changedatetime_to_seconds wraps. -/
lemma changedatetimeToSeconds_eq {now : Datetime} (h : now.dateTime.Valid) (hepoch : epoch ≤ now.yy)
    (hyy : now.yy < 65536) (hdays : now.dateTime.days epoch < 49711) :
    changedatetimeToSeconds now = now.dateTime.seconds epoch := by
  have hyears := runYearCnt_eq now.yy epoch hepoch
  have hcnt := runYearCnt_le now.yy epoch
  have hmonths : ∑ i ∈ Finset.Icc 1 now.mo, monthDay now.yy i =
      ∑ m ∈ Finset.Ico 1 now.mo, monthDays now.yy m := sum_monthDay _ h.month_pos h.month_le
  have hmod : runYearCnt now.yy epoch % 65536 = runYearCnt now.yy epoch := Nat.mod_eq_of_lt (by omega)
  have hday : 1 ≤ now.dd := h.day_pos
  have hday' : now.dd ≤ 31 := Nat.le_trans h.day_le (monthDays_le _ _)
  change ∑ y ∈ Finset.Ico epoch now.yy, yearDays y +
    (∑ m ∈ Finset.Ico 1 now.mo, monthDays now.yy m + (now.dd - 1)) < 49711 at hdays
  change _ = (∑ y ∈ Finset.Ico epoch now.yy, yearDays y +
    (∑ m ∈ Finset.Ico 1 now.mo, monthDays now.yy m + (now.dd - 1))) * secondsPerDay +
      (now.hh * 3600 + now.mm * 60 + now.ss)
  simp only [changedatetimeToSeconds, hmod, hmonths, secondsPerDay]
  rw [hyears] at hdays ⊢
  generalize runYearCnt now.yy epoch = cnt at *
  generalize ∑ m ∈ Finset.Ico 1 now.mo, monthDays now.yy m = months at *
  have hepoch' : epoch = 1900 := rfl
  have htotal : (((now.yy : ℤ) - epoch - cnt) * 365 + cnt * 366) % 2 ^ 32 =
      ((now.yy - epoch) * 365 + cnt : ℕ) := by
    omega
  rw [htotal, Int.toNat_natCast]
  omega

lemma zoneSeconds_le (timeZone : ℕ) : zoneSeconds timeZone ≤ 14 * 3600 := by
  unfold zoneSeconds
  split <;> decide

lemma timestamp_lt (buf : ℕ → Byte) (idx : ℕ) : timestamp buf idx < 2 ^ 32 := by
  simp only [timestamp]
  omega

/-- changedatetime_to_seconds gives back the seconds of the reply in its time zone. -/
theorem changedatetimeToSeconds_getSecondsFromNtpServer (timeZone : ℕ) (buf : ℕ → Byte) (idx : ℕ)
    (h : 0 ≤ timestamp buf idx + zoneSeconds timeZone) :
    (changedatetimeToSeconds (getSecondsFromNtpServer timeZone buf idx) : ℤ) =
      timestamp buf idx + zoneSeconds timeZone := by
  have hzone := zoneSeconds_le timeZone
  have hts := timestamp_lt buf idx
  obtain ⟨s, hs⟩ := Int.eq_ofNat_of_zero_le h
  have hmod : ((timestamp buf idx + zoneSeconds timeZone) % 2 ^ 64).toNat = s := by omega
  have hlt : s < 49711 * secondsPerDay := by
    simp only [secondsPerDay]
    omega
  have hstart : s < yearStart epoch 2037 := 
    Nat.lt_of_lt_of_le hlt (Nat.le_trans (by decide +kernel) (le_yearStart _ _))
  obtain ⟨hvalid, hepoch, hseconds⟩ := calcdatetime_date (by decide) hstart
  have hyear := hvalid.year_lt hepoch (by rwa [hseconds])
  change (calcdatetime s).yy < 2037 at hyear
  rw [getSecondsFromNtpServer, hmod, hs, changedatetimeToSeconds_eq hvalid hepoch (by omega) ?_, hseconds]
  rw [← hvalid.day_seconds, hseconds]
  exact Nat.div_lt_of_lt_mul (Nat.lt_of_lt_of_eq hlt (Nat.mul_comm _ _))

/-- The last timestamp, in the zone one hour east. -/
theorem changedatetimeToSeconds_getSecondsFromNtpServer_east :
    changedatetimeToSeconds (getSecondsFromNtpServer 23 (fun _ => 255) 40) = 4294970895 :=
  Int.ofNat.inj (changedatetimeToSeconds_getSecondsFromNtpServer 23 (fun _ => 255) 40 (by decide))

end IoLibrary.Sntp
