import IoLibrary.Calendar
import IoLibrary.Registers

/-! The calendar of sntp.c: seconds since 1900 to a date and time, and back. -/
namespace IoLibrary.Sntp
open Calendar

/-- The struct datetime of sntp.h, of which Nowdatetime is one. -/
structure Datetime where
  yy : ℕ
  mo : ℕ
  dd : ℕ
  hh : ℕ
  mm : ℕ
  ss : ℕ
  deriving DecidableEq, Repr

def secsPerday : ℕ := 86400

def epoch : ℕ := 1900

/-- The leap year test of the source, written out in each of its loops. -/
abbrev isLeap (y : ℕ) : Prop := y % 400 = 0 ∨ y % 100 ≠ 0 ∧ y % 4 = 0

/-- The year loop of calcdatetime: the seconds left in the year, the days before it, and `r`. -/
def yearLoop (n d r : ℕ) : ℕ × ℕ × ℕ :=
  if isLeap (epoch + r) then
    if n < secsPerday * 366 then (n, d, r)
    else yearLoop (n - secsPerday * 366) (d + 366) ((r + 1) % 65536)
  else if n < secsPerday * 365 then (n, d, r)
  else yearLoop (n - secsPerday * 365) (d + 365) ((r + 1) % 65536)
termination_by n
decreasing_by
  all_goals
    simp only [secsPerday] at *
    omega

/-- The days that one turn of the month loop takes off; `none` for a `yf` that is no month. -/
def monthLength (y : ℕ) (yf : Byte) : Option ℕ :=
  if yf = 1 ∨ yf = 3 ∨ yf = 5 ∨ yf = 7 ∨ yf = 8 ∨ yf = 10 ∨ yf = 12 then some 31
  else if yf = 2 then some (if isLeap y then 29 else 28)
  else if yf = 4 ∨ yf = 6 ∨ yf = 9 ∨ yf = 11 then some 30
  else none

lemma monthLength_pos {y len : ℕ} {yf : Byte} (h : monthLength y yf = some len) : 0 < len := by
  unfold monthLength at h
  split_ifs at h <;> cases h <;> decide

/-- Outside the months `yf` comes nearer to January. -/
lemma monthLength_none {y : ℕ} {yf : Byte} (h : monthLength y yf = none) :
    (257 - (yf + 1).toNat) % 256 < (257 - yf.toNat) % 256 := by
  have houtside : yf = 0 ∨ 12 < yf.toNat := by
    unfold monthLength at h
    split_ifs at h
    bv_omega
  have hlt := yf.isLt
  rcases houtside with rfl | hout
  · decide
  · have hone : (1 : Byte).toNat = 1 := rfl
    rw [BitVec.toNat_add, hone]
    omega

/-- The month loop of calcdatetime: the days before the month, and `yf`. A break leaves a negative
`yd` behind, which nothing reads. -/
def monthLoop (y yd rz : ℕ) (yf : Byte) : ℕ × Byte :=
  if 28 ≤ yd then
    match hlen : monthLength y yf with
    | some len => if yd < len then (rz, yf) else monthLoop y (yd - len) (rz + len) (yf + 1)
    | none => monthLoop y yd rz (yf + 1)
  else (rz, yf)
termination_by (yd, (257 - yf.toNat) % 256)
decreasing_by
  · have hpos := monthLength_pos hlen
    apply Prod.Lex.left
    omega
  · exact Prod.Lex.right _ (monthLength_none hlen)

/-- calcdatetime: what it stores in Nowdatetime. -/
def calcdatetime (seconds : ℕ) : Datetime :=
  let totalD := seconds / secsPerday
  let (_, d, r) := yearLoop seconds 0 0
  let y := (r + epoch) % 65536
  let (rz, yf) := monthLoop y (totalD - d) 0 1
  let yr := ((totalD - d - rz) % 65536 + 1) % 65536
  let seconds := seconds % secsPerday
  { yy := y
    mo := yf.toNat
    dd := yr % 256
    hh := seconds / 3600 % 256
    mm := seconds % 3600 / 60 % 256
    ss := seconds % 3600 % 60 % 256 }

/-- The leap years from `i` up to, but without, `l`. -/
def runYearCnt (l i : ℕ) : ℕ :=
  if i < l then (if isLeap i then 1 else 0) + runYearCnt l (i + 1) else 0
termination_by l - i

/-- What the month loop of changedatetime_to_seconds adds for `i`. -/
def monthDay (l i : ℕ) : ℕ :=
  if i = 5 ∨ i = 7 ∨ i = 10 ∨ i = 12 then 30
  else if i = 3 then if isLeap l then 29 else 28
  else if i = 2 ∨ i = 4 ∨ i = 6 ∨ i = 8 ∨ i = 9 ∨ i = 11 then 31
  else 0

/-- changedatetime_to_seconds, whose days are a uint32_t. -/
def changedatetimeToSeconds (now : Datetime) : ℕ :=
  let years := runYearCnt now.yy epoch % 65536
  let totalDay := (((now.yy : ℤ) - epoch - years) * 365 + years * 366) % 2 ^ 32
  let totalDay := (totalDay.toNat + ∑ i ∈ Finset.Icc 1 now.mo, monthDay now.yy i) % 2 ^ 32
  let seconds := (totalDay + now.dd + 2 ^ 32 - 1) % 2 ^ 32 * 24 % 2 ^ 32 * 3600 % 2 ^ 32
  seconds + now.ss + now.mm * 60 + now.hh * 3600

/-- The seconds that get_seconds_from_ntp_server adds for a time zone. -/
def zoneSeconds : ℕ → ℤ
  | 0 => -(12 * 3600)
  | 1 => -(11 * 3600)
  | 2 => -(10 * 3600)
  | 3 => -(9 * 3600 + 30 * 60)
  | 4 => -(9 * 3600)
  | 5 | 6 => -(8 * 3600)
  | 7 | 8 => -(7 * 3600)
  | 9 | 10 => -(6 * 3600)
  | 11 | 12 | 13 => -(5 * 3600)
  | 14 => -(4 * 3600 + 30 * 60)
  | 15 | 16 => -(4 * 3600)
  | 17 => -(3 * 3600 + 30 * 60)
  | 18 => -(3 * 3600)
  | 19 => -(2 * 3600)
  | 20 => -(1 * 3600)
  | 23 | 24 | 25 => 1 * 3600
  | 26 | 27 => 2 * 3600
  | 28 | 29 => 3 * 3600
  | 30 => 3 * 3600 + 30 * 60
  | 31 => 4 * 3600
  | 32 => 4 * 3600 + 30 * 60
  | 33 => 5 * 3600
  | 34 => 5 * 3600 + 30 * 60
  | 35 => 5 * 3600 + 45 * 60
  | 36 => 6 * 3600
  | 37 => 6 * 3600 + 30 * 60
  | 38 => 7 * 3600
  | 39 => 8 * 3600
  | 40 => 9 * 3600
  | 41 => 9 * 3600 + 30 * 60
  | 42 => 10 * 3600
  | 43 => 10 * 3600 + 30 * 60
  | 44 => 11 * 3600
  | 45 => 11 * 3600 + 30 * 60
  | 46 => 12 * 3600
  | 47 => 12 * 3600 + 45 * 60
  | 48 => 13 * 3600
  | 49 => 14 * 3600
  | _ => 0

/-- The seconds of the timestamp at `idx`, high byte first. -/
def timestamp (buf : ℕ → Byte) (idx : ℕ) : ℕ :=
  ((((buf idx).toNat * 256 + (buf (idx + 1)).toNat) * 256 + (buf (idx + 2)).toNat) * 256 +
    (buf (idx + 3)).toNat)

/-- get_seconds_from_ntp_server: what it stores in Nowdatetime. -/
def getSecondsFromNtpServer (timeZone : ℕ) (buf : ℕ → Byte) (idx : ℕ) : Datetime :=
  calcdatetime (((timestamp buf idx + zoneSeconds timeZone) % 2 ^ 64).toNat)

end IoLibrary.Sntp
