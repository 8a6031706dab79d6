import Mathlib.Data.Nat.Notation
import Mathlib.Order.Monotone.Basic
import Mathlib.Order.Nat

/-!
# The calendar

Dates and times of the Gregorian calendar, for the years 1 to 9999, as the standard library of
Python has them.

## Months

A month has a number, which is 12 for the first one and grows by one from month to month. Its first
day is counted from the first day of the first year. So the range of a month starts where that of
the month before ends, and which month a moment is in is a question about numbers.

## Main definitions

* `isLeap`, `monthDays`, `daysBeforeYear`, `monthsDays`
* `DateTime`, `DateTime.replace`, `DateTime.firstOfMonth`, `DateTime.subDays`
* `firstDay`, `monthStart`, `DateTime.monthNumber`, `DateTime.instant`

## Main results

* `firstDay_succ`, `monthStart_strictMono` — month after month
* `DateTime.monthStart_le_instant`, `DateTime.instant_lt_monthStart` — a moment is in its month
* `DateTime.instant_subDays` — days are taken off
-/

namespace Calendar

/-! ### Years and months -/

def isLeap (year : ℕ) : Bool := year % 4 = 0 && (year % 100 ≠ 0 || year % 400 = 0)

/-- How many days a month has. -/
def monthDays (year month : ℕ) : ℕ :=
  match month with
  | 2 => if isLeap year then 29 else 28
  | 4 | 6 | 9 | 11 => 30
  | _ => 31

/-- The days from the first day of the year 1 to that of a year. -/
def daysBeforeYear (year : ℕ) : ℕ :=
  (year - 1) * 365 + (year - 1) / 4 - (year - 1) / 100 + (year - 1) / 400

/-- The days of the first months of a year. -/
def monthsDays (year : ℕ) : ℕ → ℕ
  | 0 => 0
  | months + 1 => monthsDays year months + monthDays year (months + 1)

theorem daysBeforeYear_succ {year : ℕ} (h : 1 ≤ year) :
    daysBeforeYear (year + 1) = daysBeforeYear year + if isLeap year then 366 else 365 := by
  obtain ⟨n, rfl⟩ := Nat.exists_eq_add_of_le' h
  have hfour : (n + 1) / 4 = n / 4 + if (n + 1) % 4 = 0 then 1 else 0 := by
    split <;> omega
  have hhundred : (n + 1) / 100 = n / 100 + if (n + 1) % 100 = 0 then 1 else 0 := by
    split <;> omega
  have hfourHundred : (n + 1) / 400 = n / 400 + if (n + 1) % 400 = 0 then 1 else 0 := by
    split <;> omega
  have hle : n / 100 ≤ n / 4 := Nat.div_le_div_left (by omega) (by omega)
  have hmod : (n + 1) % 100 = 0 → (n + 1) % 4 = 0 := by omega
  have hmod' : (n + 1) % 400 = 0 → (n + 1) % 100 = 0 := by omega
  rw [daysBeforeYear, daysBeforeYear, isLeap, Nat.add_sub_cancel, Nat.add_sub_cancel, hfour,
    hhundred, hfourHundred]
  simp only [Bool.and_eq_true, Bool.or_eq_true, decide_eq_true_eq]
  generalize n / 4 = a at *
  generalize n / 100 = b at *
  by_cases h4 : (n + 1) % 4 = 0
  · by_cases h100 : (n + 1) % 100 = 0
    · by_cases h400 : (n + 1) % 400 = 0
      · simp only [h4, h100, h400, if_true, ne_eq, not_true_eq_false, or_true, and_self]
        omega
      · simp only [h4, h100, h400, if_true, if_false, ne_eq, not_true_eq_false, or_self, and_false]
        omega
    · simp only [h4, h100, mt hmod' h100, if_true, if_false, ne_eq, not_false_eq_true, true_or,
        and_self]
      omega
  · simp only [h4, mt hmod h4, mt hmod' (mt hmod h4), if_false, false_and]
    omega

/-- The months of a year. -/
theorem monthsDays_twelve (year : ℕ) : monthsDays year 12 = if isLeap year then 366 else 365 := by
  simp only [monthsDays, monthDays]
  split <;> rfl

theorem twentyEight_le_monthDays (year month : ℕ) : 28 ≤ monthDays year month := by
  unfold monthDays
  split
  · split <;> omega
  all_goals omega

theorem monthDays_pos (year month : ℕ) : 1 ≤ monthDays year month :=
  Nat.le_trans (by omega) (twentyEight_le_monthDays year month)

/-- The days before the month with a number. -/
def firstDay (k : ℕ) : ℕ := daysBeforeYear (k / 12) + monthsDays (k / 12) (k % 12)

/-- **Month after month.** -/
theorem firstDay_succ {k : ℕ} (h : 12 ≤ k) :
    firstDay (k + 1) = firstDay k + monthDays (k / 12) (k % 12 + 1) := by
  have hmonth : k % 12 < 12 := Nat.mod_lt k (by omega)
  rcases Nat.lt_or_ge (k % 12) 11 with hlt | hge
  · have hyear : (k + 1) / 12 = k / 12 := by omega
    have hnext : (k + 1) % 12 = k % 12 + 1 := by omega
    rw [firstDay, firstDay, hyear, hnext, monthsDays, Nat.add_assoc]
  · -- December, and the first month of the next year
    have hdecember : k % 12 = 11 := by omega
    have hyear : (k + 1) / 12 = k / 12 + 1 := by omega
    have hnext : (k + 1) % 12 = 0 := by omega
    rw [firstDay, firstDay, hyear, hnext, hdecember, daysBeforeYear_succ (by omega),
      ← monthsDays_twelve, monthsDays, monthsDays, Nat.add_zero, Nat.add_assoc]

/-- The ticks of a day, which are microseconds. -/
def dayTicks : ℕ := 86400000000

/-- The first moment of a month. -/
def monthStart (k : ℕ) : ℕ := firstDay k * dayTicks

theorem monthStart_lt_succ {k : ℕ} (h : 12 ≤ k) : monthStart k < monthStart (k + 1) := by
  rw [monthStart, monthStart, firstDay_succ h]
  have hpos := monthDays_pos (k / 12) (k % 12 + 1)
  exact Nat.mul_lt_mul_of_pos_right (by omega) (by decide)

theorem monthStart_le {j k : ℕ} (hj : 12 ≤ j) (hjk : j ≤ k) : monthStart j ≤ monthStart k := by
  induction k, hjk using Nat.le_induction with
  | base => exact Nat.le_refl _
  | succ k hjk ih => exact Nat.le_trans ih (Nat.le_of_lt (monthStart_lt_succ (hj.trans hjk)))

theorem monthStart_lt {j k : ℕ} (hj : 12 ≤ j) (hjk : j < k) : monthStart j < monthStart k :=
  Nat.lt_of_lt_of_le (monthStart_lt_succ hj) (monthStart_le (Nat.le_succ_of_le hj) hjk)

theorem monthStart_le_iff {j k : ℕ} (hj : 12 ≤ j) (hk : 12 ≤ k) :
    monthStart j ≤ monthStart k ↔ j ≤ k := by
  refine ⟨fun h => ?_, monthStart_le hj⟩
  by_contra hlt
  exact Nat.not_lt.mpr h (monthStart_lt hk (Nat.lt_of_not_le hlt))

/-! ### Dates and times -/

/-- A `datetime`, without its time zone. -/
structure DateTime where
  year : ℕ
  month : ℕ
  day : ℕ
  hour : ℕ
  minute : ℕ
  second : ℕ
  microsecond : ℕ
  year_bounds : 1 ≤ year ∧ year ≤ 9999
  month_bounds : 1 ≤ month ∧ month ≤ 12
  day_bounds : 1 ≤ day ∧ day ≤ monthDays year month
  clock_bounds : hour < 24 ∧ minute < 60 ∧ second < 60 ∧ microsecond < 1000000
deriving DecidableEq

namespace DateTime

/-- `dt.replace(year=…, month=…, day=…)`; `none` is a `ValueError`. -/
def replace (dt : DateTime) (year month day : ℕ) : Option DateTime :=
  if h : (1 ≤ year ∧ year ≤ 9999) ∧ (1 ≤ month ∧ month ≤ 12) ∧ 1 ≤ day ∧ day ≤ monthDays year month
  then some { dt with
    year := year
    month := month
    day := day
    year_bounds := h.1
    month_bounds := h.2.1
    day_bounds := h.2.2 }
  else none

theorem midnight_bounds : 0 < 24 ∧ 0 < 60 ∧ 0 < 60 ∧ 0 < 1000000 := by decide

/-- `dt.replace(day=1, hour=0, minute=0, second=0, microsecond=0)` -/
def firstOfMonth (dt : DateTime) : DateTime where
  year := dt.year
  month := dt.month
  day := 1
  hour := 0
  minute := 0
  second := 0
  microsecond := 0
  year_bounds := dt.year_bounds
  month_bounds := dt.month_bounds
  day_bounds := ⟨Nat.le_refl 1, monthDays_pos _ _⟩
  clock_bounds := midnight_bounds

/-- The number of the month. -/
def monthNumber (dt : DateTime) : ℕ := 12 * dt.year + (dt.month - 1)

/-- The ticks since midnight. -/
def clock (dt : DateTime) : ℕ :=
  ((dt.hour * 60 + dt.minute) * 60 + dt.second) * 1000000 + dt.microsecond

/-- The days before the day. -/
def dayNumber (dt : DateTime) : ℕ := firstDay dt.monthNumber + (dt.day - 1)

/-- The moment, as if in UTC. -/
def instant (dt : DateTime) : ℕ := dt.dayNumber * dayTicks + dt.clock

/-- The day before, at the same time. -/
def prevDay (dt : DateTime) : Option DateTime :=
  if 1 < dt.day then dt.replace dt.year dt.month (dt.day - 1)
  else if 1 < dt.month then
    dt.replace dt.year (dt.month - 1) (monthDays dt.year (dt.month - 1))
  else dt.replace (dt.year - 1) 12 31

/-- `dt - timedelta(days=…)`; `none` is an `OverflowError`. -/
def subDays (dt : DateTime) : ℕ → Option DateTime
  | 0 => some dt
  | days + 1 => dt.prevDay.bind fun dt => dt.subDays days

variable {dt dt' : DateTime}

theorem monthNumber_div (dt : DateTime) : dt.monthNumber / 12 = dt.year := by
  have h := dt.month_bounds
  rw [monthNumber]
  omega

theorem monthNumber_mod (dt : DateTime) : dt.monthNumber % 12 + 1 = dt.month := by
  have h := dt.month_bounds
  rw [monthNumber]
  omega

theorem twelve_le_monthNumber (dt : DateTime) : 12 ≤ dt.monthNumber := by
  have h := dt.year_bounds
  rw [monthNumber]
  omega

theorem clock_lt (dt : DateTime) : dt.clock < dayTicks := by
  have h := dt.clock_bounds
  rw [clock, dayTicks]
  omega

@[simp] theorem monthNumber_firstOfMonth (dt : DateTime) :
    dt.firstOfMonth.monthNumber = dt.monthNumber := rfl

@[simp] theorem instant_firstOfMonth (dt : DateTime) :
    dt.firstOfMonth.instant = monthStart dt.monthNumber := by
  rw [instant, dayNumber, clock, monthNumber_firstOfMonth, monthStart]
  simp only [firstOfMonth, Nat.sub_self, Nat.zero_mul, Nat.add_zero]

/-- **A moment** is not before its month. -/
theorem monthStart_le_instant (dt : DateTime) : monthStart dt.monthNumber ≤ dt.instant := by
  rw [monthStart, instant, dayNumber, Nat.add_mul]
  omega

/-- **A moment** is before the month after its own. -/
theorem instant_lt_monthStart (dt : DateTime) : dt.instant < monthStart (dt.monthNumber + 1) := by
  have hclock := dt.clock_lt
  have hday := dt.day_bounds
  have hdays : dt.dayNumber + 1 ≤ firstDay (dt.monthNumber + 1) := by
    rw [firstDay_succ dt.twelve_le_monthNumber, dt.monthNumber_div, dt.monthNumber_mod, dayNumber]
    omega
  have hticks : (dt.dayNumber + 1) * dayTicks ≤ firstDay (dt.monthNumber + 1) * dayTicks :=
    Nat.mul_le_mul_right _ hdays
  rw [Nat.add_mul] at hticks
  rw [instant, monthStart]
  omega

/-- A moment is in no other month. -/
theorem monthNumber_eq_of_mem {k : ℕ} (hk : 12 ≤ k) (hstart : monthStart k ≤ dt.instant)
    (hend : dt.instant < monthStart (k + 1)) : dt.monthNumber = k := by
  have hle : k ≤ dt.monthNumber := by
    by_contra hlt
    have hle : monthStart (dt.monthNumber + 1) ≤ monthStart k :=
      monthStart_le (Nat.le_succ_of_le dt.twelve_le_monthNumber) (Nat.lt_of_not_le hlt)
    have hin := dt.instant_lt_monthStart
    omega
  have hge : dt.monthNumber ≤ k := by
    by_contra hlt
    have hle : monthStart (k + 1) ≤ monthStart dt.monthNumber :=
      monthStart_le (Nat.le_succ_of_le hk) (Nat.lt_of_not_le hlt)
    have hin := dt.monthStart_le_instant
    omega
  omega

/-! ### Days before -/

theorem replace_eq_some_iff {year month day : ℕ} : dt.replace year month day = some dt' ↔
    dt'.year = year ∧ dt'.month = month ∧ dt'.day = day ∧ dt'.hour = dt.hour ∧
      dt'.minute = dt.minute ∧ dt'.second = dt.second ∧ dt'.microsecond = dt.microsecond := by
  rw [replace]
  constructor
  · intro h
    split at h
    · obtain rfl := Option.some.inj h
      exact ⟨rfl, rfl, rfl, rfl, rfl, rfl, rfl⟩
    · cases h
  · rintro ⟨rfl, rfl, rfl, hhour, hminute, hsecond, hmicrosecond⟩
    rw [dif_pos ⟨dt'.year_bounds, dt'.month_bounds, dt'.day_bounds⟩]
    simp only [← hhour, ← hminute, ← hsecond, ← hmicrosecond]

theorem clock_of_replace {year month day : ℕ} (h : dt.replace year month day = some dt') :
    dt'.clock = dt.clock := by
  obtain ⟨-, -, -, hhour, hminute, hsecond, hmicrosecond⟩ := replace_eq_some_iff.mp h
  rw [clock, clock, hhour, hminute, hsecond, hmicrosecond]

theorem dayNumber_prevDay (h : dt.prevDay = some dt') :
    dt'.dayNumber + 1 = dt.dayNumber ∧ dt'.clock = dt.clock := by
  have hday := dt.day_bounds
  have hmonth := dt.month_bounds
  rw [prevDay] at h
  split at h
  · refine ⟨?_, clock_of_replace h⟩
    obtain ⟨hy, hm, hd, -⟩ := replace_eq_some_iff.mp h
    rw [dayNumber, dayNumber, monthNumber, monthNumber, hy, hm, hd]
    omega
  · have hbefore : dt.monthNumber = dt'.monthNumber + 1 ∧
        dt'.day = monthDays dt'.year dt'.month ∧ dt'.clock = dt.clock := by
      split at h
      · refine ⟨?_, ?_, clock_of_replace h⟩
        · obtain ⟨hy, hm, -⟩ := replace_eq_some_iff.mp h
          rw [monthNumber, monthNumber, hy, hm]
          omega
        · obtain ⟨hy, hm, hd, -⟩ := replace_eq_some_iff.mp h
          rw [hd, hy, hm]
      · have hyear := dt'.year_bounds
        refine ⟨?_, ?_, clock_of_replace h⟩
        · obtain ⟨hy, hm, -⟩ := replace_eq_some_iff.mp h
          rw [monthNumber, monthNumber, hm]
          omega
        · obtain ⟨hy, hm, hd, -⟩ := replace_eq_some_iff.mp h
          rw [hd, hm]
          rfl
    obtain ⟨hnumber, hlast, hclock⟩ := hbefore
    refine ⟨?_, hclock⟩
    have hpos := monthDays_pos dt'.year dt'.month
    rw [dayNumber, dayNumber, hnumber, firstDay_succ dt'.twelve_le_monthNumber, dt'.monthNumber_div,
      dt'.monthNumber_mod, hlast]
    omega

/-- **Days are taken off** a moment. -/
theorem instant_subDays {days : ℕ} (h : dt.subDays days = some dt') :
    dt'.instant + days * dayTicks = dt.instant := by
  induction days generalizing dt with
  | zero =>
    obtain rfl := Option.some.inj h
    omega
  | succ days ih =>
    obtain ⟨before, hbefore, h⟩ := Option.bind_eq_some_iff.mp h
    obtain ⟨hday, hclock⟩ := dayNumber_prevDay hbefore
    have hrest := ih h
    rw [instant, instant, ← hday, ← hclock, Nat.add_mul, Nat.add_mul] at *
    omega

end DateTime

end Calendar
