/-
Counting days and reading the count back.

A day of the calendar is counted by its year and its place in the year, and
the count is taken apart along the cycles that leap years have: 400 years,
centuries, groups of four years, years. Each of these has one length but for
its last part, and each lemma on the way needs of the day only where it is in
its cycle (`InCycle`). So a day comes back from its number
(`ofDayNumber_dayNumber`), and a number from its day
(`dayNumber_ofDayNumber`). Within a year it is taken apart along the lengths
of the months, and month and day come back as well (`monthDay_ofMonthDay`).
-/
import Logline.Calendar.Date

namespace Logline.Calendar

-- ============================================================== cycles

/-- A day by its place in a cycle: century, group of four years, year and
day, each counted from 0. The last day of a leap year is there only in the
last year of a group, and of these not in the last one of a century, but for
the last century. -/
structure InCycle (century group year day : Nat) : Prop where
  century_lt : century < 4
  group_lt : group < 25
  year_lt : year < 4
  day_le : day ≤ 365
  leap : day = 365 → year = 3 ∧ (group < 24 ∨ century = 3)

section

variable {cycle : Int} {century group year day : Nat}

/-- The year at a place of a cycle. -/
def yearOfCycle (cycle : Int) (century group year : Nat) : Int :=
  cycle * 400 + (century * 100 + group * 4 + year : Nat) + 1

theorem daysBeforeYear_cycle (h : InCycle century group year day) :
    daysBeforeYear (yearOfCycle cycle century group year)
      = cycle * 146097
        + (century * 36524 + group * 1461 + year * 365 : Nat) := by
  obtain ⟨hcentury, hgroup, hyear, -, -⟩ := h
  unfold daysBeforeYear yearOfCycle
  simp only [Int.fdiv_eq_ediv_of_nonneg _ (by decide : (0 : Int) ≤ 4),
    Int.fdiv_eq_ediv_of_nonneg _ (by decide : (0 : Int) ≤ 100),
    Int.fdiv_eq_ediv_of_nonneg _ (by decide : (0 : Int) ≤ 400)]
  omega

/-- The number of a day is taken apart into its place in the cycle. -/
theorem ofDayNumber_cycle (h : InCycle century group year day) :
    Date.ofDayNumber (cycle * 146097
        + (century * 36524 + group * 1461 + year * 365 : Nat) + (day + 1 : Nat))
      = ⟨yearOfCycle cycle century group year, day + 1⟩ := by
  obtain ⟨hcentury, hgroup, hyear, hday, hleap⟩ := h
  obtain ⟨days, hdays⟩ : ∃ days,
      days = century * 36524 + group * 1461 + year * 365 + day := ⟨_, rfl⟩
  have hcycle : Int.fdiv (cycle * 146097
      + (century * 36524 + group * 1461 + year * 365 : Nat) + (day + 1 : Nat)
      - 1) 146097 = cycle := by
    rw [Int.fdiv_eq_ediv_of_nonneg _ (by decide)]
    omega
  have hin : Int.toNat (cycle * 146097
      + (century * 36524 + group * 1461 + year * 365 : Nat) + (day + 1 : Nat)
      - 1 - cycle * 146097) = days := by
    omega
  unfold Date.ofDayNumber
  simp only [hcycle, hin]
  have hfirst : min (days / 36524) 3 = century := by omega
  rw [hfirst]
  have hsecond : (days - century * 36524) / 1461 = group := by omega
  rw [hsecond]
  have hthird :
      min ((days - century * 36524 - group * 1461) / 365) 3 = year := by
    omega
  rw [hthird]
  have hlast :
      days - century * 36524 - group * 1461 - year * 365 = day := by
    omega
  rw [hlast]
  rfl

end

/-- Every day of a year has its place in a cycle. -/
theorem exists_cycle (year : Int) {ordinal : Nat} (hfirst : 1 ≤ ordinal)
    (hlast : ordinal ≤ daysInYear year) :
    ∃ cycle century group place, InCycle century group place (ordinal - 1)
      ∧ year = yearOfCycle cycle century group place := by
  refine ⟨(year - 1) / 400, ((year - 1) % 400).toNat / 100,
    ((year - 1) % 400).toNat % 100 / 4, ((year - 1) % 400).toNat % 4, ?_, ?_⟩
  · unfold daysInYear at hlast
    by_cases hleap : isLeap year = true
    · rw [if_pos hleap] at hlast
      unfold isLeap at hleap
      simp only [Bool.and_eq_true, Bool.or_eq_true, decide_eq_true_eq]
        at hleap
      constructor <;> omega
    · rw [if_neg hleap] at hlast
      constructor <;> omega
  · unfold yearOfCycle
    omega

/-- And every number is that of a place in a cycle. -/
theorem exists_cycle_of_number (number : Int) :
    ∃ cycle century group year day, InCycle century group year day
      ∧ number = cycle * 146097
        + (century * 36524 + group * 1461 + year * 365 : Nat)
        + (day + 1 : Nat) := by
  obtain ⟨cycle, days, hdays, hnumber⟩ : ∃ (cycle : Int) (days : Nat),
      days < 146097 ∧ number = cycle * 146097 + days + 1 :=
    ⟨(number - 1) / 146097, ((number - 1) % 146097).toNat, by omega, by omega⟩
  -- the last parts are the longer ones, so a quotient may be one too large
  obtain ⟨century, inCentury, hcentury⟩ : ∃ century inCentury,
      days = century * 36524 + inCentury ∧ century < 4 ∧ inCentury ≤ 36524
        ∧ (inCentury = 36524 → century = 3) :=
    ⟨min (days / 36524) 3, days - min (days / 36524) 3 * 36524, by omega⟩
  obtain ⟨group, inGroup, hgroup⟩ : ∃ group inGroup,
      inCentury = group * 1461 + inGroup ∧ inGroup < 1461 :=
    ⟨inCentury / 1461, inCentury % 1461, by omega⟩
  obtain ⟨year, day, hyear⟩ : ∃ year day, inGroup = year * 365 + day
      ∧ year < 4 ∧ day ≤ 365 ∧ (day = 365 → year = 3) :=
    ⟨min (inGroup / 365) 3, inGroup - min (inGroup / 365) 3 * 365, by omega⟩
  refine ⟨cycle, century, group, year, day, ?_, by omega⟩
  constructor <;> omega

/-- A place in a cycle is a day of its year. -/
theorem InCycle.le_daysInYear {century group year day : Nat}
    (h : InCycle century group year day) (cycle : Int) :
    day + 1 ≤ daysInYear (yearOfCycle cycle century group year) := by
  obtain ⟨hcentury, hgroup, hyear, hday, hleap⟩ := h
  unfold daysInYear
  by_cases hlong : isLeap (yearOfCycle cycle century group year) = true
  · rw [if_pos hlong]
    omega
  · have hshort : day ≠ 365 := by
      intro hlast
      apply hlong
      unfold isLeap yearOfCycle
      simp only [Bool.and_eq_true, Bool.or_eq_true, decide_eq_true_eq]
      omega
    rw [if_neg hlong]
    omega

namespace Date

/-- The date with a number is a day of its year and has that number. -/
theorem dayNumber_ofDayNumber (number : Int) :
    (ofDayNumber number).dayNumber = number
    ∧ 1 ≤ (ofDayNumber number).ordinal
    ∧ (ofDayNumber number).ordinal
      ≤ daysInYear (ofDayNumber number).year := by
  obtain ⟨cycle, century, group, year, day, h, rfl⟩ :=
    exists_cycle_of_number number
  rw [ofDayNumber_cycle h]
  refine ⟨?_, Nat.succ_le_succ (Nat.zero_le _), h.le_daysInYear cycle⟩
  unfold dayNumber
  rw [daysBeforeYear_cycle h]

/-- A day comes back from its number. -/
theorem ofDayNumber_dayNumber (date : Date) (hfirst : 1 ≤ date.ordinal)
    (hlast : date.ordinal ≤ daysInYear date.year) :
    ofDayNumber date.dayNumber = date := by
  obtain ⟨year, ordinal⟩ := date
  obtain ⟨cycle, century, group, place, h, hyear⟩ :=
    exists_cycle year hfirst hlast
  obtain ⟨day, rfl⟩ := Nat.exists_eq_add_of_le' hfirst
  unfold dayNumber
  subst hyear
  show ofDayNumber (daysBeforeYear _ + ((day + 1 : Nat) : Int)) = _
  rw [daysBeforeYear_cycle h]
  exact ofDayNumber_cycle h

-- ============================================================== months

/-- The days of months together. -/
def daysOf : List Nat → Nat
  | [] => 0
  | length :: rest => length + daysOf rest

theorem foldl_daysOf (lengths : List Nat) (days : Nat) :
    lengths.foldl (· + ·) days = days + daysOf lengths := by
  induction lengths generalizing days with
  | nil => rfl
  | cons length lengths ih => rw [List.foldl_cons, ih, daysOf, Nat.add_assoc]

section

variable {lengths : List Nat} {months length day : Nat}

/-- A day of a month lies behind the months before it. -/
theorem monthDayAlong_daysOf (first : Nat)
    (hmonth : lengths[months]? = some length) (hfirst : 1 ≤ day)
    (hlast : day ≤ length) :
    monthDayAlong first (daysOf (lengths.take months) + day) lengths
      = (first + months, day) := by
  induction lengths generalizing first months with
  | nil => cases hmonth
  | cons l lengths ih =>
      cases months with
      | zero =>
          obtain rfl := Option.some.inj hmonth
          show monthDayAlong first (0 + day) (l :: lengths) = (first, day)
          unfold monthDayAlong
          rw [Nat.zero_add, if_pos hlast]
      | succ months =>
          have hrest : l + daysOf (lengths.take months) + day - l
              = daysOf (lengths.take months) + day := by
            omega
          show monthDayAlong first (l + daysOf (lengths.take months) + day)
            (l :: lengths) = _
          unfold monthDayAlong
          rw [if_neg (by omega), hrest, ih (first + 1) hmonth]
          congr 1
          omega

/-- A day of a month is a day of its year. -/
theorem daysOf_take_le (hmonth : lengths[months]? = some length) :
    daysOf (lengths.take months) + length ≤ daysOf lengths := by
  induction lengths generalizing months with
  | nil => cases hmonth
  | cons l lengths ih =>
      cases months with
      | zero =>
          obtain rfl := Option.some.inj hmonth
          show 0 + l ≤ l + daysOf lengths
          omega
      | succ months =>
          have h := ih hmonth
          show l + daysOf (lengths.take months) + length
            ≤ l + daysOf lengths
          omega

end

theorem daysOf_monthLengths (year : Int) :
    daysOf (monthLengths year) = daysInYear year := by
  unfold monthLengths daysInYear
  cases isLeap year <;> rfl

theorem daysBeforeMonth_eq (year : Int) (month : Nat) :
    daysBeforeMonth year month
      = daysOf ((monthLengths year).take (month - 1)) := by
  unfold daysBeforeMonth
  rw [foldl_daysOf, Nat.zero_add]

section

variable {year : Int} {month day length : Nat}

theorem ofMonthDay?_eq (hyear : yearInRange year = true) (hmonth : 1 ≤ month)
    (hlength : (monthLengths year)[month - 1]? = some length)
    (hfirst : 1 ≤ day) (hlast : day ≤ length) :
    ofMonthDay? year month day
      = some ⟨year, daysBeforeMonth year month + day⟩ := by
  unfold ofMonthDay?
  rw [hlength]
  simp [hyear, hmonth, hfirst, hlast]

/-- Month and day come back from the day of the year. -/
theorem monthDay_ofMonthDay (hmonth : 1 ≤ month)
    (hlength : (monthLengths year)[month - 1]? = some length)
    (hfirst : 1 ≤ day) (hlast : day ≤ length) :
    monthDay ⟨year, daysBeforeMonth year month + day⟩ = (month, day) := by
  unfold monthDay
  rw [daysBeforeMonth_eq, monthDayAlong_daysOf 1 hlength hfirst hlast]
  congr 1
  omega

theorem ordinal_le (hlength : (monthLengths year)[month - 1]? = some length)
    (hlast : day ≤ length) :
    daysBeforeMonth year month + day ≤ daysInYear year := by
  have hsum := daysOf_take_le hlength
  rw [← daysOf_monthLengths, daysBeforeMonth_eq]
  omega

end

end Date

end Logline.Calendar
