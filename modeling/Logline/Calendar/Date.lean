/-
Dates of the proleptic Gregorian calendar, and the ways of counting that dates are written in:
day of the month, day of the year, weeks of the year from a Sunday or a Monday, and ISO weeks.

Day numbers count from the first day of the year 1, which has the number 1 and is a Monday. The
day before it is the last of the year 0, so years before that are numbered 0, -1 and so on.
-/
namespace Logline.Calendar

-- ============================================================ years

/-- Years with a 29th of February. -/
def isLeap (year : Int) : Bool := year % 4 = 0 && (year % 100 ≠ 0 || year % 400 = 0)

def daysInYear (year : Int) : Nat := if isLeap year then 366 else 365

/-- The lengths of the months, January first. -/
def monthLengths (year : Int) : List Nat :=
  [31, if isLeap year then 29 else 28, 31, 30, 31, 30, 31, 31, 30, 31, 30, 31]

/-- The days of all years before this one, counted from the year 1. -/
def daysBeforeYear (year : Int) : Int :=
  let y := year - 1
  365 * y + Int.fdiv y 4 - Int.fdiv y 100 + Int.fdiv y 400

/-- The years that dates may have. -/
def yearInRange (year : Int) : Bool := -262143 ≤ year && year ≤ 262142

-- ============================================================ dates

/-- A date, by its year and the number of its day in the year, from 1. -/
structure Date where
  year : Int
  ordinal : Nat
  deriving DecidableEq, Repr

namespace Date

/-- The days of the months before the given one. -/
def daysBeforeMonth (year : Int) (month : Nat) : Nat :=
  ((monthLengths year).take (month - 1)).foldl (· + ·) 0

/-- The date at a day of the year, if there is one. -/
def ofOrdinal? (year : Int) (ordinal : Nat) : Option Date :=
  if yearInRange year && 1 ≤ ordinal && ordinal ≤ daysInYear year then some ⟨year, ordinal⟩
  else none

/-- The date at a day of a month, if there is one. -/
def ofMonthDay? (year : Int) (month day : Nat) : Option Date :=
  match (monthLengths year)[month - 1]? with
  | some length =>
    if yearInRange year && 1 ≤ month && 1 ≤ day && day ≤ length then
      some ⟨year, daysBeforeMonth year month + day⟩
    else none
  | none => none

/-- Splits a day of the year into month and day of the month, along the lengths of the months. -/
def monthDayAlong (month ordinal : Nat) : List Nat → Nat × Nat
  | [] => (month, ordinal)
  | length :: rest =>
    if ordinal ≤ length then (month, ordinal) else monthDayAlong (month + 1) (ordinal - length) rest

/-- The month and the day of the month, both from 1. -/
def monthDay (date : Date) : Nat × Nat := monthDayAlong 1 date.ordinal (monthLengths date.year)

def month (date : Date) : Nat := date.monthDay.1

def day (date : Date) : Nat := date.monthDay.2

/-- Quarters of the year, from 1. -/
def quarter (date : Date) : Nat := (date.month - 1) / 3 + 1

-- ====================================================== day numbers

/-- The number of the day, counted from the year 1. -/
def dayNumber (date : Date) : Int := daysBeforeYear date.year + date.ordinal

/-- The date with a day number. Cycles of 400 years have one length; within a cycle the last
century and within a group of four years the last year are the longer ones. -/
def ofDayNumber (number : Int) : Date :=
  let days := number - 1
  let cycle := Int.fdiv days 146097
  let inCycle := Int.toNat (days - cycle * 146097)
  let century := min (inCycle / 36524) 3
  let inCentury := inCycle - century * 36524
  let group := inCentury / 1461
  let inGroup := inCentury - group * 1461
  let year := min (inGroup / 365) 3
  let inYear := inGroup - year * 365
  ⟨cycle * 400 + (century * 100 + group * 4 + year : Nat) + 1, inYear + 1⟩

-- ========================================================= weekdays

/-- The day of the week: 0 is Monday, 6 is Sunday. -/
def weekday (date : Date) : Nat := Int.toNat ((date.dayNumber - 1) % 7)

/-- How many days a weekday lies after another. -/
def daysSince (weekday first : Nat) : Nat := (weekday + 7 - first) % 7

/-- The week of the year, where weeks begin on `first` and days before the first such day are in
week 0. -/
def weekFrom (date : Date) (first : Nat) : Nat :=
  (date.ordinal + 6 - daysSince date.weekday first) / 7

/-- The ISO weeks of a year: 53 where it begins on a Thursday, or on a Wednesday before a leap
day. -/
def isoWeeks (year : Int) : Nat :=
  let first := weekday ⟨year, 1⟩
  if first = 3 || (first = 2 && isLeap year) then 53 else 52

/-- The ISO year and week: a week belongs to the year that holds its Thursday. -/
def isoWeek (date : Date) : Int × Nat :=
  let week := (date.ordinal + 9 - date.weekday) / 7
  if week = 0 then (date.year - 1, isoWeeks (date.year - 1))
  else if isoWeeks date.year < week then (date.year + 1, 1)
  else (date.year, week)

/-- The date of a weekday in an ISO week, if the year has that week. -/
def ofIsoWeek? (year : Int) (week weekday : Nat) : Option Date :=
  if week = 0 || isoWeeks year < week then none
  else
    let first : Date := ⟨year, 1⟩
    -- The Monday of week 1 is the one nearest to the first of January.
    let monday := first.dayNumber - (if first.weekday ≤ 3 then (first.weekday : Int)
      else (first.weekday : Int) - 7)
    let date := ofDayNumber (monday + 7 * (week - 1 : Nat) + weekday)
    if yearInRange date.year then some date else none

end Date

end Logline.Calendar
