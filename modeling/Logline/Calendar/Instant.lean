/-
Points in time, in UTC. An instant is a count of seconds with a fraction; days all have 86400
seconds, and a leap second is a fraction that runs past the end of the second before it. So two
instants are equal exactly when they are written alike.
-/
import Logline.Calendar.Date

namespace Logline.Calendar

/-- A point in time: seconds since the start of 1970, and nanoseconds after that second. From
10⁹ nanoseconds on, the instant lies in the leap second that follows it. -/
structure Instant where
  second : Int
  nano : Nat
  deriving DecidableEq, Repr

namespace Instant

/-- The number of the first day of 1970. -/
def epochDay : Int := 719163

/-- The instant at a second of a day. -/
def ofDaySecond (dayNumber : Int) (secondOfDay : Int) (nano : Nat) : Instant :=
  ⟨(dayNumber - epochDay) * 86400 + secondOfDay, nano⟩

def dayNumber (t : Instant) : Int := Int.fdiv t.second 86400 + epochDay

def secondOfDay (t : Instant) : Nat := Int.toNat (t.second % 86400)

def date (t : Instant) : Date := Date.ofDayNumber t.dayNumber

-- ========================================================== printing

/-- A number with zeros before it, up to a width. -/
def padded (width n : Nat) : String :=
  let digits := Nat.toDigits 10 n
  String.ofList (List.replicate (width - digits.length) '0' ++ digits)

/-- Four digits; a year outside 0000 to 9999 has a sign and as many digits as it takes. -/
def yearText (year : Int) : String :=
  if 0 ≤ year ∧ year ≤ 9999 then padded 4 year.toNat
  else (if year < 0 then "-" else "+") ++ padded 4 year.natAbs

/-- The fraction of the second: none, or the fewest of 3, 6 and 9 digits that are exact. -/
def fractionText (nano : Nat) : String :=
  if nano = 0 then ""
  else if nano % 1000000 = 0 then "." ++ padded 3 (nano / 1000000)
  else if nano % 1000 = 0 then "." ++ padded 6 (nano / 1000)
  else "." ++ padded 9 nano

/-- Date and time of day; a leap second is written as the sixtieth. -/
def dateTimeText (t : Instant) : String :=
  let date := t.date
  let s := t.secondOfDay
  yearText date.year ++ "-" ++ padded 2 date.month ++ "-" ++ padded 2 date.day ++ "T" ++
    padded 2 (s / 3600) ++ ":" ++ padded 2 (s / 60 % 60) ++ ":" ++
    padded 2 (s % 60 + t.nano / 1000000000) ++ fractionText (t.nano % 1000000000)

/-- The RFC 3339 form with a numeric offset, as values are displayed. -/
def offsetText (t : Instant) : String := t.dateTimeText ++ "+00:00"

/-- The RFC 3339 form with the letter for UTC, as records are written. -/
def zuluText (t : Instant) : String := t.dateTimeText ++ "Z"

end Instant

end Logline.Calendar
