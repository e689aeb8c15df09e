/-
What the parts of a time text say, and the instant that they amount to.

Each part that is read fills a field. A field that is filled twice has to get the same value both
times. When the text has been read, the date and the time of day are put together from a set of
fields that determines them, and every other field has to agree with the result. The ways to find
a date are tried in a fixed order: year, month and day; year and day of the year; year, week and
weekday; ISO year, week and weekday. A timestamp stands in for whatever is missing.
-/
import Logline.Calendar.Instant
import Logline.Calendar.Format

namespace Logline.Calendar

/-- Why a time text was refused. -/
inductive TimeError where
  | outOfRange
  | impossible
  | notEnough
  | invalid
  | tooShort
  | tooLong
  | badFormat
  deriving DecidableEq, Repr

namespace TimeError

def message : TimeError → String
  | outOfRange => "input is out of range"
  | impossible => "no possible date and time matching input"
  | notEnough => "input is not enough for unique date and time"
  | invalid => "input contains invalid characters"
  | tooShort => "premature end of input"
  | tooLong => "trailing input"
  | badFormat => "bad or unsupported format string"

end TimeError

-- =========================================================== fields

/-- The fields of a time text that have been filled so far. The hour is kept as the half of the
day and the hour within it, since a text may give the two apart. -/
structure Fields where
  year : Option Int
  century : Option Int
  yearOfCentury : Option Int
  isoYear : Option Int
  isoYearOfCentury : Option Int
  quarter : Option Nat
  month : Option Nat
  day : Option Nat
  weekFromSunday : Option Nat
  weekFromMonday : Option Nat
  isoWeek : Option Nat
  weekday : Option Nat
  ordinal : Option Nat
  half : Option Nat
  hourOfHalf : Option Nat
  minute : Option Nat
  second : Option Nat
  nanosecond : Option Nat
  timestamp : Option Int
  offset : Option Int
  deriving DecidableEq, Repr

namespace Fields

def empty : Fields :=
  ⟨none, none, none, none, none, none, none, none, none, none, none, none, none, none, none, none,
    none, none, none, none⟩

/-- Fills a field, or checks that it says the same. -/
def agree {α : Type} [DecidableEq α] (old : Option α) (new : α) : Except TimeError (Option α) :=
  match old with
  | none => .ok (some new)
  | some v => if v = new then .ok old else .error .impossible

/-- Fills a field with a number between two bounds. -/
def agreeWithin (low high : Int) (old : Option Nat) (new : Int) :
    Except TimeError (Option Nat) :=
  if low ≤ new ∧ new ≤ high then agree old new.toNat else .error .outOfRange

/-- Fills the field of a year with a number that fits 32 bits. -/
def agreeYear (old : Option Int) (new : Int) : Except TimeError (Option Int) :=
  if -2147483648 ≤ new ∧ new ≤ 2147483647 then agree old new else .error .outOfRange

def setHalf (f : Fields) (half : Nat) : Except TimeError Fields := do
  let v ← agree f.half half
  return { f with half := v }

def setHour (f : Fields) (hour : Int) : Except TimeError Fields := do
  if 0 ≤ hour ∧ hour ≤ 23 then
    let half ← agree f.half (hour.toNat / 12)
    let hourOfHalf ← agree f.hourOfHalf (hour.toNat % 12)
    return { f with half := half, hourOfHalf := hourOfHalf }
  else throw .outOfRange

def setMonth (f : Fields) (month : Int) : Except TimeError Fields := do
  let v ← agreeWithin 1 12 f.month month
  return { f with month := v }

def setWeekday (f : Fields) (weekday : Nat) : Except TimeError Fields := do
  let v ← agree f.weekday weekday
  return { f with weekday := v }

def setNanosecond (f : Fields) (nano : Int) : Except TimeError Fields := do
  let v ← agreeWithin 0 999999999 f.nanosecond nano
  return { f with nanosecond := v }

def setOffset (f : Fields) (offset : Int) : Except TimeError Fields := do
  let v ← agree f.offset offset
  return { f with offset := v }

/-- Fills the field of a number. -/
def setNumber (f : Fields) (field : NumberField) (n : Int) : Except TimeError Fields := do
  match field with
  | .year => let v ← agreeYear f.year n; return { f with year := v }
  | .century =>
    if 0 ≤ n ∧ n ≤ 2147483647 then
      let v ← agree f.century n
      return { f with century := v }
    else throw .outOfRange
  | .yearOfCentury =>
    if 0 ≤ n ∧ n ≤ 99 then
      let v ← agree f.yearOfCentury n
      return { f with yearOfCentury := v }
    else throw .outOfRange
  | .isoYear => let v ← agreeYear f.isoYear n; return { f with isoYear := v }
  | .isoYearOfCentury =>
    if 0 ≤ n ∧ n ≤ 99 then
      let v ← agree f.isoYearOfCentury n
      return { f with isoYearOfCentury := v }
    else throw .outOfRange
  | .quarter => let v ← agreeWithin 1 4 f.quarter n; return { f with quarter := v }
  | .month => f.setMonth n
  | .day => let v ← agreeWithin 1 31 f.day n; return { f with day := v }
  | .weekFromSunday =>
    let v ← agreeWithin 0 53 f.weekFromSunday n
    return { f with weekFromSunday := v }
  | .weekFromMonday =>
    let v ← agreeWithin 0 53 f.weekFromMonday n
    return { f with weekFromMonday := v }
  | .isoWeek => let v ← agreeWithin 1 53 f.isoWeek n; return { f with isoWeek := v }
  | .daysFromSunday =>
    if 0 ≤ n ∧ n ≤ 6 then f.setWeekday ((n.toNat + 6) % 7) else throw .outOfRange
  | .daysFromMonday =>
    if 1 ≤ n ∧ n ≤ 7 then f.setWeekday (n.toNat - 1) else throw .outOfRange
  | .ordinal => let v ← agreeWithin 1 366 f.ordinal n; return { f with ordinal := v }
  | .hour => f.setHour n
  | .hourOfHalf =>
    if 1 ≤ n ∧ n ≤ 12 then
      let v ← agree f.hourOfHalf (n.toNat % 12)
      return { f with hourOfHalf := v }
    else throw .outOfRange
  | .minute => let v ← agreeWithin 0 59 f.minute n; return { f with minute := v }
  | .second => let v ← agreeWithin 0 60 f.second n; return { f with second := v }
  | .nanosecond => f.setNanosecond n
  | .timestamp => let v ← agree f.timestamp n; return { f with timestamp := v }

-- ============================================================= date

/-- The year that a full year, a century and a year of the century determine. Century and year of
the century speak of years from 0 on only; a year of the century alone lies between 1970 and
2069. -/
def resolveYear (year century ofCentury : Option Int) : Except TimeError (Option Int) :=
  match year, century, ofCentury with
  | y, none, none => .ok y
  | some y, q, r =>
    if y < 0 then .error .impossible
    else if q.getD (y / 100) = y / 100 ∧ r.getD (y % 100) = y % 100 then .ok (some y)
    else .error .impossible
  | none, some q, some r =>
    if 2147483647 < q * 100 + r then .error .outOfRange else .ok (some (q * 100 + r))
  | none, none, some r => .ok (some (r + if r < 70 then 2000 else 1900))
  | none, some _, none => .error .notEnough

/-- Whether a field says the given value, or nothing. -/
def fits {α : Type} [DecidableEq α] (field : Option α) (value : α) : Bool :=
  match field with
  | none => true
  | some v => v = value

/-- Whether century and year of the century, where they are filled, belong to a year. -/
def fitsCentury (century ofCentury : Option Int) (year : Int) : Bool :=
  if 0 ≤ year then fits century (year / 100) && fits ofCentury (year % 100)
  else century.isNone && ofCentury.isNone

def agreesWithMonthDay (f : Fields) (date : Date) : Bool :=
  fits f.year date.year && fitsCentury f.century f.yearOfCentury date.year &&
    fits f.month date.month && fits f.day date.day

def agreesWithIsoWeek (f : Fields) (date : Date) : Bool :=
  let (year, week) := date.isoWeek
  fits f.isoYear year && fitsCentury none f.isoYearOfCentury year && fits f.isoWeek week &&
    fits f.weekday date.weekday

def agreesWithOrdinal (f : Fields) (date : Date) : Bool :=
  fits f.ordinal date.ordinal && fits f.weekFromSunday (date.weekFrom 6) &&
    fits f.weekFromMonday (date.weekFrom 0)

/-- The date of a weekday in a week of the year, where weeks begin on `first`. -/
def ofWeek (year : Int) (week weekday first : Nat) : Except TimeError Date :=
  if 53 < week then .error .outOfRange
  else
    match Date.ofOrdinal? year 1 with
    | none => .error .outOfRange
    | some newYear =>
      let weekOne := 1 + Date.daysSince first newYear.weekday
      let ordinal := weekOne + 7 * week + Date.daysSince weekday first
      -- Counted from a week early, so that it is a natural number; a day of the year is above 7.
      if ordinal ≤ 7 then .error .impossible
      else
        match Date.ofOrdinal? year (ordinal - 7) with
        | none => .error .impossible
        | some date => .ok date

/-- A date that may not exist. -/
def orOutOfRange (date : Option Date) : Except TimeError Date :=
  match date with
  | some d => .ok d
  | none => .error .outOfRange

/-- The date by the first way to it that is filled, and whether the fields of the other ways
agree with it. -/
def findDate (f : Fields) (year isoYear : Option Int) : Except TimeError (Date × Bool) :=
  match year, f.month, f.day with
  | some y, some m, some d => do
    let date ← orOutOfRange (Date.ofMonthDay? y m d)
    return (date, f.agreesWithIsoWeek date && f.agreesWithOrdinal date)
  | _, _, _ =>
    match year, f.ordinal with
    | some y, some o => do
      let date ← orOutOfRange (Date.ofOrdinal? y o)
      return (date, f.agreesWithMonthDay date && f.agreesWithIsoWeek date &&
        f.agreesWithOrdinal date)
    | _, _ =>
      match year, f.weekFromSunday, f.weekFromMonday, f.weekday with
      | some y, some w, _, some d => do
        let date ← ofWeek y w d 6
        return (date, f.agreesWithMonthDay date && f.agreesWithIsoWeek date &&
          f.agreesWithOrdinal date)
      | some y, none, some w, some d => do
        let date ← ofWeek y w d 0
        return (date, f.agreesWithMonthDay date && f.agreesWithIsoWeek date &&
          f.agreesWithOrdinal date)
      | _, _, _, _ =>
        match isoYear, f.isoWeek, f.weekday with
        | some y, some w, some d => do
          let date ← orOutOfRange (Date.ofIsoWeek? y w d)
          return (date, f.agreesWithMonthDay date && f.agreesWithOrdinal date)
        | _, _, _ => throw .notEnough

/-- The date that the fields determine. -/
def date (f : Fields) : Except TimeError Date := do
  let year ← resolveYear f.year f.century f.yearOfCentury
  let isoYear ← resolveYear f.isoYear none f.isoYearOfCentury
  let (date, agrees) ← f.findDate year isoYear
  if agrees && fits f.quarter date.quarter then return date else throw .impossible

-- ====================================================== time of day

/-- A time of day: the second of the day, and nanoseconds as in an instant. -/
structure TimeOfDay where
  second : Nat
  nano : Nat
  deriving DecidableEq, Repr

/-- The time of day that the fields determine. Seconds may be missing, and then there can be no
fraction either. The sixtieth second is the leap second after the fifty-ninth. -/
def timeOfDay (f : Fields) : Except TimeError TimeOfDay :=
  match f.half, f.hourOfHalf, f.minute with
  | some half, some hour, some minute =>
    let start := (half * 12 + hour) * 3600 + minute * 60
    match f.second, f.nanosecond with
    | none, none => .ok ⟨start, 0⟩
    | none, some _ => .error .notEnough
    | some s, nano =>
      if s = 60 then .ok ⟨start + 59, 1000000000 + nano.getD 0⟩
      else .ok ⟨start + s, nano.getD 0⟩
  | _, _, _ => .error .notEnough

-- ========================================================== instant

/-- The date and time of day that a timestamp stands for, at an offset. -/
def localOfTimestamp (timestamp offset : Int) : Except TimeError Instant :=
  let seconds := timestamp + offset
  if seconds < -9223372036854775808 ∨ 9223372036854775807 < seconds then .error .outOfRange
  else
    let t : Instant := ⟨seconds, 0⟩
    if yearInRange t.date.year then .ok t else .error .outOfRange

/-- Fills what is missing from a timestamp, and reads date and time of day again. -/
def fromTimestamp (f : Fields) (timestamp offset : Int) : Except TimeError Instant := do
  let t ← localOfTimestamp timestamp offset
  let (t, f) ←
    if f.second = some 60 then
      -- A leap second counts with the second before it or with the one after it.
      if t.secondOfDay % 60 = 59 then pure (t, f)
      else if t.secondOfDay % 60 = 0 then pure (Instant.mk (t.second - 1) 0, f)
      else throw .impossible
    else do
      let f ← f.setNumber .second (t.secondOfDay % 60 : Nat)
      pure (t, f)
  let f ← f.setNumber .year t.date.year
  let f ← f.setNumber .ordinal t.date.ordinal
  let f ← f.setHour (t.secondOfDay / 3600 : Nat)
  let f ← f.setNumber .minute (t.secondOfDay / 60 % 60 : Nat)
  let date ← f.date
  let time ← f.timeOfDay
  return Instant.ofDaySecond date.dayNumber time.second time.nano

/-- The date and time of day that the fields determine, as if they were in UTC. A timestamp has
to agree with them at the offset; one that is given beside a leap second may count with the
second after it. -/
def localInstant (f : Fields) (offset : Int) : Except TimeError Instant :=
  match f.date, f.timeOfDay with
  | .ok date, .ok time =>
    let t := Instant.ofDaySecond date.dayNumber time.second time.nano
    match f.timestamp with
    | none => .ok t
    | some given =>
      let expected := t.second - offset
      if given = expected ∨ (1000000000 ≤ t.nano ∧ given = expected + 1) then .ok t
      else .error .impossible
  | date, time =>
    match f.timestamp with
    | some given =>
      let failed (e : TimeError) : Bool :=
        (match date with | .error d => d = e | .ok _ => false) ||
          (match time with | .error t => t = e | .ok _ => false)
      if failed .outOfRange then .error .outOfRange
      else if failed .impossible then .error .impossible
      else f.fromTimestamp given offset
    | none =>
      match date with
      | .error e => .error e
      | .ok _ =>
        match time with
        | .error e => .error e
        | .ok _ => .error .notEnough

/-- The instant that the fields determine with the offset they give. A timestamp alone needs
none. -/
def instant (f : Fields) : Except TimeError Instant := do
  let offset ← match f.offset, f.timestamp with
    | some offset, _ => pure offset
    | none, some _ => pure 0
    | none, none => throw .notEnough
  let t ← f.localInstant offset
  if offset ≤ -86400 ∨ 86400 ≤ offset then throw .outOfRange
  let shifted : Instant := ⟨t.second - offset, t.nano⟩
  if yearInRange shifted.date.year then return shifted else throw .impossible

end Fields

end Logline.Calendar
