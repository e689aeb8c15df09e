/-
Time formats. A format is a text in which a percent sign introduces a field; other text stands
for itself, and a stretch of white space stands for any white space, also for none. Reading a
format gives its items in order. A field that no format has becomes the item `bad`, which ends
the list: what comes before it still has to match before it is found out.
-/
import Logline.Text.Blank

namespace Logline.Calendar

open Text

/-- Fields that are written as numbers. -/
inductive NumberField where
  | year
  | century
  | yearOfCentury
  | isoYear
  | isoYearOfCentury
  | quarter
  | month
  | day
  | weekFromSunday
  | weekFromMonday
  | isoWeek
  | daysFromSunday
  | daysFromMonday
  | ordinal
  | hour
  | hourOfHalf
  | minute
  | second
  | nanosecond
  | timestamp
  deriving DecidableEq, Repr

/-- One item of a format. -/
inductive Item where
  | literal (text : List Char)
  | space
  | number (field : NumberField)
  | monthName (long : Bool)
  | weekdayName (long : Bool)
  /-- The half of the day: am or pm. -/
  | half
  /-- A point and any number of digits, if a point is there. -/
  | fraction
  /-- Digits of a fraction without a point, in exactly this number. -/
  | bareFraction (digits : Nat)
  /-- A name of a zone, which says nothing about the offset. -/
  | zoneName
  /-- An offset from UTC. A permissive one may be the letter for UTC or lack its minutes. -/
  | offset (permissive : Bool)
  /-- The whole of RFC 3339. -/
  | rfc3339
  | bad
  deriving DecidableEq, Repr

namespace Item

def literalText (s : String) : Item := .literal s.toList

/-- Month, day and year of the century, with strokes. -/
def shortDate : List Item :=
  [.number .month, literalText "/", .number .day, literalText "/", .number .yearOfCentury]

def clockTime : List Item :=
  [.number .hour, literalText ":", .number .minute, literalText ":", .number .second]

/-- The items of a letter after the percent sign. -/
def ofLetter : Char → List Item
  | 'A' => [.weekdayName true]
  | 'B' => [.monthName true]
  | 'C' => [.number .century]
  | 'D' => shortDate
  | 'F' => [.number .year, literalText "-", .number .month, literalText "-", .number .day]
  | 'G' => [.number .isoYear]
  | 'H' => [.number .hour]
  | 'I' => [.number .hourOfHalf]
  | 'M' => [.number .minute]
  | 'P' => [.half]
  | 'R' => [.number .hour, literalText ":", .number .minute]
  | 'S' => [.number .second]
  | 'T' => clockTime
  | 'U' => [.number .weekFromSunday]
  | 'V' => [.number .isoWeek]
  | 'W' => [.number .weekFromMonday]
  | 'X' => clockTime
  | 'Y' => [.number .year]
  | 'Z' => [.zoneName]
  | 'a' => [.weekdayName false]
  | 'b' => [.monthName false]
  | 'c' =>
    [.weekdayName false, .space, .monthName false, .space, .number .day, .space] ++ clockTime ++
      [.space, .number .year]
  | 'd' => [.number .day]
  | 'e' => [.number .day]
  | 'f' => [.number .nanosecond]
  | 'g' => [.number .isoYearOfCentury]
  | 'h' => [.monthName false]
  | 'j' => [.number .ordinal]
  | 'k' => [.number .hour]
  | 'l' => [.number .hourOfHalf]
  | 'm' => [.number .month]
  | 'n' => [.space]
  | 'p' => [.half]
  | 'q' => [.number .quarter]
  | 'r' =>
    [.number .hourOfHalf, literalText ":", .number .minute, literalText ":", .number .second,
      .space, .half]
  | 's' => [.number .timestamp]
  | 't' => [.space]
  | 'u' => [.number .daysFromMonday]
  | 'v' =>
    [.number .day, literalText "-", .monthName false, literalText "-", .number .year]
  | 'w' => [.number .daysFromSunday]
  | 'x' => shortDate
  | 'y' => [.number .yearOfCentury]
  | 'z' => [.offset false]
  | '+' => [.rfc3339]
  | '%' => [.literal ['%']]
  | _ => [.bad]

/-- The items of a field and what follows it; the percent sign has been read. Between the sign
and the letter there may stand a padding mark, which only a single number takes, or the mark of
the permissive offset. -/
def readField : List Char → List Item × List Char
  | '-' :: rest => padded rest
  | '0' :: rest => padded rest
  | '_' :: rest => padded rest
  | '#' :: 'z' :: rest => ([.offset true], rest)
  | '#' :: _ => ([.bad], [])
  | ':' :: 'z' :: rest => ([.offset false], rest)
  | ':' :: ':' :: 'z' :: rest => ([.offset false], rest)
  | ':' :: ':' :: ':' :: 'z' :: rest => ([.offset false], rest)
  | '.' :: 'f' :: rest => ([.fraction], rest)
  | '.' :: '3' :: 'f' :: rest => ([.fraction], rest)
  | '.' :: '6' :: 'f' :: rest => ([.fraction], rest)
  | '.' :: '9' :: 'f' :: rest => ([.fraction], rest)
  | '3' :: 'f' :: rest => ([.bareFraction 3], rest)
  | '6' :: 'f' :: rest => ([.bareFraction 6], rest)
  | '9' :: 'f' :: rest => ([.bareFraction 9], rest)
  | letter :: rest => (ofLetter letter, rest)
  | [] => ([.bad], [])
where
  /-- The letter after a padding mark. -/
  padded : List Char → List Item × List Char
    | letter :: rest =>
      match ofLetter letter with
      | [.number field] => ([.number field], rest)
      | _ => ([.bad], [])
    | [] => ([.bad], [])

/-- Whether a character belongs to a literal. -/
def isLiteral (c : Char) : Bool := c != '%' && !isBlank c

/-- The items at the start of a format and what follows them. -/
def readItems : List Char → List Item × List Char
  | [] => ([], [])
  | '%' :: rest => readField rest
  | c :: rest =>
    if isBlank c then ([.space], rest.dropWhile isBlank)
    else ([.literal (c :: rest.takeWhile isLiteral)], rest.dropWhile isLiteral)

/-- The items of a format, given as many turns as it has characters. -/
def readAll : Nat → List Char → List Item
  | _, [] => []
  | 0, _ => []
  | turns + 1, cs =>
    let (items, rest) := readItems cs
    items ++ if items.contains .bad then [] else readAll turns rest

/-- The items of a format. -/
def ofFormat (format : String) : List Item := readAll format.toList.length format.toList

end Item

end Logline.Calendar
