/-
Reading a time text along a format.

The items of the format are matched one after the other against the start of what is left of the
text, and fill the fields. Numbers may have white space before them and fewer digits than their
width; signs belong to years only. When a text is too short is counted in UTF-8 bytes, so that it
can be told before the characters are looked at.
-/
import Logline.Calendar.Fields

namespace Logline.Calendar

open Text

namespace Reading

/-- How many bytes a text takes in UTF-8. -/
def byteLength : List Char → Nat
  | [] => 0
  | c :: rest => c.utf8Size + byteLength rest

/-- The number that a list of digits writes. -/
def numberOf (digits : List Char) : Nat :=
  digits.foldl (fun n c => n * 10 + (c.toNat - '0'.toNat)) 0

/-- Reads a number of at least `least` digits, and at most `most` where that is given. -/
def number (least : Nat) (most : Option Nat) (cs : List Char) :
    Except TimeError (Nat × List Char) :=
  if byteLength cs < least then .error .tooShort
  else
    let window := match most with
      | some n => cs.take n
      | none => cs
    let digits := window.takeWhile Char.isDigit
    if digits.length < least then .error .invalid
    else if 9223372036854775807 < numberOf digits then .error .outOfRange
    else .ok (numberOf digits, cs.drop digits.length)

/-- The digits after the point as nanoseconds. Digits after the ninth are skipped. -/
def fraction (cs : List Char) : Except TimeError (Nat × List Char) := do
  let (n, rest) ← number 1 (some 9) cs
  let read := cs.length - rest.length
  return (n * Nat.pow 10 (9 - read), rest.dropWhile Char.isDigit)

/-- A fixed number of digits after a point that is not written. -/
def bareFraction (digits : Nat) (cs : List Char) : Except TimeError (Nat × List Char) := do
  let (n, rest) ← number digits (some digits) cs
  return (n * Nat.pow 10 (9 - digits), rest)

/-- Width and sign of a number field. -/
def width : NumberField → Option Nat
  | .year | .isoYear => some 4
  | .quarter | .daysFromSunday | .daysFromMonday => some 1
  | .ordinal => some 3
  | .nanosecond => some 9
  | .timestamp => none
  | _ => some 2

def hasSign : NumberField → Bool
  | .year | .isoYear => true
  | _ => false

/-- A number field. A number with a sign may have any number of digits. -/
def signedNumber (field : NumberField) (cs : List Char) : Except TimeError (Int × List Char) :=
  match hasSign field, dropBlanks cs with
  | true, '-' :: rest => do
    let (n, rest) ← number 1 none rest
    return (-(n : Int), rest)
  | true, '+' :: rest => do
    let (n, rest) ← number 1 none rest
    return (n, rest)
  | _, rest => do
    let (n, rest) ← number 1 (width field) rest
    return (n, rest)

-- ============================================================ names

/-- The months: the first three letters, and the rest of the name. -/
def monthNames : List (String × String) :=
  [("jan", "uary"), ("feb", "ruary"), ("mar", "ch"), ("apr", "il"), ("may", ""), ("jun", "e"),
    ("jul", "y"), ("aug", "ust"), ("sep", "tember"), ("oct", "ober"), ("nov", "ember"),
    ("dec", "ember")]

/-- The days of the week, from Monday. -/
def weekdayNames : List (String × String) :=
  [("mon", "day"), ("tue", "sday"), ("wed", "nesday"), ("thu", "rsday"), ("fri", "day"),
    ("sat", "urday"), ("sun", "day")]

/-- The place of the name that starts with the given letters, and its rest. -/
def nameAt (letters : List Char) : Nat → List (String × String) → Option (Nat × List Char)
  | _, [] => none
  | place, (start, rest) :: names =>
    if start.toList = letters then some (place, rest.toList) else nameAt letters (place + 1) names

/-- Reads a name by its first three letters, in either case. A long name may go on with the rest
of it. -/
def name (names : List (String × String)) (long : Bool) (cs : List Char) :
    Except TimeError (Nat × List Char) :=
  if byteLength cs < 3 then .error .tooShort
  else
    match nameAt ((cs.take 3).map Char.toLower) 0 names with
    | none => .error .invalid
    | some (place, ending) =>
      let rest := cs.drop 3
      if long && (rest.take ending.length).map Char.toLower = ending then
        .ok (place, rest.drop ending.length)
      else .ok (place, rest)

/-- Reads the half of the day: 0 before noon, 1 after. -/
def half (cs : List Char) : Except TimeError (Nat × List Char) :=
  if byteLength cs < 2 then .error .tooShort
  else
    match (cs.take 2).map Char.toLower with
    | ['a', 'm'] => .ok (0, cs.drop 2)
    | ['p', 'm'] => .ok (1, cs.drop 2)
    | _ => .error .invalid

-- =========================================================== offset

/-- Two digits as a number, if the text has two bytes. -/
def twoDigits (cs : List Char) : Except TimeError (Nat × List Char) :=
  if byteLength cs < 2 then .error .tooShort
  else
    match cs with
    | a :: b :: rest =>
      if a.isDigit && b.isDigit then .ok (numberOf [a, b], rest) else .error .invalid
    | _ => .error .invalid

/-- The sign of an offset; the minus may be the typographic one. -/
def offsetSign : List Char → Except TimeError (Bool × List Char)
  | [] => .error .tooShort
  | c :: rest =>
    if c = '+' then .ok (false, rest)
    else if c = '-' ∨ c.toNat = 0x2212 then .ok (true, rest)
    else .error .invalid

/-- The minutes of an offset. -/
def offsetMinutes (cs : List Char) (mayLack : Bool) : Except TimeError (Nat × List Char) :=
  if byteLength cs < 2 then
    if mayLack && cs.isEmpty then .ok (0, cs) else .error .tooShort
  else do
    let (n, rest) ← twoDigits cs
    if 60 ≤ n then throw .outOfRange
    return (n, rest)

/-- Reads an offset in seconds: sign, hours, colons or white space, minutes. -/
def offset (zulu mayLackMinutes : Bool) (cs : List Char) : Except TimeError (Int × List Char) :=
  match zulu, cs with
  | true, 'Z' :: rest => .ok (0, rest)
  | true, 'z' :: rest => .ok (0, rest)
  | _, cs => do
    let (negative, rest) ← offsetSign cs
    let (hours, rest) ← twoDigits rest
    let (minutes, rest) ← offsetMinutes (rest.dropWhile fun c => c = ':' || isBlank c)
      mayLackMinutes
    let seconds : Int := (hours * 3600 + minutes * 60 : Nat)
    return (if negative then -seconds else seconds, rest)

-- ============================================================ items

/-- Reads a literal. -/
def literal (text cs : List Char) : Except TimeError (List Char) :=
  if byteLength cs < byteLength text then .error .tooShort
  else if text.isPrefixOf cs then .ok (cs.drop text.length)
  else .error .invalid

/-- Reads one item other than the whole of RFC 3339. -/
def plainItem (item : Item) (f : Fields) (cs : List Char) :
    Except TimeError (Fields × List Char) :=
  match item with
  | .literal text => do
    let rest ← literal text cs
    return (f, rest)
  | .space => .ok (f, dropBlanks cs)
  | .number field => do
    let (n, rest) ← signedNumber field cs
    let f ← f.setNumber field n
    return (f, rest)
  | .monthName long => do
    let (place, rest) ← name monthNames long cs
    let f ← f.setMonth (place + 1 : Nat)
    return (f, rest)
  | .weekdayName long => do
    let (place, rest) ← name weekdayNames long cs
    let f ← f.setWeekday place
    return (f, rest)
  | .half => do
    let (h, rest) ← half cs
    let f ← f.setHalf h
    return (f, rest)
  | .fraction =>
    match cs with
    | '.' :: rest => do
      let (nano, rest) ← fraction rest
      let f ← f.setNanosecond nano
      return (f, rest)
    | _ => .ok (f, cs)
  | .bareFraction digits => do
    let (nano, rest) ← bareFraction digits cs
    let f ← f.setNanosecond nano
    return (f, rest)
  | .zoneName => .ok (f, cs.dropWhile fun c => !isBlank c)
  | .offset permissive => do
    let (seconds, rest) ← offset permissive permissive (dropBlanks cs)
    let f ← f.setOffset seconds
    return (f, rest)
  | .rfc3339 | .bad => .error .badFormat

/-- Reads items in order. -/
def plainItems : List Item → Fields → List Char → Except TimeError (Fields × List Char)
  | [], f, cs => .ok (f, cs)
  | item :: items, f, cs => do
    let (f, rest) ← plainItem item f cs
    plainItems items f rest

/-- The date of RFC 3339, with white space allowed between its parts. -/
def rfc3339Date : List Item :=
  [.number .year, .space, Item.literalText "-", .number .month, .space, Item.literalText "-",
    .number .day]

/-- The time of day of RFC 3339, with white space allowed between its parts. -/
def rfc3339Time : List Item :=
  [.number .hour, .space, Item.literalText ":", .number .minute, .space, Item.literalText ":",
    .number .second, .fraction, .space]

/-- The letter or the blank between date and time of day. -/
def rfc3339Separator : List Char → Except TimeError (List Char)
  | [] => .error .tooShort
  | c :: rest => if c = 't' ∨ c = 'T' ∨ c = ' ' then .ok rest else .error .invalid

/-- Reads the whole of RFC 3339. UTC may be spelled out in place of an offset. -/
def rfc3339 (f : Fields) (cs : List Char) : Except TimeError (Fields × List Char) := do
  let (f, rest) ← plainItems rfc3339Date f cs
  let rest ← rfc3339Separator rest
  let (f, rest) ← plainItems rfc3339Time f rest
  let rest := dropBlanks rest
  let (seconds, rest) ←
    if (rest.take 3).map Char.toLower = ['u', 't', 'c'] then pure (0, rest.drop 3)
    else offset true false rest
  let f ← f.setOffset seconds
  return (f, rest)

/-- Reads one item. -/
def item (i : Item) (f : Fields) (cs : List Char) : Except TimeError (Fields × List Char) :=
  match i with
  | .rfc3339 => rfc3339 f cs
  | i => plainItem i f cs

/-- Reads items in order. -/
def items : List Item → Fields → List Char → Except TimeError (Fields × List Char)
  | [], f, cs => .ok (f, cs)
  | i :: rest, f, cs => do
    let (f, cs) ← item i f cs
    items rest f cs

/-- The fields of a text that the format covers to its end. -/
def fields (format : String) (text : List Char) : Except TimeError Fields := do
  let (f, rest) ← items (Item.ofFormat format) Fields.empty text
  if rest.isEmpty then return f else throw .tooLong

end Reading

namespace Instant

/-- Whether one text occurs in another. -/
def occursIn (part : List Char) : List Char → Bool
  | [] => part.isEmpty
  | c :: rest => part.isPrefixOf (c :: rest) || occursIn part rest

/-- Whether a format asks for an offset: it has the letter `z` after a percent sign, or after a
percent sign and a colon. -/
def asksForOffset (format : String) : Bool :=
  occursIn ['%', 'z'] format.toList || occursIn ['%', ':', 'z'] format.toList

/-- The instant that a text gives under a format, white space around the text aside. A format
that does not ask for an offset is read as UTC. -/
def read (text format : String) : Except TimeError Instant := do
  let f ← Reading.fields format (Text.trimBlanks text.toList)
  if asksForOffset format then f.instant else f.localInstant 0

/-- The instant of an RFC 3339 text with an offset. -/
def ofRfc3339? (text : String) : Option Instant :=
  match Reading.rfc3339 Fields.empty text.toList with
  | .ok (f, []) =>
    match f.instant with
    | .ok t => some t
    | .error _ => none
  | _ => none

end Instant

end Logline.Calendar
