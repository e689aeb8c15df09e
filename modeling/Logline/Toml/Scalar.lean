/-
Values of TOML that are written without quotes: booleans, integers, floats, dates and times. What
they stand for plays no part in a configuration, so this module only says which words are well
formed.

Numbers have to fit as well: an integer into 128 bits, with or without a sign, and a float below
the place from which it would be rounded to infinity.
-/
namespace Logline.Toml

/-- The characters of a word without quotes. -/
def isWordChar (c : Char) : Bool := c.isAlphanum || "_+-.:".toList.contains c

namespace Scalar

-- ========================================================== numbers

/-- Digits without the underscores between them. An underscore needs a digit on either side. -/
def digits? (isDigit : Char → Bool) (afterDigit : Bool) : List Char → Option (List Char)
  | [] => if afterDigit then some [] else none
  | c :: rest =>
    if c = '_' then if afterDigit then digits? isDigit false rest else none
    else if isDigit c then (digits? isDigit true rest).map (c :: ·)
    else none

/-- The value of a digit in bases up to sixteen. -/
def digitValue (c : Char) : Nat :=
  if c.isDigit then c.toNat - '0'.toNat
  else if c.isLower then c.toNat - 'a'.toNat + 10
  else c.toNat - 'A'.toNat + 10

/-- The number that digits stand for. -/
def ofDigits (base : Nat) (digits : List Char) : Nat :=
  digits.foldl (fun n c => n * base + digitValue c) 0

/-- Decimal digits that start with a zero only if there is no other. -/
def decimal? (cs : List Char) : Option (List Char) :=
  match digits? Char.isDigit false cs with
  | some ('0' :: _ :: _) => none
  | found => found

def isHexDigit (c : Char) : Bool :=
  c.isDigit || ('a' ≤ c && c ≤ 'f') || ('A' ≤ c && c ≤ 'F')

/-- Whether digits of a base give a number that fits. -/
def isBased (isDigit : Char → Bool) (base : Nat) (cs : List Char) : Bool :=
  match digits? isDigit false cs with
  | some digits => ofDigits base digits < Nat.pow 2 128
  | none => false

/-- The word behind a sign, and whether the sign is a minus. -/
def unsigned : List Char → Bool × List Char
  | '-' :: rest => (true, rest)
  | '+' :: rest => (false, rest)
  | cs => (false, cs)

def isInteger (cs : List Char) : Bool :=
  match cs with
  | '0' :: 'x' :: rest => isBased isHexDigit 16 rest
  | '0' :: 'o' :: rest => isBased (fun c => '0' ≤ c && c ≤ '7') 8 rest
  | '0' :: 'b' :: rest => isBased (fun c => c = '0' || c = '1') 2 rest
  | cs =>
    let (negative, cs) := unsigned cs
    match decimal? cs with
    | some digits =>
      if negative then ofDigits 10 digits ≤ Nat.pow 2 127
      else ofDigits 10 digits < Nat.pow 2 128
    | none => false

/-- The least number that is rounded to infinity. -/
def tooLarge : Nat := Nat.pow 2 1024 - Nat.pow 2 970

/-- Whether digits, times a power of ten, stay below infinity. The powers of ten that are looked
at are bounded by the number of digits. -/
def isFinite (digits : List Char) (exponent : Int) : Bool :=
  let digits := digits.dropWhile (· = '0')
  let size := exponent + digits.length
  if digits.isEmpty ∨ size ≤ 300 then true
  else if 400 < size then false
  else if 0 ≤ exponent then ofDigits 10 digits * Nat.pow 10 exponent.toNat < tooLarge
  else ofDigits 10 digits < tooLarge * Nat.pow 10 (-exponent).toNat

/-- The exponent of a float, where nothing stands for none. -/
def exponent? : List Char → Option Int
  | [] => some 0
  | _ :: rest =>
    let (negative, rest) := unsigned rest
    (digits? Char.isDigit false rest).map fun digits =>
      let n : Int := ofDigits 10 digits
      if negative then -n else n

/-- The decimal places of a float, where nothing stands for none. -/
def fraction? : List Char → Option (List Char)
  | [] => some []
  | _ :: rest => digits? Char.isDigit false rest

def isFloat (cs : List Char) : Bool :=
  let (_, cs) := unsigned cs
  if cs = "inf".toList ∨ cs = "nan".toList then true
  else
    let isMark (c : Char) : Bool := c = 'e' || c = 'E'
    let mantissa := cs.takeWhile fun c => !isMark c
    let mark := cs.dropWhile fun c => !isMark c
    let whole := mantissa.takeWhile (· ≠ '.')
    let places := mantissa.dropWhile (· ≠ '.')
    if places.isEmpty && mark.isEmpty then false
    else
      match decimal? whole, fraction? places, exponent? mark with
      | some w, some f, some e => isFinite (w ++ f) (e - f.length)
      | _, _, _ => false

-- ================================================== dates and times

/-- The number of two digits that a word starts with, and what follows them. -/
def two? : List Char → Option (Nat × List Char)
  | a :: b :: rest =>
    if a.isDigit ∧ b.isDigit then some (digitValue a * 10 + digitValue b, rest) else none
  | _ => none

/-- Whether a word is nothing or a shift from universal time. -/
def isShift (cs : List Char) : Bool :=
  match cs with
  | [] => true
  | [c] => c = 'Z' || c = 'z'
  | c :: rest =>
    if c = '+' ∨ c = '-' then
      match two? rest with
      | some (hour, ':' :: rest) =>
        match two? rest with
        | some (minute, []) => hour < 24 && minute < 60
        | _ => false
      | _ => false
    else false

/-- What follows the seconds of a time, without their decimal places. -/
def behindFraction? : List Char → Option (List Char)
  | '.' :: rest =>
    if (rest.takeWhile Char.isDigit).isEmpty then none else some (rest.dropWhile Char.isDigit)
  | cs => some cs

/-- What follows a time of day. The seconds may be missing. -/
def behindTime? (cs : List Char) : Option (List Char) :=
  match two? cs with
  | some (hour, ':' :: rest) =>
    match two? rest with
    | some (minute, rest) =>
      if hour < 24 ∧ minute < 60 then
        match rest with
        | ':' :: rest =>
          match two? rest with
          | some (second, rest) => if second ≤ 60 then behindFraction? rest else none
          | none => none
        | rest => some rest
      else none
    | none => none
  | _ => none

/-- The number of days in a month. -/
def monthDays (year month : Nat) : Nat :=
  if month = 2 then
    if year % 4 = 0 ∧ (year % 100 ≠ 0 ∨ year % 400 = 0) then 29 else 28
  else if month = 4 ∨ month = 6 ∨ month = 9 ∨ month = 11 then 30
  else 31

/-- What follows a date. -/
def behindDate? (cs : List Char) : Option (List Char) :=
  match two? cs with
  | some (century, cs) =>
    match two? cs with
    | some (year, '-' :: cs) =>
      match two? cs with
      | some (month, '-' :: cs) =>
        match two? cs with
        | some (day, cs) =>
          if 1 ≤ month ∧ month ≤ 12 ∧ 1 ≤ day ∧ day ≤ monthDays (century * 100 + year) month
          then some cs else none
        | none => none
      | _ => none
    | _ => none
  | none => none

def isDate (cs : List Char) : Bool := behindDate? cs == some []

/-- Whether a word is a date, a time of day, or a date with a time of day. -/
def isDateTime (cs : List Char) : Bool :=
  match behindDate? cs with
  | some [] => true
  | some (c :: rest) =>
    if c = 'T' ∨ c = 't' ∨ c = ' ' then
      match behindTime? rest with
      | some rest => isShift rest
      | none => false
    else false
  | none => behindTime? cs == some []

-- ============================================================ words

/-- Whether a word without quotes is a value. -/
def isScalar (cs : List Char) : Bool :=
  cs = "true".toList || cs = "false".toList || isInteger cs || isFloat cs || isDateTime cs

/-- Takes a word. A time of day behind a date belongs to it, though a blank stands between. -/
def word (cs : List Char) : List Char × List Char :=
  let first := cs.takeWhile isWordChar
  let rest := cs.dropWhile isWordChar
  match isDate first, rest with
  | true, ' ' :: c :: _ =>
    if c.isDigit then
      (first ++ ' ' :: (rest.drop 1).takeWhile isWordChar, (rest.drop 1).dropWhile isWordChar)
    else (first, rest)
  | _, _ => (first, rest)

/-- What follows a value without quotes. -/
def behind? (cs : List Char) : Option (List Char) :=
  let (w, rest) := word cs
  if isScalar w then some rest else none

end Scalar

end Logline.Toml
