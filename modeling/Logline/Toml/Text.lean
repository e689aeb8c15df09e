/-
Texts of TOML: between quotes with escapes, or between apostrophes as they stand. Either kind may
be written with three marks at each end and then go over several lines; a line break right behind
the opening marks does not count, and up to two more marks may stand before the closing ones.
-/
namespace Logline.Toml

/-- Controls that may stand nowhere. The tab is not one of them. -/
def isControl (c : Char) : Bool := (c.toNat < 0x20 && c ≠ '\t') || c.toNat = 0x7f

namespace Text

/-- Whether a character may stand in a text as it is. Line breaks need a text of several lines,
and a carriage return needs the line feed behind it. -/
def mayStand (manyLines : Bool) (c : Char) (rest : List Char) : Bool :=
  !isControl c || (manyLines && (c = '\n' || (c = '\r' && rest.head? = some '\n')))

/-- Ends a text of several lines behind its first three closing marks. -/
def close (mark : Char) (text rest : List Char) : String × List Char :=
  let more := (rest.takeWhile (· = mark)).take 2
  (String.ofList (text.reverse ++ more), rest.drop more.length)

/-- Reads a text as it stands up to its closing marks. -/
def plain (manyLines : Bool) (text : List Char) : List Char → Option (String × List Char)
  | [] => none
  | c :: rest =>
    if c = '\'' then
      if manyLines then
        match rest with
        | '\'' :: '\'' :: behind => some (close '\'' text behind)
        | _ => plain manyLines (c :: text) rest
      else some (String.ofList text.reverse, rest)
    else if mayStand manyLines c rest then plain manyLines (c :: text) rest
    else none

-- ========================================================== escapes

/-- Where the reading of a text with escapes stands. -/
inductive Phase where
  | plain
  /-- Behind a backslash. -/
  | escape
  /-- In the digits of a character, with what is left of them and their value so far. -/
  | digits (left value : Nat)
  /-- Behind a backslash that takes out the line break, and whether that has come. -/
  | fold (broken : Bool)

/-- The character that a letter behind a backslash stands for. -/
def escaped? (c : Char) : Option Char :=
  match c with
  | 'b' => some '\x08'
  | 't' => some '\t'
  | 'n' => some '\n'
  | 'f' => some '\x0c'
  | 'r' => some '\r'
  | 'e' => some '\x1b'
  | '"' => some '"'
  | '\\' => some '\\'
  | _ => none

/-- The number of digits that a letter behind a backslash asks for. -/
def digitCount? (c : Char) : Option Nat :=
  match c with
  | 'x' => some 2
  | 'u' => some 4
  | 'U' => some 8
  | _ => none

def hexValue? (c : Char) : Option Nat :=
  if c.isDigit then some (c.toNat - '0'.toNat)
  else if 'a' ≤ c ∧ c ≤ 'f' then some (c.toNat - 'a'.toNat + 10)
  else if 'A' ≤ c ∧ c ≤ 'F' then some (c.toNat - 'A'.toNat + 10)
  else none

/-- A character by its number, if there is one. -/
def char? (n : Nat) : Option Char := if n.isValidChar then some (Char.ofNat n) else none

def isFoldable (c : Char) : Bool := c = ' ' || c = '\t' || c = '\n' || c = '\r'

/-- The phase that a character is read in: a line break that is taken out ends before the first
character that is none of its blanks. -/
def resume (phase : Phase) (c : Char) : Phase :=
  match phase with
  | .fold true => if isFoldable c then phase else .plain
  | phase => phase

/-- Reads a text with escapes up to its closing marks. -/
def escaping (manyLines : Bool) (phase : Phase) (text : List Char) :
    List Char → Option (String × List Char)
  | [] => none
  | c :: rest =>
    match resume phase c with
    | .plain =>
      if c = '"' then
        if manyLines then
          match rest with
          | '"' :: '"' :: behind => some (close '"' text behind)
          | _ => escaping manyLines .plain (c :: text) rest
        else some (String.ofList text.reverse, rest)
      else if c = '\\' then escaping manyLines .escape text rest
      else if mayStand manyLines c rest then escaping manyLines .plain (c :: text) rest
      else none
    | .escape =>
      match escaped? c, digitCount? c with
      | some e, _ => escaping manyLines .plain (e :: text) rest
      | none, some n => escaping manyLines (.digits n 0) text rest
      | none, none =>
        if manyLines ∧ isFoldable c ∧ (c = '\r' → rest.head? = some '\n') then
          escaping manyLines (.fold (c = '\n')) text rest
        else none
    | .digits left value =>
      match hexValue? c with
      | none => none
      | some v =>
        if 1 < left then escaping manyLines (.digits (left - 1) (value * 16 + v)) text rest
        else
          match char? (value * 16 + v) with
          | some d => escaping manyLines .plain (d :: text) rest
          | none => none
    | .fold broken =>
      if isFoldable c ∧ (c = '\r' → rest.head? = some '\n') then
        escaping manyLines (.fold (broken || c = '\n')) text rest
      else none

-- ============================================================ texts

/-- Skips a line break. -/
def skipBreak : List Char → List Char
  | '\n' :: rest => rest
  | '\r' :: '\n' :: rest => rest
  | cs => cs

/-- Reads a text on one line, if one starts here. -/
def line? : List Char → Option (String × List Char)
  | '"' :: rest => escaping false .plain [] rest
  | '\'' :: rest => plain false [] rest
  | _ => none

/-- Reads a text of either kind, if one starts here. -/
def read? : List Char → Option (String × List Char)
  | '"' :: '"' :: '"' :: rest => escaping true .plain [] (skipBreak rest)
  | '\'' :: '\'' :: '\'' :: rest => plain true [] (skipBreak rest)
  | cs => line? cs

end Text

end Logline.Toml
