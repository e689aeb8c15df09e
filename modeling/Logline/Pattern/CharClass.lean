/-
Classes of characters, as patterns name them. A class is kept as it is put together, from ranges
and properties by the operations on sets, and is asked about one character at a time.
-/
import Logline.Text.Blank
import Logline.Text.Case
import Logline.Text.Letter

namespace Logline.Pattern

open Text

/-- A property of characters that a pattern can name. -/
inductive Property where
  | word
  | decimal
  | blank
  | alphabetic
  | numeric
  | lower
  | upper
  deriving DecidableEq, Repr

def Property.holds : Property → Char → Bool
  | word, c => isWordChar c
  | decimal, c => isDecimal c
  | blank, c => isBlank c
  | alphabetic, c => isAlphabetic c
  | numeric, c => isNumeric c
  | lower, c => isLower c
  | upper, c => isUpper c

/-- A class of characters. -/
inductive CharClass where
  | none
  | range (low high : Nat)
  | property (p : Property)
  | complement (a : CharClass)
  | union (a b : CharClass)
  | inter (a b : CharClass)
  /-- The class with all that differ from a member in case only. -/
  | folded (a : CharClass)
  /-- The same for the letters of ASCII alone. -/
  | foldedAscii (a : CharClass)
  deriving Repr

namespace CharClass

/-- The other case of a letter of ASCII. -/
def asciiVariants (c : Char) : List Char :=
  if c.isUpper then [c.toLower] else if c.isLower then [c.toUpper] else []

/-- Whether a character belongs to the class. -/
def holds : CharClass → Char → Bool
  | none, _ => false
  | range low high, c => low ≤ c.toNat && c.toNat ≤ high
  | property p, c => p.holds c
  | complement a, c => !holds a c
  | union a b, c => holds a c || holds b c
  | inter a b, c => holds a c && holds b c
  | folded a, c => holds a c || (caseVariants c).any (holds a)
  | foldedAscii a, c => holds a c || (asciiVariants c).any (holds a)

def single (c : Char) : CharClass := range c.toNat c.toNat

/-- Every character. -/
def any : CharClass := complement none

def difference (a b : CharClass) : CharClass := inter a (complement b)

def symmetricDifference (a b : CharClass) : CharClass := union (difference a b) (difference b a)

def ofRanges (ranges : List (Nat × Nat)) : CharClass :=
  ranges.foldr (fun r acc => union (range r.1 r.2) acc) none

/-- Every character but the line feed. -/
def notLineFeed : CharClass := complement (single '\n')

/-- Every character but the line feed and the carriage return. -/
def notLineBreak : CharClass := complement (union (single '\n') (single '\r'))

-- ==================================================== ASCII classes

def asciiDigit : CharClass := range 0x30 0x39
def asciiLower : CharClass := range 0x61 0x7A
def asciiUpper : CharClass := range 0x41 0x5A
def asciiAlpha : CharClass := union asciiUpper asciiLower
def asciiBlank : CharClass := union (range 0x09 0x0D) (single ' ')
def asciiWord : CharClass := union asciiAlpha (union asciiDigit (single '_'))
def asciiPunct : CharClass :=
  ofRanges [(0x21, 0x2F), (0x3A, 0x40), (0x5B, 0x60), (0x7B, 0x7E)]

/-- The classes that brackets within brackets name. -/
def named? : String → Option CharClass
  | "alnum" => some (union asciiAlpha asciiDigit)
  | "alpha" => some asciiAlpha
  | "ascii" => some (range 0 0x7F)
  | "blank" => some (union (single '\t') (single ' '))
  | "cntrl" => some (union (range 0 0x1F) (range 0x7F 0x7F))
  | "digit" => some asciiDigit
  | "graph" => some (range 0x21 0x7E)
  | "lower" => some asciiLower
  | "print" => some (range 0x20 0x7E)
  | "punct" => some asciiPunct
  | "space" => some asciiBlank
  | "upper" => some asciiUpper
  | "word" => some asciiWord
  | "xdigit" => some (union asciiDigit (union (range 0x41 0x46) (range 0x61 0x66)))
  | _ => Option.none

/-- The properties that a pattern can name in full, by their loose names: small letters and digits
only. These are all that a pattern can name here. Other general categories and the scripts, as in
`\p{L}`, `\pL`, `\p{Lu}` and `\p{Greek}`, are well formed but would need tables of their own, so a
pattern with one of them is refused. -/
def propertyNamed? : String → Option CharClass
  | "any" => some any
  | "ascii" => some (range 0 0x7F)
  | "alphabetic" | "alpha" => some (property .alphabetic)
  | "lowercase" | "lower" => some (property .lower)
  | "uppercase" | "upper" => some (property .upper)
  | "whitespace" | "wspace" | "space" => some (property .blank)
  | "n" | "number" => some (property .numeric)
  | "nd" | "decimalnumber" | "digit" => some (property .decimal)
  | _ => Option.none

/-- The class of a letter after a backslash: digits, white space, word characters, and by a
capital their complements. -/
def ofLetter? (unicode : Bool) : Char → Option CharClass
  | 'd' => some (if unicode then property .decimal else asciiDigit)
  | 's' => some (if unicode then property .blank else asciiBlank)
  | 'w' => some (if unicode then property .word else asciiWord)
  | 'D' => some (complement (if unicode then property .decimal else asciiDigit))
  | 'S' => some (complement (if unicode then property .blank else asciiBlank))
  | 'W' => some (complement (if unicode then property .word else asciiWord))
  | _ => Option.none

/-- Whether a class holds a character between ASCII and 256. A class of bytes that does could
split a character. -/
def reachesBeyondAscii (a : CharClass) : Bool :=
  (List.range 128).any fun i => holds a (Char.ofNat (128 + i))

end CharClass

end Logline.Pattern
