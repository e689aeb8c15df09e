/-
Names as sequences of words, and the two spellings in which the library compares them. A word
ends where a character is neither letter nor number, where a capital follows a small letter, and
before the last capital of a run that a small letter follows: `HTTPServer two` has the words
`HTTP`, `Server`, `two`. Numbers start no word.
-/
import Logline.Text.Case
import Logline.Text.Letter

namespace Logline.Text

-- ============================================================ words

/-- The stretches of letters and numbers, empty ones included. -/
def alphanumericRuns : List Char → List (List Char)
  | [] => [[]]
  | c :: rest =>
    match alphanumericRuns rest with
    | [] => [[c]]
    | run :: runs => if isAlphanumeric c then (c :: run) :: runs else [] :: run :: runs

/-- The case of the last cased character of a word so far. -/
inductive WordCase where
  | uncased
  | lower
  | upper
  deriving DecidableEq

/-- Cuts a stretch into words. `word` holds the word so far, last character first. -/
def cutWords (state : WordCase) (word : List Char) : List Char → List (List Char)
  | [] => []
  | [c] => [(c :: word).reverse]
  | c :: next :: rest =>
    let following := if isLower c then .lower else if isUpper c then .upper else state
    if following = .lower ∧ isUpper next then
      (c :: word).reverse :: cutWords .uncased [] (next :: rest)
    else if state = .upper ∧ isUpper c ∧ isLower next then
      word.reverse :: cutWords .uncased [c] (next :: rest)
    else cutWords following (c :: word) (next :: rest)

/-- The words of a name. -/
def words (s : String) : List (List Char) :=
  (alphanumericRuns s.toList).flatMap (cutWords .uncased [])

-- ======================================================== spellings

/-- A word in small letters. A sigma that ends the word takes its final form. -/
def lowerWord : List Char → List Char
  | [] => []
  | [c] => if c = 'Σ' then ['ς'] else lowerCase c
  | c :: next :: rest => lowerCase c ++ lowerWord (next :: rest)

/-- A word with its first letter large and the others small. -/
def capitalWord : List Char → List Char
  | [] => []
  | c :: rest => upperCase c ++ lowerWord rest

/-- The words in small letters with underscores between them. -/
def snakeCase (s : String) : String :=
  String.ofList (List.intercalate ['_'] ((words s).map lowerWord))

/-- The words with a capital each, run together. -/
def camelCase (s : String) : String :=
  String.ofList ((words s).flatMap capitalWord)

end Logline.Text
