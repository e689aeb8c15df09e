/-
Writing JSON. The library writes objects, texts, integers, booleans and null, on one line or
indented by two spaces. Fields come out in the order in which they stand, and a name may occur
twice.
-/
namespace Logline

/-- A JSON value, as far as records need it. -/
inductive Json where
  | null
  | bool (b : Bool)
  | int (n : Int)
  | str (s : String)
  | obj (fields : List (String × Json))

namespace Json

/-- A character as it stands in a JSON text. Only the quote, the backslash and the controls below
the space are escaped. -/
def escapedChar (c : Char) : List Char :=
  match c with
  | '"' => ['\\', '"']
  | '\\' => ['\\', '\\']
  | '\n' => ['\\', 'n']
  | '\r' => ['\\', 'r']
  | '\t' => ['\\', 't']
  | '\x08' => ['\\', 'b']
  | '\x0c' => ['\\', 'f']
  | c =>
    if c.toNat < 0x20 then
      '\\' :: 'u' :: '0' :: '0' :: Nat.digitChar (c.toNat / 16) :: [Nat.digitChar (c.toNat % 16)]
    else [c]

/-- A text between quotes. -/
def quote (s : String) : String :=
  String.ofList ('"' :: s.toList.flatMap escapedChar ++ ['"'])

mutual

/-- The value on one line, without blanks. -/
def compact : Json → String
  | null => "null"
  | bool b => if b then "true" else "false"
  | int n => toString n
  | str s => quote s
  | obj fields => "\x7b" ++ compactFields fields ++ "\x7d"

/-- Fields with commas between them. -/
def compactFields : List (String × Json) → String
  | [] => ""
  | [(name, value)] => quote name ++ ":" ++ compact value
  | (name, value) :: rest => quote name ++ ":" ++ compact value ++ "," ++ compactFields rest

end

/-- A new line at a depth. -/
def newLine (depth : Nat) : String := "\n" ++ String.ofList (List.replicate (2 * depth) ' ')

mutual

/-- The value with a line for each field, at a depth. An object without fields keeps to its
line. -/
def indented (depth : Nat) : Json → String
  | obj [] => "\x7b\x7d"
  | obj (field :: rest) =>
    "\x7b" ++ indentedFields (depth + 1) (field :: rest) ++ newLine depth ++ "\x7d"
  | null => "null"
  | bool b => if b then "true" else "false"
  | int n => toString n
  | str s => quote s

/-- Fields, each on a line of its own. -/
def indentedFields (depth : Nat) : List (String × Json) → String
  | [] => ""
  | [(name, value)] => newLine depth ++ quote name ++ ": " ++ indented depth value
  | (name, value) :: rest =>
    newLine depth ++ quote name ++ ": " ++ indented depth value ++ "," ++
      indentedFields depth rest

end

end Json

end Logline
