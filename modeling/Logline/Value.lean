/-
Values: what a record stores, what operations take and give, and what captures hold.
-/
import Logline.Calendar.Instant
import Logline.Json
import Logline.Key
import Logline.OrderedMap

namespace Logline

open Calendar

/-- A value. The entries of a map are in order of insertion. -/
inductive Value where
  | nil
  | bool (b : Bool)
  | int (n : Int)
  | str (s : String)
  | sym (s : String)
  | time (t : Instant)
  | map (entries : List (Key × Value))

namespace Value

instance : Inhabited Value := ⟨nil⟩

/-- The symbol for a name as it is written. -/
def symbol (s : String) : Value := sym (symbolName s)

/-- Everything counts as true but `nil` and `false`. -/
def isTruthy : Value → Bool
  | nil => false
  | bool b => b
  | _ => true

def isNil : Value → Bool
  | nil => true
  | _ => false

/-- The text of a string or a symbol. -/
def text? : Value → Option String
  | str s => some s
  | sym s => some s
  | _ => none

def int? : Value → Option Int
  | int n => some n
  | _ => none

def time? : Value → Option Instant
  | time t => some t
  | _ => none

def entries? : Value → Option (List (Key × Value))
  | map entries => some entries
  | _ => none

-- ========================================================= equality

mutual

/-- Whether two values are the same. The order of a map's entries does not matter. -/
def same : Value → Value → Bool
  | nil, nil => true
  | bool a, bool b => a = b
  | int a, int b => a = b
  | str a, str b => a = b
  | sym a, sym b => a = b
  | time a, time b => a = b
  | map a, map b => sameEntries a b
  | _, _ => false

/-- Whether every entry finds its partner under the same key in what the entries before it have
left of the other map, and nothing is left over. -/
def sameEntries : List (Key × Value) → List (Key × Value) → Bool
  | [], b => b.isEmpty
  | (key, value) :: rest, b =>
    match Entries.find? key b with
    | some other => same value other && sameEntries rest (Entries.erase key b)
    | none => false

end

-- ============================================================ texts

/-- Texts with a comma and a blank between them. -/
def commaSeparated (texts : List String) : String := String.intercalate ", " texts

mutual

/-- A value as texts show it: `nil` is empty, a map is in braces. -/
def display : Value → String
  | nil => ""
  | bool b => if b then "true" else "false"
  | int n => toString n
  | str s => s
  | sym s => ":" ++ s
  | time t => t.offsetText
  | map entries => "\x7b" ++ commaSeparated (displayEntries entries) ++ "\x7d"

def displayEntries : List (Key × Value) → List String
  | [] => []
  | (key, value) :: rest => (key.display ++ " => " ++ display value) :: displayEntries rest

end

mutual

/-- A value as diagnostics show it. -/
def debug : Value → String
  | nil => "Nil"
  | bool b => "Bool(" ++ (if b then "true" else "false") ++ ")"
  | int n => "Int(" ++ toString n ++ ")"
  | str s => "Str(" ++ Text.quoted s ++ ")"
  | sym s => "Sym(" ++ Text.quoted s ++ ")"
  | time t => "Time(" ++ t.zuluText ++ ")"
  | map entries =>
    "Map(Accessor \x7b entries: \x7b" ++ commaSeparated (debugEntries entries) ++ "\x7d \x7d)"

def debugEntries : List (Key × Value) → List String
  | [] => []
  | (key, value) :: rest => (key.debug ++ ": " ++ debug value) :: debugEntries rest

end

mutual

/-- A value as JSON: both forms of a key by name, symbols as texts, times in RFC 3339. -/
def toJson : Value → Json
  | nil => .null
  | bool b => .bool b
  | int n => .int n
  | str s => .str s
  | sym s => .str s
  | time t => .str t.zuluText
  | map entries => .obj (toJsonFields entries)

def toJsonFields : List (Key × Value) → List (String × Json)
  | [] => []
  | (key, value) :: rest => (key.name, toJson value) :: toJsonFields rest

end

end Value

end Logline
