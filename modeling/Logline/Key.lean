/-
Keys. Every name can be a key in two forms: the string form, and the symbolic form that is used
by attributes. Symbols are written with or without a colon before them, so making a symbol drops
one colon; a name that starts with two keeps the second.
-/
import Logline.Text.Quoted

namespace Logline

/-- The name of a symbol: without the colon it may be written with. -/
def symbolName (s : String) : String :=
  match s.toList with
  | ':' :: rest => String.ofList rest
  | _ => s

/-- A key in one of its two forms. -/
inductive Key where
  | str (name : String)
  | sym (name : String)
  deriving DecidableEq, Repr

namespace Key

/-- The symbolic key for a name as it is written. -/
def symbol (s : String) : Key := sym (symbolName s)

def name : Key → String
  | str n => n
  | sym n => n

def isSym : Key → Bool
  | str _ => false
  | sym _ => true

/-- The string form of a key. -/
def strForm (key : Key) : Key := str key.name

/-- The symbolic form of a key. It drops a colon even from a symbol, which then is a key of
another name. -/
def symForm (key : Key) : Key := symbol key.name

/-- A key as texts show it. -/
def display : Key → String
  | str n => Text.quoted n
  | sym n => ":" ++ n

/-- A key as diagnostics show it. -/
def debug : Key → String
  | str n => "Str(" ++ Text.quoted n ++ ")"
  | sym n => "Sym(" ++ Text.quoted n ++ ")"

@[simp] theorem strForm_str (n : String) : (str n).strForm = str n := rfl

end Key

end Logline
