/-
Addins: bundles of operations with a setup. A parser type names the addins it is made with. Each
exposes some of its operations to the type's code, and its setup runs once for every line before
the rules do.

Addins are looked up by name. A name that starts with a capital of ASCII is taken as it is; any
other is put into camel case first.
-/
import Logline.Sandbox.Surface
import Logline.Text.Words

namespace Logline

/-- A bundle of operations. -/
structure Addin where
  name : String
  /-- The operations that it exposes. -/
  exposes : List String
  respondsTo : String → Bool
  invoke : String → List Value → Code
  /-- Runs before the rules. It must not overwrite what the record has already. -/
  setup : Code

namespace Addin

/-- The addin as the receiver of its operations. -/
def receiver (a : Addin) : Receiver := ⟨a.name, a.respondsTo, a.invoke⟩

/-- The bindings that the addin contributes. -/
def bindings (a : Addin) : List (String × Receiver) := a.exposes.map (·, a.receiver)

def debug (a : Addin) : String :=
  "Addin \x7b name: " ++ Text.quoted a.name ++ ", operations: " ++ debugTexts a.exposes ++ " \x7d"

/-- Checks that the addin supports what it exposes. -/
def checked (a : Addin) : Except Error Addin :=
  match a.exposes.find? fun operation => !a.respondsTo operation with
  | some operation => .error (.configuration (.unsupportedExposure a.name operation))
  | none => .ok a

end Addin

/-- Addins by name. -/
abbrev Registry := OrderedMap String Addin

namespace Registry

/-- Registers an addin under its name, in place of an earlier one. -/
def register (r : Registry) (a : Addin) : Registry := r.insert a.name a

/-- The name that an addin is looked up by. -/
def canonicalName (name : String) : String :=
  match name.toList with
  | c :: _ => if c.isUpper then name else Text.camelCase name
  | [] => Text.camelCase name

def lookup (r : Registry) (name : String) : Except Error Addin :=
  match r.find? (canonicalName name) with
  | some a => .ok a
  | none => .error (.configuration (.unknownAddin (canonicalName name) name))

/-- The names in alphabetical order. -/
def names (r : Registry) : List String := r.keys.mergeSort (· ≤ ·)

def debug (r : Registry) : String := "AddinRegistry \x7b units: " ++ debugTexts r.keys ++ " \x7d"

end Registry

/-- How a parser type refers to an addin: by name, or directly. -/
inductive AddinRef where
  | name (name : String)
  | unit (a : Addin)

namespace AddinRef

def debug : AddinRef → String
  | .name n => "Name(" ++ Text.quoted n ++ ")"
  | .unit a => "Unit(" ++ Text.quoted a.name ++ ")"

/-- The addin that is referred to, checked. -/
def resolve (registry : Registry) : AddinRef → Except Error Addin
  | .name n =>
    match registry.lookup n with
    | .ok a => a.checked
    | .error cause => .error cause
  | .unit a => a.checked

end AddinRef

end Logline
