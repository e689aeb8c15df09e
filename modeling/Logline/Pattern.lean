/-
Patterns: a text in the notation of regular expressions together with the tree that it stands
for. A pattern finds its first match anywhere in a text; what its named groups matched then is a
table with an entry for each of them, `nil` for a group that took no part.
-/
import Logline.Pattern.Reader
import Logline.Table

namespace Logline

/-- A well-formed pattern. -/
structure Pattern where
  source : String
  node : Pattern.Node

namespace Pattern

/-- Reads a pattern. -/
def compile (source : String) : Except Error Pattern :=
  match Reader.read? source.toList with
  | some node => .ok ⟨source, node⟩
  | none => .error .pattern

/-- The captures of the first match in a text. -/
def match? (p : Pattern) (text : String) : Option (List Capture) :=
  p.node.search none 0 text.toList

/-- The value of a named group. -/
def captureValue (captures : List Capture) (name : String) : Value :=
  match captured? name captures with
  | some text => .str (String.ofList text)
  | none => .nil

/-- The named groups of the first match in a text, in the order of their opening. -/
def captures? (p : Pattern) (text : String) : Option Table :=
  (p.match? text).map fun captures =>
    OrderedMap.ofList (p.node.names.map fun name => (.str name, captureValue captures name))

end Pattern

end Logline
