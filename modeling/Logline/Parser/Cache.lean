/-
Which kind of parser a line is parsed with. A kind is given directly or by name. Names are looked
up in a cache of definitions, where two spellings with the same words are one name; a built-in
kind is defined when its name is first asked for.
-/
import Logline.Parser.Basic

namespace Logline

-- ============================================================ cache

/-- A stored definition. Its number tells it from every other definition of the same cache, also
from one that is defined alike. -/
structure Definition where
  kind : ParserKind
  number : Nat

/-- Definitions by name in snake case. -/
structure ParserCache where
  definitions : OrderedMap String Definition
  /-- The number of the next definition. -/
  next : Nat

namespace ParserCache

def empty : ParserCache := ⟨.empty, 0⟩

instance : Inhabited ParserCache := ⟨empty⟩

/-- The name under which a selector is stored. -/
def entryName (selector : String) : String := Text.snakeCase selector

def store (c : ParserCache) (entry : String) (kind : ParserKind) : ParserCache :=
  ⟨c.definitions.insert entry ⟨kind, c.next⟩, c.next + 1⟩

/-- Stores a definition, in place of an earlier one. -/
def register (c : ParserCache) (selector : String) (kind : ParserKind) : ParserCache :=
  c.store (entryName selector) kind

/-- The stored definition; nothing is defined. -/
def get? (c : ParserCache) (selector : String) : Option Definition :=
  c.definitions.find? (entryName selector)

/-- The definition for a selector, and the cache after it. A built-in kind that is not stored is
defined and stored. -/
def getOrDefine (c : ParserCache) (selector : String) : Except Error Definition × ParserCache :=
  match c.get? selector with
  | some d => (.ok d, c)
  | none =>
    match Parser.builtin (entryName selector) with
    | .error cause => (.error cause, c)
    | .ok kind => (.ok ⟨kind, c.next⟩, c.store (entryName selector) kind)

/-- What is removed, and the cache after it. -/
def remove (c : ParserCache) (selector : String) : Option Definition × ParserCache :=
  (c.get? selector, { c with definitions := c.definitions.erase (entryName selector) })

/-- Forgets all definitions. -/
def clear (c : ParserCache) : ParserCache := { c with definitions := .empty }

def size (c : ParserCache) : Nat := c.definitions.size

end ParserCache

-- ========================================================== options

/-- How a kind of parser is selected. -/
inductive ParserSelector where
  | named (name : String)
  | kind (k : ParserKind)

namespace ParserSelector

def debug : ParserSelector → String
  | named name => "Named(" ++ Text.quoted name ++ ")"
  | kind k => "Type(" ++ Text.quoted k.name ++ ")"

end ParserSelector

/-- What a parser instance is made with: a kind, and settings that its code can read. -/
structure Options where
  parser : ParserSelector
  settings : Settings

namespace Options

/-- The name of the kind that is used where none is selected. -/
def defaultParser : String := Parser.Basic.name

def initial : Options := ⟨.named defaultParser, .empty⟩

/-- The selected kind, and the cache after looking it up. -/
def resolve (o : Options) (cache : ParserCache) : Except Error ParserKind × ParserCache :=
  match o.parser with
  | .kind k => (.ok k, cache)
  | .named name =>
    let (found, cache) := cache.getOrDefine name
    (found.map Definition.kind, cache)

end Options

end Logline
