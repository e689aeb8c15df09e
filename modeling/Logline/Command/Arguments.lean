/-
The arguments of the command line. The words are read from left to right. An option that needs a
value takes the rest of its own word, or else the next word, unless that looks like an option
itself. Behind two dashes that stand alone every word is a path.

A value waits until the next word is understood before it is judged. So a word that is unknown is
reported rather than a bad value before it, while a word that is known gives way to it.
-/
import Logline.Text.Blank

namespace Logline.Command

/-- What a command line asks for. -/
structure Arguments where
  path : String
  config : Option String
  parser : Option String
  /-- The settings in their order, also where one is given twice. -/
  settings : List (String × String)
  pretty : Bool

/-- Why a command line asks for nothing to be parsed. -/
inductive Usage where
  | missingPath
  | unknownWord
  /-- A setting that is no name with a value. -/
  | malformedSetting
  | missingValue
  /-- An option that is given twice and may not be. -/
  | repeated
  /-- A flag with a value. -/
  | unneededValue
  | help
  | version
  deriving DecidableEq, Repr

-- ============================================================ words

/-- What takes a value. -/
inductive Slot where
  | path
  | config
  | parser
  | setting
  deriving DecidableEq, Repr

/-- What takes none. -/
inductive Flag where
  | pretty
  | help
  | version
  deriving DecidableEq, Repr

/-- An option, or a flag. -/
abbrev Switch := Slot ⊕ Flag

namespace Switch

def ofName? (name : String) : Option Switch :=
  if name = "config" then some (.inl .config)
  else if name = "parser" then some (.inl .parser)
  else if name = "set" then some (.inl .setting)
  else if name = "pretty" then some (.inr .pretty)
  else if name = "help" then some (.inr .help)
  else if name = "version" then some (.inr .version)
  else none

def ofLetter? (letter : Char) : Option Switch :=
  match letter with
  | 'c' => some (.inl .config)
  | 'p' => some (.inl .parser)
  | 's' => some (.inl .setting)
  | 'h' => some (.inr .help)
  | 'V' => some (.inr .version)
  | _ => none

end Switch

/-- A word of the command line. -/
inductive Word where
  /-- The two dashes that end the options. -/
  | endOfOptions
  /-- A name behind two dashes, and what follows an equals sign. -/
  | long (name : String) (value : Option String)
  /-- A letter behind one dash, and what follows it. -/
  | short (letter : Char) (rest : List Char)
  /-- Anything else; a dash alone is a value as well. -/
  | value (s : String)

namespace Word

/-- A text before and behind its first equals sign. -/
def splitAtEquals (cs : List Char) : String × Option String :=
  (String.ofList (cs.takeWhile (· ≠ '=')),
    match cs.dropWhile (· ≠ '=') with
    | _ :: rest => some (String.ofList rest)
    | [] => none)

def ofText (s : String) : Word :=
  match s.toList with
  | ['-', '-'] => .endOfOptions
  | '-' :: '-' :: name => .long (splitAtEquals name).1 (splitAtEquals name).2
  | '-' :: letter :: rest => .short letter rest
  | _ => .value s

end Word

-- ========================================================== reading

/-- A value that waits, or a slot that waits for one. -/
structure Awaited where
  slot : Slot
  value : Option String

/-- What has been read so far. -/
structure Gathered where
  path : Option String
  config : Option String
  parser : Option String
  settings : List (String × String)
  pretty : Bool
  pending : Option Awaited
  /-- Whether a word was taken for the path. -/
  hasPath : Bool
  onlyPaths : Bool

namespace Gathered

def nothing : Gathered := ⟨none, none, none, [], false, none, false, false⟩

/-- A setting as it is written: a name that is not blank, an equals sign and a value. -/
def setting? (s : String) : Option (String × String) :=
  match Word.splitAtEquals s.toList with
  | (name, some value) => if Text.trim name = "" then none else some (Text.trim name, value)
  | (_, none) => none

/-- Puts a value into its slot. A slot for one value refuses a second one before it looks at it,
and a path refuses the empty text. -/
def store (g : Gathered) (slot : Slot) (value : String) : Except Usage Gathered :=
  match slot with
  | .path => if value = "" then .error .missingValue else .ok { g with path := some value }
  | .config =>
    if g.config.isSome then .error .repeated
    else if value = "" then .error .missingValue
    else .ok { g with config := some value }
  | .parser => if g.parser.isSome then .error .repeated else .ok { g with parser := some value }
  | .setting =>
    match setting? value with
    | some s => .ok { g with settings := g.settings ++ [s] }
    | none => .error .malformedSetting

/-- Puts the value that waits into its slot. -/
def settle (g : Gathered) : Except Usage Gathered :=
  match g.pending with
  | none => .ok g
  | some ⟨_, none⟩ => .error .missingValue
  | some ⟨slot, some value⟩ => { g with pending := none }.store slot value

/-- Carries a flag out. -/
def raise (g : Gathered) : Flag → Except Usage Gathered
  | .pretty => if g.pretty then .error .repeated else .ok { g with pretty := true }
  | .help => .error .help
  | .version => .error .version

/-- Takes an option or a flag, with the value that is written in the same word. -/
def take (g : Gathered) (switch : Switch) (value : Option String) : Except Usage Gathered :=
  match g.settle, switch, value with
  | .error cause, _, _ => .error cause
  | .ok g, .inl slot, some v => g.store slot v
  | .ok g, .inl slot, none => .ok { g with pending := some ⟨slot, none⟩ }
  | .ok g, .inr flag, _ => g.raise flag

/-- The value of an option in what follows its letter, with or without an equals sign. -/
def attached? : List Char → Option String
  | [] => none
  | '=' :: rest => some (String.ofList rest)
  | rest => some (String.ofList rest)

/-- Takes the letters of a word up to the first with a value. -/
def takeLetters (g : Gathered) (letter : Char) : List Char → Except Usage Gathered
  | [] =>
    match Switch.ofLetter? letter with
    | none => .error .unknownWord
    | some switch => g.take switch none
  | next :: rest =>
    match Switch.ofLetter? letter with
    | none => .error .unknownWord
    | some (.inl slot) => g.take (.inl slot) (attached? (next :: rest))
    | some (.inr flag) =>
      match g.take (.inr flag) none with
      | .error cause => .error cause
      | .ok g => takeLetters g next rest

/-- Takes a word that stands for itself. -/
def takeValue (g : Gathered) (value : String) : Except Usage Gathered :=
  match g.onlyPaths, g.pending with
  | false, some ⟨slot, none⟩ => .ok { g with pending := some ⟨slot, some value⟩ }
  | _, _ =>
    if g.hasPath then .error .unknownWord
    else
      match g.settle with
      | .error cause => .error cause
      | .ok g => .ok { g with pending := some ⟨.path, some value⟩, hasPath := true }

/-- Takes a word. -/
def takeWord (g : Gathered) (word : String) : Except Usage Gathered :=
  if g.onlyPaths then g.takeValue word
  else
    match Word.ofText word with
    | .endOfOptions => .ok { g with onlyPaths := true }
    | .long name value =>
      match Switch.ofName? name, value with
      | none, _ => .error .unknownWord
      | some (.inr _), some _ => .error .unneededValue
      | some switch, value => g.take switch value
    | .short letter rest => g.takeLetters letter rest
    | .value s => g.takeValue s

/-- What the words amount to when there are no more. -/
def finish (g : Gathered) : Except Usage Arguments :=
  match g.settle with
  | .error cause => .error cause
  | .ok g =>
    match g.path with
    | none => .error .missingPath
    | some path => .ok ⟨path, g.config, g.parser, g.settings, g.pretty⟩

end Gathered

namespace Arguments

/-- Reads a command line. -/
def read (words : List String) : Except Usage Arguments :=
  match words.foldlM Gathered.takeWord Gathered.nothing with
  | .error cause => .error cause
  | .ok g => g.finish

end Arguments

end Logline.Command
