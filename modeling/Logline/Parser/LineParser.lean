/-
Parsing one line. A line parser owns a record and a sandbox that no other line shares. It is
activated once: its kind's bindings are installed, and then, addin by addin, the addin's bindings
are added and its setup is run. After that the rules run, and the record becomes the line's data.

A parse that fails leaves nothing behind: the parser starts over from its presets. A parse that
succeeded is not repeated.
-/
import Logline.Parser.Cache

namespace Logline

/-- How something that runs sandboxed code ends. -/
inductive Outcome (α : Type) where
  | ok (result : α)
  | failed (cause : Error)
  /-- The code called operations more deeply than it was allowed to. -/
  | exhausted

/-- The parser of one line. -/
structure LineParser where
  kind : ParserKind
  line : String
  options : Options
  /-- Presets of this line alone, in addition to those of the kind. -/
  presets : List (Key × Value)
  record : Record
  context : Context
  activated : Bool
  data : Option Data

/-- What an action of a line parser comes to: its outcome, the parser after it, and the journal of
the code that it ran. -/
structure LineParser.Reply (α : Type) where
  outcome : Outcome α
  parser : LineParser
  journal : List Entry

namespace LineParser

/-- A fresh parser. -/
def make (kind : ParserKind) (line : String) (options : Options) : LineParser where
  kind := kind
  line := line
  options := options
  presets := []
  record := .seeded kind.presets
  context := .empty
  activated := false
  data := none

/-- A fresh parser of the kind that the options select, and the cache after looking it up. -/
def ofOptions (line : String) (options : Options) (cache : ParserCache) :
    Except Error LineParser × ParserCache :=
  let (found, cache) := options.resolve cache
  (found.map (make · line options), cache)

/-- Presets a key before the line is parsed. -/
def preset (p : LineParser) (name : String) (value : Value) : LineParser :=
  { p with
    record := p.record.set (.symbol name) value
    presets := p.presets ++ [(.symbol name, value)] }

-- ======================================================= activation

/-- Runs code in the sandbox of the parser. -/
def runCode (depth : Nat) (p : LineParser) (code : Code) (journal : List Entry) :
    Reply (Option Value) :=
  let (ending, progress, context) :=
    p.context.run depth p.line p.options.settings code ⟨p.record, journal⟩
  let outcome : Outcome (Option Value) := match ending with
    | .returned result => .ok result
    | .failed cause => .failed cause
    | .exhausted => .exhausted
  ⟨outcome, { p with record := progress.record, context := context }, progress.journal⟩

/-- Adds bindings and compiles them. -/
def install (p : LineParser) (bindings : List (String × Receiver)) :
    Except Error Unit × LineParser :=
  let (surface, context) := (p.context.bindAll bindings).compile
  (surface.map fun _ => (), { p with context := context })

/-- Installs addins and runs their setups, one after the other. -/
def activateAddins (depth : Nat) : List Addin → LineParser → List Entry → Reply Unit
  | [], p, journal => ⟨.ok (), p, journal⟩
  | addin :: rest, p, journal =>
    match p.install addin.bindings with
    | (.error cause, p) => ⟨.failed cause, p, journal⟩
    | (.ok _, p) =>
      match p.runCode depth addin.setup journal with
      | ⟨.ok _, p, journal⟩ => activateAddins depth rest p journal
      | ⟨.failed cause, p, journal⟩ => ⟨.failed cause, p, journal⟩
      | ⟨.exhausted, p, journal⟩ => ⟨.exhausted, p, journal⟩

/-- Activates the parser, if that has not been done. -/
def activate (depth : Nat) (p : LineParser) : Reply Unit :=
  if p.activated then ⟨.ok (), p, []⟩
  else
    match p.install p.kind.whitelist with
    | (.error cause, p) => ⟨.failed cause, p, []⟩
    | (.ok _, p) =>
      match activateAddins depth p.kind.addins p [] with
      | ⟨.ok _, p, journal⟩ => ⟨.ok (), { p with activated := true }, journal⟩
      | reply => reply

-- ========================================================== parsing

/-- The data of the record, unless an operation was called that is not exposed. -/
def finish (p : LineParser) : Except Error Data :=
  match p.record.violation with
  | some operation => .error (.capability operation)
  | none => .ok (.ofRecord p.record)

/-- Activates the parser and runs the rules. A finished record leaves the parser. -/
def evaluate (depth : Nat) (p : LineParser) : Reply Data :=
  match p.activate depth with
  | ⟨.failed cause, p, journal⟩ => ⟨.failed cause, p, journal⟩
  | ⟨.exhausted, p, journal⟩ => ⟨.exhausted, p, journal⟩
  | ⟨.ok _, p, journal⟩ =>
    match p.runCode depth p.kind.rules.code journal with
    | ⟨.failed cause, p, journal⟩ => ⟨.failed cause, p, journal⟩
    | ⟨.exhausted, p, journal⟩ => ⟨.exhausted, p, journal⟩
    | ⟨.ok _, p, journal⟩ =>
      match p.finish with
      | .error cause => ⟨.failed cause, p, journal⟩
      | .ok data => ⟨.ok data, { p with record := .empty }, journal⟩

/-- Starts over from the presets. -/
def reset (p : LineParser) : LineParser :=
  { p with
    record := .seeded (p.kind.presets ++ p.presets)
    context := .empty
    activated := false }

/-- The data of the line. -/
def parse (depth : Nat) (p : LineParser) : Reply Data :=
  match p.data with
  | some data => ⟨.ok data, p, []⟩
  | none =>
    match p.evaluate depth with
    | ⟨.ok data, p, journal⟩ => ⟨.ok data, { p with data := some data }, journal⟩
    | ⟨outcome, p, journal⟩ => ⟨outcome, p.reset, journal⟩

/-- Runs code on the current surface. Without one, and once the line is parsed, nothing is run. -/
def withCurrent (depth : Nat) (p : LineParser) (code : Code) : Reply (Option (Option Value)) :=
  match p.data with
  | some _ => ⟨.ok none, p, []⟩
  | none =>
    let (ending, progress) :=
      p.context.runCurrent depth p.line p.options.settings code ⟨p.record, []⟩
    let p := { p with record := progress.record }
    match ending with
    | none => ⟨.ok none, p, progress.journal⟩
    | some (.returned result) => ⟨.ok (some result), p, progress.journal⟩
    | some (.failed cause) => ⟨.failed cause, p, progress.journal⟩
    | some .exhausted => ⟨.exhausted, p, progress.journal⟩

end LineParser

end Logline
