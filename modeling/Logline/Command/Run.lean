/-
Parsing a whole log and printing a record for every line. Lines that fail are counted and passed
over, and nothing is printed for them. A kind of parser that cannot be resolved fails the run as a
whole, before any line, and so does an output that takes no more.
-/
import Logline.Config
import Logline.Log

namespace Logline.Command

/-- How many lines were parsed, and how many failed. -/
structure Summary where
  parsed : Nat
  failed : Nat
  deriving DecidableEq, Repr

/-- What is written, and how many bytes the output takes at most. -/
structure Output where
  text : String
  limit : Option Nat

namespace Output

def unlimited : Output := ⟨"", none⟩

/-- The reason of an output that takes no more. -/
def fullText : String := "sink full"

/-- Writes a text as a whole, or nothing of it. -/
def write (o : Output) (text : String) : Except Error Output :=
  let fits := match o.limit with
    | none => true
    | some limit => o.text.utf8ByteSize + text.utf8ByteSize ≤ limit
  if fits then .ok { o with text := o.text ++ text } else .error (.io fullText)

end Output

/-- What a run comes to. -/
structure Report where
  outcome : Outcome Summary
  output : Output
  cache : ParserCache

namespace Run

/-- The record of a line as it is printed, with the line feed behind it. -/
def rendered (layout : Layout) (number : Nat) (data : Data) : String :=
  let record := Json.obj [("number", .int number), ("data", Table.toJson data.table)]
  (match layout with
    | .json => record.compact
    | .pretty => record.indented 0) ++ "\n"

/-- Loads and prints lines, one after the other. -/
def lines (depth : Nat) (layout : Layout) : List Line → Summary → Output → ParserCache → Report
  | [], summary, output, cache => ⟨.ok summary, output, cache⟩
  | l :: rest, summary, output, cache =>
    match l.load depth cache with
    | ⟨.exhausted, _, cache⟩ => ⟨.exhausted, output, cache⟩
    | ⟨.failed _, _, cache⟩ =>
      lines depth layout rest { summary with failed := summary.failed + 1 } output cache
    | ⟨.ok data, _, cache⟩ =>
      match output.write (rendered layout l.number data) with
      | .error cause => ⟨.failed cause, output, cache⟩
      | .ok output =>
        lines depth layout rest { summary with parsed := summary.parsed + 1 } output cache

/-- Parses the file under a path and prints its records. -/
def file (depth : Nat) (files : FileSystem) (path : String) (config : Config) (output : Output)
    (cache : ParserCache) : Report :=
  match Log.openPath files path config.options with
  | .error cause => ⟨.failed cause, output, cache⟩
  | .ok log =>
    match config.options.resolve cache with
    | (.error cause, cache) => ⟨.failed cause, output, cache⟩
    | (.ok _, cache) => lines depth config.layout log.lines ⟨0, 0⟩ output cache

end Run

end Logline.Command
