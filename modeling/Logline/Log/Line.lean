/-
Lines of a log. A line is parsed when its data is first asked for, and the data is kept; a parse
that fails is not. Lines are compared by their numbers and by nothing else.
-/
import Logline.Parser.LineParser

namespace Logline

namespace Outcome

/-- A result that can fail. -/
def ofExcept {α : Type} : Except Error α → Outcome α
  | .ok a => .ok a
  | .error cause => .failed cause

/-- Goes on with the result. -/
def bind {α β : Type} (o : Outcome α) (next : α → Outcome β) : Outcome β :=
  match o with
  | .ok a => next a
  | .failed cause => .failed cause
  | .exhausted => .exhausted

def map {α β : Type} (f : α → β) (o : Outcome α) : Outcome β := o.bind fun a => .ok (f a)

end Outcome

/-- A line of a log. -/
structure Line where
  /-- Its place in the log, from 0. -/
  number : Nat
  /-- Its text, with the line feed that ends it. -/
  text : String
  options : Options
  data : Option Data

namespace Line

/-- A line that has not been parsed. -/
def make (text : String) (number : Nat) (options : Options) : Line := ⟨number, text, options, none⟩

def isLoaded (l : Line) : Bool := l.data.isSome

/-- What an access to a line comes to: its outcome, the line and the cache after it. -/
structure Reply (α : Type) where
  outcome : Outcome α
  line : Line
  cache : ParserCache

/-- The data of the line. -/
def load (depth : Nat) (l : Line) (cache : ParserCache) : Reply Data :=
  match l.data with
  | some data => ⟨.ok data, l, cache⟩
  | none =>
    match LineParser.ofOptions l.text l.options cache with
    | (.error cause, cache) => ⟨.failed cause, l, cache⟩
    | (.ok parser, cache) =>
      match (parser.parse depth).outcome with
      | .ok data => ⟨.ok data, { l with data := some data }, cache⟩
      | outcome => ⟨outcome, l, cache⟩

/-- Asks the data of the line for something. -/
def ask {α : Type} (depth : Nat) (l : Line) (cache : ParserCache)
    (question : Data → Except Error α) : Reply α :=
  let reply := l.load depth cache
  ⟨reply.outcome.bind fun data => .ofExcept (question data), reply.line, reply.cache⟩

def get (depth : Nat) (l : Line) (cache : ParserCache) (key : Key) : Reply (Option Value) :=
  l.ask depth cache fun data => .ok (data.get? key)

/-- Reads and tests on the data of the line. -/
def attr (depth : Nat) (l : Line) (cache : ParserCache) (name : String) (args : List Value) :
    Reply Value :=
  l.ask depth cache fun data => data.attr name args

/-- Refused, whatever the key. -/
def set (_ : Line) (_ : Key) (_ : Value) : Except Error Unit := .error (.modification .line)

def compare (a b : Line) : Ordering := Ord.compare a.number b.number

/-- Lines in the order of their numbers; lines of one number keep their order. -/
def sort (lines : List Line) : List Line := lines.mergeSort fun a b => a.number ≤ b.number

def debug (l : Line) : String := "#" ++ toString l.number ++ " " ++ Text.quoted l.text

end Line

end Logline
