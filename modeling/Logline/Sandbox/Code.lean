/-
Sandboxed code: rule blocks, operations and the setups of addins.

Code does not get hold of a record. It asks for things, one at a time, and goes on with the
answer; so it is a tree, with a request at each node and a branch for each answer. What it can ask
for is fixed here: to look at what it may see, to write, remove or stop, and to call an operation
by name. Whatever else code does it computes between two requests.

Code that goes wrong either handles the error itself, where a request answers with one, or fails.
-/
import Logline.Record

namespace Logline

/-- The settings of a parser, which code can read. -/
abbrev Settings := OrderedMap String String

-- ========================================================= journals

/-- What a step of scripted code came to. -/
inductive Answer where
  | absent
  | value (v : Value)
  | bool (b : Bool)
  | text (s : String)
  | table (t : Table)
  | failure (cause : Error)

/-- A line of a journal: a step, and what it came to. -/
structure Entry where
  step : String
  answer : Answer

-- ============================================================= code

/-- What code sees when it looks. -/
structure View where
  data : Table
  stopped : Bool
  line : String
  settings : Settings
  /-- Which operations it may call. -/
  allows : String → Bool

/-- Code, by its next request. -/
inductive Code where
  /-- Ends, with a result or without. -/
  | done (result : Option Value)
  /-- Ends in an error. -/
  | fail (cause : Error)
  | look (next : View → Code)
  | set (key : Key) (value : Value) (next : Code)
  /-- Removes a key and goes on with what was removed. -/
  | del (key : Key) (next : Option Value → Code)
  | stop (next : Code)
  /-- Calls an operation and goes on with its result or its error. -/
  | call (operation : String) (args : List Value) (next : Except Error Value → Code)
  /-- Writes a line to the journal. -/
  | note (entry : Entry) (next : Code)

namespace Code

instance : Inhabited Code := ⟨done none⟩

/-- Runs further code where this code ends, however it ends. -/
def andThen : Code → (Except Error (Option Value) → Code) → Code
  | done result, k => k (.ok result)
  | fail cause, k => k (.error cause)
  | look next, k => look fun view => andThen (next view) k
  | set key value next, k => set key value (andThen next k)
  | del key next, k => del key fun removed => andThen (next removed) k
  | stop next, k => stop (andThen next k)
  | call operation args next, k => call operation args fun result => andThen (next result) k
  | note entry next, k => note entry (andThen next k)

/-- Goes on with the result, or fails with the error. -/
def orFail {α : Type} (next : α → Code) : Except Error α → Code
  | .ok a => next a
  | .error cause => fail cause

/-- An attribute call on the record: a read or a test looks, a write sets. -/
def attr (name : String) (args : List Value) (next : Except Error Value → Code) : Code :=
  match Attribute.ofCall name args with
  | .error cause => next (.error cause)
  | .ok (.read key) => look fun view => next (.ok (Table.value view.data key))
  | .ok (.test key candidates) =>
    look fun view => next (.ok (.bool (Table.isAny view.data key candidates)))
  | .ok (.write key value) => set key value (next (.ok value))

end Code

end Logline
