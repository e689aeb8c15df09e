/-
What sandboxed code may call.

A receiver carries operations out. A surface binds names of operations to receivers, and it can
only be made where every receiver supports the operation that it is bound for. A surface never
changes; another set of bindings makes another surface, with a higher version.
-/
import Logline.Sandbox.Code

namespace Logline

-- ======================================================== receivers

/-- Something that operations can be forwarded to. It may support more of them than code gets to
call. -/
structure Receiver where
  /-- Its name in diagnostics. -/
  label : String
  respondsTo : String → Bool
  /-- The code of an operation for its arguments. -/
  invoke : String → List Value → Code

/-- Named operations, each with its code. -/
structure Operations where
  label : String
  table : OrderedMap String (List Value → Code)

namespace Operations

/-- The operations in the order of their names. -/
def names (o : Operations) : List String := o.table.keys.mergeSort (· ≤ ·)

/-- The operations as a receiver. -/
def receiver (o : Operations) : Receiver where
  label := o.label
  respondsTo := o.table.contains
  invoke operation args :=
    match o.table.find? operation with
    | some code => code args
    | none => .fail (.capability operation)

end Operations

-- ======================================================= debug texts

/-- A list of texts as diagnostics show it. -/
def debugTexts (texts : List String) : String :=
  "[" ++ Value.commaSeparated (texts.map Text.quoted) ++ "]"

namespace Operations

def debug (o : Operations) : String :=
  "Operations \x7b label: " ++ Text.quoted o.label ++ ", operations: " ++ debugTexts o.names ++
    " \x7d"

end Operations

-- ========================================================= surfaces

/-- Receivers by the operation that they are bound for. -/
abbrev Bindings := OrderedMap String Receiver

/-- The bindings that code runs with. -/
structure Surface where
  bindings : Bindings
  version : Nat

namespace Surface

def empty : Surface := ⟨.empty, 0⟩

/-- The first binding whose receiver does not support its operation. -/
def firstUnsupported? (bindings : Bindings) : Option (String × Receiver) :=
  bindings.entries.find? fun b => !b.2.respondsTo b.1

/-- A surface of bindings, all of them supported. -/
def compile (bindings : Bindings) (version : Nat) : Except Error Surface :=
  match firstUnsupported? bindings with
  | some (operation, receiver) =>
    .error (.configuration (.unsupportedBinding operation receiver.label))
  | none => .ok ⟨bindings, version⟩

/-- The receiver that an operation is bound to. -/
def receiver? (s : Surface) (operation : String) : Option Receiver := s.bindings.find? operation

/-- The receiver that an operation is bound to, or the error of a call to it. -/
def receiver (s : Surface) (operation : String) : Except Error Receiver :=
  match s.receiver? operation with
  | some r => .ok r
  | none => .error (.capability operation)

def allows (s : Surface) (operation : String) : Bool := s.bindings.contains operation

/-- The operations in the order of their names. -/
def operations (s : Surface) : List String := s.bindings.keys.mergeSort (· ≤ ·)

def debug (s : Surface) : String :=
  "Surface \x7b version: " ++ toString s.version ++ ", operations: " ++ debugTexts s.operations ++
    " \x7d"

end Surface

end Logline
