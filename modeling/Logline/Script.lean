/-
Scripted code: operations, rule blocks and setups that are put together from ready-made steps.

A step is code that is still missing what follows it. Most steps write to the journal what they
came to, after whatever was written while they ran; a step that fails writes nothing, and its
error ends the script. The steps that try something note its error instead and go on.
-/
import Logline.RuleSet

namespace Logline

namespace Script

-- ====================================================== expressions

/-- What a script was started with: the captures of a match, or the arguments of an operation. -/
structure Inputs where
  captures : Option Table
  args : List Value

def Inputs.none : Inputs := ⟨Option.none, []⟩

/-- An expression: code that goes on with a value. -/
abbrev Expr := Inputs → (Value → Code) → Code

namespace Expr

def literal (value : Value) : Expr := fun _ next => next value

/-- The value of a field, `nil` where there is none. -/
def field (key : Key) : Expr := fun _ next => .look fun view => next (Table.value view.data key)

/-- The value of a group, `nil` outside a match. -/
def capture (key : Key) : Expr := fun inputs next =>
  next ((inputs.captures.map (Table.value · key)).getD .nil)

/-- All groups as a map, `nil` outside a match. -/
def captures : Expr := fun inputs next =>
  next ((inputs.captures.map Table.toValue).getD .nil)

/-- An argument, `nil` where there is none. -/
def arg (i : Nat) : Expr := fun inputs next => next ((inputs.args[i]?).getD .nil)

/-- The value under a key of an argument that is a map, `nil` for any other. -/
def argField (i : Nat) (key : Key) : Expr := fun inputs next =>
  match inputs.args[i]? with
  | some (.map entries) => next (Table.value (.ofList entries) key)
  | _ => next .nil

def argCount : Expr := fun inputs next => next (.int inputs.args.length)

/-- A setting, `nil` where there is none. -/
def setting (name : String) : Expr := fun _ next =>
  .look fun view => next (((view.settings.find? name).map .str).getD .nil)

def line : Expr := fun _ next => .look fun view => next (.str view.line)

/-- The values of several expressions, from the first one on. -/
def all : List Expr → Inputs → (List Value → Code) → Code
  | [], _, next => next []
  | e :: rest, inputs, next =>
    e inputs fun value => all rest inputs fun values => next (value :: values)

/-- The result of an operation. -/
def call (operation : String) (args : List Expr) : Expr := fun inputs next =>
  all args inputs fun values => .call operation values (Code.orFail next)

end Expr

-- ============================================================ steps

/-- A step: code for what it was started with and what follows it. -/
abbrev Step := Inputs → Code → Code

/-- A script. -/
abbrev Steps := List Step

/-- Carries steps out, then goes on. -/
def followedBy (steps : Steps) (inputs : Inputs) (next : Code) : Code :=
  steps.foldr (fun step rest => step inputs rest) next

/-- A script as code. Without a step that returns it has no result. -/
def code (steps : Steps) (inputs : Inputs) : Code := followedBy steps inputs (.done none)

/-- A script as a rule block. -/
def block (steps : Steps) : Table → Code := fun captures => code steps ⟨some captures, []⟩

/-- A script as an operation. -/
def operation (steps : Steps) : List Value → Code := fun args => code steps ⟨none, args⟩

/-- Notes what a step came to, then goes on. -/
def noted (step : String) (next : Code) (answer : Answer) : Code := .note ⟨step, answer⟩ next

/-- A value that may be absent. -/
def optionAnswer : Option Value → Answer
  | some value => .value value
  | none => .absent

def textAnswer : Option String → Answer
  | some s => .text s
  | none => .absent

/-- Notes a result, or fails. -/
def orEnd {α : Type} (step : String) (next : Code) (answer : α → Answer) :
    Except Error α → Code
  | .ok a => noted step next (answer a)
  | .error cause => .fail cause

/-- Notes a result or an error. -/
def orNote {α : Type} (step : String) (next : Code) (answer : α → Answer) :
    Except Error α → Code
  | .ok a => noted step next (answer a)
  | .error cause => noted step next (.failure cause)

namespace Step

/-- Writes, and notes what is read back. -/
def set (key : Key) (e : Expr) : Step := fun inputs next =>
  e inputs fun value =>
    .set key value (.look fun view =>
      noted "set" next (optionAnswer (Table.get? view.data key)))

def get (key : Key) : Step := fun _ next =>
  .look fun view => noted "get" next (optionAnswer (Table.get? view.data key))

def getText (key : Key) : Step := fun _ next =>
  .look fun view => noted "get_str" next (textAnswer (Table.text? view.data key))

def value (e : Expr) : Step := fun inputs next =>
  e inputs fun v => noted "value" next (.value v)

def has (key : Key) : Step := fun _ next =>
  .look fun view => noted "has" next (.bool (Table.has view.data key))

def del (key : Key) : Step := fun _ next =>
  .del key fun removed => noted "del" next (optionAnswer removed)

def stop : Step := fun _ next =>
  .stop (.look fun view => noted "stop" next (.bool view.stopped))

def stopped : Step := fun _ next =>
  .look fun view => noted "stopped" next (.bool view.stopped)

def data : Step := fun _ next =>
  .look fun view => noted "data" next (.table view.data)

def line : Step := fun _ next =>
  .look fun view => noted "line" next (.text view.line)

def setting (name : String) : Step := fun _ next =>
  .look fun view => noted "option" next (textAnswer (view.settings.find? name))

def allows (operation : String) : Step := fun _ next =>
  .look fun view => noted "allows" next (.bool (view.allows operation))

def attr (name : String) (args : List Expr) : Step := fun inputs next =>
  Expr.all args inputs fun values => Code.attr name values (orEnd "attr" next .value)

def tryAttr (name : String) (args : List Expr) : Step := fun inputs next =>
  Expr.all args inputs fun values => Code.attr name values (orNote "try_attr" next .value)

def call (operation : String) (args : List Expr) : Step := fun inputs next =>
  Expr.all args inputs fun values => .call operation values (orEnd "call" next .value)

def tryCall (operation : String) (args : List Expr) : Step := fun inputs next =>
  Expr.all args inputs fun values => .call operation values (orNote "try_call" next .value)

/-- Makes a rule and evaluates it. -/
def on (draft : Draft) : Step := fun _ next =>
  match draft.rule with
  | .error cause => .fail cause
  | .ok rule => rule.on (orEnd "on" next .bool)

def tryOn (draft : Draft) : Step := fun _ next =>
  match draft.rule with
  | .error cause => noted "try_on" next (.failure cause)
  | .ok rule => rule.on (orNote "try_on" next .bool)

/-- Runs an operation of a receiver at hand, whether it is exposed or not. -/
def invoke (receiver : Receiver) (operation : String) (args : List Expr) : Step :=
  fun inputs next =>
    Expr.all args inputs fun values =>
      (receiver.invoke operation values).andThen
        (orNote "invoke" next fun result => .value (result.getD .nil))

/-- Notes which branch it takes, then takes it. -/
def branch (condition : Expr) (yes no : Steps) : Step := fun inputs next =>
  condition inputs fun value =>
    noted "if" (followedBy (if value.isTruthy then yes else no) inputs next)
      (.bool value.isTruthy)

/-- Notes whether a key is there, and runs the steps if not. -/
def unlessHas (key : Key) (steps : Steps) : Step := fun inputs next =>
  .look fun view =>
    let has := Table.has view.data key
    noted "unless_has" (followedBy (if has then [] else steps) inputs next) (.bool has)

def fail (cause : Error) : Step := fun _ _ => .fail cause

/-- Ends the script with a result, whatever follows. -/
def result (e : Expr) : Step := fun inputs _ => e inputs fun value => .done (some value)

end Step

end Script

end Logline
