/-
Rule sets: the statements of a parser type, in order. Beside rules there are plain writes, stops,
calls of operations and free code. A rule set is one piece of code, and the first statement that
fails ends it.
-/
import Logline.Rule
import Logline.Sandbox.Surface

namespace Logline

-- ======================================================= statements

/-- A statement of a parser type. -/
inductive Statement where
  | on (rule : Rule)
  | set (key : Key) (value : Value)
  | stop
  /-- Calls an operation for its effects. -/
  | call (operation : String) (args : List Value)
  | run (code : Code)

namespace Statement

def debug : Statement → String
  | .on rule => "On(" ++ Text.quoted rule.pattern.source ++ ")"
  | .set key value => "Set(" ++ key.debug ++ ", " ++ value.debug ++ ")"
  | .stop => "Stop"
  | .call operation args =>
    "Call(" ++ Text.quoted operation ++ ", [" ++
      Value.commaSeparated (args.map Value.debug) ++ "])"
  | .run _ => "Run(..)"

/-- Carries a statement out, then goes on. -/
def code (next : Code) : Statement → Code
  | .on rule => rule.on (Code.orFail fun _ => next)
  | .set key value => .set key value next
  | .stop => .stop next
  | .call operation args => .call operation args (Code.orFail fun _ => next)
  | .run body => body.andThen (Code.orFail fun _ => next)

end Statement

/-- The statements of a parser type. -/
abbrev RuleSet := List Statement

namespace RuleSet

/-- The statements as code. -/
def code (rules : RuleSet) : Code := rules.foldr (fun s next => s.code next) (.done none)

end RuleSet

-- ===================================================== declarations

/-- A declaration of a statement. -/
inductive Declaration where
  /-- A pattern on the line, with pairs. -/
  | on (pattern : String) (pairs : Pairs)
  /-- A pattern on a subject, with pairs. -/
  | onSubject (pattern : String) (subject : Subject) (pairs : Pairs)
  /-- A pattern on the line, with an operation. -/
  | onCall (pattern : String) (operation : String)
  /-- A pattern on the line, with a block. -/
  | onBlock (pattern : String) (block : Table → Code)
  /-- A rule of any shape. -/
  | rule (draft : Draft)
  | set (name : String) (value : Value)
  | stop
  | call (operation : String) (args : List Value)
  | run (code : Code)

namespace Declaration

/-- The statement that a declaration makes. -/
def statement : Declaration → Except Error Statement
  | .on pattern pairs => (Draft.rule ⟨.pattern pattern, .pairs pairs, none⟩).map .on
  | .onSubject pattern subject pairs =>
    (Draft.rule ⟨.mapping (.subject pattern subject :: pairs.map fun p => .pair p.1 p.2),
      .nothing, none⟩).map .on
  | .onCall pattern operation =>
    (Draft.rule ⟨.pattern pattern, .operation operation, none⟩).map .on
  | .onBlock pattern block => (Draft.rule ⟨.pattern pattern, .nothing, some block⟩).map .on
  | .rule draft => draft.rule.map .on
  | .set name value => .ok (.set (.symbol name) value)
  | .stop => .ok .stop
  | .call operation args => .ok (.call operation args)
  | .run code => .ok (.run code)

end Declaration

namespace RuleSet

/-- The statements of declarations up to the first that fails, and its error. -/
def declare : List Declaration → RuleSet × Option Error
  | [] => ([], none)
  | d :: rest =>
    match d.statement with
    | .error cause => ([], some cause)
    | .ok s =>
      let (statements, failure) := declare rest
      (s :: statements, failure)

/-- The statements of declarations none of which fails. -/
def ofDeclarations (declarations : List Declaration) : Except Error RuleSet :=
  match declare declarations with
  | (statements, none) => .ok statements
  | (_, some cause) => .error cause

end RuleSet

end Logline
