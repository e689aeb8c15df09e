/-
Rules. A rule matches a pattern against a subject: the line, a field of the record as it is when
the rule is reached, or a fixed text. When it matches, its delegate takes over, or else its pairs
are written to the record.

A pair is a key with a value, or with a reference to a group of the rule's own match. A pair under
the name `stop` that is true as written stops the record instead, and since a stopped record drops
writes the pairs after it are lost.
-/
import Logline.Pattern
import Logline.Sandbox.Code

namespace Logline

-- ============================================================ pairs

/-- The value of a pair: given, or what a group captured. -/
inductive Pending where
  | literal (value : Value)
  | capture (group : String)

namespace Pending

/-- Whether the value counts as true as it is written; a reference does. -/
def isTruthy : Pending → Bool
  | literal value => value.isTruthy
  | capture _ => true

/-- The value for the captures of a match; `nil` for a group that took no part. -/
def resolve (captures : Table) : Pending → Value
  | literal value => value
  | capture group => Table.value captures (.str group)

end Pending

/-- Pairs in the order in which they are written. -/
abbrev Pairs := List (Key × Pending)

namespace Pairs

/-- The name of the pair that stops the record. -/
def stopName : String := "stop"

/-- A pair under a symbol. -/
def pair (name : String) (value : Pending) : Key × Pending := (.symbol name, value)

/-- The pair that stops. -/
def stopPair : Key × Pending := pair stopName (.literal (.bool true))

/-- Whether a pair stops the record. -/
def stops (p : Key × Pending) : Bool := p.1.name = stopName && p.2.isTruthy

/-- Writes pairs one after the other, then goes on. -/
def write (captures : Table) (next : Code) : Pairs → Code
  | [] => next
  | p :: rest =>
    if stops p then .stop (write captures next rest)
    else .set p.1 (p.2.resolve captures) (write captures next rest)

end Pairs

-- ========================================================= subjects

/-- What a pattern is matched against. -/
inductive Subject where
  | line
  | field (key : Key)
  | text (s : String)

namespace Subject

/-- The text of the subject. A field without text has none. -/
def resolve? (view : View) : Subject → Option String
  | line => some view.line
  | field key => Table.text? view.data key
  | text s => some s

end Subject

-- ============================================================ rules

/-- What takes over when a rule matches. -/
inductive Delegate where
  /-- Code for the captures. -/
  | block (code : Table → Code)
  /-- An operation, which is called with the captures. -/
  | operation (name : String)

namespace Delegate

def debug : Delegate → String
  | block _ => "Block(..)"
  | operation name => "Operation(" ++ Text.quoted name ++ ")"

end Delegate

/-- A rule. -/
structure Rule where
  pattern : Pattern
  subject : Subject
  pairs : Pairs
  delegate : Option Delegate

namespace Rule

/-- What a rule does with the captures of its match; then goes on. -/
def respond (rule : Rule) (captures : Table) (next : Except Error Bool → Code) : Code :=
  match rule.delegate with
  | some (.block code) =>
    (code captures).andThen fun
      | .ok _ => next (.ok true)
      | .error cause => next (.error cause)
  | some (.operation name) =>
    .call name [captures.toValue] fun
      | .ok _ => next (.ok true)
      | .error cause => next (.error cause)
  | none => rule.pairs.write captures (next (.ok true))

/-- Evaluates a rule and goes on with whether it matched. On a stopped record no rule matches. -/
def on (rule : Rule) (next : Except Error Bool → Code) : Code :=
  .look fun view =>
    if view.stopped then next (.ok false)
    else
      match (rule.subject.resolve? view).bind rule.pattern.captures? with
      | none => next (.ok false)
      | some captures => rule.respond captures next

end Rule

-- ==================================================== declarations

/-- An entry of a mapping that is given as the match. -/
inductive MappingEntry where
  | subject (pattern : Pattern) (subject : Subject)
  | pair (key : Key) (value : Pending)

/-- What a rule is to match: a pattern, or a mapping that starts with a pattern and its subject
and goes on with pairs. -/
inductive MatchArg where
  | pattern (p : Pattern)
  | mapping (entries : List MappingEntry)

/-- What is given beside the match. -/
inductive DataArg where
  | nothing
  | pairs (p : Pairs)
  | operation (name : String)

namespace MappingEntry

/-- The pairs of a mapping behind its first entry. -/
def pairs : List MappingEntry → Except Error Pairs
  | [] => .ok []
  | .pair key value :: rest => (pairs rest).map ((key, value) :: ·)
  | .subject pattern _ :: _ => .error (.configuration (.latePattern pattern.source))

end MappingEntry

namespace MatchArg

/-- Pattern, subject and pairs of a match without further pairs. -/
def split : MatchArg → Except Error (Pattern × Subject × Pairs)
  | pattern p => .ok (p, .line, [])
  | mapping (.subject p subject :: rest) =>
    (MappingEntry.pairs rest).map fun pairs => (p, subject, pairs)
  | mapping _ => .error (.configuration .mappingWithoutSubject)

end MatchArg

namespace Rule

/-- The rule that a declaration amounts to. A block takes over before an operation does. -/
def normalize (matchArg : MatchArg) (data : DataArg) (block : Option (Table → Code)) :
    Except Error Rule :=
  match matchArg, data with
  | .pattern p, .pairs pairs => .ok ⟨p, .line, pairs, block.map .block⟩
  | .mapping _, .pairs _ => .error (.configuration .mappingWithPairs)
  | arg, .operation name =>
    arg.split.map fun (p, subject, pairs) =>
      ⟨p, subject, pairs, some ((block.map .block).getD (.operation name))⟩
  | arg, .nothing =>
    arg.split.map fun (p, subject, pairs) => ⟨p, subject, pairs, block.map .block⟩

end Rule

-- =========================================================== drafts

/-- An entry of a mapping whose pattern has not been read. -/
inductive DraftEntry where
  | subject (pattern : String) (subject : Subject)
  | pair (key : Key) (value : Pending)

/-- A match whose patterns have not been read. -/
inductive DraftMatch where
  | pattern (source : String)
  | mapping (entries : List DraftEntry)

namespace DraftEntry

def compile : DraftEntry → Except Error MappingEntry
  | subject pattern s => (Pattern.compile pattern).map (.subject · s)
  | pair key value => .ok (.pair key value)

end DraftEntry

namespace DraftMatch

/-- Reads the patterns, from the first one on. -/
def compile : DraftMatch → Except Error MatchArg
  | pattern source => (Pattern.compile source).map .pattern
  | mapping entries => (entries.mapM DraftEntry.compile).map .mapping

end DraftMatch

/-- A rule as it is declared. -/
structure Draft where
  matchArg : DraftMatch
  data : DataArg
  block : Option (Table → Code)

namespace Draft

/-- The rule: its patterns are read before its shape is looked at. -/
def rule (d : Draft) : Except Error Rule :=
  match d.matchArg.compile with
  | .error cause => .error cause
  | .ok arg => Rule.normalize arg d.data d.block

end Draft

end Logline
