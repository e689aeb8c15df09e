/-
The life of a line parser, and of the record that it works on.

Whoever holds a line parser can preset keys, activate it, run code on its
current surface and have it parse, in any order and as often as they like.
`after` is the parser that a list of such actions leaves behind.

One parser works on several records, one after the other: a parse that
takes place ends the life of its record, since it hands it out as data or
starts over from the presets. `Life` keeps, beside the parser, the record
that the present one began as and every moment of it since. What a parse
makes of a record depends on all of them, those of earlier activations and
of earlier runs on the current surface too.

The moments of a record lead from its beginning to where it is, and at its
beginning it was neither stopped nor had it a violation to remember: every
life is `Told`.
-/
import Logline.Proofs.Parser.Evaluation

namespace Logline

namespace LineParser

-- =========================================================== actions

/-- What can be done with a line parser. Actions that run code say how
deeply calls may be nested. -/
inductive Action where
  | preset (name : String) (value : Value)
  | activate (depth : Nat)
  | withCurrent (depth : Nat) (code : Code)
  | parse (depth : Nat)

/-- The parser after an action. -/
def act (p : LineParser) : Action → LineParser
  | .preset name value => p.preset name value
  | .activate depth => (p.activate depth).parser
  | .withCurrent depth code => (p.withCurrent depth code).parser
  | .parse depth => (p.parse depth).parser

/-- A run on the current surface is an action on the record alone. -/
theorem act_withCurrent (depth : Nat) (p : LineParser) (code : Code) :
    ∃ record, p.act (.withCurrent depth code)
      = { p with record := record } :=
  withCurrent_eq depth p code

/-- The parser after a list of actions. -/
def after (p : LineParser) (actions : List Action) : LineParser :=
  actions.foldl act p

/-- What every action keeps up holds after all of them. -/
theorem after_invariant {holds : LineParser → Prop}
    (step : ∀ p action, holds p → holds (p.act action)) {p : LineParser}
    (h : holds p) (actions : List Action) : holds (p.after actions) := by
  unfold after
  induction actions generalizing p with
  | nil => exact h
  | cons action rest ih => exact ih (step p action h)

/-- The preset that an action makes. -/
def Action.preset? : Action → Option (String × Value)
  | preset name value => some (name, value)
  | _ => none

/-- The presets that actions make, in order. -/
def presetsOf (actions : List Action) : List (String × Value) :=
  actions.filterMap Action.preset?

/-- The presets as a parser keeps them. -/
def keyed (presets : List (String × Value)) : List (Key × Value) :=
  presets.map fun preset => (.symbol preset.1, preset.2)

/-- Actions make presets and otherwise leave alone what makes the parser
the one it is. -/
theorem act_identity {kind : ParserKind} {line : String}
    {options : Options} {presets : List (Key × Value)} {p : LineParser}
    (h : p.Identity kind line options presets) (action : Action) :
    (p.act action).Identity kind line options
      (presets ++ keyed action.preset?.toList) := by
  have hsame : ∀ q : LineParser, q.Identity kind line options presets →
      q.Identity kind line options (presets ++ keyed []) := by
    intro q hq
    have hnil : presets ++ keyed [] = presets := List.append_nil _
    rw [hnil]
    exact hq
  cases action with
  | preset name value =>
      refine ⟨h.kind, h.line, h.options, ?_⟩
      unfold act preset
      rw [h.presets]
      rfl
  | activate depth => exact hsame _ (h.of_keeps (activate_keeps depth p))
  | withCurrent depth code =>
      obtain ⟨record, hact⟩ := act_withCurrent depth p code
      rw [hact]
      exact hsame _ ⟨h.kind, h.line, h.options, h.presets⟩
  | parse depth => exact hsame _ ((parse_parsing depth p).identity h)

/-- A parser knows which it is and what was preset, whatever was done. -/
theorem after_identity {kind : ParserKind} {line : String}
    {options : Options} {presets : List (Key × Value)} {p : LineParser}
    (h : p.Identity kind line options presets) (actions : List Action) :
    (p.after actions).Identity kind line options
      (presets ++ keyed (presetsOf actions)) := by
  unfold after
  induction actions generalizing p presets with
  | nil =>
      have hnil : presets ++ keyed (presetsOf []) = presets :=
        List.append_nil _
      rw [hnil]
      exact h
  | cons action rest ih =>
      have hcons : presets ++ keyed (presetsOf (action :: rest))
          = (presets ++ keyed action.preset?.toList)
            ++ keyed (presetsOf rest) := by
        unfold presetsOf keyed
        rw [List.filterMap_cons, List.append_assoc, ← List.map_append]
        cases action.preset? <;> rfl
      rw [hcons]
      exact ih (act_identity h action)

/-- What is done with a new parser leaves it one of its kind. -/
theorem make_identity (kind : ParserKind) (line : String)
    (options : Options) (actions : List Action) :
    ((make kind line options).after actions).Identity kind line options
      (keyed (presetsOf actions)) := by
  have hmade : (make kind line options).Identity kind line options [] :=
    ⟨rfl, rfl, rfl, rfl⟩
  exact after_identity hmade actions

/-- The steps of an action. -/
def steps (p : LineParser) : Action → List Step
  | .preset _ _ => []
  | .activate depth => p.activationSteps depth
  | .withCurrent _ code => p.currentSteps code
  | .parse depth => p.parseSteps depth

/-- What an action asks of the record that it finds. -/
def asked (p : LineParser) : Action → List Moment
  | .preset name value => [⟨.wrote (.symbol name) value, p.record⟩]
  | .activate depth => momentsOf depth (p.steps (.activate depth))
  | .withCurrent depth code =>
    momentsOf depth (p.steps (.withCurrent depth code))
  | .parse depth => momentsOf depth (p.steps (.parse depth))

/-- A parse that takes place asks what its evaluation does. -/
theorem asked_parse {p : LineParser} (h : p.data = none) (depth : Nat) :
    p.asked (.parse depth) = momentsOf depth (p.evaluationSteps depth) := by
  simp only [asked, steps, parseSteps, h]

/-- Whether an action ends the life of the record: a parse does, unless the
line has been parsed already. -/
def replaces (p : LineParser) : Action → Bool
  | .parse _ => p.data.isNone
  | _ => false

/-- Other actions leave the record at the end of what they asked of it. -/
theorem asked_path {p : LineParser} {action : Action}
    (h : p.replaces action = false) :
    Path p.record (p.asked action) (p.act action).record := by
  cases action with
  | preset name value => exact .single p.record (.wrote (.symbol name) value)
  | activate depth => exact activate_path depth p
  | withCurrent depth code => exact withCurrent_path depth p code
  | parse depth =>
      obtain ⟨data, hdata⟩ := Option.isSome_iff_exists.mp
        (Option.isNone_eq_false_iff.mp h)
      unfold asked act steps parseSteps parse
      rw [hdata]
      exact .here _

end LineParser

-- ============================================================= lives

/-- A parser, the record that its present one began as, and the moments of
that record since. -/
structure Life where
  parser : LineParser
  start : Record
  moments : List Moment

namespace Life

open LineParser

/-- The life of a parser that works on a record of which nothing has been
asked yet. -/
def fresh (p : LineParser) : Life := ⟨p, p.record, []⟩

/-- The life after one more action. -/
def next (life : Life) (action : Action) : Life :=
  if life.parser.replaces action then fresh (life.parser.act action)
  else
    ⟨life.parser.act action, life.start,
      life.moments ++ life.parser.asked action⟩

/-- The life after a list of actions. -/
def after (life : Life) (actions : List Action) : Life :=
  actions.foldl next life

/-- The life of a new parser after a list of actions. -/
def of (kind : ParserKind) (line : String) (options : Options)
    (actions : List Action) : Life :=
  (fresh (make kind line options)).after actions

/-- What holds of every life: the moments lead from the beginning of the
record to where it is, and at the beginning it was clean. -/
structure Told (life : Life) : Prop where
  path : Path life.start life.moments life.parser.record
  violation : life.start.violation = none
  stopped : life.start.stopped = false

/-- An action goes on with the story. -/
theorem Told.next {life : Life} (h : life.Told) (action : Action) :
    (life.next action).Told := by
  unfold Life.next
  cases hr : life.parser.replaces action with
  | false => exact ⟨h.path.append (asked_path hr), h.violation, h.stopped⟩
  | true =>
      cases action with
      | parse depth =>
          have hclean := (parse_parsing depth life.parser).clean
            (Option.isNone_iff_eq_none.mp hr)
          exact ⟨.here _, hclean.1, hclean.2⟩
      | preset name value => cases hr
      | activate depth => cases hr
      | withCurrent depth code => cases hr

theorem Told.after {life : Life} (h : life.Told) (actions : List Action) :
    (life.after actions).Told := by
  unfold Life.after
  induction actions generalizing life with
  | nil => exact h
  | cons action rest ih => exact ih (h.next action)

/-- What a parse hands out is the data of a record that remembers no
violation, at the end of all that was asked of it. -/
theorem Told.of_parsed {life : Life} (h : life.Told) {depth : Nat}
    {data : Data} (unparsed : life.parser.data = none)
    (parsed : (life.parser.parse depth).outcome = .ok data) :
    ∃ record,
      Path life.start (life.moments ++ life.parser.asked (.parse depth))
        record
      ∧ record.violation = none ∧ data = .ofRecord record := by
  rw [parse_outcome unparsed] at parsed
  obtain ⟨record, hpath, hclean, hdata⟩ :=
    ((evaluate_evaluation depth life.parser).of_ok parsed).1
  rw [asked_parse unparsed]
  exact ⟨record, h.path.append hpath, hclean, hdata⟩

/-- Where activation and rules run to their ends, the first call that was
refused since the beginning is what the parse fails with. -/
theorem Told.parse_refused {life : Life} (h : life.Told) {depth : Nat}
    {operation : String} {q s : LineParser} {journal journal' : List Entry}
    {result : Option Value} (unparsed : life.parser.data = none)
    (refused : firstRefused?
      (life.moments ++ life.parser.asked (.parse depth)) = some operation)
    (active : life.parser.activate depth = ⟨.ok (), q, journal⟩)
    (rules : q.runCode depth q.kind.rules.code journal
      = ⟨.ok result, s, journal'⟩) :
    (life.parser.parse depth).outcome = .failed (.capability operation) := by
  have hpath : Path life.start
      (life.moments ++ life.parser.asked (.parse depth)) s.record := by
    have hsteps : life.parser.evaluationSteps depth
        = life.parser.activationSteps depth
          ++ q.codeSteps q.kind.rules.code journal := by
      unfold evaluationSteps
      rw [active]
    rw [asked_parse unparsed, hsteps]
    exact h.path.append (rules_path active rules)
  have hviolation : s.record.violation = some operation := by
    rw [hpath.violation, h.violation, refused]
    rfl
  rw [parse_outcome unparsed]
  exact evaluate_violated active rules hviolation

/-- Every life is told from a clean beginning. -/
theorem of_told (kind : ParserKind) (line : String) (options : Options)
    (actions : List Action) : (of kind line options actions).Told :=
  Told.after ⟨.here _, rfl, rfl⟩ actions

end Life

end Logline
