/-
What becomes of a line parser that parses.

An evaluation activates the parser, runs the rules on what the activation
left, and then looks at the violation of the record. `Evaluation` lists the
ways in which it goes, and `Parsing` what a parse makes of them. Two facts
are read off the ways:

- an evaluation that succeeds hands out the data of a record at the end of
  the path of its moments, and that record remembers no violation
  (`Evaluation.of_ok`);
- one whose activation and rules ran to their ends fails with the violation
  of the record they left, if there is one (`evaluate_violated`), and that
  record is at the end of the path (`rules_path`).

A run on the current surface is one step or none, and its moments are a
path too (`withCurrent_path`).
-/
import Logline.Proofs.Parser.Steps

namespace Logline.LineParser

-- ============================================================= steps

/-- The steps of `evaluate`. -/
def evaluationSteps (depth : Nat) (p : LineParser) : List Step :=
  p.activationSteps depth ++
    match p.activate depth with
    | ⟨.ok _, p, journal⟩ => p.codeSteps p.kind.rules.code journal
    | _ => []

/-- The steps of `parse`. -/
def parseSteps (depth : Nat) (p : LineParser) : List Step :=
  match p.data with
  | some _ => []
  | none => p.evaluationSteps depth

/-- The steps of `withCurrent`. -/
def currentSteps (p : LineParser) (code : Code) : List Step :=
  match p.data, p.context.current with
  | none, some surface =>
    [.ran ⟨⟨surface, p.line, p.options.settings⟩, code, ⟨p.record, []⟩⟩]
  | _, _ => []

-- ============================================ the ways of an evaluation

/-- The ways in which an evaluation goes: the steps taken, and the reply. -/
inductive Evaluation (depth : Nat) (p : LineParser) :
    List Step → Reply Data → Prop where
  | inactive {q : LineParser} {journal : List Entry} {cause : Error}
      (active : p.activate depth = ⟨.failed cause, q, journal⟩) :
      Evaluation depth p (p.activationSteps depth)
        ⟨.failed cause, q, journal⟩
  | stuck {q : LineParser} {journal : List Entry}
      (active : p.activate depth = ⟨.exhausted, q, journal⟩) :
      Evaluation depth p (p.activationSteps depth) ⟨.exhausted, q, journal⟩
  | failed {q s : LineParser} {journal journal' : List Entry}
      {cause : Error}
      (active : p.activate depth = ⟨.ok (), q, journal⟩)
      (rules : q.runCode depth q.kind.rules.code journal
        = ⟨.failed cause, s, journal'⟩) :
      Evaluation depth p
        (p.activationSteps depth ++ q.codeSteps q.kind.rules.code journal)
        ⟨.failed cause, s, journal'⟩
  | exhausted {q s : LineParser} {journal journal' : List Entry}
      (active : p.activate depth = ⟨.ok (), q, journal⟩)
      (rules : q.runCode depth q.kind.rules.code journal
        = ⟨.exhausted, s, journal'⟩) :
      Evaluation depth p
        (p.activationSteps depth ++ q.codeSteps q.kind.rules.code journal)
        ⟨.exhausted, s, journal'⟩
  | violated {q s : LineParser} {journal journal' : List Entry}
      {result : Option Value} {operation : String}
      (active : p.activate depth = ⟨.ok (), q, journal⟩)
      (rules : q.runCode depth q.kind.rules.code journal
        = ⟨.ok result, s, journal'⟩)
      (violation : s.record.violation = some operation) :
      Evaluation depth p
        (p.activationSteps depth ++ q.codeSteps q.kind.rules.code journal)
        ⟨.failed (.capability operation), s, journal'⟩
  | finished {q s : LineParser} {journal journal' : List Entry}
      {result : Option Value}
      (active : p.activate depth = ⟨.ok (), q, journal⟩)
      (rules : q.runCode depth q.kind.rules.code journal
        = ⟨.ok result, s, journal'⟩)
      (violation : s.record.violation = none) :
      Evaluation depth p
        (p.activationSteps depth ++ q.codeSteps q.kind.rules.code journal)
        ⟨.ok (.ofRecord s.record), { s with record := .empty }, journal'⟩

/-- An evaluation goes one of its ways. -/
theorem evaluate_evaluation (depth : Nat) (p : LineParser) :
    Evaluation depth p (p.evaluationSteps depth) (p.evaluate depth) := by
  unfold evaluationSteps evaluate
  rcases ha : p.activate depth with ⟨_ | _ | _, q, journal⟩
  · dsimp only
    rcases hr : q.runCode depth q.kind.rules.code journal with
      ⟨_ | _ | _, s, journal'⟩
    · cases hv : s.record.violation with
      | none =>
          simp only [finish, hv]
          exact .finished ha hr hv
      | some operation =>
          simp only [finish, hv]
          exact .violated ha hr hv
    · exact .failed ha hr
    · exact .exhausted ha hr
  · simp only [List.append_nil]
    exact .inactive ha
  · simp only [List.append_nil]
    exact .stuck ha

-- ================================================= what an evaluation says

section

variable {depth : Nat} {p q s : LineParser} {steps : List Step}
  {journal journal' : List Entry} {result : Option Value}

/-- Activating and running the rules. -/
theorem rules_keeps {outcome : Outcome (Option Value)}
    (active : p.activate depth = ⟨.ok (), q, journal⟩)
    (rules : q.runCode depth q.kind.rules.code journal
      = ⟨outcome, s, journal'⟩) : Keeps p s := by
  have hactive := activate_keeps depth p
  rw [active] at hactive
  exact hactive.trans (runCode_keeps rules)

theorem Evaluation.keeps {reply : Reply Data}
    (h : Evaluation depth p steps reply) : Keeps p reply.parser := by
  have hactive := activate_keeps depth p
  cases h with
  | inactive active =>
      rw [active] at hactive
      exact hactive
  | stuck active =>
      rw [active] at hactive
      exact hactive
  | failed active rules => exact rules_keeps active rules
  | exhausted active rules => exact rules_keeps active rules
  | violated active rules _ => exact rules_keeps active rules
  | finished active rules _ =>
      have hs := rules_keeps active rules
      exact ⟨hs.kind, hs.line, hs.options, hs.presets, hs.data⟩

/-- The moments of activation and rules are one path. -/
theorem rules_path (active : p.activate depth = ⟨.ok (), q, journal⟩)
    (rules : q.runCode depth q.kind.rules.code journal
      = ⟨.ok result, s, journal'⟩) :
    Path p.record (momentsOf depth
      (p.activationSteps depth ++ q.codeSteps q.kind.rules.code journal))
      s.record := by
  have hactive := activate_path depth p
  rw [active] at hactive
  rw [momentsOf_append]
  exact hactive.append (runCode_path rules)

/-- A success hands out a record without violation, from the end of the
path, and leaves an empty one behind. -/
theorem Evaluation.of_ok {reply : Reply Data} {data : Data}
    (h : Evaluation depth p steps reply) (hok : reply.outcome = .ok data) :
    (∃ record, Path p.record (momentsOf depth steps) record
      ∧ record.violation = none ∧ data = .ofRecord record)
      ∧ reply.parser.record = .empty := by
  cases h with
  | finished active rules violation =>
      cases hok
      exact ⟨⟨_, rules_path active rules, violation, rfl⟩, rfl⟩
  | inactive active => cases hok
  | stuck active => cases hok
  | failed active rules => cases hok
  | exhausted active rules => cases hok
  | violated active rules violation => cases hok

/-- Where activation and rules ran to their ends, a violation of the record
they left is what the evaluation fails with. -/
theorem evaluate_violated
    (active : p.activate depth = ⟨.ok (), q, journal⟩)
    (rules : q.runCode depth q.kind.rules.code journal
      = ⟨.ok result, s, journal'⟩) {operation : String}
    (violation : s.record.violation = some operation) :
    (p.evaluate depth).outcome = .failed (.capability operation) := by
  unfold evaluate
  rw [active]
  dsimp only
  rw [rules]
  simp only [finish, violation]

end

-- ============================================================ parses

/-- The ways in which a parse goes: the line was parsed before, or an
evaluation succeeds, or the parser starts over after one that does not. -/
inductive Parsing (depth : Nat) (p : LineParser) :
    List Step → Reply Data → Prop where
  | known {data : Data} (known : p.data = some data) :
      Parsing depth p [] ⟨.ok data, p, []⟩
  | parsed {q : LineParser} {steps : List Step} {data : Data}
      {journal : List Entry} (unknown : p.data = none)
      (evaluation : Evaluation depth p steps ⟨.ok data, q, journal⟩) :
      Parsing depth p steps ⟨.ok data, { q with data := some data }, journal⟩
  | restarted {q : LineParser} {steps : List Step} {outcome : Outcome Data}
      {journal : List Entry} (unknown : p.data = none)
      (evaluation : Evaluation depth p steps ⟨outcome, q, journal⟩)
      (unparsed : ∀ data, outcome ≠ .ok data) :
      Parsing depth p steps ⟨outcome, q.reset, journal⟩

/-- A parse goes one of its ways. -/
theorem parse_parsing (depth : Nat) (p : LineParser) :
    Parsing depth p (p.parseSteps depth) (p.parse depth) := by
  unfold parseSteps parse
  cases hd : p.data with
  | some data => exact .known hd
  | none =>
      have hev := evaluate_evaluation depth p
      rcases he : p.evaluate depth with ⟨data | cause | _, q, journal⟩
      · rw [he] at hev
        exact .parsed hd hev
      · rw [he] at hev
        exact .restarted hd hev nofun
      · rw [he] at hev
        exact .restarted hd hev nofun

section

variable {depth : Nat} {p : LineParser} {steps : List Step}
  {reply : Reply Data}

/-- A parse leaves alone what makes the parser the one it is. -/
theorem Parsing.identity {kind : ParserKind} {line : String}
    {options : Options} {presets : List (Key × Value)}
    (h : Parsing depth p steps reply)
    (hp : p.Identity kind line options presets) :
    reply.parser.Identity kind line options presets := by
  cases h with
  | known known => exact hp
  | parsed unknown evaluation =>
      have hq := hp.of_keeps evaluation.keeps
      exact ⟨hq.kind, hq.line, hq.options, hq.presets⟩
  | restarted unknown evaluation unparsed =>
      have hq := hp.of_keeps evaluation.keeps
      exact ⟨hq.kind, hq.line, hq.options, hq.presets⟩

/-- A parse leaves data behind just where it succeeds. -/
theorem Parsing.data (h : Parsing depth p steps reply) :
    reply.parser.data
      = match reply.outcome with
        | .ok data => some data
        | _ => none := by
  cases h with
  | known known => exact known
  | parsed unknown evaluation => rfl
  | @restarted q steps outcome journal unknown evaluation unparsed =>
      have hnone : q.data = none := evaluation.keeps.data.trans unknown
      cases outcome with
      | ok data => exact absurd rfl (unparsed data)
      | failed cause => exact hnone
      | exhausted => exact hnone

/-- A parse hands its record out or starts over; either way the parser
works on a clean record from then on. -/
theorem Parsing.clean (h : Parsing depth p steps reply)
    (unknown : p.data = none) :
    reply.parser.record.violation = none
      ∧ reply.parser.record.stopped = false := by
  cases h with
  | known known =>
      rw [unknown] at known
      cases known
  | @parsed q steps data journal _ evaluation =>
      have hempty : q.record = .empty := (evaluation.of_ok rfl).2
      dsimp only
      rw [hempty]
      exact ⟨rfl, rfl⟩
  | restarted _ evaluation unparsed => exact ⟨rfl, rfl⟩

end

/-- Where there is no data yet a parse comes to what an evaluation does. -/
theorem parse_outcome {p : LineParser} (h : p.data = none) (depth : Nat) :
    (p.parse depth).outcome = (p.evaluate depth).outcome := by
  unfold parse
  rw [h]
  rcases p.evaluate depth with ⟨_ | _ | _, q, journal⟩ <;> rfl

-- ============================================== runs on the current surface

/-- A run on the current surface changes the record and nothing else. -/
theorem withCurrent_eq (depth : Nat) (p : LineParser) (code : Code) :
    ∃ record, (p.withCurrent depth code).parser
      = { p with record := record } := by
  unfold withCurrent
  split
  · exact ⟨p.record, rfl⟩
  · dsimp only
    rcases p.context.runCurrent depth p.line p.options.settings code
      ⟨p.record, []⟩ with ⟨_ | _ | _ | _, progress⟩
    all_goals exact ⟨progress.record, rfl⟩

/-- The moments of a run on the current surface are a path. -/
theorem withCurrent_path (depth : Nat) (p : LineParser) (code : Code) :
    Path p.record (momentsOf depth (p.currentSteps code))
      (p.withCurrent depth code).parser.record := by
  unfold withCurrent currentSteps Context.runCurrent
  cases p.data with
  | some data => exact .here _
  | none =>
      cases p.context.current with
      | none => exact .here _
      | some surface =>
          have hpath := code.trace_path depth
            ⟨surface, p.line, p.options.settings⟩ ⟨p.record, []⟩
          dsimp only
          rcases hr : code.run depth ⟨surface, p.line, p.options.settings⟩
            ⟨p.record, []⟩ with ⟨_ | _ | _, progress⟩
          all_goals
            rw [hr] at hpath
            simpa [momentsOf, Step.moments, Run.moments] using hpath

end Logline.LineParser
