/-
Statements, and the declarations that make them.

A statement is carried out and then what follows it, so a run of a rule set
is followed one statement at a time. For a rule there are two equations: one
without delegate leaves the record that it comes to (`Statement.on_runWith`),
one with a block runs the block where it matches
(`Statement.block_runWith`). Rules and writes do nothing on a stopped record,
and neither does a list of them (`RuleSet.run_of_stopped`).

A declaration whose pattern can be read makes the rule that it names.
-/
import Logline.Proofs.Rule

namespace Logline

section

variable {enter : Code → Progress → Ending × Progress} {scope : Scope}
  {r : Record} {p : Progress} {rule : Rule}

-- ============================================================== rules

/-- Whether a rule matches is a matter of the text of its subject. -/
theorem Rule.match?_of_subject (rule : Rule) (h : r.stopped = false) {text : String}
    (hsubject : rule.subject.resolve? (scope.view r) = some text) :
    rule.match? (scope.view r) = rule.pattern.captures? text := by
  have hgoing : (scope.view r).stopped = false := h
  unfold Rule.match?
  rw [hgoing, if_neg Bool.false_ne_true, hsubject, Option.bind_some]

/-- A rule whose subject has no text does not match. -/
theorem Rule.match?_of_no_subject (rule : Rule)
    (hsubject : rule.subject.resolve? (scope.view r) = none) :
    rule.match? (scope.view r) = none := by
  unfold Rule.match?
  rw [hsubject, Option.bind_none, ite_self]

theorem Rule.applied_of_some {captures : Table}
    (h : rule.match? (scope.view r) = some captures) :
    rule.applied scope r = rule.pairs.merge captures r := by
  unfold Rule.applied
  rw [h]

theorem Rule.applied_of_none (h : rule.match? (scope.view r) = none) :
    rule.applied scope r = r := by
  unfold Rule.applied
  rw [h]

-- ========================================================== statements

namespace Statement

/-- A rule without delegate changes the record and goes on. -/
theorem on_runWith (h : rule.delegate = none) (next : Code) :
    (Statement.code next (.on rule)).runWith enter scope p
      = next.runWith enter scope
          { p with record := rule.applied scope p.record } :=
  Rule.on_runWith h _

/-- A rule with a block runs it where it matches, and goes on unless the
block fails. -/
theorem block_runWith {block : Table → Code}
    (h : rule.delegate = some (.block block)) (next : Code) :
    (Statement.code next (.on rule)).runWith enter scope p
      = match rule.match? (scope.view p.record) with
        | none => next.runWith enter scope p
        | some captures => ((block captures).andThen
            (Code.orFail fun _ => next)).runWith enter scope p := by
  change (rule.on _).runWith enter scope p = _
  unfold Rule.on Rule.match?
  rw [Code.runWith]
  cases (scope.view p.record).stopped with
  | true => rfl
  | false =>
      simp only [Bool.false_eq_true, if_false]
      cases (rule.subject.resolve? (scope.view p.record)).bind
        rule.pattern.captures? with
      | none => rfl
      | some captures =>
          simp only [Rule.respond, h]
          -- the answer that the rule matched is not looked at
          congr 2
          funext result
          cases result <;> rfl

/-- Rules and writes, which do nothing on a stopped record. -/
def Declarative : Statement → Prop
  | .on _ => True
  | .set _ _ => True
  | _ => False

end Statement

theorem RuleSet.run_of_stopped {rules : RuleSet}
    (h : ∀ s ∈ rules, s.Declarative) (hstopped : p.record.stopped = true) :
    (RuleSet.code rules).runWith enter scope p = (.returned none, p) := by
  induction rules with
  | nil => rfl
  | cons s rest ih =>
      have hrest := ih fun s hs => h s (.tail _ hs)
      have hs := h s (.head _)
      cases s with
      | on rule =>
          have hview : (scope.view p.record).stopped = true := hstopped
          change (rule.on _).runWith enter scope p = _
          unfold Rule.on
          rw [Code.runWith, hview]
          exact hrest
      | set key value =>
          have hdrop : p.record.set key value = p.record := if_pos hstopped
          change (RuleSet.code rest).runWith enter scope
            { p with record := p.record.set key value } = _
          rw [hdrop]
          exact hrest
      | _ => cases hs

end

-- ======================================================== declarations

namespace Declaration

variable {source : String} {pattern : Pattern}

theorem statement_on (h : Pattern.compile source = .ok pattern)
    (pairs : Pairs) :
    (on source pairs).statement = .ok (.on ⟨pattern, .line, pairs, none⟩) := by
  simp only [statement, Draft.rule, DraftMatch.compile, h]
  rfl

theorem statement_onBlock (h : Pattern.compile source = .ok pattern)
    (block : Table → Code) :
    (onBlock source block).statement
      = .ok (.on ⟨pattern, .line, [], some (.block block)⟩) := by
  simp only [statement, Draft.rule, DraftMatch.compile, h]
  rfl

theorem compile_pairs (pairs : Pairs) :
    (pairs.map fun p => DraftEntry.pair p.1 p.2).mapM DraftEntry.compile
      = .ok (pairs.map fun p => MappingEntry.pair p.1 p.2) := by
  induction pairs with
  | nil => rfl
  | cons p rest ih =>
      rw [List.map_cons, List.mapM_cons, ih]
      rfl

theorem pairs_map (pairs : Pairs) :
    MappingEntry.pairs (pairs.map fun p => MappingEntry.pair p.1 p.2)
      = .ok pairs := by
  induction pairs with
  | nil => rfl
  | cons p rest ih =>
      rw [List.map_cons, MappingEntry.pairs, ih]
      rfl

theorem statement_onSubject (h : Pattern.compile source = .ok pattern)
    (subject : Subject) (pairs : Pairs) :
    (onSubject source subject pairs).statement
      = .ok (.on ⟨pattern, subject, pairs, none⟩) := by
  have hmatch : (DraftMatch.mapping (.subject source subject
      :: pairs.map fun p => DraftEntry.pair p.1 p.2)).compile
      = .ok (.mapping (.subject pattern subject
          :: pairs.map fun p => MappingEntry.pair p.1 p.2)) := by
    rw [DraftMatch.compile, List.mapM_cons, compile_pairs, DraftEntry.compile,
      h]
    rfl
  simp only [statement, Draft.rule, hmatch, Rule.normalize, MatchArg.split,
    pairs_map]
  rfl

end Declaration

end Logline
