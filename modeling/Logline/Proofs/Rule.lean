/-
What a rule without delegate comes to.

Such a rule is code, and it is reasoned about as what its code does. It
looks once, and on that view depends whether it matches, and with which
captures (`Rule.match?`). Then it writes, and from the record and the
captures follows what it leaves behind (`Pairs.merge`): its pairs up to the
first that stops are written, in order, and nothing behind that one counts.
A run of the rule is a run of what comes after it, on the answer and the
record that these two give (`Rule.on_runWith`), however operations are
entered. So a list of such rules is a fold over the record
(`RuleSet.rules_run`).
-/
import Logline.Proofs.ForeignKeys
import Logline.Proofs.Sandbox.Depth
import Logline.RuleSet

namespace Logline

section

variable {enter : Code → Progress → Ending × Progress} {scope : Scope}
  {captures : Table} {r s : Record} {p : Progress}

-- ============================================================ records

/-- A stopped record drops a list of writes. -/
theorem Record.setAll_of_stopped (h : r.stopped = true)
    (writes : List (Key × Value)) : r.setAll writes = r := by
  unfold setAll
  induction writes with
  | nil => rfl
  | cons w rest ih =>
      have hdrop : r.set w.1 w.2 = r := if_pos h
      rw [List.foldl_cons, hdrop]
      exact ih

theorem Record.stop_of_stopped (h : r.stopped = true) : r.stop = r := by
  obtain ⟨data, stopped, violation⟩ := r
  cases h
  rfl

-- ============================================================== pairs

namespace Pairs

variable {pair : Key × Pending} {pairs rest : Pairs}

/-- What pairs write: those before the first that stops, each with the value
that it has for the captures. -/
def writes (captures : Table) (pairs : Pairs) : List (Key × Value) :=
  (pairs.takeWhile fun pair => !stops pair).map fun pair =>
    (pair.1, pair.2.resolve captures)

/-- The record after the pairs: written to, and stopped if a pair stops. -/
def merge (captures : Table) (pairs : Pairs) (r : Record) : Record :=
  if pairs.any stops then (r.setAll (writes captures pairs)).stop
  else r.setAll (writes captures pairs)

theorem merge_cons_of_stops (h : stops pair = true) :
    merge captures (pair :: rest) r = r.stop := by
  unfold merge writes
  rw [List.any_cons, h, Bool.true_or, if_pos rfl, List.takeWhile_cons, h]
  rfl

theorem merge_cons_of_not_stops (h : stops pair = false) :
    merge captures (pair :: rest) r
      = merge captures rest (r.set pair.1 (pair.2.resolve captures)) := by
  unfold merge writes
  rw [List.any_cons, h, Bool.false_or, List.takeWhile_cons, h]
  rfl

/-- On a stopped record pairs come to nothing. -/
theorem merge_of_stopped (h : r.stopped = true) :
    merge captures pairs r = r := by
  unfold merge
  rw [Record.setAll_of_stopped h, Record.stop_of_stopped h]
  exact ite_self r

/-- Writing pairs merges them. -/
theorem write_runWith (next : Code) (pairs : Pairs) :
    (write captures next pairs).runWith enter scope p
      = next.runWith enter scope
          { p with record := merge captures pairs p.record } := by
  induction pairs generalizing p with
  | nil => rfl
  | cons pair rest ih =>
      unfold write
      cases hs : stops pair with
      | true =>
          -- what the pairs behind a stop write is dropped
          rw [if_pos rfl, Code.runWith, ih, merge_of_stopped rfl,
            merge_cons_of_stops hs]
      | false =>
          rw [if_neg Bool.false_ne_true, Code.runWith, ih,
            merge_cons_of_not_stops hs]

/-- What is written is written under a key of the pairs. -/
theorem key_of_mem_writes {w : Key × Value}
    (h : w ∈ writes captures pairs) : ∃ pair ∈ pairs, pair.1 = w.1 := by
  obtain ⟨pair, hpair, rfl⟩ := List.mem_map.mp h
  exact ⟨pair, (List.takeWhile_sublist _).subset hpair, rfl⟩

end Pairs

-- ============================================================== rules

/-- The keys that a subject is read under. -/
def Subject.reads : Subject → List Key
  | .field key => [key]
  | _ => []

/-- Besides the line, a subject depends on the forms of these keys alone. -/
theorem Subject.resolve?_congr {subject : Subject}
    (h : ∀ key ∈ subject.reads, ∀ probe ∈ Table.probes key,
      r.data.find? probe = s.data.find? probe) :
    subject.resolve? (scope.view r) = subject.resolve? (scope.view s) := by
  cases subject with
  | line => rfl
  | text text => rfl
  | field key =>
      have hread : Table.get? r.data key = Table.get? s.data key :=
        Table.get?_congr (h key (.head _))
      exact congrArg (·.bind Value.text?) hread

namespace Rule

/-- The captures with which a rule matches. -/
def match? (rule : Rule) (view : View) : Option Table :=
  if view.stopped then none
  else (rule.subject.resolve? view).bind rule.pattern.captures?

/-- The record after a rule without delegate. -/
def applied (rule : Rule) (scope : Scope) (r : Record) : Record :=
  match rule.match? (scope.view r) with
  | none => r
  | some captures => rule.pairs.merge captures r

variable {rule : Rule}

/-- A rule without delegate answers whether it matches and leaves the record
that follows. -/
theorem on_runWith (h : rule.delegate = none)
    (next : Except Error Bool → Code) :
    (rule.on next).runWith enter scope p
      = (next (.ok (rule.match? (scope.view p.record)).isSome)).runWith
          enter scope { p with record := rule.applied scope p.record } := by
  unfold on applied match?
  rw [Code.runWith]
  cases hs : (scope.view p.record).stopped with
  | true => rfl
  | false =>
      simp only [Bool.false_eq_true, if_false]
      cases (rule.subject.resolve? (scope.view p.record)).bind
        rule.pattern.captures? with
      | none => rfl
      | some captures =>
          unfold respond
          rw [h]
          exact Pairs.write_runWith _ _

/-- Whether and how a rule matches depends on the flag and on what its
subject is read under. -/
theorem match?_congr (hstopped : r.stopped = s.stopped)
    (h : ∀ key ∈ rule.subject.reads, ∀ probe ∈ Table.probes key,
      r.data.find? probe = s.data.find? probe) :
    rule.match? (scope.view r) = rule.match? (scope.view s) := by
  have hflag : (scope.view r).stopped = (scope.view s).stopped := hstopped
  unfold match?
  rw [hflag, Subject.resolve?_congr h]

end Rule

-- ========================================================== rule sets

/-- The record after rules without delegates. -/
def RuleSet.applied (scope : Scope) (rules : List Rule) (r : Record) :
    Record :=
  rules.foldl (fun r rule => rule.applied scope r) r

/-- Rules without delegates always run to their end. -/
theorem RuleSet.rules_run {rules : List Rule}
    (h : ∀ rule ∈ rules, rule.delegate = none) (depth : Nat) (scope : Scope)
    (p : Progress) :
    (RuleSet.code (rules.map .on)).run depth scope p
      = (.returned none,
          { p with record := RuleSet.applied scope rules p.record }) := by
  obtain ⟨enter, henter⟩ := Code.run_enters depth scope
  rw [henter]
  induction rules generalizing p with
  | nil => rfl
  | cons rule rest ih =>
      have hrest : ∀ rule ∈ rest, rule.delegate = none :=
        fun rule hrule => h rule (.tail _ hrule)
      change (rule.on (Code.orFail fun _ => RuleSet.code (rest.map .on))
        ).runWith enter scope p = _
      rw [Rule.on_runWith (h rule (.head _))]
      exact ih hrest _

end

end Logline
