/-
Rules in another order.

Only the evaluation of the rules looks at the rules of a kind. Everything
before it, that is bindings, setups and whatever they do to the record, goes
the same way for a kind with other rules (`activate_withRules`). So two
kinds that differ in their rules alone reach them with the same record and
the same surface, and where the rules are the same independent ones in two
orders, two records that agree come out of them. A parse looks at no more
of these than whether there is a violation, so it fails for both kinds with
the same error or hands out the same data for both.
-/
import Logline.Proofs.Parser.Lifecycle
import Logline.Proofs.RuleSet

namespace Logline

/-- Two parses that end alike: with the same data, whatever the order of its
entries, or with the same error. -/
inductive Outcome.Same : Outcome Data → Outcome Data → Prop
  | ok {a b : Data} (h : Table.same a.table b.table = true) :
      Same (.ok a) (.ok b)
  | failed (cause : Error) : Same (.failed cause) (.failed cause)
  | exhausted : Same .exhausted .exhausted

namespace LineParser

-- ======================================================== other rules

/-- The same parser of a kind with other rules. -/
def withRules (p : LineParser) (rules : RuleSet) : LineParser :=
  { p with kind := { p.kind with rules := rules } }

/-- What an action comes to, of a kind with other rules. -/
def Reply.withRules {α : Type} (reply : Reply α) (rules : RuleSet) : Reply α :=
  { reply with parser := reply.parser.withRules rules }

variable (p : LineParser) (rules : RuleSet)

theorem install_withRules (bindings : List (String × Receiver)) :
    (p.withRules rules).install bindings
      = ((p.install bindings).1, (p.install bindings).2.withRules rules) :=
  rfl

theorem runCode_withRules (depth : Nat) (code : Code)
    (journal : List Entry) :
    (p.withRules rules).runCode depth code journal
      = (p.runCode depth code journal).withRules rules :=
  rfl

theorem activateAddins_withRules (depth : Nat) (addins : List Addin)
    (journal : List Entry) :
    activateAddins depth addins (p.withRules rules) journal
      = (activateAddins depth addins p journal).withRules rules := by
  induction addins generalizing p journal with
  | nil => rfl
  | cons addin rest ih =>
      rcases hi : p.install addin.bindings with ⟨_ | _, q⟩
      · simp only [activateAddins, install_withRules, hi]
        rfl
      · rcases hr : q.runCode depth addin.setup journal with
          ⟨_ | _ | _, s, later⟩
        · simp only [activateAddins, install_withRules, hi,
            runCode_withRules, hr, Reply.withRules]
          exact ih s later
        · simp only [activateAddins, install_withRules, hi,
            runCode_withRules, hr, Reply.withRules]
        · simp only [activateAddins, install_withRules, hi,
            runCode_withRules, hr, Reply.withRules]

/-- An activation does not look at the rules. -/
theorem activate_withRules (depth : Nat) :
    (p.withRules rules).activate depth
      = (p.activate depth).withRules rules := by
  have hflag : (p.withRules rules).activated = p.activated := rfl
  have hkind : (p.withRules rules).kind.whitelist = p.kind.whitelist := rfl
  have haddins : ∀ q : LineParser,
      (q.withRules rules).kind.addins = q.kind.addins := fun _ => rfl
  unfold activate
  rw [hflag]
  cases ha : p.activated with
  | true => rfl
  | false =>
      simp only [Bool.false_eq_true, if_false]
      rw [hkind, install_withRules]
      rcases hi : p.install p.kind.whitelist with ⟨_ | _, q⟩
      · rfl
      · dsimp only
        rw [haddins, activateAddins_withRules]
        rcases activateAddins depth q.kind.addins q [] with
          ⟨_ | _ | _, s, journal⟩ <;> rfl

-- =================================================== reordered rules

section

variable {p : LineParser} {rules rules' : List Rule}

/-- Independent rules end alike in both orders, on records that agree. -/
theorem runCode_reordered (perm : rules.Perm rules')
    (merging : ∀ rule ∈ rules, rule.Merging)
    (independent : rules.Pairwise Rule.Independent) (depth : Nat)
    (p : LineParser) (journal : List Entry) :
    ∃ outcome s s',
      p.runCode depth (RuleSet.code (rules.map .on)) journal
        = ⟨outcome, s, journal⟩
      ∧ p.runCode depth (RuleSet.code (rules'.map .on)) journal
        = ⟨outcome, s', journal⟩
      ∧ s.record.Agree s'.record := by
  unfold runCode Context.run
  rcases p.context.compile with ⟨_ | surface, context⟩
  · exact ⟨_, _, _, rfl, rfl, .refl _⟩
  · dsimp only
    rw [RuleSet.rules_run fun rule hrule => (merging rule hrule).undelegated,
      RuleSet.rules_run fun rule hrule =>
        (merging rule (perm.mem_iff.mpr hrule)).undelegated]
    exact ⟨_, _, _, rfl, rfl,
      RuleSet.applied_perm perm merging independent⟩

/-- Records that agree are finished alike. -/
theorem finish_agree {s s' : LineParser} (h : s.record.Agree s'.record) :
    (∃ cause, s.finish = .error cause ∧ s'.finish = .error cause)
      ∨ ∃ a b : Data, s.finish = .ok a ∧ s'.finish = .ok b
        ∧ Table.same a.table b.table = true := by
  unfold finish
  rw [h.violation]
  cases s'.record.violation with
  | some operation => exact .inl ⟨_, rfl, rfl⟩
  | none => exact .inr ⟨_, _, rfl, rfl, h.same.data⟩

/-- Evaluations of a kind and of the same kind with its rules reordered end
alike. -/
theorem evaluate_reordered (hrules : p.kind.rules = rules.map .on)
    (perm : rules.Perm rules') (merging : ∀ rule ∈ rules, rule.Merging)
    (independent : rules.Pairwise Rule.Independent) (depth : Nat) :
    (p.evaluate depth).outcome.Same
      ((p.withRules (rules'.map .on)).evaluate depth).outcome := by
  have hkind := (activate_keeps depth p).kind
  have hother := p.activate_withRules (rules'.map .on) depth
  unfold evaluate
  rw [hother]
  -- the rules are reached with one parser, but for the rules themselves
  generalize p.activate depth = reply at hkind ⊢
  obtain ⟨_ | cause | _, q, journal⟩ := reply
  · have hq : q.kind.rules = rules.map .on :=
      (congrArg ParserKind.rules hkind).trans hrules
    obtain ⟨outcome, s, s', hrun, hrun', hagree⟩ :=
      runCode_reordered perm merging independent depth q journal
    have hrun'' : (q.withRules (rules'.map .on)).runCode depth
        (q.withRules (rules'.map .on)).kind.rules.code journal
        = ⟨outcome, s'.withRules (rules'.map .on), journal⟩ := by
      rw [runCode_withRules]
      exact congrArg (Reply.withRules · _) hrun'
    dsimp only [Reply.withRules]
    rw [hq, hrun, hrun'']
    cases outcome with
    | failed cause => exact .failed cause
    | exhausted => exact .exhausted
    | ok result =>
        have hagree' : s.record.Agree
            (s'.withRules (rules'.map .on)).record := hagree
        rcases finish_agree hagree' with
          ⟨cause, hf, hf'⟩ | ⟨a, b, hf, hf', hsame⟩
        · simp only [hf, hf']
          exact .failed cause
        · simp only [hf, hf']
          exact .ok hsame
  · exact .failed cause
  · exact .exhausted

end

end LineParser

-- ============================================================= results

open LineParser in
/-- Independent rules that only write can change places. Two of them give
the same answers in either order, those that they give on the record as it
is, whatever comes after them, and leave records that are the same. A list
of them comes to the same in every order, and so does every parse of a kind
that has these rules. -/
theorem independent_rules_commute :
    (∀ a b : Rule, a.Merging → b.Merging → a.Independent b →
      ∀ (depth : Nat) (scope : Scope) (p : Progress),
      (∀ next : Except Error Bool → Except Error Bool → Code,
        (a.on fun x => b.on fun y => next x y).run depth scope p
          = (next (.ok (a.match? (scope.view p.record)).isSome)
              (.ok (b.match? (scope.view p.record)).isSome)).run depth scope
              { p with record := b.applied scope (a.applied scope p.record) }
        ∧ (b.on fun y => a.on fun x => next x y).run depth scope p
          = (next (.ok (a.match? (scope.view p.record)).isSome)
              (.ok (b.match? (scope.view p.record)).isSome)).run depth scope
              { p with record := a.applied scope (b.applied scope p.record) })
      ∧ (b.applied scope (a.applied scope p.record)).Same
          (a.applied scope (b.applied scope p.record)))
    ∧ ∀ rules rules' : List Rule, rules.Perm rules' →
      (∀ rule ∈ rules, rule.Merging) → rules.Pairwise Rule.Independent →
      (∀ (depth : Nat) (scope : Scope) (p : Progress),
        (RuleSet.code (rules.map .on)).run depth scope p
          = (.returned none,
              { p with record := RuleSet.applied scope rules p.record })
        ∧ (RuleSet.code (rules'.map .on)).run depth scope p
          = (.returned none,
              { p with record := RuleSet.applied scope rules' p.record })
        ∧ (RuleSet.applied scope rules p.record).Same
            (RuleSet.applied scope rules' p.record))
      ∧ ∀ (kind : ParserKind) (line : String) (options : Options)
          (given : List (String × Value)) (depth : Nat),
        Outcome.Same
          (((make { kind with rules := rules.map .on } line options
            ).presetAll given).parse depth).outcome
          (((make { kind with rules := rules'.map .on } line options
            ).presetAll given).parse depth).outcome := by
  refine ⟨fun a b ha hb hab depth scope p =>
      ⟨fun next => ⟨?_, ?_⟩, (Rule.applied_comm ha hb hab).same⟩,
    fun rules rules' perm merging independent =>
      ⟨fun depth scope p => ⟨?_, ?_, ?_⟩,
        fun kind line options given depth => ?_⟩⟩
  · rw [Rule.on_on_run ha.undelegated hb.undelegated,
      Rule.match?_applied ha hab]
  · rw [Rule.on_on_run hb.undelegated ha.undelegated,
      Rule.match?_applied hb hab.symm]
  · exact RuleSet.rules_run (fun rule h => (merging rule h).undelegated) ..
  · exact RuleSet.rules_run (fun rule h =>
      (merging rule (perm.mem_iff.mpr h)).undelegated) ..
  · exact (RuleSet.applied_perm perm merging independent).same
  · rw [presetAll_make, presetAll_make, parse_outcome rfl, parse_outcome rfl]
    exact evaluate_reordered rfl perm merging independent depth

/-- Matches every line. Its last pair has the name of a stop and does not
stop. -/
def seen : Rule where
  pattern := ⟨"(?<all>)", .group "all" .empty⟩
  subject := .line
  pairs := [Pairs.pair "seen" (.capture "all"),
    Pairs.pair Pairs.stopName (.literal (.bool false))]
  delegate := none

/-- Matches every text that the record has. -/
def noted : Rule where
  pattern := ⟨"(?<all>)", .group "all" .empty⟩
  subject := .field (.symbol "text")
  pairs := [(.str "note", .capture "all")]
  delegate := none

/-- Ends with the answers of two rules. -/
def answers : Except Error Bool → Except Error Bool → Code
  | .ok x, .ok y => .done (some (.bool (x && y)))
  | _, _ => .done none

def noting : Scope := ⟨.empty, "x", .empty⟩

def texted : Record := .seeded [(.sym "text", .str "y")]

open LineParser in
/-- Both rules match a record with a text. In the two orders they leave its
entries in two orders, and the same data. -/
theorem independent_rules_commute_noted :
    ((seen.on fun x => noted.on fun y => answers x y).run 0 noting
        ⟨texted, []⟩).1 = .returned (some (.bool true))
    ∧ ((noted.on fun y => seen.on fun x => answers x y).run 0 noting
        ⟨texted, []⟩).1 = .returned (some (.bool true))
    ∧ (noted.applied noting (seen.applied noting texted)).data.keys
      ≠ (seen.applied noting (noted.applied noting texted)).data.keys
    ∧ (noted.applied noting (seen.applied noting texted)).Same
        (seen.applied noting (noted.applied noting texted))
    ∧ Outcome.Same
      (((make ⟨"noting", [], [], [], [.on seen, .on noted]⟩ "x" .initial
        ).presetAll [("text", .str "y")]).parse 0).outcome
      (((make ⟨"noting", [], [], [], [.on noted, .on seen]⟩ "x" .initial
        ).presetAll [("text", .str "y")]).parse 0).outcome := by
  have hseen : seen.Merging := ⟨rfl, by decide⟩
  have hnoted : noted.Merging := ⟨rfl, by decide⟩
  have hapart : seen.Independent noted :=
    ⟨by decide, by decide, by decide⟩
  have hboth : ∀ rule ∈ [seen, noted], rule.Merging :=
    List.forall_mem_cons.mpr ⟨hseen, List.forall_mem_cons.mpr
      ⟨hnoted, nofun⟩⟩
  obtain ⟨hruns, hsame⟩ := independent_rules_commute.1 seen noted hseen
    hnoted hapart 0 noting ⟨texted, []⟩
  obtain ⟨-, hparses⟩ := independent_rules_commute.2 [seen, noted]
    [noted, seen] (.swap noted seen []) hboth (List.pairwise_pair.mpr hapart)
  refine ⟨?_, ?_, by decide, hsame, hparses ⟨"noting", [], [], [], []⟩ "x"
    .initial [("text", .str "y")] 0⟩
  · rw [(hruns answers).1]
    rfl
  · rw [(hruns answers).2]
    rfl

end Logline
