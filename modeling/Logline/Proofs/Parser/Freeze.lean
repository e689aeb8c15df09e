/-
A stopped record is a finished record.

Stopping does not end anything: statements go on, operations can still be
called, and the setups of later addins run. It is the record that drops
what they write. So whatever code does to a stopped record, through calls
of any depth and whether it ends in an error or not, flag and data stay as
they are, and every rule that is tried sees the flag and stands back.

For a parse this means that only the first stop matters. The data that is
handed out is the data that the record had there.
-/
import Logline.Proofs.Parser.Life

namespace Logline

open LineParser

-- ============================================================= rules

/-- On a stopped record a rule looks, and goes on as one that did not
match. -/
theorem Rule.on_stopped (depth : Nat) (scope : Scope) (rule : Rule)
    (next : Except Error Bool → Code) {p : Progress}
    (h : p.record.stopped = true) :
    (rule.on next).trace depth scope p
      = Moment.first .looked p ((next (.ok false)).trace depth scope) := by
  have hview : (scope.view p.record).stopped = true := h
  unfold Rule.on
  cases depth with
  | zero =>
      rw [Code.trace, Code.traceWith]
      simp only [hview, if_true]
  | succ depth =>
      rw [Code.trace, Code.traceWith]
      simp only [hview, if_true]

-- ============================================================ freezing

/-- Nothing that runs changes flag or data of a stopped record, no rule
responds to it, and a parse hands out the data of the first stop. -/
theorem stop_freezes :
    -- all code, on all surfaces and at all depths
    (∀ depth scope (code : Code) p, p.record.stopped = true →
      ((code.run depth scope p).2.record.stopped = true
        ∧ (code.run depth scope p).2.record.data = p.record.data)
      ∧ ∀ m ∈ code.moments depth scope p,
        m.after.stopped = true ∧ m.after.data = p.record.data)
    -- a rule goes on as one that did not match, having done nothing
    ∧ (∀ depth scope (rule : Rule) next p, p.record.stopped = true →
      (rule.on next).run depth scope p
          = (next (.ok false)).run depth scope p
        ∧ (rule.on next).moments depth scope p
          = ⟨.looked, p.record⟩ :: (next (.ok false)).moments depth scope p)
    -- all that is ever done with a parser of any kind
    ∧ ∀ kind line options actions depth data m,
      (Life.of kind line options actions).parser.data = none →
      ((Life.of kind line options actions).parser.parse depth).outcome
        = .ok data →
      firstStop? ((Life.of kind line options actions).moments
        ++ (Life.of kind line options actions).parser.asked (.parse depth))
        = some m →
      m.event = .stopped ∧ m.before.stopped = false
        ∧ data.table = m.before.data := by
  refine ⟨?_, ?_, ?_⟩
  · intro depth scope code p h
    obtain ⟨hend, hall⟩ := (code.trace_path depth scope p).frozen h
    exact ⟨hend, fun m hm => (hall m hm).2⟩
  · intro depth scope rule next p h
    have htrace := rule.on_stopped depth scope next h
    rw [← Code.trace_run, ← Code.trace_run, Code.moments, Code.moments,
      htrace]
    exact ⟨rfl, rfl⟩
  · intro kind line options actions depth data m unparsed parsed first
    have told := Life.of_told kind line options actions
    obtain ⟨record, hpath, -, rfl⟩ := told.of_parsed unparsed parsed
    obtain ⟨hstop, hbefore⟩ := hpath.firstStop_stops told.stopped first
    refine ⟨hstop, hbefore, ?_⟩
    have hafter : m.after.data = m.before.data := by
      unfold Moment.after
      rw [hstop]
      rfl
    rw [← hafter]
    exact (hpath.data_firstStop first).2

/-- A rule that responds to every line with the given pairs. -/
def always (pairs : Pairs) : Rule := ⟨⟨"", .empty⟩, .line, pairs, none⟩

/-- A kind that goes on writing, removing and trying rules after its first
stop. -/
def restless : ParserKind where
  name := "restless"
  whitelist := []
  addins := []
  presets := []
  rules := [.set (.sym "kept") (.int 1),
    .on (always [Pairs.stopPair, Pairs.pair "late" (.literal (.int 2))]),
    .run (.del (.sym "kept") fun _ => .done none),
    .on (always [Pairs.pair "late" (.literal (.int 3))]), .stop]

/-- What that kind makes of a line, at its first stop and at the end. -/
theorem stop_freezes_restless :
    ((Code.del (.sym "kept") fun _ => .done none).run 0
        ⟨.empty, "x", .empty⟩ ⟨Record.empty.stop, []⟩).2.record.data = .empty
    ∧ ((always [Pairs.stopPair]).on fun _ => .done none).moments 0
        ⟨.empty, "x", .empty⟩ ⟨Record.empty.stop, []⟩
      = [⟨.looked, Record.empty.stop⟩]
    ∧ ∃ data, ((Life.of restless "x" .initial []).parser.parse 0).outcome
        = .ok data
      ∧ data.table = .ofList [(.sym "kept", .int 1)] := by
  refine ⟨?_, ?_, ?_⟩
  · exact (stop_freezes.1 0 ⟨.empty, "x", .empty⟩ _ ⟨Record.empty.stop, []⟩
      rfl).1.2
  · exact (stop_freezes.2.1 0 ⟨.empty, "x", .empty⟩ _ _
      ⟨Record.empty.stop, []⟩ rfl).2
  · refine ⟨_, rfl, ?_⟩
    exact (stop_freezes.2.2 restless "x" .initial [] 0 _ _ rfl rfl rfl).2.2

end Logline
