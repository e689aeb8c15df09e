/-
What the pairs of a rule make of the record.

A pair marks the end of what is written if it goes by the name that stops, in
either form of a key, and is true as it is written (`Pairs.Marks`). Pairs are
cut at the first that marks, or are whole (`Pairs.Cut`). The pairs before the
cut are set in the data one after the other, each to what it was given or to
what its group captured in the match at hand, and this is all that the rule
does (`Rule.pairs_merged`). The code of a rule does not leave its pairs where
it stops. It goes on through all of them, and that what comes behind is lost
is a matter of the record, which drops it.
-/
import Mathlib.Data.List.TakeWhile
import Logline.Proofs.Pattern.Groups
import Logline.Proofs.Statement

namespace Logline

open Pattern

-- ============================================================== values

/-- The value of a pair for what a match found: as given, or the text that
the group captured, and `nil` if it captured none. -/
def Pending.valueIn (found : List Capture) : Pending → Value
  | .literal value => value
  | .capture group =>
    match captured? group found with
    | some text => .str (String.ofList text)
    | none => .nil

theorem Pending.resolve_eq {found : List Capture} {table : Table}
    (h : ∀ group, Table.value table (.str group) = captureValue found group)
    (pending : Pending) : pending.resolve table = pending.valueIn found := by
  cases pending with
  | literal value => rfl
  | capture group => exact h group

namespace Pairs

-- ============================================================== the cut

/-- A pair stops the record if its key is named so, be it a string or a
symbol, and its value is true as it is written. -/
def Marks (pair : Key × Pending) : Prop :=
  (pair.1 = .str "stop" ∨ pair.1 = .sym "stop")
    ∧ pair.2 ≠ .literal .nil ∧ pair.2 ≠ .literal (.bool false)

/-- The pairs before the first that marks, and whether there is one. -/
inductive Cut (pairs : Pairs) : Pairs → Bool → Prop
  | whole (unmarked : ∀ pair ∈ pairs, ¬ Marks pair) : Cut pairs pairs false
  | before {first rest : Pairs} {marker : Key × Pending}
      (parts : pairs = first ++ marker :: rest)
      (unmarked : ∀ pair ∈ first, ¬ Marks pair) (marked : Marks marker) :
      Cut pairs first true

section

variable {pair : Key × Pending} {pairs first : Pairs} {cut : Bool}

theorem stops_iff : stops pair = true ↔ Marks pair := by
  obtain ⟨key, pending⟩ := pair
  have hname : key.name = "stop"
      ↔ key = .str "stop" ∨ key = .sym "stop" := by
    cases key <;> simp [Key.name]
  have htruthy : pending.isTruthy = true ↔ pending ≠ .literal .nil
      ∧ pending ≠ .literal (.bool false) := by
    cases pending with
    | literal value => cases value <;> simp [Pending.isTruthy, Value.isTruthy]
    | capture group => simp [Pending.isTruthy]
  unfold stops stopName Marks
  rw [Bool.and_eq_true, decide_eq_true_eq, hname, htruthy]

theorem not_stops_iff : stops pair = false ↔ ¬ Marks pair := by
  rw [← stops_iff, Bool.not_eq_true]

/-- All pairs can be cut. -/
theorem exists_cut (pairs : Pairs) : ∃ first cut, Cut pairs first cut := by
  induction pairs with
  | nil => exact ⟨[], false, .whole (List.forall_mem_nil _)⟩
  | cons pair rest ih =>
      by_cases hmarks : Marks pair
      · exact ⟨[], true, .before rfl (List.forall_mem_nil _) hmarks⟩
      · have hcons : ∀ {first : Pairs}, (∀ p ∈ first, ¬ Marks p) →
            ∀ p ∈ pair :: first, ¬ Marks p := by
          intro first hfirst p hp
          rcases List.mem_cons.mp hp with rfl | hp
          · exact hmarks
          · exact hfirst p hp
        obtain ⟨first, cut, hcut⟩ := ih
        cases hcut with
        | whole unmarked => exact ⟨_, _, .whole (hcons unmarked)⟩
        | before parts unmarked marked =>
            exact ⟨_, _, .before (congrArg (pair :: ·) parts) (hcons unmarked)
              marked⟩

/-- Where pairs are cut is where they first stop. -/
theorem Cut.eq_takeWhile (h : Cut pairs first cut) :
    first = pairs.takeWhile fun pair => !stops pair := by
  have hunmarked : ∀ {first : Pairs}, (∀ p ∈ first, ¬ Marks p) →
      ∀ p ∈ first, (!stops p) = true := by
    intro first hfirst p hp
    rw [not_stops_iff.mpr (hfirst p hp)]
    rfl
  cases h with
  | whole unmarked => exact (List.takeWhile_eq_self_iff.mpr
      (hunmarked unmarked)).symm
  | @before _ rest marker parts unmarked marked =>
      rw [parts, List.takeWhile_append_of_pos (hunmarked unmarked),
        List.takeWhile_cons, stops_iff.mpr marked]
      exact (List.append_nil _).symm

theorem Cut.marked_iff (h : Cut pairs first cut) :
    cut = true ↔ ∃ pair ∈ pairs, Marks pair := by
  cases h with
  | whole unmarked =>
      refine iff_of_false Bool.false_ne_true ?_
      intro ⟨pair, hpair, hmarks⟩
      exact unmarked pair hpair hmarks
  | before parts unmarked marked =>
      refine iff_of_true rfl ⟨_, ?_, marked⟩
      rw [parts]
      exact List.mem_append_right _ (.head _)

theorem Cut.eq_any (h : Cut pairs first cut) : cut = pairs.any stops := by
  rw [Bool.eq_iff_iff, h.marked_iff, List.any_eq_true]
  simp only [stops_iff]

end

-- ============================================================== the merge

/-- Data in which pairs have been set one after the other. -/
def setIn (found : List Capture) (pairs : Pairs) (data : Table) : Table :=
  pairs.foldl (fun data pair => Table.set data pair.1 (pair.2.valueIn found))
    data

/-- Writes to a record that is under way are writes to its data. -/
theorem setAll_going (writes : List (Key × Value)) {r : Record}
    (h : r.stopped = false) :
    r.setAll writes = { r with
      data := writes.foldl (fun data w => Table.set data w.1 w.2) r.data } := by
  unfold Record.setAll
  induction writes generalizing r with
  | nil => rfl
  | cons w rest ih =>
      have hset : r.set w.1 w.2
          = { r with data := Table.set r.data w.1 w.2 } := by
        unfold Record.set
        rw [h, if_neg Bool.false_ne_true]
      rw [List.foldl_cons, hset]
      exact ih h

/-- Pairs set what comes before the cut, and stop the record if there is
one. -/
theorem merge_of_cut {found : List Capture} {table : Table}
    (hvalues : ∀ group,
      Table.value table (.str group) = captureValue found group)
    {pairs first : Pairs} {cut : Bool} (hcut : Cut pairs first cut)
    {r : Record} (hgoing : r.stopped = false) :
    merge table pairs r
      = { r with data := setIn found first r.data, stopped := cut } := by
  have hwritten : r.setAll (writes table pairs)
      = { r with data := setIn found first r.data } := by
    unfold writes setIn
    rw [setAll_going _ hgoing, ← hcut.eq_takeWhile, List.foldl_map]
    simp only [Pending.resolve_eq hvalues]
  unfold merge
  rw [hwritten, ← hcut.eq_any]
  cases cut with
  | true => rfl
  | false =>
      rw [if_neg Bool.false_ne_true]
      simp only [hgoing]

end Pairs

namespace Rule

/-- A rule without delegate that matches on a record under way answers so.
It has set the pairs before the cut in the data, each to what it was given or
to what its group captured in this match, and has stopped the record just if
a pair marks. It does nothing else. -/
theorem pairs_merged (rule : Rule) (hpairs : rule.delegate = none)
    (scope : Scope) (p : Progress) (hgoing : p.record.stopped = false)
    {text : String}
    (hsubject : rule.subject.resolve? (scope.view p.record) = some text)
    {found : List Capture} (hmatch : rule.pattern.match? text = some found) :
    ∃ first cut, Pairs.Cut rule.pairs first cut
      ∧ (cut = true ↔ ∃ pair ∈ rule.pairs, Pairs.Marks pair)
      ∧ ∀ (depth : Nat) (next : Except Error Bool → Code),
        (rule.on next).run depth scope p
          = (next (.ok true)).run depth scope { p with
              record := { p.record with
                data := Pairs.setIn found first p.record.data
                stopped := cut } } := by
  obtain ⟨first, cut, hcut⟩ := Pairs.exists_cut rule.pairs
  obtain ⟨table, htable, hvalues⟩ := value_captures? hmatch
  have hmatches : rule.match? (scope.view p.record) = some table :=
    (rule.match?_of_subject hgoing hsubject).trans htable
  refine ⟨first, cut, hcut, hcut.marked_iff, fun depth next => ?_⟩
  obtain ⟨enter, henter⟩ := Code.run_enters depth scope
  rw [henter, Rule.on_runWith hpairs, hmatches, Rule.applied_of_some hmatches,
    Pairs.merge_of_cut hvalues hcut hgoing]
  rfl

/-- A rule with pairs that only look as if they stopped, and one that does
although its group is none. -/
def wavering : Rule where
  pattern :=
    ⟨"(?<left>x)|(?<right>y)",
      .alt (.group "left" (.chars (.single 'x')))
        (.group "right" (.chars (.single 'y')))⟩
  subject := .line
  pairs := [(.sym "m", .capture "left"), (.str "stop", .literal (.bool false)),
    (.sym "n", .capture "right"), (.str ":stop", .literal (.bool true)),
    (.sym "stop", .capture "ghost"), (.sym "m", .literal .nil),
    (.str "stop", .literal (.bool true))]
  delegate := none

/-- It overwrites what was there in another form, stores the pairs that look
like a stop, and loses what is behind the stop. -/
theorem pairs_merged_wavering :
    Pattern.compile "(?<left>x)|(?<right>y)" = .ok wavering.pattern
    ∧ ∀ (depth : Nat) (next : Except Error Bool → Code),
      (wavering.on next).run depth ⟨.empty, "ax", .empty⟩
          ⟨⟨.ofList [(.str "m", .int 1)], false, none⟩, []⟩
        = (next (.ok true)).run depth ⟨.empty, "ax", .empty⟩
          ⟨⟨.ofList [(.str "m", .str "x"), (.str "stop", .bool false),
            (.sym "n", .nil), (.str ":stop", .bool true)], true, none⟩, []⟩ := by
  refine ⟨by rfl, fun depth next => ?_⟩
  have hmatch : wavering.pattern.match? "ax"
      = some [⟨"left", ['x'], 1⟩] := by rfl
  obtain ⟨first, cut, hcut, -, hrun⟩ := pairs_merged wavering rfl
    ⟨.empty, "ax", .empty⟩ ⟨⟨.ofList [(.str "m", .int 1)], false, none⟩, []⟩
    rfl rfl hmatch
  rw [hrun, hcut.eq_takeWhile, hcut.eq_any]
  rfl

end Rule

end Logline
