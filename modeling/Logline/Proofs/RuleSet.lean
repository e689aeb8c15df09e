/-
Rules that have nothing to do with each other.

A rule without delegate and without a pair that stops is a list of writes,
and which list depends on the line and on what its subject is read under
(`Rule.applied_eq`). So two such rules can only get in each other's way at
keys: where both write a key in some form, or one writes what the other
reads. Rules are independent where neither happens (`Rule.Independent`).

Then either leaves the list of the other as it was (`Rule.written_applied`),
and lists of writes under foreign keys can change places, so the two rules
can (`Rule.applied_comm`). What they leave is not the same record, since
the entries come in another order; it agrees, and from records that agree
the rules after them go on to records that agree (`RuleSet.applied_congr`).
So a whole list can be put in another order, one swap after the other
(`RuleSet.applied_perm`).
-/
import Logline.Proofs.Rule

namespace Logline

namespace Rule

/-- A rule without delegate none of whose pairs stops. -/
structure Merging (rule : Rule) : Prop where
  undelegated : rule.delegate = none
  unstopping : ∀ pair ∈ rule.pairs, Pairs.stops pair = false

/-- Neither rule writes a form of a key that the other writes or reads its
subject under. -/
structure Independent (a b : Rule) : Prop where
  writes : ∀ pair ∈ a.pairs, ∀ other ∈ b.pairs, pair.1.Foreign other.1
  left : ∀ pair ∈ b.pairs, ∀ key ∈ a.subject.reads, pair.1.Foreign key
  right : ∀ pair ∈ a.pairs, ∀ key ∈ b.subject.reads, pair.1.Foreign key

theorem Independent.symm {a b : Rule} (h : a.Independent b) :
    b.Independent a where
  writes pair hpair other hother := (h.writes other hother pair hpair).symm
  left := h.right
  right := h.left

section

variable {rule a b : Rule} {scope : Scope} {r s : Record}

-- ============================================================ one rule

/-- What a rule without delegate writes. -/
def written (rule : Rule) (scope : Scope) (r : Record) :
    List (Key × Value) :=
  match rule.match? (scope.view r) with
  | none => []
  | some captures => rule.pairs.writes captures

/-- Without a pair that stops, that is all it does. -/
theorem applied_eq (h : rule.Merging) (scope : Scope) (r : Record) :
    rule.applied scope r = r.setAll (rule.written scope r) := by
  unfold applied written
  cases rule.match? (scope.view r) with
  | none => rfl
  | some captures =>
      have hnone : rule.pairs.any Pairs.stops = false := by
        rw [List.any_eq_false]
        intro pair hpair
        rw [h.unstopping pair hpair]
        exact Bool.false_ne_true
      dsimp only
      unfold Pairs.merge
      rw [hnone, if_neg Bool.false_ne_true]

theorem key_of_mem_written {w : Key × Value}
    (h : w ∈ rule.written scope r) : ∃ pair ∈ rule.pairs, pair.1 = w.1 := by
  unfold written at h
  cases hm : rule.match? (scope.view r) with
  | none =>
      rw [hm] at h
      cases h
  | some captures =>
      rw [hm] at h
      exact Pairs.key_of_mem_writes h

/-- On records that agree a rule matches alike and writes the same. -/
theorem match?_agree (h : r.Agree s) :
    rule.match? (scope.view r) = rule.match? (scope.view s) :=
  match?_congr h.stopped fun _ _ probe _ => h.data probe

theorem applied_congr (hrule : rule.Merging) (h : r.Agree s) :
    (rule.applied scope r).Agree (rule.applied scope s) := by
  have hwritten : rule.written scope r = rule.written scope s := by
    unfold written
    rw [match?_agree h]
  rw [applied_eq hrule, applied_eq hrule, hwritten]
  exact h.setAll _

-- =========================================================== two rules

/-- A rule matches as before after one that is independent of it. -/
theorem match?_applied (ha : a.Merging) (h : a.Independent b) :
    b.match? (scope.view (a.applied scope r))
      = b.match? (scope.view r) := by
  rw [applied_eq ha]
  refine match?_congr Record.setAll_stopped fun key hkey probe hprobe => ?_
  refine Record.find?_setAll_foreign (fun w hw => ?_) hprobe
  obtain ⟨pair, hpair, hname⟩ := key_of_mem_written hw
  rw [← hname]
  exact h.right pair hpair key hkey

/-- So it writes what it would have written without it. -/
theorem written_applied (ha : a.Merging) (h : a.Independent b) :
    b.written scope (a.applied scope r) = b.written scope r := by
  unfold written
  rw [match?_applied ha h]

/-- Independent rules can change places. -/
theorem applied_comm (ha : a.Merging) (hb : b.Merging)
    (h : a.Independent b) :
    (b.applied scope (a.applied scope r)).Agree
      (a.applied scope (b.applied scope r)) := by
  rw [applied_eq hb, written_applied ha h, applied_eq ha,
    applied_eq ha, written_applied hb h.symm, applied_eq hb]
  refine Record.setAll_comm fun v hv w hw => ?_
  obtain ⟨pair, hpair, hname⟩ := key_of_mem_written hv
  obtain ⟨other, hother, hname'⟩ := key_of_mem_written hw
  rw [← hname, ← hname']
  exact h.writes pair hpair other hother

/-- One rule after the other, and whatever comes after both. -/
theorem on_on_run (ha : a.delegate = none) (hb : b.delegate = none)
    (depth : Nat) (scope : Scope) (p : Progress)
    (next : Except Error Bool → Except Error Bool → Code) :
    (a.on fun x => b.on fun y => next x y).run depth scope p
      = (next (.ok (a.match? (scope.view p.record)).isSome)
          (.ok (b.match? (scope.view (a.applied scope p.record))).isSome)
        ).run depth scope
          { p with record := b.applied scope (a.applied scope p.record) } := by
  obtain ⟨enter, henter⟩ := Code.run_enters depth scope
  rw [henter, on_runWith ha, on_runWith hb]

end

end Rule

-- ========================================================== rule sets

namespace RuleSet

variable {scope : Scope} {r s : Record} {rules rules' : List Rule}

theorem applied_congr (hrules : ∀ rule ∈ rules, rule.Merging)
    (h : r.Agree s) :
    (applied scope rules r).Agree (applied scope rules s) := by
  unfold applied
  induction rules generalizing r s with
  | nil => exact h
  | cons rule rest ih =>
      exact ih (fun rule hrule => hrules rule (.tail _ hrule))
        (Rule.applied_congr (hrules rule (.head _)) h)

/-- Rules of which any two are independent come to the same in every
order. -/
theorem applied_perm (perm : rules.Perm rules')
    (merging : ∀ rule ∈ rules, rule.Merging)
    (independent : rules.Pairwise Rule.Independent) :
    (applied scope rules r).Agree (applied scope rules' r) := by
  induction perm generalizing r with
  | nil => exact .refl r
  | cons rule perm ih =>
      exact ih (fun rule hrule => merging rule (.tail _ hrule))
        (List.pairwise_cons.mp independent).2
  | swap a b rest =>
      -- the only case in which rules change places
      have hapart := (List.pairwise_cons.mp independent).1 a (.head _)
      exact applied_congr
        (fun rule hrule => merging rule (.tail _ (.tail _ hrule)))
        (Rule.applied_comm (merging b (.head _)) (merging a (.tail _ (.head _)))
          hapart)
  | trans first second ihfirst ihsecond =>
      exact (ihfirst merging independent).trans
        (ihsecond (fun rule hrule => merging rule (first.mem_iff.mpr hrule))
          ((first.pairwise_iff fun h => h.symm).mp independent))

end RuleSet

end Logline
