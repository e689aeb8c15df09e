/-
Whether an attribute tests as it reads.

An attribute of a name is read under the symbol that the name is written as,
and tested under the string that it is. The two look for the forms of their
keys from different ends. Where the name has no colon before it these are
forms of one name, of which a record holds at most one, and both find it or
neither does (`Table.Tidy.found?_symbol`).

Making a symbol drops a colon, and taking a name as a string does not. So an
attribute whose name is written with a colon is read under another name than
it is tested under. Both find the same entry only if the string with the
colon is not there and the symbol is, or nothing is that a read looks for
(`Table.found?_colon_iff`). Otherwise they agree on every test just where
the values that they find happen to be the same
(`Value.any_same_iff`).
-/
import Logline.Proofs.KeyForms
import Logline.Proofs.Value

namespace Logline

-- ============================================================= calls

namespace Attribute

theorem testedName?_mark (name : String) :
    testedName? (name ++ "?") = some name := by
  have hlist : (name ++ "?").toList.reverse = '?' :: name.toList.reverse := by
    simp
  unfold testedName?
  rw [hlist]
  simp

/-- A call with a question mark and candidates tests. -/
theorem ofCall_mark (name : String) {candidates : List Value}
    (some : candidates ≠ []) :
    ofCall (name ++ "?") candidates = .ok (.test (.str name) candidates) := by
  cases candidates with
  | nil => exact absurd rfl some
  | cons first rest =>
      unfold ofCall
      rw [testedName?_mark]

/-- A call without an argument reads, whatever the name ends in. -/
theorem ofCall_nil (name : String) :
    ofCall name [] = .ok (.read (.symbol name)) := by
  unfold ofCall
  cases testedName? name <;> rfl

end Attribute

namespace Record

variable (r : Record) (name : String)

theorem attr_nil :
    r.attr name [] = (.ok (Table.value r.data (.symbol name)), r) := by
  unfold attr
  rw [Attribute.ofCall_nil]

theorem attr_mark {candidates : List Value} (some : candidates ≠ []) :
    r.attr (name ++ "?") candidates
      = (.ok (.bool (candidates.any
          (·.same (Table.value r.data (.str name))))), r) := by
  unfold attr
  rw [Attribute.ofCall_mark name some]
  rfl

end Record

-- =========================================================== verdicts

/-- Two values are told apart by no test just where they are the same. -/
theorem Value.any_same_iff {v w : Value} :
    (∀ candidates : List Value, candidates ≠ [] →
      candidates.any (·.same v) = candidates.any (·.same w))
    ↔ v.same w = true := by
  constructor
  · intro h
    have hv := h [v] nofun
    simp only [List.any_cons, List.any_nil, Bool.or_false,
      Value.same_refl] at hv
    exact hv.symm
  · intro h candidates _
    have hone : ∀ c : Value, c.same v = c.same w := by
      intro c
      rw [Bool.eq_iff_iff]
      exact ⟨fun hc => Value.same_trans hc h,
        fun hc => Value.same_trans hc (Value.same_symm h)⟩
    simp only [hone]

-- ================================================== what the calls find

namespace Table

variable {t : Table} {name : String}

/-- Two keys that are found under one entry have one value. -/
theorem value_of_found? {a b : Key} (h : found? t a = found? t b) :
    value t a = value t b := by
  unfold value
  rw [get?_eq_found, get?_eq_found, h]

/-- A name without a colon is found under the same entry in both forms. -/
theorem Tidy.found?_symbol (h : t.Tidy) (hplain : Plain name) :
    found? t (.symbol name) = found? t (.str name) := by
  have hsymbol : Key.symbol name = .sym name :=
    congrArg Key.sym (symbolName_plain hplain)
  have halone := h.alone hplain
  rw [hsymbol, found?_eq, found?_eq, Key.symForm_sym hplain,
    Key.symForm_str hplain, Key.strForm_sym, Key.strForm_str]
  cases hstr : t.contains (.str name) <;>
    cases hsym : t.contains (.sym name) <;> simp_all

/-- A name with a colon is found under the same entry in both forms if the
string is not there, and the symbol is or no form of it. -/
theorem found?_colon_iff (base : String) :
    found? t (.symbol (":" ++ base)) = found? t (.str (":" ++ base))
    ↔ t.contains (.str (":" ++ base)) = false
      ∧ (t.contains (.sym base) = true ∨ has t (.sym base) = false) := by
  have hsymbol : Key.symbol (":" ++ base) = .sym base :=
    congrArg Key.sym (symbolName_colon base)
  have hsymForm : (Key.str (":" ++ base)).symForm = .sym base := hsymbol
  have hother : base ≠ ":" ++ base := ne_colon base
  rw [hsymbol, has_eq_found, found?_eq t (.str _), hsymForm, Key.strForm_str]
  cases hstr : t.contains (.str (":" ++ base)) with
  | true =>
      -- a read of the symbol does not look for the string with the colon
      refine iff_of_false ?_ (by simp)
      rw [if_pos rfl]
      intro hfound
      obtain ⟨hprobe, -⟩ := found?_some hfound
      unfold probes at hprobe
      simp [Key.strForm, Key.symForm, Key.symbol, Key.name,
        Ne.symm hother] at hprobe
  | false =>
      cases hsym : t.contains (.sym base) with
      | true => simp [found?_eq, hsym]
      | false => simp

end Table

namespace Record

/-- For every candidates the test of a name gives whether the value that is
read under it is one of them, and neither call changes the record. -/
def TestsAgree (r : Record) (name : String) : Prop :=
  ∃ read, r.attr name [] = (.ok read, r)
    ∧ ∀ candidates, candidates ≠ [] →
      r.attr (name ++ "?") candidates
        = (.ok (.bool (candidates.any (·.same read))), r)

theorem testsAgree_iff_same (r : Record) (name : String) :
    r.TestsAgree name
      ↔ (Table.value r.data (.str name)).same
          (Table.value r.data (.symbol name)) = true := by
  rw [← Value.any_same_iff]
  constructor
  · rintro ⟨read, hread, htests⟩ candidates some
    rw [r.attr_nil name] at hread
    cases hread
    have htest := htests candidates some
    rw [r.attr_mark name some] at htest
    simpa using htest
  · intro h
    refine ⟨_, r.attr_nil name, fun candidates some => ?_⟩
    rw [r.attr_mark name some, h candidates some]

/-- Attributes are read and tested without changing the record. They test as
they read just where the two find values that are the same: for every name
without a colon before it, since both find one entry then. With a colon they
find one entry only if the record does not have the string with the colon
and has the symbol, or no form of it. -/
theorem tests_agree_iff {r : Record} (built : r.Built) (name : String) :
    r.attr name [] = (.ok (Table.value r.data (.symbol name)), r)
    ∧ (∀ candidates, candidates ≠ [] →
      r.attr (name ++ "?") candidates
        = (.ok (.bool (candidates.any
            (·.same (Table.value r.data (.str name))))), r))
    ∧ (r.TestsAgree name
      ↔ (Table.value r.data (.str name)).same
          (Table.value r.data (.symbol name)) = true)
    ∧ (Plain name →
      Table.found? r.data (.symbol name) = Table.found? r.data (.str name)
        ∧ r.TestsAgree name)
    ∧ ∀ base, name = ":" ++ base →
      (Table.found? r.data (.symbol name) = Table.found? r.data (.str name)
        ↔ r.data.contains (.str name) = false
          ∧ (r.data.contains (.sym base) = true
            ∨ r.has (.sym base) = false)) := by
  refine ⟨r.attr_nil name, fun _ => r.attr_mark name,
    r.testsAgree_iff_same name, fun hplain => ?_, ?_⟩
  · have hfound := built.tidy.found?_symbol hplain
    refine ⟨hfound, (r.testsAgree_iff_same name).mpr ?_⟩
    rw [Table.value_of_found? hfound]
    exact Value.same_refl _
  · rintro base rfl
    exact Table.found?_colon_iff base

/-- A record with one string. -/
def lettered : Record := .seeded [(.str "a", .int 1)]

/-- It tests as it reads under the name, and not under the name with a
colon. -/
theorem tests_agree_iff_lettered :
    lettered.TestsAgree "a"
    ∧ lettered.attr "a?" [.int 0, .int 1] = (.ok (.bool true), lettered)
    ∧ ¬ lettered.TestsAgree ":a" := by
  have built : lettered.Built := .seeded _
  obtain ⟨-, htests, -, hplain, -⟩ := tests_agree_iff built "a"
  obtain ⟨-, -, hcolon, -⟩ := tests_agree_iff built ":a"
  refine ⟨(hplain (by decide)).2, htests _ nofun, fun hagree => ?_⟩
  have hsame : Value.same .nil (.int 1) = true := hcolon.mp hagree
  cases hsame

/-- So not every name is tested as it is read. -/
theorem tests_agree :
    ¬ ∀ r : Record, r.Built → ∀ name, r.TestsAgree name := by
  intro h
  obtain ⟨read, hread, htests⟩ := h lettered (.seeded _) ":a"
  have htest := htests [.int 1] nofun
  cases hread
  cases htest

end Record

end Logline
