/-
What is left of a key that is deleted.

A deletion takes out the entry that a read of the key finds, and no other.
Whatever was read under the key is what the deletion gives. Whether the key
is gone then is another question: it has three forms, and the entry that was
taken out may have stood before one under the next of them. So a key is
still there after its deletion just where two of its forms were present
before (`Table.has_remove_iff`).

For a key whose name has no colon before it that cannot be: of such a name
no table holds more than one form (`Table.Tidy.not_doubled`). With a colon
it can. The string `:a` has the symbol `a` for its symbolic form, and a write
under the symbol does not look for the string. Written in this order both are
there, and the deletion of the string uncovers the symbol.
-/
import Logline.Proofs.KeyForms

namespace Logline

namespace Table

variable {t : Table} {key : Key}

/-- A key of which two forms are present. -/
def Doubled (t : Table) (key : Key) : Prop :=
  ∃ a ∈ probes key, ∃ b ∈ probes key,
    a ≠ b ∧ t.contains a = true ∧ t.contains b = true

/-- After a deletion the key is still there just where two of its forms were
present. -/
theorem has_remove_iff : has (remove t key) key = true ↔ Doubled t key := by
  rw [remove_eq]
  cases hfound : found? t key with
  | none =>
      -- no form was present, so neither are two
      have hnone : has t key = false := by
        rw [has_eq_found, hfound]
        rfl
      dsimp only
      rw [hnone]
      refine iff_of_false nofun ?_
      rintro ⟨a, ha, -, -, -, hthere, -⟩
      have hhas := has_iff_probe.mpr ⟨a, ha, hthere⟩
      rw [hnone] at hhas
      cases hhas
  | some found =>
      obtain ⟨hprobe, hthere⟩ := found?_some hfound
      dsimp only
      rw [has_iff_probe]
      constructor
      · rintro ⟨other, hother, hleft⟩
        rw [OrderedMap.contains_erase, Bool.and_eq_true,
          decide_eq_true_eq] at hleft
        exact ⟨found, hprobe, other, hother, hleft.1.symm, hthere, hleft.2⟩
      · -- of two forms the deletion took at most one
        rintro ⟨a, ha, b, hb, hne, hain, hbin⟩
        have hleft : ∀ other, other ≠ found → t.contains other = true →
            (t.erase found).contains other = true := by
          intro other hother hin
          rw [OrderedMap.contains_erase, hin, decide_eq_true hother]
          rfl
        by_cases hafound : a = found
        · exact ⟨b, hb, hleft b (fun h => hne (hafound.trans h.symm)) hbin⟩
        · exact ⟨a, ha, hleft a hafound hain⟩

/-- A key without a colon before its name is present in one form at most. -/
theorem Tidy.not_doubled (h : t.Tidy) (hplain : Plain key.name) :
    ¬ Doubled t key := by
  rintro ⟨a, ha, b, hb, hne, hain, hbin⟩
  have hname : ∀ probe ∈ probes key, probe.name = key.name :=
    probes_name hplain rfl
  exact hne (h.form_unique hplain (hname a ha) (hname b hb) hain hbin)

end Table

/-- A deletion gives what was read under the key. Afterwards the key is there
in no form, except where two of its forms were present, and that takes a key
with a colon before its name. -/
theorem Record.del_leaves_iff {r : Record} (built : r.Built)
    (unstopped : r.stopped = false) (key : Key) :
    (r.del key).1 = r.get? key
    ∧ ((r.del key).2.has key = true ↔ r.data.Doubled key)
    ∧ ((r.del key).2.get? key = none ↔ ¬ r.data.Doubled key)
    ∧ (Plain key.name → ¬ r.data.Doubled key) := by
  have hdel : r.del key
      = (r.get? key, { r with data := Table.remove r.data key }) := by
    unfold del get?
    rw [unstopped, Table.take_eq]
    rfl
  have hhas : (r.del key).2.has key = true ↔ r.data.Doubled key := by
    rw [hdel]
    exact Table.has_remove_iff
  refine ⟨?_, hhas, ?_, built.tidy.not_doubled⟩
  · rw [hdel]
  · rw [← hhas, Bool.not_eq_true]
    exact Table.get?_eq_none_iff

/-- A string with a colon before it, then the symbol that is a form of it,
and a key without a colon. -/
def Record.uncovering : Record :=
  .seeded [(.str ":a", .int 1), (.sym "a", .int 2), (.sym "b", .int 3)]

/-- The string is still there after its deletion, and the key without a
colon is not. -/
theorem Record.del_leaves_iff_colon :
    (uncovering.del (.str ":a")).1 = some (.int 1)
    ∧ (uncovering.del (.str ":a")).2.has (.str ":a") = true
    ∧ (uncovering.del (.str "b")).2.get? (.str "b") = none := by
  have built : uncovering.Built := .seeded _
  obtain ⟨hgiven, hleft, -, -⟩ := del_leaves_iff built rfl (.str ":a")
  obtain ⟨-, -, hgone, hplain⟩ := del_leaves_iff built rfl (.str "b")
  refine ⟨hgiven, hleft.mpr ?_, hgone.mpr (hplain (by decide))⟩
  exact ⟨.str ":a", by decide, .sym "a", by decide, by decide, rfl, rfl⟩

/-- So a deletion need not delete. -/
theorem Record.del_leaves :
    ¬ ∀ r : Record, r.Built → r.stopped = false → ∀ key,
      (r.del key).1 = r.get? key
      ∧ (r.del key).2.has key = false
      ∧ (r.del key).2.get? key = none := by
  intro h
  obtain ⟨-, hgone, -⟩ := h uncovering (.seeded _) rfl (.str ":a")
  have hthere : (uncovering.del (.str ":a")).2.has (.str ":a") = true := rfl
  rw [hgone] at hthere
  cases hthere

end Logline
