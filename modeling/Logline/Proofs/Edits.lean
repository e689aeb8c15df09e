/-
Edits of tables that are the same, and edits of other keys.

Two tables are the same if their entries are, whatever their order and the
order of the entries in any map they hold. That is a matter of what is held
under each key (`Table.same_iff`). Where an edit goes is a matter of which
keys are there, and not of where they stand: in tables that are the same a
read finds a key under the same form, a write goes to the same entry and a
removal takes the same one out. So they stay the same under every list of
edits, and no reader ever tells them apart (`Table.Alike.indistinct`).

An edit touches forms of its own keys alone. To leave another key alone it is
not enough that the names differ, since taking the symbolic form drops a
colon: the string `:a` and the symbol `a` have a form in common. It takes keys
that are foreign to each other (`Table.find?_editAll_foreign`).
-/
import Logline.Proofs.Attributes
import Logline.Proofs.ForeignKeys
import Logline.Proofs.Removal

namespace Logline

/-- What two options hold, listed, is related element by element just where
the options are. -/
private theorem forall₂_toList {α β : Type} {r : α → β → Prop}
    {o : Option α} {o' : Option β} :
    List.Forall₂ r o.toList o'.toList ↔ Option.Rel r o o' := by
  constructor
  · intro h
    cases o with
    | none =>
        cases o' with
        | none => exact .none
        | some w => cases h
    | some v =>
        cases o' with
        | none => cases h
        | some w =>
            cases h with
            | cons hvw _ => exact .some hvw
  · intro h
    cases h with
    | none => exact .nil
    | some hvw => exact .cons hvw .nil

namespace Table

/-- Two values that are the same, or none on either side. -/
abbrev SameValue : Option Value → Option Value → Prop :=
  Option.Rel fun v w => v.same w = true

/-- Under each key two tables hold values that are the same, or both none. -/
def Alike (a b : Table) : Prop :=
  ∀ key, SameValue (a.find? key) (b.find? key)

variable {t a b : Table} {key probe : Key}

/-- The order of the entries does not enter into it. -/
theorem same_iff : Table.same a b = true ↔ a.Alike b := by
  have hentries : Table.same a b = true
      ↔ Value.sameEntries a.entries b.entries = true := by
    unfold Table.same toValue
    rw [Value.same]
  have hunder : ∀ (t : Table) key,
      Entries.under key t.entries = (t.find? key).toList :=
    fun t _ => Entries.under_of_distinct t.distinct
  rw [hentries, Value.sameEntries_iff]
  refine forall_congr' fun key => ?_
  rw [hunder, hunder, forall₂_toList]

namespace Alike

variable (h : a.Alike b)

include h

-- ============================================================= reads

theorem contains (key : Key) : a.contains key = b.contains key := by
  have hkey := h key
  unfold OrderedMap.contains
  generalize a.find? key = v at hkey
  generalize b.find? key = w at hkey
  cases hkey with
  | none => rfl
  | some _ => rfl

/-- A key is found in both under the same form, or in neither. -/
theorem found? (key : Key) : Table.found? a key = Table.found? b key := by
  rw [found?_eq, found?_eq, h.contains, h.contains, h.contains]

theorem get? (key : Key) :
    SameValue (Table.get? a key) (Table.get? b key) := by
  rw [get?_eq_found, get?_eq_found, h.found?]
  cases Table.found? b key with
  | none => exact .none
  | some form => exact h form

theorem value (key : Key) :
    (Table.value a key).same (Table.value b key) = true := by
  have hread := h.get? key
  unfold Table.value
  generalize Table.get? a key = v at hread
  generalize Table.get? b key = w at hread
  cases hread with
  | none => exact Value.same_refl _
  | some hsame => exact hsame

theorem has (key : Key) : Table.has a key = Table.has b key := by
  rw [has_eq_found, has_eq_found, h.found?]

/-- Values that are the same pass the same tests. -/
theorem isAny (key : Key) (candidates : List Value) :
    Table.isAny a key candidates = Table.isAny b key candidates := by
  cases candidates with
  | nil => rfl
  | cons first rest =>
      exact Value.any_same_iff.mpr (h.value key) _ (List.cons_ne_nil _ _)

-- ============================================================= edits

theorem target (key : Key) : Table.target a key = Table.target b key := by
  unfold Table.target
  rw [h.contains, h.contains]

theorem set (key : Key) (value : Value) :
    (Table.set a key value).Alike (Table.set b key value) := by
  intro read
  unfold Table.set
  rw [OrderedMap.find?_insert, OrderedMap.find?_insert, h.target]
  split
  · exact .some (Value.same_refl value)
  · exact h read

theorem remove (key : Key) :
    (Table.remove a key).Alike (Table.remove b key) := by
  rw [remove_eq, remove_eq, h.found?]
  cases Table.found? b key with
  | none => exact h
  | some form =>
      intro read
      dsimp only
      rw [OrderedMap.find?_erase, OrderedMap.find?_erase]
      split
      · exact .none
      · exact h read

end Alike

-- ============================================================ edits

/-- The keys that an edit writes or removes under. -/
def Edit.keys : Edit → List Key
  | .set key _ => [key]
  | .remove key => [key]
  | .attr name args =>
    match Attribute.ofCall name args with
    | .ok (.write key _) => [key]
    | _ => []

/-- The table after a list of edits. -/
def editAll (t : Table) (edits : List Edit) : Table := edits.foldl edit t

/-- Whatever the table is, an edit is a write, a removal or nothing. -/
theorem Edit.effect (e : Edit) :
    (∃ key value, e.keys = [key] ∧ ∀ t, edit t e = Table.set t key value)
    ∨ (∃ key, e.keys = [key] ∧ ∀ t, edit t e = Table.remove t key)
    ∨ (e.keys = [] ∧ ∀ t, edit t e = t) := by
  cases e with
  | set key value => exact .inl ⟨key, value, rfl, fun _ => rfl⟩
  | remove key => exact .inr (.inl ⟨key, rfl, fun _ => rfl⟩)
  | attr name args =>
      have hattr : ∀ t, edit t (.attr name args) = (Table.attr t name args).2 :=
        fun _ => rfl
      simp only [hattr, keys, Table.attr]
      cases Attribute.ofCall name args with
      | error cause => exact .inr (.inr ⟨rfl, fun _ => rfl⟩)
      | ok call =>
          cases call with
          | read key => exact .inr (.inr ⟨rfl, fun _ => rfl⟩)
          | test key candidates => exact .inr (.inr ⟨rfl, fun _ => rfl⟩)
          | write key value => exact .inl ⟨key, value, rfl, fun _ => rfl⟩

theorem Alike.edit (h : a.Alike b) (e : Edit) :
    (Table.edit a e).Alike (Table.edit b e) := by
  obtain ⟨key, value, -, hset⟩ | ⟨key, -, hremove⟩ | ⟨-, hnothing⟩ :=
    e.effect
  · rw [hset, hset]
    exact h.set key value
  · rw [hremove, hremove]
    exact h.remove key
  · rw [hnothing, hnothing]
    exact h

/-- A list of edits keeps tables alike. -/
theorem Alike.editAll (h : a.Alike b) (edits : List Edit) :
    (Table.editAll a edits).Alike (Table.editAll b edits) := by
  induction edits generalizing a b with
  | nil => exact h
  | cons e rest ih => exact ih (h.edit e)

-- ====================================================== foreign keys

/-- A removal takes out a form of its key, so no form of a foreign one. -/
theorem find?_remove_foreign {removed : Key} (h : removed.Foreign key)
    (hprobe : probe ∈ probes key) :
    (remove t removed).find? probe = t.find? probe := by
  rw [remove_eq]
  cases hfound : found? t removed with
  | none => rfl
  | some form =>
      dsimp only
      rw [OrderedMap.find?_erase, if_neg]
      rintro rfl
      exact h _ (found?_some hfound).1 hprobe

theorem find?_edit_foreign {e : Edit}
    (h : ∀ touched ∈ e.keys, touched.Foreign key)
    (hprobe : probe ∈ probes key) :
    (edit t e).find? probe = t.find? probe := by
  obtain ⟨touched, value, hkeys, hset⟩ | ⟨touched, hkeys, hremove⟩
    | ⟨-, hnothing⟩ := e.effect
  · rw [hset]
    rw [hkeys] at h
    exact find?_set_foreign (h touched (.head _)) hprobe
  · rw [hremove]
    rw [hkeys] at h
    exact find?_remove_foreign (h touched (.head _)) hprobe
  · rw [hnothing]

/-- Edits touch no form of a key that is foreign to all of theirs. -/
theorem find?_editAll_foreign {edits : List Edit}
    (h : ∀ e ∈ edits, ∀ touched ∈ e.keys, touched.Foreign key)
    (hprobe : probe ∈ probes key) :
    (editAll t edits).find? probe = t.find? probe := by
  induction edits generalizing t with
  | nil => rfl
  | cons e rest ih =>
      have hrest : ∀ e ∈ rest, ∀ touched ∈ e.keys, touched.Foreign key :=
        fun e he => h e (.tail _ he)
      exact (ih hrest).trans (find?_edit_foreign (h e (.head _)) hprobe)

/-- Whether a key is there depends on its forms alone. -/
theorem has_congr (h : ∀ probe ∈ probes key, a.find? probe = b.find? probe) :
    has a key = has b key := by
  rw [Bool.eq_iff_iff, ← Bool.not_eq_false, ← Bool.not_eq_false (has b key),
    ← get?_eq_none_iff, ← get?_eq_none_iff, get?_congr h]

-- ======================================================= readers

/-- Tables that no reader tells apart. -/
structure Indistinct (a b : Table) : Prop where
  same : Table.same a b = true
  get : ∀ key, SameValue (get? a key) (get? b key)
  value : ∀ key, (Table.value a key).same (Table.value b key) = true
  has : ∀ key, has a key = has b key
  isAny : ∀ key candidates, isAny a key candidates = isAny b key candidates
  /-- A removal would give the same. -/
  removed : ∀ key, SameValue (take a key).1 (take b key).1

theorem Alike.indistinct (h : a.Alike b) : Indistinct a b where
  same := same_iff.mpr h
  get := h.get?
  value := h.value
  has := h.has
  isAny := h.isAny
  removed key := by
    rw [take_eq, take_eq]
    exact h.get? key

/-- Edits of two tables that are the same leave tables that no reader tells
apart, and edits leave every key alone that has no form in common with the
keys they write or remove under. -/
theorem edits_indistinct (edits : List Edit) :
    (∀ a b, Table.same a b = true →
      Indistinct (editAll a edits) (editAll b edits))
    ∧ ∀ (t : Table) (key : Key),
      (∀ e ∈ edits, ∀ touched ∈ e.keys,
        ∀ probe ∈ probes touched, probe ∉ probes key) →
      get? (editAll t edits) key = get? t key
        ∧ has (editAll t edits) key = has t key := by
  refine ⟨fun a b hsame => ?_, fun t key hforeign => ?_⟩
  · exact ((same_iff.mp hsame).editAll edits).indistinct
  · have hforms : ∀ probe ∈ probes key,
        (editAll t edits).find? probe = t.find? probe :=
      fun _ => find?_editAll_foreign hforeign
    exact ⟨get?_congr hforms, has_congr hforms⟩

/-- Two tables with the same entries in different orders, the entries of a map
that they hold among them. -/
def shuffled : Table × Table :=
  (.ofList [(.str ":a", .int 1), (.sym "a", .int 2), (.sym "b", .int 3),
      (.sym "m", .map [(.str "x", .nil), (.sym "x", .bool true)])],
    .ofList [(.sym "m", .map [(.sym "x", .bool true), (.str "x", .nil)]),
      (.sym "b", .int 3), (.sym "a", .int 2), (.str ":a", .int 1)])

/-- In both a write under the string goes to the symbol once the string has
been removed. The key that has no form in common with these is left alone, as
the symbol without a colon would not be. -/
theorem edits_indistinct_shuffled :
    let edits : List Edit := [.remove (.str ":a"), .set (.str ":a") (.int 4),
      .set (.str "m") (.map []), .attr "c" [.int 5]]
    Table.same shuffled.1 shuffled.2 = true
    ∧ shuffled.1.keys ≠ shuffled.2.keys
    ∧ Indistinct (editAll shuffled.1 edits) (editAll shuffled.2 edits)
    ∧ get? (editAll shuffled.2 edits) (.str ":a") = some (.int 4)
    ∧ (∀ e ∈ edits, ∀ touched ∈ e.keys, touched.Foreign (.str "b"))
    ∧ get? (editAll shuffled.2 edits) (.str "b") = some (.int 3)
    ∧ ¬ (Key.str ":a").Foreign (.sym "a") := by
  intro edits
  have hsame : Table.same shuffled.1 shuffled.2 = true := by decide
  have hforeign : ∀ e ∈ edits, ∀ touched ∈ e.keys,
      touched.Foreign (.str "b") := by
    decide
  obtain ⟨hblind, hkept⟩ := edits_indistinct edits
  exact ⟨hsame, by decide, hblind _ _ hsame, by rfl, hforeign,
    (hkept _ _ hforeign).1.trans (by rfl), by decide⟩

end Table

end Logline
