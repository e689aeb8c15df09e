/-
Removing what a read of a key finds.

A removal tries to take out the forms of its key in the order in which a read
looks for them, and is done at the first that is there. So it finds the entry
that a read finds: it gives the value that is read (`Table.take_eq`) and
leaves the table without that entry, all others as they are and in their
order (`Table.take_reads`).

That may uncover another form of the key. But whatever is taken is an entry
under one of the three forms, and each form has one entry at most, so a
removal that is repeated finds nothing any more after three times, and then
exactly the entries under other keys are left (`Table.drained`).
-/
import Mathlib.Data.List.Perm.Subperm
import Logline.Proofs.Table

namespace Logline.Table

variable {t : Table} {key form : Key} {value : Value}

-- ====================================================== what a read finds

/-- The entry that a read of a key finds: it is there under a form of the
key, and no form that is looked for before is there. -/
structure Reads (t : Table) (key form : Key) (value : Value) : Prop where
  found : t.find? form = some value
  first : ∃ earlier later, probes key = earlier ++ form :: later
    ∧ ∀ probe ∈ earlier, t.contains probe = false

theorem reads_iff : Reads t key form value
    ↔ found? t key = some form ∧ t.find? form = some value := by
  unfold found?
  rw [List.find?_eq_some_iff_append]
  constructor
  · rintro ⟨hfound, earlier, later, hprobes, hearlier⟩
    refine ⟨⟨?_, earlier, later, hprobes, fun probe hprobe => ?_⟩, hfound⟩
    · exact Option.isSome_of_eq_some hfound
    · rw [hearlier probe hprobe]
      rfl
  · rintro ⟨⟨-, earlier, later, hprobes, hearlier⟩, hfound⟩
    refine ⟨hfound, earlier, later, hprobes, fun probe hprobe => ?_⟩
    exact Bool.eq_false_iff.mpr fun h => by simpa [h] using hearlier probe hprobe

/-- Its value is what is read. -/
theorem get?_eq_some_iff :
    get? t key = some value ↔ ∃ form, Reads t key form value := by
  rw [get?_eq_found, Option.bind_eq_some_iff]
  exact exists_congr fun form => reads_iff.symm

-- ======================================================= what is taken out

/-- A removal takes out the entry that is read. -/
theorem take_reads (h : Reads t key form value) :
    (take t key).1 = some value
    ∧ ∃ before after, t.entries = before ++ (form, value) :: after
      ∧ (take t key).2.entries = before ++ after := by
  obtain ⟨hfound, hvalue⟩ := reads_iff.mp h
  obtain ⟨before, after, hentries, -, herase⟩ :=
    OrderedMap.split_of_find? hvalue
  rw [take_eq]
  refine ⟨get?_eq_some_iff.mpr ⟨form, h⟩, before, after, hentries, ?_⟩
  rw [remove_eq, hfound]
  exact herase

/-- Where nothing is read nothing is taken. -/
theorem take_none (h : get? t key = none) : take t key = (none, t) := by
  rw [get?_eq_none_iff, has_eq_found, Option.isSome_eq_false_iff,
    Option.isNone_iff_eq_none] at h
  rw [take_eq_found, h]

theorem has_iff_take :
    has t key = true ↔ (take t key).1.isSome = true := by
  rw [take_eq, ← Bool.not_eq_false, ← get?_eq_none_iff,
    Option.isSome_iff_ne_none]

-- ================================================= over and over again

/-- The table after a number of removals of a key. -/
def taken (t : Table) (key : Key) : Nat → Table
  | 0 => t
  | turns + 1 => taken (take t key).2 key turns

/-- The entries under the forms of a key. -/
def formsOf (t : Table) (key : Key) : List (Key × Value) :=
  t.entries.filter fun entry => entry.1 ∈ probes key

/-- The entries under other keys. -/
def others (t : Table) (key : Key) : List (Key × Value) :=
  t.entries.filter fun entry => entry.1 ∉ probes key

theorem formsOf_eq_nil_iff : formsOf t key = [] ↔ get? t key = none := by
  rw [get?_eq_none_iff, ← Bool.not_eq_true, has_iff_probe]
  unfold formsOf
  rw [List.filter_eq_nil_iff]
  constructor
  · rintro h ⟨probe, hprobe, hthere⟩
    obtain ⟨value, hvalue⟩ := Option.isSome_iff_exists.mp hthere
    exact h _ (OrderedMap.find?_iff_mem.mp hvalue) (decide_eq_true hprobe)
  · rintro h ⟨form, value⟩ hentry hform
    have hvalue := OrderedMap.find?_iff_mem.mpr hentry
    exact h ⟨form, of_decide_eq_true hform, Option.isSome_of_eq_some hvalue⟩

/-- Every form has one entry at most. -/
theorem length_formsOf_le (t : Table) (key : Key) :
    (formsOf t key).length ≤ 3 := by
  have hdistinct : (Entries.keys (formsOf t key)).Nodup :=
    t.distinct.sublist (List.filter_sublist.map Prod.fst)
  have hprobes : Entries.keys (formsOf t key) ⊆ probes key := by
    intro form hform
    obtain ⟨entry, hentry, rfl⟩ := List.mem_map.mp hform
    exact of_decide_eq_true (List.mem_filter.mp hentry).2
  have hle := (List.subperm_of_subset hdistinct hprobes).length_le
  rwa [Entries.keys, List.length_map] at hle

/-- A removal takes out an entry under a form of its key and no other. -/
theorem take_forms (h : Reads t key form value) :
    (formsOf t key).length = (formsOf (take t key).2 key).length + 1
    ∧ others (take t key).2 key = others t key := by
  have hprobe : form ∈ probes key := (found?_some (reads_iff.mp h).1).1
  obtain ⟨-, before, after, hentries, htake⟩ := take_reads h
  unfold formsOf others
  rw [hentries, htake]
  simp [hprobe, Nat.add_assoc]

/-- Repeated, a removal gives a value as often as there are entries under
forms of its key, and then the others are left. -/
theorem drained {turns : Nat} (h : (formsOf t key).length = turns) :
    (∀ turn < turns, (take (taken t key turn) key).1.isSome = true)
    ∧ (take (taken t key turns) key).1 = none
    ∧ (taken t key turns).entries = others t key := by
  induction turns generalizing t with
  | zero =>
      have hnone := List.length_eq_zero_iff.mp h
      have hread := formsOf_eq_nil_iff.mp hnone
      refine ⟨nofun, ?_, ?_⟩
      · rw [taken, take_none hread]
      · unfold formsOf at hnone
        unfold others
        rw [taken, List.filter_eq_self.mpr]
        intro entry hentry
        simpa using List.filter_eq_nil_iff.mp hnone entry hentry
  | succ turns ih =>
      have hsome : get? t key ≠ none := by
        intro hread
        rw [formsOf_eq_nil_iff.mpr hread] at h
        cases h
      obtain ⟨value, hvalue⟩ := Option.ne_none_iff_exists'.mp hsome
      obtain ⟨form, hreads⟩ := get?_eq_some_iff.mp hvalue
      obtain ⟨hfewer, hothers⟩ := take_forms hreads
      obtain ⟨hgiven, hgone, hleft⟩ := @ih (take t key).2 (by omega)
      refine ⟨fun turn hturn => ?_, hgone, hleft.trans hothers⟩
      cases turn with
      | zero =>
          rw [taken, (take_reads hreads).1]
          rfl
      | succ turn => exact hgiven turn (Nat.lt_of_succ_lt_succ hturn)

/-- A removal undoes a read: it gives what is read and takes out the entry
that is read, and nothing else; and no more than three removals leave the
entries under other keys alone. -/
theorem removal_inverts_read (t : Table) (key : Key) :
    take t key = (get? t key, remove t key)
    ∧ (∀ value, get? t key = some value → ∃ form before after,
      Reads t key form value
      ∧ t.entries = before ++ (form, value) :: after
      ∧ (take t key).2.entries = before ++ after)
    ∧ (get? t key = none → (take t key).2 = t)
    ∧ (has t key = true ↔ (take t key).1.isSome = true)
    ∧ ∃ turns ≤ 3,
      (∀ turn < turns, (take (taken t key turn) key).1.isSome = true)
      ∧ (take (taken t key turns) key).1 = none
      ∧ has (taken t key turns) key = false
      ∧ (taken t key turns).entries
        = t.entries.filter fun entry => entry.1 ∉ probes key := by
  refine ⟨take_eq t key, fun value hvalue => ?_, fun hnone => ?_,
    has_iff_take, ?_⟩
  · obtain ⟨form, hreads⟩ := get?_eq_some_iff.mp hvalue
    obtain ⟨-, before, after, hentries, htake⟩ := take_reads hreads
    exact ⟨form, before, after, hreads, hentries, htake⟩
  · rw [take_none hnone]
  · obtain ⟨hgiven, hgone, hleft⟩ := @drained t key _ rfl
    refine ⟨_, length_formsOf_le t key, hgiven, hgone, ?_, hleft⟩
    rw [← Bool.not_eq_true, has_iff_take, hgone]
    exact nofun

/-- A table with every form of a symbol that begins with a colon. -/
def threefold : Table :=
  .ofList [(.sym "a", .int 1), (.sym ":a", .int 2), (.str "b", .int 3),
    (.str ":a", .int 4)]

/-- The symbol is read first. Each removal uncovers the next form, and the
third leaves the key that has nothing to do with it. -/
theorem removal_inverts_read_threefold :
    (take threefold (.sym ":a")).1 = some (.int 2)
    ∧ has (take threefold (.sym ":a")).2 (.sym ":a") = true
    ∧ ∃ turns, turns = 3
      ∧ (taken threefold (.sym ":a") turns).entries = [(.str "b", .int 3)]
      ∧ has (taken threefold (.sym ":a") turns) (.sym ":a") = false := by
  obtain ⟨htake, -, -, -, turns, hturns, hgiven, hgone, hhas, hleft⟩ :=
    removal_inverts_read threefold (.sym ":a")
  refine ⟨by rw [htake]; rfl, rfl, turns, ?_, hleft, hhas⟩
  -- the first three removals give a value each
  rcases Nat.lt_or_ge turns 3 with hfew | hmany
  · have hall : ∀ turn < 3,
        (take (taken threefold (.sym ":a") turn) (.sym ":a")).1.isSome
          = true := by
      decide
    have hmore := hall turns hfew
    rw [hgone] at hmore
    cases hmore
  · exact Nat.le_antisymm hturns hmany

end Logline.Table
