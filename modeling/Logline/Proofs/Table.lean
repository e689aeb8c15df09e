/-
What a write to a table does to its reads.

A read looks for three forms of its key, a write for two forms of its own
and then takes the key as given, and the two look in different orders. So
under which entry a key is found, and to which entry it is written, are two
questions: `Table.found?` answers the one and `Table.target` the other.

A write never moves a key that is there already. Whatever is written, and
under which form of which name, the key is found under the entry that it was
found under before (`Table.found?_set`). So its value changes just where
that entry is the one written to (`Table.get?_set`).
-/
import Logline.Proofs.OrderedMap
import Logline.Table

namespace Logline

-- ============================================================ names

/-- A name without a colon before it. -/
def Plain (name : String) : Prop := name.toList.head? ≠ some ':'

instance (name : String) : Decidable (Plain name) :=
  inferInstanceAs (Decidable (_ ≠ _))

theorem symbolName_plain {name : String} (h : Plain name) :
    symbolName name = name := by
  unfold symbolName
  split
  · rename_i rest heq
    unfold Plain at h
    rw [heq] at h
    exact absurd rfl h
  · rfl

/-- A symbol is written as its name, or with a colon before that. -/
theorem symbolName_eq {s name : String} (h : symbolName s = name) :
    s = name ∨ s = ":" ++ name := by
  unfold symbolName at h
  split at h
  · rename_i rest heq
    right
    subst h
    rw [← String.toList_inj, heq]
    simp
  · exact .inl h

theorem symbolName_colon (name : String) : symbolName (":" ++ name) = name := by
  simp [symbolName]

theorem ne_colon (name : String) : name ≠ ":" ++ name := by
  intro heq
  have hlength := congrArg String.length heq
  rw [String.length_append] at hlength
  have hcolon : ":".length = 1 := rfl
  omega

namespace Key

theorem strForm_sym (name : String) : (sym name).strForm = str name := rfl

theorem symForm_str {name : String} (hplain : Plain name) :
    (str name).symForm = sym name :=
  congrArg sym (symbolName_plain hplain)

theorem symForm_sym {name : String} (hplain : Plain name) :
    (sym name).symForm = sym name :=
  congrArg sym (symbolName_plain hplain)

section

variable {key : Key} {name : String} (h : key.name = name)

include h

theorem strForm_of_name : key.strForm = .str name := by
  unfold strForm
  rw [h]

theorem symForm_of_name (hplain : Plain name) :
    key.symForm = .sym name := by
  unfold symForm symbol
  rw [h, symbolName_plain hplain]

/-- A key is one of the two forms of its name. -/
theorem form_of_name : key = .str name ∨ key = .sym name := by
  subst h
  cases key with
  | str name => exact .inl rfl
  | sym name => exact .inr rfl

end

end Key

namespace Table

variable {t : Table} {key other found : Key} {value : Value}

-- ============================================================= reads

/-- The first form of a key that is there, in the order of reads. -/
def found? (t : Table) (key : Key) : Option Key :=
  (probes key).find? t.contains

/-- It is the key itself, else its string form, else its symbolic form. -/
theorem found?_eq (t : Table) (key : Key) :
    found? t key
      = if t.contains key then some key
        else if t.contains key.strForm then some key.strForm
        else if t.contains key.symForm then some key.symForm
        else none := by
  unfold found? probes
  simp only [List.find?_cons, List.find?_nil]
  cases t.contains key <;> cases t.contains key.strForm <;>
    cases t.contains key.symForm <;> rfl

/-- What is read under a key is the value of the entry that it is found
under. -/
theorem get?_eq_found (t : Table) (key : Key) :
    get? t key = (found? t key).bind t.find? := by
  unfold get? found?
  induction probes key with
  | nil => rfl
  | cons probe rest ih =>
      rw [List.findSome?_cons, List.find?_cons, ih]
      unfold OrderedMap.contains
      cases hf : t.find? probe with
      | none => rfl
      | some value => exact hf.symm

theorem has_eq_found (t : Table) (key : Key) :
    has t key = (found? t key).isSome := by
  unfold has found?
  rw [Bool.eq_iff_iff, List.find?_isSome, List.any_eq_true]

/-- A key is found under one of its forms, which is there. -/
theorem found?_some (h : found? t key = some found) :
    found ∈ probes key ∧ t.contains found = true :=
  ⟨List.mem_of_find?_eq_some h, List.find?_some h⟩

/-- A key is there if one of its forms is. -/
theorem has_iff :
    has t key = true ↔ t.contains key = true
      ∨ t.contains key.strForm = true ∨ t.contains key.symForm = true := by
  simp [has, probes]

/-- The text under a key is that of its value, since `nil` has none. -/
theorem text?_eq_value (t : Table) (key : Key) :
    text? t key = (Table.value t key).text? := by
  unfold text? Table.value
  cases get? t key with
  | none => rfl
  | some value => rfl

/-- A key is there if one of the forms that are looked for is. -/
theorem has_iff_probe :
    has t key = true ↔ ∃ probe ∈ probes key, t.contains probe = true := by
  unfold has
  exact List.any_eq_true

/-- A read gives a value just where the key is there. -/
theorem get?_eq_none_iff : get? t key = none ↔ has t key = false := by
  rw [get?_eq_found, has_eq_found]
  cases hfound : found? t key with
  | none => simp
  | some found =>
      obtain ⟨-, hthere⟩ := found?_some hfound
      obtain ⟨value, hvalue⟩ := Option.isSome_iff_exists.mp hthere
      simp [hvalue]

-- =========================================================== removals

/-- A removal takes out the entry that a read finds. -/
theorem take_eq_found (t : Table) (key : Key) :
    take t key
      = match found? t key with
        | some form => (t.find? form, t.erase form)
        | none => (none, t) := by
  unfold take found?
  induction probes key with
  | nil => rfl
  | cons probe rest ih =>
      rw [List.findSome?_cons, List.find?_cons]
      unfold OrderedMap.contains
      cases hf : t.find? probe with
      | none => exact ih
      | some value => exact congrArg (·, t.erase probe) hf.symm

/-- So it erases that entry. -/
theorem remove_eq (t : Table) (key : Key) :
    remove t key
      = match found? t key with
        | some form => t.erase form
        | none => t := by
  unfold remove
  rw [take_eq_found]
  cases found? t key <;> rfl

/-- And it gives what is read. -/
theorem take_eq (t : Table) (key : Key) :
    take t key = (get? t key, remove t key) := by
  have hgiven : (take t key).1 = get? t key := by
    rw [take_eq_found, get?_eq_found]
    cases found? t key <;> rfl
  rw [← hgiven]
  rfl

-- ============================================================ writes

/-- A write goes to a form of its key. -/
theorem target_mem_probes (t : Table) (key : Key) :
    target t key ∈ probes key := by
  unfold target
  split
  · exact .tail _ (.head _)
  · split
    · exact .tail _ (.tail _ (.head _))
    · exact .head _

/-- A write goes to a form of its key, and unless that is there already it
goes to the key itself, none of whose forms is. -/
theorem target_new (h : t.contains (target t key) = false) :
    target t key = key ∧ t.contains key.strForm = false
      ∧ t.contains key.symForm = false := by
  unfold target at h ⊢
  cases hstr : t.contains key.strForm with
  | true => simp [hstr] at h
  | false =>
      cases hsym : t.contains key.symForm with
      | true => simp [hstr, hsym] at h
      | false => simp

/-- A write under a plain name goes to a form of that name. -/
theorem target_name {name : String} (hplain : Plain name) (h : key.name = name) :
    (target t key).name = name := by
  unfold target
  rw [Key.symForm_of_name h hplain, Key.strForm_of_name h]
  split
  · rfl
  · split
    · rfl
    · exact h

/-- A write under a name that no entry has adds an entry at the end. -/
theorem entries_set_new {name : String} (hplain : Plain name)
    (h : ∀ e ∈ t.entries, e.1.name ≠ name) (value : Value) :
    (set t (.symbol name) value).entries
      = t.entries ++ [(.sym name, value)] := by
  have hnew : ∀ key : Key, key.name = name →
      key ∉ Entries.keys t.entries := by
    intro key hname hmem
    obtain ⟨e, he, rfl⟩ := List.mem_map.mp hmem
    exact h e he hname
  have hname : (target t (.symbol name)).name = name :=
    target_name hplain (symbolName_plain hplain)
  have hgone : t.contains (target t (.symbol name)) = false := by
    rw [← Bool.not_eq_true, OrderedMap.contains_iff]
    exact hnew _ hname
  have hentries := Entries.insert_new (hnew _ hname) value
  unfold set
  rw [(target_new hgone).1] at hentries ⊢
  exact hentries.trans (congrArg (fun n => t.entries ++ [(.sym n, value)])
    (symbolName_plain hplain))

/-- A key that is there is found under the same entry after every write,
whatever is written. -/
theorem found?_set (h : has t key = true) (other : Key) (value : Value) :
    found? (set t other value) key = found? t key := by
  have hnow : ∀ k, (set t other value).contains k
      = (decide (k = target t other) || t.contains k) :=
    fun k => OrderedMap.contains_insert t (target t other) k value
  rw [found?_eq, found?_eq]
  cases hold : t.contains (target t other) with
  | true =>
      -- an entry that was there is overwritten, so no form comes or goes
      have hsame : ∀ k, (set t other value).contains k = t.contains k := by
        intro k
        rw [hnow]
        by_cases hk : k = target t other
        · rw [hk, hold, Bool.or_true]
        · simp [hk]
      rw [hsame, hsame, hsame]
  | false =>
      -- a new entry is found before the old one only if the two are forms
      -- of each other, and then it would not be new
      obtain ⟨htarget, hstr, hsym⟩ := target_new hold
      rw [htarget] at hold hnow
      by_cases hkey : t.contains key = true
      · simp [hnow, hkey]
      · by_cases hkeystr : t.contains key.strForm = true
        · have hne : key ≠ other := by
            rintro rfl
            rw [hstr] at hkeystr
            cases hkeystr
          simp [hnow, hne, hkey, hkeystr]
        · have hkeysym : t.contains key.symForm = true := by
            simpa [hkey, hkeystr] using has_iff.mp h
          have hne : key ≠ other := by
            rintro rfl
            rw [hsym] at hkeysym
            cases hkeysym
          have hnestr : key.strForm ≠ other := by
            rintro rfl
            have hform : key.strForm.symForm = key.symForm := rfl
            rw [← hform, hsym] at hkeysym
            cases hkeysym
          simp [hnow, hne, hnestr, hkey, hkeystr, hkeysym]

/-- So its value changes just where it is found under the entry that is
written to. -/
theorem get?_set (h : has t key = true) (other : Key) (value : Value) :
    get? (set t other value) key
      = if found? t key = some (target t other) then some value
        else get? t key := by
  rw [get?_eq_found, found?_set h, get?_eq_found]
  cases hfound : found? t key with
  | none =>
      rw [has_eq_found, hfound] at h
      cases h
  | some found =>
      show (t.insert (target t other) value).find? found = _
      rw [OrderedMap.find?_insert]
      by_cases hf : found = target t other
      · simp [hf]
      · simp [hf]

end Table

end Logline
