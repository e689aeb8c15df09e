/-
Whether a write is read back under its own key.

A write makes a difference in one place. Where its key is there in some form
it replaces the value of one entry, which stays where it is, and otherwise it
adds an entry at the end (`Table.set_replaces`, `Table.set_appends`).

That entry need not be the one that a read of the key finds. A write looks
for the string first and for the key itself last, a read the other way round,
and for a key of which no form or one form is there the order makes no
difference. Two forms of a string can be there as well, since both orders
have its string form first among the forms that differ from it. So it takes a
symbol, which is there itself, together with a form that a write looks for
before it: its string, or the symbol without the colon that its name begins
with (`Table.Shadowed`). Then the write goes past the symbol, and only then
(`Table.found_target_iff`).
-/
import Logline.Proofs.Table

namespace Logline.Table

variable {t : Table} {key : Key}

-- ======================================================== where it goes

/-- A write goes to an entry that is there just where its key is there in
some form. -/
theorem contains_target (t : Table) (key : Key) :
    t.contains (target t key) = has t key := by
  rw [Bool.eq_iff_iff, has_iff]
  unfold target
  cases hstr : t.contains key.strForm with
  | true => simp [hstr]
  | false =>
      cases hsym : t.contains key.symForm with
      | true => simp [hsym]
      | false => simp

/-- A write of a key that is there replaces the value of one entry. -/
theorem set_replaces (h : has t key = true) (value : Value) :
    ∃ before old after,
      t.entries = before ++ (target t key, old) :: after
      ∧ (set t key value).entries
        = before ++ (target t key, value) :: after := by
  have hthere : t.contains (target t key) = true :=
    (contains_target t key).trans h
  obtain ⟨old, hold⟩ := Option.isSome_iff_exists.mp hthere
  obtain ⟨before, after, hentries, hinsert, -⟩ :=
    OrderedMap.split_of_find? hold
  exact ⟨before, old, after, hentries, hinsert value⟩

/-- A write of a key that is not there adds an entry under the key as it is
given. -/
theorem set_appends (h : has t key = false) (value : Value) :
    (set t key value).entries = t.entries ++ [(key, value)] := by
  have hnew : t.contains (target t key) = false :=
    (contains_target t key).trans h
  have htarget : target t key = key := (target_new hnew).1
  have hkey : key ∉ Entries.keys t.entries := by
    rw [htarget, ← Bool.not_eq_true, OrderedMap.contains_iff] at hnew
    exact hnew
  unfold set
  rw [htarget]
  exact Entries.insert_new hkey value

-- =================================================== whether it is found

/-- A symbol that is there together with a form for which a write looks
before it: the string of its name, or the symbol without the colon that its
name begins with. -/
def Shadowed (t : Table) : Key → Prop
  | .str _ => False
  | .sym name => t.contains (.sym name) = true
    ∧ (t.contains (.str name) = true
      ∨ ∃ rest, name = ":" ++ rest ∧ t.contains (.sym rest) = true)

/-- The symbolic form of a symbol is another symbol just where its name begins
with a colon. -/
theorem exists_colon_iff {name : String} {P : Key → Prop} :
    (∃ rest, name = ":" ++ rest ∧ P (.sym rest))
      ↔ (Key.sym name).symForm ≠ .sym name ∧ P (Key.sym name).symForm := by
  constructor
  · rintro ⟨rest, rfl, hrest⟩
    have hform : (Key.sym (":" ++ rest)).symForm = .sym rest :=
      congrArg Key.sym (symbolName_colon rest)
    rw [hform]
    exact ⟨fun h => ne_colon rest (Key.sym.inj h), hrest⟩
  · rintro ⟨hother, hform⟩
    rcases symbolName_eq (rfl : symbolName name = symbolName name) with h | h
    · exact absurd (congrArg Key.sym h.symm) hother
    · exact ⟨symbolName name, h, hform⟩

/-- So a symbol is shadowed if it is there and a write of it goes elsewhere. -/
theorem shadowed_sym_iff {name : String} :
    Shadowed t (.sym name)
      ↔ t.contains (.sym name) = true
        ∧ target t (.sym name) ≠ .sym name := by
  simp only [Shadowed]
  rw [exists_colon_iff (P := fun key => t.contains key = true)]
  refine and_congr_right fun _ => ?_
  unfold target
  rw [Key.strForm_sym]
  cases hstr : t.contains (.str name) with
  | true => simp
  | false =>
      cases hsym : t.contains (Key.sym name).symForm with
      | true => simp
      | false => simp

/-- A key that is not there as it is given is read where it is written. -/
theorem found_target_of_not_contains (h : has t key = true)
    (hkey : t.contains key = false) : found? t key = some (target t key) := by
  rw [has_iff, hkey] at h
  rw [found?_eq, target, hkey]
  cases hstr : t.contains key.strForm with
  | true => simp
  | false =>
      have hsym : t.contains key.symForm = true := by simpa [hstr] using h
      simp [hsym]

/-- A key that is there is read where it is written, unless it is
shadowed. -/
theorem found_target_iff (h : has t key = true) :
    found? t key = some (target t key) ↔ ¬ Shadowed t key := by
  cases hkey : t.contains key with
  | false =>
      refine iff_of_true (found_target_of_not_contains h hkey) ?_
      cases key with
      | str name => exact id
      | sym name =>
          rw [shadowed_sym_iff, hkey]
          exact fun h => Bool.false_ne_true h.1
  | true =>
      have hfound : found? t key = some key := by
        rw [found?_eq, hkey]
        rfl
      rw [hfound, Option.some.injEq]
      cases key with
      | str name =>
          -- the first form that a write looks for is the key itself
          refine iff_of_true ?_ id
          rw [target, Key.strForm_str, hkey]
          rfl
      | sym name =>
          rw [shadowed_sym_iff, hkey]
          simp [eq_comm]

-- ========================================================= what is read

/-- A write adds or replaces one entry, and it is read back under its own key
unless that is shadowed; then the old value is still there. -/
theorem set_read_back (t : Table) (key : Key) (value : Value) :
    (has t key = true → ∃ before form old after,
      form ∈ probes key
      ∧ t.entries = before ++ (form, old) :: after
      ∧ (set t key value).entries = before ++ (form, value) :: after)
    ∧ (has t key = false →
      (set t key value).entries = t.entries ++ [(key, value)])
    ∧ (¬ Shadowed t key → get? (set t key value) key = some value)
    ∧ (Shadowed t key → ∃ old, t.find? key = some old
      ∧ get? t key = some old ∧ get? (set t key value) key = some old) := by
  refine ⟨fun h => ?_, fun h => set_appends h value, fun hfree => ?_,
    fun hshadowed => ?_⟩
  · obtain ⟨before, old, after, hentries, hset⟩ := set_replaces h value
    exact ⟨before, target t key, old, after, target_mem_probes t key,
      hentries, hset⟩
  · cases h : has t key with
    | true => rw [get?_set h, if_pos ((found_target_iff h).mpr hfree)]
    | false =>
        -- the new entry is the first that a read of the key looks for
        have htarget : target t key = key :=
          (target_new ((contains_target t key).trans h)).1
        have hfind : (set t key value).find? key = some value := by
          unfold set
          rw [htarget]
          exact Entries.find?_insert_self key value t.entries
        unfold get? probes
        rw [List.findSome?_cons, hfind]
  · have hthere : t.contains key = true := by
      cases key with
      | str name => exact hshadowed.elim
      | sym name => exact hshadowed.1
    obtain ⟨old, hold⟩ := Option.isSome_iff_exists.mp hthere
    have hread : get? t key = some old := by
      unfold get? probes
      rw [List.findSome?_cons, hold]
    have h : has t key = true := has_iff.mpr (.inl hthere)
    have hpast : found? t key ≠ some (target t key) :=
      fun hfound => (found_target_iff h).mp hfound hshadowed
    refine ⟨old, hold, hread, ?_⟩
    rw [get?_set h, if_neg hpast]
    exact hread

/-- A table with a symbol and its string, and with a symbol that begins with
a colon and the one without it. -/
def crowded : Table :=
  .ofList [(.sym "a", .int 1), (.str "a", .int 2), (.sym ":b", .int 3),
    (.sym "b", .int 4)]

/-- Both are shadowed; the string and the symbol without a colon are not. -/
theorem set_read_back_crowded :
    Shadowed crowded (.sym "a") ∧ Shadowed crowded (.sym ":b")
    ∧ get? (set crowded (.sym "a") (.int 5)) (.sym "a") = some (.int 1)
    ∧ get? (set crowded (.sym ":b") (.int 5)) (.sym ":b") = some (.int 3)
    ∧ get? (set crowded (.str "a") (.int 5)) (.str "a") = some (.int 5)
    ∧ (set crowded (.str "c") (.int 5)).entries
      = crowded.entries ++ [(.str "c", .int 5)] := by
  have ha : Shadowed crowded (.sym "a") := ⟨rfl, .inl rfl⟩
  have hb : Shadowed crowded (.sym ":b") := ⟨rfl, .inr ⟨"b", rfl, rfl⟩⟩
  obtain ⟨-, -, -, hsym⟩ := set_read_back crowded (.sym "a") (.int 5)
  obtain ⟨-, -, -, hcolon⟩ := set_read_back crowded (.sym ":b") (.int 5)
  obtain ⟨-, -, hstr, -⟩ := set_read_back crowded (.str "a") (.int 5)
  obtain ⟨-, hnew, -, -⟩ := set_read_back crowded (.str "c") (.int 5)
  obtain ⟨old, hold, -, hkept⟩ := hsym ha
  obtain ⟨old', hold', -, hkept'⟩ := hcolon hb
  exact ⟨ha, hb, hkept.trans hold.symm, hkept'.trans hold'.symm, hstr id,
    hnew rfl⟩

end Logline.Table
