/-
In which forms the keys of a table are present.

A name can be written as a string and as a symbol, and readers shall not
mind which. That works because no table ever holds a name in both forms: a
write first looks for the two forms of its key, and adds the key as given
only where neither is there.

# Why the order matters

The forms do not sort keys into classes. The symbolic form drops a colon
each time that it is taken, so the symbol `a` is a form of the symbol `:a`
and not the other way round; and both can be present, if `:a` came first.
What every table keeps to is a fact about the order of its entries: no key
is a form of a later one (`Table.Tidy`). Overwriting leaves the order alone,
a new entry comes last and has just been looked for in both forms, and a
removal only thins the order out.

For a name without a colon before it this leaves room for one of its two
forms (`Table.Tidy.alone`), and a write under either is read back under
both (`Table.Tidy.get?_set_name`).
-/
import Logline.Proofs.Parser.Life
import Logline.Proofs.Table

namespace Logline

namespace Key

/-- An earlier key that is neither form of a later one. -/
def Apart (earlier later : Key) : Prop :=
  earlier ≠ later.strForm ∧ earlier ≠ later.symForm

end Key

namespace Table

variable {t : Table} {key read : Key} {value : Value} {name : String}

-- ================================================= edits and tidiness

/-- What can be done with a table. -/
inductive Edit where
  | set (key : Key) (value : Value)
  | remove (key : Key)
  | attr (name : String) (args : List Value)

/-- The table after an edit. -/
def edit (t : Table) : Edit → Table
  | .set key value => Table.set t key value
  | .remove key => Table.remove t key
  | .attr name args => (Table.attr t name args).2

/-- The table that a list of edits makes. -/
def edited (edits : List Edit) : Table := edits.foldl edit .empty

/-- The keys of a table are distinct, and none is a form of a later one. -/
structure Tidy (t : Table) : Prop where
  distinct : t.keys.Nodup
  apart : t.keys.Pairwise Key.Apart

theorem Tidy.empty : Tidy .empty := ⟨.nil, .nil⟩

theorem Tidy.set (h : Tidy t) (key : Key) (value : Value) :
    Tidy (Table.set t key value) := by
  have hkeys : (Table.set t key value).keys
      = if target t key ∈ t.keys then t.keys else t.keys ++ [target t key] :=
    OrderedMap.keys_insert t (target t key) value
  refine ⟨(Table.set t key value).distinct, ?_⟩
  rw [hkeys]
  split
  · exact h.apart
  · -- the new key was looked for in both forms
    rename_i hnew
    have hnot := mt OrderedMap.contains_iff.mp hnew
    obtain ⟨htarget, hstr, hsym⟩ := target_new (Bool.eq_false_iff.mpr hnot)
    rw [htarget, List.pairwise_append]
    refine ⟨h.apart, List.pairwise_singleton _ _, ?_⟩
    intro earlier hearlier later hlater
    rw [List.mem_singleton.mp hlater]
    have hthere := OrderedMap.contains_iff.mpr hearlier
    constructor
    · rintro rfl
      rw [hstr] at hthere
      cases hthere
    · rintro rfl
      rw [hsym] at hthere
      cases hthere

theorem Tidy.remove (h : Tidy t) (key : Key) : Tidy (Table.remove t key) := by
  rw [remove_eq]
  split
  · rename_i found _
    refine ⟨(t.erase found).distinct, ?_⟩
    rw [OrderedMap.keys_erase]
    exact h.apart.sublist List.erase_sublist
  · exact h

theorem Tidy.attr (h : Tidy t) (name : String) (args : List Value) :
    Tidy (Table.attr t name args).2 := by
  unfold Table.attr
  split
  · exact h
  · exact h
  · exact h
  · exact h.set _ _

theorem Tidy.edit (h : Tidy t) (e : Edit) : Tidy (t.edit e) := by
  cases e with
  | set key value => exact h.set key value
  | remove key => exact h.remove key
  | attr name args => exact h.attr name args

theorem tidy_edited (edits : List Edit) : Tidy (edited edits) := by
  unfold edited
  suffices go : ∀ t : Table, Tidy t → Tidy (edits.foldl Table.edit t) from
    go _ .empty
  induction edits with
  | nil => exact fun _ h => h
  | cons e rest ih => exact fun t h => ih (t.edit e) (h.edit e)

-- ============================================== one form of each name

/-- Of two keys the one that comes first is apart from the other. -/
theorem Tidy.apart_or (h : Tidy t) {a b : Key} (ha : a ∈ t.keys)
    (hb : b ∈ t.keys) (hne : a ≠ b) : a.Apart b ∨ b.Apart a := by
  have hpair := h.apart
  obtain ⟨front, back, hsplit⟩ := List.append_of_mem ha
  rw [hsplit] at hpair hb
  obtain ⟨-, hback, hacross⟩ := List.pairwise_append.mp hpair
  rcases List.mem_append.mp hb with hfront | hrest
  · exact .inr (hacross b hfront a (.head _))
  · rcases List.mem_cons.mp hrest with rfl | hlater
    · exact absurd rfl hne
    · exact .inl (List.rel_of_pairwise_cons hback hlater)

/-- A name without a colon before it is present in one form at most. -/
theorem Tidy.alone (h : Tidy t) (hplain : Plain name) :
    ¬ (t.contains (.str name) = true ∧ t.contains (.sym name) = true) := by
  rintro ⟨hstr, hsym⟩
  have hforms := h.apart_or (OrderedMap.contains_iff.mp hstr)
    (OrderedMap.contains_iff.mp hsym) nofun
  rcases hforms with ⟨hne, -⟩ | ⟨-, hne⟩
  · exact hne rfl
  · exact hne (Key.symForm_str hplain).symm

/-- So all keys of one such name that are there are the same key. -/
theorem Tidy.form_unique (h : Tidy t) (hplain : Plain name)
    {a b : Key} (ha : a.name = name) (hb : b.name = name)
    (hain : t.contains a = true) (hbin : t.contains b = true) : a = b := by
  have halone := h.alone hplain
  rcases Key.form_of_name ha with rfl | rfl <;>
    rcases Key.form_of_name hb with rfl | rfl
  · rfl
  · exact absurd ⟨hain, hbin⟩ halone
  · exact absurd ⟨hbin, hain⟩ halone
  · rfl

/-- All that is looked for under a key of such a name has that name. -/
theorem probes_name (hplain : Plain name) (h : key.name = name) :
    ∀ probe ∈ probes key, probe.name = name := by
  unfold probes
  rw [Key.symForm_of_name h hplain, Key.strForm_of_name h]
  exact List.forall_mem_cons.mpr ⟨h, List.forall_mem_cons.mpr
    ⟨rfl, List.forall_mem_cons.mpr ⟨rfl, nofun⟩⟩⟩

/-- A write under a form of such a name is read back under both. -/
theorem Tidy.get?_set_name (h : Tidy t) (hplain : Plain name)
    (hkey : key.name = name) (hread : read.name = name) :
    get? (Table.set t key value) read = some value := by
  have htidy := h.set key value
  have hvalue : (Table.set t key value).find? (target t key) = some value :=
    Entries.find?_insert_self (target t key) value t.entries
  have htarget : (Table.set t key value).contains (target t key) = true := by
    unfold OrderedMap.contains
    rw [hvalue]
    rfl
  have hname := target_name (t := t) hplain hkey
  have hhas : has (Table.set t key value) read = true := by
    rw [has_iff, Key.strForm_of_name hread, Key.symForm_of_name hread hplain]
    rcases Key.form_of_name hname with hform | hform
    · exact .inr (.inl (hform ▸ htarget))
    · exact .inr (.inr (hform ▸ htarget))
  rw [has_eq_found] at hhas
  obtain ⟨found, hfound⟩ := Option.isSome_iff_exists.mp hhas
  obtain ⟨hprobe, hthere⟩ := found?_some hfound
  -- whatever form is found, only the one written to is there
  have hsame : found = target t key :=
    htidy.form_unique hplain (probes_name hplain hread found hprobe) hname
      hthere htarget
  rw [get?_eq_found, hfound, hsame]
  exact hvalue

end Table

-- =========================================================== records

namespace Record

/-- Records that come from presets by writes, removals, attribute calls and
stops, and by any code that runs on them. -/
inductive Built : Record → Prop
  | seeded (presets : List (Key × Value)) : Built (.seeded presets)
  | set {r : Record} (h : Built r) (key : Key) (value : Value) :
      Built (r.set key value)
  | del {r : Record} (h : Built r) (key : Key) : Built (r.del key).2
  | attr {r : Record} (h : Built r) (name : String) (args : List Value) :
      Built (r.attr name args).2
  | stop {r : Record} (h : Built r) : Built r.stop
  | run {r : Record} (h : Built r) (depth : Nat) (scope : Scope)
      (code : Code) (journal : List Entry) :
      Built (code.run depth scope ⟨r, journal⟩).2.record

theorem tidy_seeded (presets : List (Key × Value)) :
    (seeded presets).data.Tidy := by
  unfold seeded
  suffices go : ∀ t : Table, t.Tidy →
      (presets.foldl (fun t p => Table.set t p.1 p.2) t).Tidy from
    go _ .empty
  induction presets with
  | nil => exact fun _ h => h
  | cons p rest ih => exact fun t h => ih _ (h.set p.1 p.2)

theorem tidy_set {r : Record} (h : r.data.Tidy) (key : Key)
    (value : Value) : (r.set key value).data.Tidy := by
  unfold set
  split
  · exact h
  · exact h.set key value

theorem tidy_del {r : Record} (h : r.data.Tidy) (key : Key) :
    (r.del key).2.data.Tidy := by
  unfold del
  split
  · exact h
  · exact h.remove key

theorem tidy_attr {r : Record} (h : r.data.Tidy) (name : String)
    (args : List Value) : (r.attr name args).2.data.Tidy := by
  unfold attr
  split
  · exact h
  · exact h
  · exact h
  · exact tidy_set h _ _

end Record

/-- Every event keeps the data tidy. -/
theorem Event.apply_tidy {r : Record} (h : r.data.Tidy) (e : Event) :
    (e.apply r).data.Tidy := by
  cases e with
  | wrote key value => exact Record.tidy_set h key value
  | removed key => exact Record.tidy_del h key
  | looked => exact h
  | stopped => exact h
  | entered operation args receiver => exact h
  | refused operation args => exact h

theorem Path.tidy {r s : Record} {ms : List Moment} (h : Path r ms s)
    (hr : r.data.Tidy) : s.data.Tidy := by
  induction h with
  | here r => exact hr
  | @step r s e ms _ ih => exact ih (e.apply_tidy hr)

theorem Record.Built.tidy {r : Record} (h : r.Built) : r.data.Tidy := by
  induction h with
  | seeded presets => exact tidy_seeded presets
  | set _ key value ih => exact tidy_set ih key value
  | del _ key ih => exact tidy_del ih key
  | attr _ name args ih => exact tidy_attr ih name args
  | stop _ ih => exact ih
  | run _ depth scope code journal ih =>
      exact (code.trace_path depth scope ⟨_, journal⟩).tidy ih

-- =========================================================== parsers

open LineParser

/-- The record of a parser and the data of its line are tidy. -/
structure LineParser.Tidy (p : LineParser) : Prop where
  record : p.record.data.Tidy
  data : ∀ data, p.data = some data → data.table.Tidy

theorem LineParser.Tidy.act {p : LineParser} (h : p.Tidy)
    (action : Action) : (p.act action).Tidy := by
  cases action with
  | preset name value =>
      exact ⟨Record.tidy_set h.record _ value, h.data⟩
  | activate depth =>
      refine ⟨(activate_path depth p).tidy h.record, fun data hd => ?_⟩
      exact h.data data ((activate_keeps depth p).data ▸ hd)
  | withCurrent depth code =>
      have hpath := withCurrent_path depth p code
      obtain ⟨record, hact⟩ := act_withCurrent depth p code
      refine ⟨hpath.tidy h.record, fun data hd => ?_⟩
      rw [hact] at hd
      exact h.data data hd
  | parse depth =>
      have hparse := parse_parsing depth p
      show (p.parse depth).parser.Tidy
      generalize p.parse depth = reply at hparse
      generalize p.parseSteps depth = steps at hparse
      cases hparse with
      | known known => exact h
      | parsed unknown evaluation =>
          obtain ⟨⟨record, hpath, -, rfl⟩, hempty⟩ := evaluation.of_ok rfl
          refine ⟨?_, fun data hd => ?_⟩
          · rw [hempty]
            exact Table.Tidy.empty
          · cases hd
            exact hpath.tidy h.record
      | @restarted q _ _ _ unknown evaluation unparsed =>
          refine ⟨Record.tidy_seeded _, fun data hd => ?_⟩
          have hnone : q.data = none := evaluation.keeps.data.trans unknown
          cases hnone.symm.trans hd

theorem LineParser.after_tidy (kind : ParserKind) (line : String)
    (options : Options) (actions : List Action) :
    ((make kind line options).after actions).Tidy :=
  after_invariant (fun _ action h => h.act action)
    ⟨Record.tidy_seeded kind.presets, nofun⟩ actions

-- ================================================== one form of a name

/-- What the forms of a table's keys come to. -/
structure Table.Exclusive (t : Table) : Prop where
  /-- No key is there twice. -/
  distinct : t.keys.Nodup
  /-- No key is a form of a later one. -/
  apart : t.keys.Pairwise fun earlier later =>
    earlier ≠ later.strForm ∧ earlier ≠ later.symForm
  /-- A name without a colon before it is there in one form at most. -/
  alone : ∀ name, Plain name →
    ¬ (t.contains (.str name) = true ∧ t.contains (.sym name) = true)
  /-- What is written under a form of it is what is read under both. -/
  reads : ∀ name, Plain name → ∀ key read value,
    key.name = name → read.name = name →
    get? (t.set key value) read = some value
      ∧ Table.value (t.set key value) read = value
      ∧ has (t.set key value) read = true

theorem Table.Tidy.exclusive {t : Table} (h : t.Tidy) : t.Exclusive where
  distinct := h.distinct
  apart := h.apart
  alone _ := h.alone
  reads name hplain key read value hkey hread := by
    have hget : get? (t.set key value) read = some value :=
      h.get?_set_name hplain hkey hread
    refine ⟨hget, ?_, ?_⟩
    · unfold Table.value
      rw [hget]
      rfl
    · rw [has_eq_found]
      rw [get?_eq_found] at hget
      obtain ⟨found, hfound, -⟩ := Option.bind_eq_some_iff.mp hget
      rw [hfound]
      rfl

/-- Every table that edits make keeps its keys apart, and so does the data
of every record, however it was built, and of every line that is parsed. -/
theorem forms_exclusive :
    (∀ edits, (Table.edited edits).Exclusive)
    ∧ (∀ record : Record, record.Built → record.data.Exclusive)
    ∧ ∀ kind line options actions,
      ((make kind line options).after actions).record.data.Exclusive
        ∧ ∀ data, ((make kind line options).after actions).data = some data →
          data.table.Exclusive := by
  refine ⟨fun edits => ?_, fun record h => ?_, ?_⟩
  · exact (Table.tidy_edited edits).exclusive
  · exact h.tidy.exclusive
  · intro kind line options actions
    have h := after_tidy kind line options actions
    exact ⟨h.record.exclusive, fun data hd => (h.data data hd).exclusive⟩

/-- Two symbols one of which is a form of the other, in the order in which
both can be there, and a name that is written in one form and then in the
other. -/
theorem forms_exclusive_colon :
    (Table.edited [.set (.sym ":a") (.int 1), .set (.sym "a") (.int 2),
        .attr "b" [.int 3], .remove (.str ":c")]).keys
      = [.sym ":a", .sym "a", .sym "b"]
    ∧ Key.Apart (.sym ":a") (.sym "a")
    ∧ ¬ Key.Apart (.sym "a") (.sym ":a")
    ∧ Table.get? ((Table.edited [.attr "b" [.int 3]]).set (.str "b") (.int 4))
        (.sym "b") = some (.int 4)
    ∧ (Record.seeded [(.sym "b", .int 3)]).data.keys.Nodup := by
  refine ⟨by decide, ⟨by decide, by decide⟩, ?_, ?_, ?_⟩
  · exact fun h => h.2 (by decide)
  · exact ((forms_exclusive.1 [.attr "b" [.int 3]]).reads "b" (by decide)
      (.str "b") (.sym "b") (.int 4) rfl rfl).1
  · exact (forms_exclusive.2.1 _ (.seeded [(.sym "b", .int 3)])).distinct

end Logline
