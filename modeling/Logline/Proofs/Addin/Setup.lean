/-
The effect of the setup that looks for a time.

A run of the setup is told by two things: how the search for a time ends
(`Search`), and what the record is then (`Effect`). Neither speaks of steps of
the setup, nor of the way in which it looks up names: the names that it deals
with have no colon, so under each there are two entries at most, one for the
string and one for the symbol (`under`). Both speak of the record as it was
found, although the search is made on the record with the defaults: a default
that is written is the very text that is used where there is none, so pattern
and format are the same before and after (`sought_completed`,
`formatIn_completed`).

What carries this is that the defaults that are missing are new entries at
the end (`withDefaults_completed`). So what a name has there is as before,
and only where that is nothing is it found among the new entries
(`under_extended`).
-/
import Logline.Proofs.Addin.DateTime

namespace Logline.Addin.DateTime

open Calendar Pattern

-- ========================================================== what it does

/-- The entry for a default, if a table has its name in no form. -/
def added (data : Table) (name value : String) : List (Key × Value) :=
  match under data name with
  | none => [(.sym name, .str value)]
  | some _ => []

/-- The entries for the defaults that a table has in no form. -/
def missing (data : Table) : List (Key × Value) :=
  added data "date_match_to" defaultMatch
    ++ added data "date_format" defaultFormat

/-- How the search for a time in a line ends, and the time that it finds. -/
inductive Search (data : Table) (line : String) :
    Ending → Option Instant → Prop
  | unreadable (hpattern : compile (sought data) = .error .pattern) :
      Search data line (.failed .pattern) none
  | absent {pattern : Pattern}
      (hpattern : compile (sought data) = .ok pattern)
      (hmatch : (pattern.match? line).bind (captured? "time") = none) :
      Search data line (.returned none) none
  | rejected {pattern : Pattern} {found : List Capture} {text : List Char}
      {cause : TimeError}
      (hpattern : compile (sought data) = .ok pattern)
      (hmatch : pattern.match? line = some found)
      (hgroup : captured? "time" found = some text)
      (hread : parseTime (String.ofList text) (formatIn data)
        = .error (.time cause)) :
      Search data line (.failed (.time cause)) none
  | stored {pattern : Pattern} {found : List Capture} {text : List Char}
      {t : Instant}
      (hpattern : compile (sought data) = .ok pattern)
      (hmatch : pattern.match? line = some found)
      (hgroup : captured? "time" found = some text)
      (hread : parseTime (String.ofList text) (formatIn data) = .ok t) :
      Search data line (.returned none) (some t)

/-- The entry that a write under a name goes to: the string if it is there,
or else the symbol. -/
def place (data : Table) (name : String) : Key :=
  if data.contains (.str name) then .str name else .sym name

/-- The entries that writes of the three names of the setup go to. -/
def touched (data : Table) : List Key :=
  ["date_match_to", "date_format", "time"].map (place data)

/-- What a record becomes by a setup that finds a time, or none. -/
structure Effect (r : Record) (time : Option Instant) (s : Record) : Prop where
  running : s.stopped = false
  clean : s.violation = r.violation
  /-- The missing defaults are added, and then the time is set. -/
  data : ∃ completed : Table,
    completed.entries = r.data.entries ++ missing r.data
    ∧ s.data = match time with
      | none => completed
      | some t => completed.insert (place completed "time") (.time t)
  /-- The time is what it was, unless one is found. -/
  time : under s.data "time" = (time.map .time).or (under r.data "time")
  frame : ∀ key ∉ touched r.data, s.data.find? key = r.data.find? key

-- ======================================================= plain names

section

variable {t : Table} {name : String}

theorem has_eq_false_iff (hplain : Plain name) :
    Table.has t (.str name) = false ↔ under t name = none := by
  rw [← Table.get?_eq_none_iff, get?_eq_under hplain]

theorem target_eq_place (hplain : Plain name) (t : Table) :
    Table.target t (.sym name) = place t name := by
  unfold Table.target place
  rw [Key.strForm_sym, Key.symForm_sym hplain, ite_self]

/-- What is written under a name is there. -/
theorem under_insert_place (t : Table) (name : String) (value : Value) :
    under (t.insert (place t name) value) name = some value := by
  unfold under place
  rw [OrderedMap.find?_insert, OrderedMap.find?_insert]
  cases hstr : t.contains (.str name) with
  | true => simp
  | false =>
      have hnone : t.find? (.str name) = none := by
        unfold OrderedMap.contains at hstr
        exact Option.isNone_iff_eq_none.mp (Option.isSome_eq_false_iff.mp hstr)
      simp [hnone]

theorem place_of_under_none (h : under t name = none) :
    place t name = .sym name := by
  unfold under at h
  rw [Option.or_eq_none_iff] at h
  unfold place OrderedMap.contains
  rw [h.1]
  rfl

end

-- ========================================================== new symbols

section

variable {t data : Table} {new : List (Key × Value)}
  (h : data.entries = t.entries ++ new) (hnew : ∀ e ∈ new, e.1.isSym = true)

include h

theorem find?_extended (key : Key) :
    data.find? key = (t.find? key).or (Entries.find? key new) := by
  show Entries.find? key data.entries = _
  rw [h]
  exact Entries.find?_append key t.entries new

include hnew

/-- New symbols are no strings. -/
theorem find?_str_extended (name : String) :
    data.find? (.str name) = t.find? (.str name) := by
  have hnone : Entries.find? (.str name) new = none := by
    rw [Entries.find?_eq_none_iff]
    intro hmem
    obtain ⟨e, he, hkey⟩ := List.mem_map.mp hmem
    have hsym := hnew e he
    rw [hkey] at hsym
    cases hsym
  rw [find?_extended h, hnone, Option.or_none]

/-- Behind the entries of a table symbols count only where the table has
nothing. -/
theorem under_extended (name : String) :
    under data name = (under t name).or (Entries.find? (.sym name) new) := by
  unfold under
  rw [find?_str_extended h hnew, find?_extended h, Option.or_assoc]

end

-- ========================================================== the defaults

section

variable {t : Table} {name value : String}

theorem isSym_of_mem_added : ∀ e ∈ added t name value, e.1.isSym = true := by
  intro e he
  unfold added at he
  split at he
  · rw [List.mem_singleton.mp he]
    rfl
  · cases he

theorem isSym_of_mem_missing : ∀ e ∈ missing t, e.1.isSym = true := by
  intro e he
  rcases List.mem_append.mp he with he | he
  · exact isSym_of_mem_added e he
  · exact isSym_of_mem_added e he

/-- A missing default is a new entry where a write of its name goes. -/
theorem place_of_mem_added {e : Key × Value} (he : e ∈ added t name value) :
    e.1 = place t name := by
  unfold added at he
  split at he
  · rename_i hnone
    rw [List.mem_singleton.mp he, place_of_under_none hnone]
  · cases he

/-- With its default a name has a value. -/
theorem under_added (t : Table) (name value : String) :
    (under t name).or (Entries.find? (.sym name) (added t name value))
      = some ((under t name).getD (.str value)) := by
  unfold added
  cases under t name with
  | none => simp [Entries.find?]
  | some held => rfl

/-- It is none for another name. -/
theorem find?_added_of_ne {other : String} (h : other ≠ name) :
    Entries.find? (.sym other) (added t name value) = none := by
  unfold added
  cases under t name with
  | none => simp [Entries.find?, Ne.symm h]
  | some held => rfl

/-- On a record that is not stopped a missing default is a new entry. -/
theorem withDefault_added {r : Record} (going : r.stopped = false)
    (hplain : Plain name) (value : String) :
    ∃ data, withDefault r (.str name) value = { r with data := data }
      ∧ data.entries = r.data.entries ++ added r.data name value := by
  unfold withDefault added
  rw [Key.symForm_str hplain]
  cases hunder : under r.data name with
  | some held =>
      have hhas : r.has (.str name) = true := by
        rw [← Bool.not_eq_false]
        intro hnot
        rw [has_eq_false_iff hplain |>.mp hnot] at hunder
        cases hunder
      rw [hhas]
      exact ⟨r.data, rfl, (List.append_nil _).symm⟩
  | none =>
      have hhas : r.has (.str name) = false :=
        (has_eq_false_iff hplain).mpr hunder
      obtain ⟨htarget, hnew⟩ := target_default hplain hhas
      have hkey : Key.sym name ∉ Entries.keys r.data.entries := by
        rw [← Bool.not_eq_true, OrderedMap.contains_iff] at hnew
        exact hnew
      rw [hhas]
      refine ⟨Table.set r.data (.sym name) (.str value), ?_, ?_⟩
      · unfold Record.set
        rw [going]
        rfl
      · unfold Table.set
        rw [htarget]
        exact Entries.insert_new hkey _

/-- Both together are what is missing. -/
theorem withDefaults_completed {r : Record} (going : r.stopped = false) :
    ∃ completed, withDefaults r = { r with data := completed }
      ∧ completed.entries = r.data.entries ++ missing r.data := by
  obtain ⟨data, hfirst, hdata⟩ := withDefault_added going
    (by decide : Plain "date_match_to") defaultMatch
  obtain ⟨completed, hsecond, hcompleted⟩ :=
    withDefault_added (r := { r with data := data }) going
      (by decide : Plain "date_format") defaultFormat
  -- the first default does not count as the second
  have hformat : under data "date_format" = under r.data "date_format" := by
    rw [under_extended hdata isSym_of_mem_added,
      find?_added_of_ne (by decide), Option.or_none]
  refine ⟨completed, ?_, ?_⟩
  · unfold withDefaults
    rw [show matchKey = .str "date_match_to" from rfl, hfirst]
    exact hsecond
  · rw [hcompleted]
    show data.entries ++ _ = _
    rw [hdata, List.append_assoc]
    unfold missing
    congr 2
    unfold added
    rw [hformat]

end

-- ====================================================== what is looked for

section

variable {data completed : Table}
  (hcompleted : completed.entries = data.entries ++ missing data)

include hcompleted

/-- Under the names of the defaults there is what was there, or else the
default. -/
theorem under_match_completed :
    under completed "date_match_to"
      = some ((under data "date_match_to").getD (.str defaultMatch)) := by
  rw [under_extended hcompleted isSym_of_mem_missing, missing,
    Entries.find?_append, find?_added_of_ne (by decide : _ ≠ "date_format"),
    Option.or_none]
  exact under_added data _ _

theorem under_format_completed :
    under completed "date_format"
      = some ((under data "date_format").getD (.str defaultFormat)) := by
  rw [under_extended hcompleted isSym_of_mem_missing, missing,
    Entries.find?_append, find?_added_of_ne (by decide : _ ≠ "date_match_to"),
    Option.none_or]
  exact under_added data _ _

/-- Other names have what they had. -/
theorem under_other_completed {name : String} (hmatch : name ≠ "date_match_to")
    (hformat : name ≠ "date_format") :
    under completed name = under data name := by
  rw [under_extended hcompleted isSym_of_mem_missing, missing,
    Entries.find?_append, find?_added_of_ne hmatch, find?_added_of_ne hformat]
  exact Option.or_none

end

/-- The default is no other text than the one that is taken where there is
none. -/
theorem said_defaulted {data completed : Table} {name value : String}
    (h : under completed name = some ((under data name).getD (.str value))) :
    (said completed name).getD value = (said data name).getD value := by
  unfold said
  rw [h]
  cases under data name with
  | none => rfl
  | some held => rfl

section

variable {data completed : Table}
  (hcompleted : completed.entries = data.entries ++ missing data)

include hcompleted

theorem sought_completed : sought completed = sought data := by
  unfold sought
  rw [said_defaulted (under_match_completed hcompleted)]

theorem formatIn_completed : formatIn completed = formatIn data := by
  have htime : said completed "time_format" = said data "time_format" := by
    unfold said
    rw [under_other_completed hcompleted (by decide) (by decide)]
  have hdate := said_defaulted (under_format_completed hcompleted)
  unfold formatIn
  rw [htime]
  cases said data "time_format" with
  | some text => rfl
  | none => exact hdate

end

-- ============================================================ the search

theorem compile_error {source : String} {cause : Error}
    (h : compile source = .error cause) : cause = .pattern := by
  unfold compile at h
  split at h
  · cases h
  · cases h
    rfl

/-- On the record with the defaults the setup ends as its search does, and
sets the time that is found. -/
theorem finished_search {r : Record} {completed : Table}
    (going : r.stopped = false)
    (hcompleted : completed.entries = r.data.entries ++ missing r.data)
    (line : String) :
    ∃ ending time, Search r.data line ending time
      ∧ finished { r with data := completed } line
        = (ending, { r with data := match time with
            | none => completed
            | some t => completed.insert (place completed "time") (.time t) }) := by
  have hset : ∀ t, Record.set ⟨completed, false, r.violation⟩
      timeKey.symForm (.time t)
      = ⟨completed.insert (place completed "time") (.time t), false,
        r.violation⟩ := by
    intro t
    rw [← target_eq_place (by decide : Plain "time")]
    rfl
  unfold finished instant?
  simp only [sought_completed hcompleted, formatIn_completed hcompleted, going]
  cases hpattern : compile (sought r.data) with
  | error cause =>
      obtain rfl := compile_error hpattern
      exact ⟨_, none, .unreadable hpattern, rfl⟩
  | ok pattern =>
      simp only [Bool.false_eq_true, if_false]
      cases hmatch : pattern.match? line with
      | none =>
          exact ⟨_, none, .absent hpattern (by rw [hmatch]; rfl), rfl⟩
      | some found =>
          rw [Option.bind_some]
          cases hgroup : captured? "time" found with
          | none =>
              exact ⟨_, none, .absent hpattern (by rw [hmatch]; exact hgroup),
                rfl⟩
          | some text =>
              dsimp only
              cases hread : parseTime (String.ofList text)
                  (formatIn r.data) with
              | error cause =>
                  obtain ⟨refusal, rfl⟩ := parseTime_error hread
                  exact ⟨_, none, .rejected hpattern hmatch hgroup hread, rfl⟩
              | ok t =>
                  exact ⟨_, some t, .stored hpattern hmatch hgroup hread,
                    congrArg (Prod.mk _) (hset t)⟩

-- ============================================================ the effect

section

variable {r : Record} {completed : Table}
  (hcompleted : completed.entries = r.data.entries ++ missing r.data)

include hcompleted

/-- Entries where no default goes are as they were. -/
theorem find?_completed {key : Key} (hkey : key ∉ touched r.data) :
    completed.find? key = r.data.find? key := by
  have hnew : Entries.find? key (missing r.data) = none := by
    rw [Entries.find?_eq_none_iff]
    intro hmem
    obtain ⟨e, he, rfl⟩ := List.mem_map.mp hmem
    apply hkey
    rcases List.mem_append.mp he with he | he
    · rw [place_of_mem_added he]
      exact .head _
    · rw [place_of_mem_added he]
      exact .tail _ (.head _)
  rw [find?_extended hcompleted, hnew, Option.or_none]

theorem effect_completed (going : r.stopped = false) (time : Option Instant) :
    Effect r time { r with data := match time with
      | none => completed
      | some t => completed.insert (place completed "time") (.time t) } where
  running := going
  clean := rfl
  data := ⟨completed, hcompleted, rfl⟩
  time := by
    cases time with
    | none =>
        exact under_other_completed hcompleted (by decide) (by decide)
    | some t => exact under_insert_place completed "time" (.time t)
  frame := by
    intro key hkey
    have hold := find?_completed hcompleted hkey
    cases time with
    | none => exact hold
    | some t =>
        -- the defaults do not change where a time is written
        have hplace : place completed "time" = place r.data "time" := by
          unfold place OrderedMap.contains
          rw [find?_str_extended hcompleted isSym_of_mem_missing]
        have hother : key ≠ place completed "time" := by
          rw [hplace]
          rintro rfl
          exact hkey (.tail _ (.tail _ (.head _)))
        show (completed.insert (place completed "time") (.time t)).find? key = _
        rw [OrderedMap.find?_insert, if_neg hother]
        exact hold

end

/-- The setup ends as a search for a time ends, and leaves a record with the
missing defaults and the time that is found. -/
theorem setup_effect (depth : Nat) (scope : Scope) (p : Progress)
    (going : p.record.stopped = false) :
    ∃ ending time record,
      setup.run depth scope p = (ending, { p with record := record })
      ∧ Search p.record.data scope.line ending time
      ∧ Effect p.record time record := by
  obtain ⟨completed, hdefaults, hcompleted⟩ := withDefaults_completed going
  obtain ⟨ending, time, hsearch, hfinished⟩ :=
    finished_search going hcompleted scope.line
  refine ⟨ending, time, _, ?_, hsearch, effect_completed hcompleted going time⟩
  rw [setup_run, hdefaults, hfinished]

/-- A search that finds a text comes to what the text is read as. -/
theorem Search.of_captured {data : Table} {line : String} {ending : Ending}
    {time : Option Instant} (h : Search data line ending time)
    {pattern : Pattern} {text : List Char} {t : Instant}
    (hpattern : compile (sought data) = .ok pattern)
    (hgroup : (pattern.match? line).bind (captured? "time") = some text)
    (hread : parseTime (String.ofList text) (formatIn data) = .ok t) :
    ending = .returned none ∧ time = some t := by
  cases h with
  | unreadable hpattern' => cases hpattern.symm.trans hpattern'
  | absent hpattern' hmatch =>
      cases hpattern.symm.trans hpattern'
      cases hgroup.symm.trans hmatch
  | rejected hpattern' hmatch hgroup' hread' =>
      cases hpattern.symm.trans hpattern'
      rw [hmatch, Option.bind_some, hgroup'] at hgroup
      cases hgroup
      cases hread.symm.trans hread'
  | stored hpattern' hmatch hgroup' hread' =>
      cases hpattern.symm.trans hpattern'
      rw [hmatch, Option.bind_some, hgroup'] at hgroup
      cases hgroup
      cases hread.symm.trans hread'
      exact ⟨rfl, rfl⟩

/-- Where a time is found it is set behind the defaults. -/
theorem Effect.data_eq {r s : Record} {t : Instant} (h : Effect r (some t) s)
    {completed : Table}
    (hcompleted : completed.entries = r.data.entries ++ missing r.data) :
    s.data = completed.insert (place completed "time") (.time t) := by
  obtain ⟨other, hother, hdata⟩ := h.data
  obtain rfl : completed = other :=
    OrderedMap.ext_entries (hcompleted.trans hother.symm)
  exact hdata

/-- A record with symbols for texts, and with no format but that of times. -/
def uneven : Record :=
  .seeded [(.str "date_match_to", .sym "[0-9]+"),
    (.sym "time_format", .sym "%s")]

/-- A record with a format for dates that puts the day first. -/
def dayFirst : Record := .seeded [(.sym "date_format", .str "%d/%m/%Y - %T")]

/-- Where there is a format for times, the default for dates is added and not
used. Where there is one for dates, a text that the default pattern finds is
read along that: as the second of September, and not the ninth of February. -/
theorem setup_effect_uneven :
    (setup.run 0 ⟨.empty, "at 1360372743", .empty⟩
        ⟨uneven, []⟩).2.record.data.entries
      = [(.str "date_match_to", .sym "[0-9]+"),
        (.sym "time_format", .sym "%s"),
        (.sym "date_format", .str "%m/%d/%Y - %H:%M:%S"),
        (.sym "time", .time ⟨1360372743, 0⟩)]
    ∧ (setup.run 0 ⟨.empty, "at 02/09/2013 - 01:19:03", .empty⟩
        ⟨dayFirst, []⟩).2.record.data.entries
      = [(.sym "date_format", .str "%d/%m/%Y - %T"),
        (.sym "date_match_to", .str
          "[0-9]{2}/[0-9]{2}/[0-9]{4}\\s-\\s[0-9]{2}:[0-9]{2}:[0-9]{2}"),
        (.sym "time", .time ⟨1378084743, 0⟩)] := by
  constructor
  · obtain ⟨ending, time, record, hrun, hsearch, heffect⟩ :=
      setup_effect 0 ⟨.empty, "at 1360372743", .empty⟩ ⟨uneven, []⟩ rfl
    obtain ⟨pattern, hpattern, hgroup⟩ :
        ∃ pattern, compile (sought uneven.data) = .ok pattern
          ∧ (pattern.match? "at 1360372743").bind (captured? "time")
            = some "1360372743".toList := ⟨_, rfl, rfl⟩
    obtain ⟨-, rfl⟩ := hsearch.of_captured (t := ⟨1360372743, 0⟩)
      hpattern hgroup rfl
    have hcompleted : (.ofList [(.str "date_match_to", .sym "[0-9]+"),
          (.sym "time_format", .sym "%s"),
          (.sym "date_format", .str "%m/%d/%Y - %H:%M:%S")] : Table).entries
        = uneven.data.entries ++ missing uneven.data := rfl
    rw [hrun, heffect.data_eq hcompleted]
    rfl
  · obtain ⟨ending, time, record, hrun, hsearch, heffect⟩ :=
      setup_effect 0 ⟨.empty, "at 02/09/2013 - 01:19:03", .empty⟩
        ⟨dayFirst, []⟩ rfl
    obtain ⟨pattern, hpattern, hgroup⟩ :
        ∃ pattern, compile (sought dayFirst.data) = .ok pattern
          ∧ (pattern.match? "at 02/09/2013 - 01:19:03").bind
            (captured? "time") = some "02/09/2013 - 01:19:03".toList :=
      ⟨_, rfl, rfl⟩
    obtain ⟨-, rfl⟩ := hsearch.of_captured (t := ⟨1378084743, 0⟩)
      hpattern hgroup rfl
    have hcompleted : (.ofList [(.sym "date_format", .str "%d/%m/%Y - %T"),
          (.sym "date_match_to", .str
            "[0-9]{2}/[0-9]{2}/[0-9]{4}\\s-\\s[0-9]{2}:[0-9]{2}:[0-9]{2}")]
          : Table).entries
        = dayFirst.data.entries ++ missing dayFirst.data := rfl
    rw [hrun, heffect.data_eq hcompleted]
    rfl

end Logline.Addin.DateTime
