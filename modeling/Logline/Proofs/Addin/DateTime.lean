/-
What the setup that looks for a time does to a record.

The setup writes three times: the two defaults, each only where its key is
there in no form, and then the instant that it finds. What it finds depends
on what the record has under three names without a colon, so on two entries
for each (`under`), from which pattern and format are made (`sought`,
`formatIn`). Run on any record it comes to `instant?` on the record with the
defaults, and a write of what that gives (`setup_run`).

The defaults are harmless. A key that is there is found under its own entry
after them as before, and neither goes to an entry that was there
(`kept_withDefaults`). The instant is not: nothing asks whether the record
has a time already. So of all that a record carries the setup changes one
entry, the one that a write under `time` goes to, and it does so whenever it
finds an instant (`setup_overwrites_time`).
-/
import Logline.Addin.DateTime
import Logline.Proofs.Pattern.Groups
import Logline.Proofs.Sandbox.Depth
import Logline.Proofs.Table

namespace Logline.Addin.DateTime

open Calendar Pattern

-- ================================================== what it looks for

/-- What a table has under a name without a colon: the value of the string,
or else of the symbol. -/
def under (data : Table) (name : String) : Option Value :=
  (data.find? (.str name)).or (data.find? (.sym name))

/-- The text there, if the value is a string or a symbol. -/
def said (data : Table) (name : String) : Option String :=
  match under data name with
  | some (.str text) => some text
  | some (.sym text) => some text
  | _ => none

/-- The pattern that is looked for: the text that the record has for it, or
the default, as a group by the name of the time. -/
def sought (data : Table) : String :=
  "(?<time>" ++ (said data "date_match_to").getD defaultMatch ++ ")"

/-- The format that a time is read along: the one for times, or else the one
for dates, or else the default. -/
def formatIn (data : Table) : String :=
  ((said data "time_format").or (said data "date_format")).getD defaultFormat

section

variable {name : String}

/-- A name without a colon is read under its string, or else its symbol. -/
theorem get?_eq_under (hplain : Plain name) (t : Table) :
    Table.get? t (.str name) = under t name := by
  unfold Table.get? Table.probes under
  rw [Key.strForm_str, Key.symForm_str hplain]
  simp only [List.findSome?_cons, List.findSome?_nil]
  cases t.find? (.str name) with
  | some value => rfl
  | none => cases t.find? (.sym name) <;> rfl

theorem text?_eq_said (hplain : Plain name) (t : Table) :
    Table.text? t (.str name) = said t name := by
  unfold Table.text? said
  rw [get?_eq_under hplain]
  cases under t name with
  | none => rfl
  | some value => cases value <;> rfl

end

/-- What is looked for, and along which format, in the words of the setup. -/
theorem groupPattern_eq_sought (t : Table) :
    groupPattern ((Table.text? t matchKey).getD defaultMatch) = sought t := by
  unfold groupPattern sought matchKey
  rw [text?_eq_said (by decide)]

theorem format_eq_formatIn (t : Table) : format t = formatIn t := by
  unfold format formatIn timeFormatKey formatKey
  rw [text?_eq_said (by decide), text?_eq_said (by decide)]

-- ==================================================== what it comes to

/-- A text is refused as a time with a cause of its own kind. -/
theorem parseTime_error {text format : String} {cause : Error}
    (h : parseTime text format = .error cause) :
    ∃ refusal, cause = .time refusal := by
  unfold parseTime at h
  split at h
  · cases h
  · cases h
    exact ⟨_, rfl⟩

/-- The record with a default under a key, unless it has the key in some
form. -/
def withDefault (r : Record) (key : Key) (value : String) : Record :=
  if r.has key then r else r.set key.symForm (.str value)

/-- The record with both defaults. -/
def withDefaults (r : Record) : Record :=
  withDefault (withDefault r matchKey defaultMatch) formatKey defaultFormat

/-- The instant in a line, if there is one, or why it cannot be told. A
stopped record is not asked for its format. -/
def instant? (r : Record) (line : String) : Except Error (Option Instant) :=
  match compile (sought r.data) with
  | .error cause => .error cause
  | .ok pattern =>
    if r.stopped then .ok none
    else
      match (pattern.match? line).bind (captured? "time") with
      | none => .ok none
      | some text =>
        (parseTime (String.ofList text) (formatIn r.data)).map some

/-- How the setup ends on a record with the defaults, and what it leaves. -/
def finished (r : Record) (line : String) : Ending × Record :=
  match instant? r line with
  | .error cause => (.failed cause, r)
  | .ok none => (.returned none, r)
  | .ok (some t) => (.returned none, r.set timeKey.symForm (.time t))

section

variable (enter : Code → Progress → Ending × Progress) (scope : Scope)
  (p : Progress)

theorem setDefault_runWith (key : Key) (value : String) (next : Code) :
    (setDefault key value next).runWith enter scope p
      = next.runWith enter scope
        { p with record := withDefault p.record key value } := by
  have hview : Table.has (scope.view p.record).data key
      = p.record.has key := rfl
  unfold setDefault withDefault
  rw [Code.runWith, hview]
  split
  · rfl
  · rfl

/-- The captured text is read along the format of the record. -/
theorem storeTime_runWith (captures : Table)
    (next : Except Error (Option Value) → Code) :
    ((storeTime captures).andThen next).runWith enter scope p
      = match Table.text? captures timeKey with
        | none => (next (.ok none)).runWith enter scope p
        | some text =>
          match parseTime text (format p.record.data) with
          | .error cause => (next (.error cause)).runWith enter scope p
          | .ok t => (next (.ok none)).runWith enter scope
            { p with record := p.record.set timeKey.symForm (.time t) } := by
  unfold storeTime
  cases Table.text? captures timeKey with
  | none => rfl
  | some text =>
      have hview : (scope.view p.record).data = p.record.data := rfl
      simp only [Code.andThen, Code.runWith, hview]
      cases parseTime text (format p.record.data) with
      | error cause => rfl
      | ok t => rfl

theorem findTime_runWith :
    findTime.runWith enter scope p
      = ((finished p.record scope.line).1,
        { p with record := (finished p.record scope.line).2 }) := by
  have hview : scope.view p.record
      = ⟨p.record.data, p.record.stopped, scope.line, scope.settings,
        scope.surface.allows⟩ := rfl
  unfold findTime finished instant?
  simp only [Code.runWith, hview, groupPattern_eq_sought]
  cases compile (sought p.record.data) with
  | error cause => rfl
  | ok pattern =>
      simp only [Rule.on, Code.runWith, hview, Subject.resolve?,
        Option.bind_some]
      cases hstop : p.record.stopped with
      | true => rfl
      | false =>
          simp only [Bool.false_eq_true, if_false]
          -- the text is taken from the table of the groups
          have hgroup := text?_captures? pattern scope.line "time"
          generalize (pattern.match? scope.line).bind (captured? "time")
            = found at hgroup ⊢
          cases hcaptures : pattern.captures? scope.line with
          | none =>
              rw [hcaptures] at hgroup
              cases found with
              | none => rfl
              | some text => cases hgroup
          | some captures =>
              rw [hcaptures, Option.bind_some] at hgroup
              simp only [Rule.respond, storeTime_runWith, timeKey, hgroup,
                format_eq_formatIn]
              cases found with
              | none => rfl
              | some text =>
                  dsimp only [Option.map_some]
                  cases parseTime (String.ofList text)
                      (formatIn p.record.data) with
                  | error cause => rfl
                  | ok t => rfl

end

/-- The setup writes the defaults and then what it finds. -/
theorem setup_run (depth : Nat) (scope : Scope) (p : Progress) :
    setup.run depth scope p
      = ((finished (withDefaults p.record) scope.line).1,
        { p with
          record := (finished (withDefaults p.record) scope.line).2 }) := by
  obtain ⟨enter, henter⟩ := Code.run_enters depth scope
  unfold setup
  rw [henter, setDefault_runWith, setDefault_runWith, findTime_runWith]
  rfl

-- ==================================================== what it changes

/-- All that one record has is in the other, each key under the same entry
with the same value; and a write under `time` would go to the same entry of
both. -/
structure Kept (r s : Record) : Prop where
  found : ∀ key, r.has key = true →
    Table.found? s.data key = Table.found? r.data key
  value : ∀ key, r.has key = true → s.get? key = r.get? key
  target : Table.target s.data timeKey.symForm
    = Table.target r.data timeKey.symForm

namespace Kept

theorem refl (r : Record) : Kept r r :=
  ⟨fun _ _ => rfl, fun _ _ => rfl, rfl⟩

theorem has {r s : Record} (h : Kept r s) {key : Key}
    (hkey : r.has key = true) : s.has key = true := by
  unfold Record.has
  rw [Table.has_eq_found, h.found key hkey, ← Table.has_eq_found]
  exact hkey

theorem trans {r s q : Record} (h : Kept r s) (h' : Kept s q) :
    Kept r q where
  found key hkey := (h'.found key (h.has hkey)).trans (h.found key hkey)
  value key hkey := (h'.value key (h.has hkey)).trans (h.value key hkey)
  target := h'.target.trans h.target

end Kept

/-- A default of a plain name goes to an entry of its own. -/
theorem target_default {t : Table} {name : String} (hplain : Plain name)
    (h : Table.has t (.str name) = false) :
    Table.target t (.sym name) = .sym name
      ∧ t.contains (.sym name) = false := by
  have hnot := mt Table.has_iff.mpr (Bool.eq_false_iff.mp h)
  rw [Key.symForm_str hplain] at hnot
  simp only [not_or, Bool.not_eq_true] at hnot
  unfold Table.target
  rw [Key.strForm_sym, Key.symForm_sym hplain]
  simp [hnot]

/-- So a default moves nothing that is there. -/
theorem kept_withDefault (r : Record) {name : String}
    (hplain : Plain name) (hname : name ≠ "time") (value : String) :
    Kept r (withDefault r (.str name) value) := by
  unfold withDefault Record.set
  split
  · exact .refl r
  · rename_i hmissing
    split
    · exact .refl r
    · have hmissing' : Table.has r.data (.str name) = false :=
        Bool.eq_false_iff.mpr hmissing
      obtain ⟨htarget, hnew⟩ := target_default hplain hmissing'
      rw [Key.symForm_str hplain]
      refine ⟨fun key hkey => Table.found?_set hkey _ _, fun key hkey => ?_,
        ?_⟩
      · -- the entry that a key is found under was there already
        have hother : Table.found? r.data key
            ≠ some (Table.target r.data (.sym name)) := by
          intro hfound
          have hthere := (Table.found?_some hfound).2
          rw [htarget, hnew] at hthere
          cases hthere
        show Table.get? (Table.set r.data (.sym name) (.str value)) key = _
        rw [Table.get?_set hkey, if_neg hother]
        rfl
      · have htime : ∀ form : Key, form.name = "time" →
            (Table.set r.data (.sym name) (.str value)).contains form
              = r.data.contains form := by
          intro form hform
          unfold Table.set
          rw [htarget, OrderedMap.contains_insert]
          have hne : form ≠ .sym name := by
            rintro rfl
            exact hname hform
          simp [hne]
        unfold Table.target
        rw [htime timeKey.symForm.strForm rfl,
          htime timeKey.symForm.symForm rfl]

theorem kept_withDefaults (r : Record) : Kept r (withDefaults r) :=
  (kept_withDefault r (by decide) (by decide) defaultMatch).trans
    (kept_withDefault _ (by decide) (by decide) defaultFormat)

/-- An instant is found for a record that is not stopped. -/
theorem not_stopped_of_instant {r : Record} {line : String} {t : Instant}
    (h : instant? r line = .ok (some t)) : r.stopped = false := by
  unfold instant? at h
  split at h
  · cases h
  · split at h
    · cases h
    · rename_i hstop
      exact Bool.eq_false_iff.mpr hstop

/-- Where a key is found under the entry of `time` it is given under that
name, with a colon before it or without. -/
theorem name_of_found {t : Table} {key : Key}
    (h : Table.found? t key = some (Table.target t timeKey.symForm)) :
    key.name = "time" ∨ key.name = ":time" := by
  have hprobe := (Table.found?_some h).1
  have htarget : (Table.target t timeKey.symForm).name = "time" :=
    Table.target_name (by decide) rfl
  generalize Table.target t timeKey.symForm = found at hprobe htarget
  rcases List.mem_cons.mp hprobe with rfl | hrest
  · exact .inl htarget
  · rcases List.mem_cons.mp hrest with rfl | hlast
    · exact .inl htarget
    · rw [List.mem_singleton.mp hlast] at htarget
      exact symbolName_eq htarget

/-- Of what a record has, the setup changes the entry that a write under
`time` goes to, where it finds an instant in the line, and nothing else. -/
theorem setup_overwrites_time (depth : Nat) (scope : Scope) (p : Progress)
    (key : Key) (there : p.record.has key = true) :
    (setup.run depth scope p).1 ≠ .exhausted
    ∧ (setup.run depth scope p).2.record.get? key
      = (match instant? (withDefaults p.record) scope.line with
        | .ok (some t) =>
          if Table.found? p.record.data key
            = some (Table.target p.record.data timeKey.symForm)
          then some (.time t) else p.record.get? key
        | _ => p.record.get? key)
    ∧ (key.name ≠ "time" → key.name ≠ ":time" →
      (setup.run depth scope p).2.record.get? key = p.record.get? key) := by
  have hkept := kept_withDefaults p.record
  have hvalue : (setup.run depth scope p).2.record.get? key
      = (match instant? (withDefaults p.record) scope.line with
        | .ok (some t) =>
          if Table.found? p.record.data key
            = some (Table.target p.record.data timeKey.symForm)
          then some (.time t) else p.record.get? key
        | _ => p.record.get? key) := by
    rw [setup_run, ← hkept.value key there, ← hkept.found key there,
      ← hkept.target]
    unfold finished
    rcases hi : instant? (withDefaults p.record) scope.line with
      cause | _ | t
    · rfl
    · rfl
    · have hgoing := not_stopped_of_instant hi
      have hset : ((withDefaults p.record).set timeKey.symForm (.time t)
          ).get? key = Table.get? (Table.set (withDefaults p.record).data
            timeKey.symForm (.time t)) key := by
        unfold Record.set
        rw [hgoing]
        rfl
      dsimp only
      rw [hset, Table.get?_set (hkept.has there)]
      rfl
  refine ⟨?_, hvalue, fun hname hcolon => ?_⟩
  · rw [setup_run]
    unfold finished
    rcases instant? (withDefaults p.record) scope.line with cause | _ | t <;>
      exact nofun
  · have hother : Table.found? p.record.data key
        ≠ some (Table.target p.record.data timeKey.symForm) := by
      intro hfound
      rcases name_of_found hfound with h | h
      · exact hname h
      · exact hcolon h
    rw [hvalue]
    simp only [hother, if_false]
    split <;> rfl

/-- A record that was preset a time of its own, and the form of the times
that lines give. -/
def timed : Record :=
  .seeded [(.symbol "time", .str "mine"),
    (.symbol "date_match_to", .str "[0-9]+"),
    (.symbol "date_format", .str "%s")]

/-- A scope with a line that gives a time of that form. -/
def dated : Scope := ⟨.empty, "at 1360372743", .empty⟩

theorem instant?_dated :
    instant? (withDefaults timed) dated.line
      = .ok (some ⟨1360372743, 0⟩) := by
  rfl

/-- The time that was preset goes, since the line gives one. -/
theorem setup_overwrites_time_dated :
    (setup.run 0 dated ⟨timed, []⟩).2.record.get? (.str "time")
      = some (.time ⟨1360372743, 0⟩) := by
  have hvalue :=
    (setup_overwrites_time 0 dated ⟨timed, []⟩ (.str "time") rfl).2.1
  simp only [instant?_dated] at hvalue
  exact hvalue

/-- So the setup does not keep all that the record has. -/
theorem setup_keeps_not_all :
    ¬ ∀ (depth : Nat) (scope : Scope) (p : Progress) (key : Key),
      p.record.has key = true →
      (setup.run depth scope p).2.record.get? key = p.record.get? key := by
  intro h
  have hkept := h 0 dated ⟨timed, []⟩ (.str "time") rfl
  simp only [setup_run, finished, instant?_dated] at hkept
  have hold : timed.get? (.str "time") = some (.str "mine") := rfl
  rw [hold] at hkept
  cases hkept

end Logline.Addin.DateTime
