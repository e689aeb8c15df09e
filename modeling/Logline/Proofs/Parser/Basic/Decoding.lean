/-
What a server writes is what the built-in kind of parser reads.

A server writes the letter, a stamp, a text and perhaps a line feed. Such a
line has a time in one way only, which is the way that it was written
(`written_logged`, `Logged.unique`), and its stamp is read as the instant that
it stands for. So the rules behind the block are given this instant and this
text, and what they add is what the text says (`Says`).

A text can set a variable in several ways, since names and values may have
quotes in them. The pattern is greedy for the name, so the name is the
longest that there is (`captures_longest`); with a value without quotes no
other way has as long a name (`Sets.unique`).
-/
import Logline.Proofs.Calendar.Stamp
import Logline.Proofs.Parser.Basic.Records
import Logline.Proofs.Pattern.Greedy

namespace Logline.Parser.Basic

open Addin.DateTime (defaultFormat)
open Calendar (Instant Spells Stamp)
open Pattern Pattern.Node

-- ============================================================== stamps

/-- Digits fit zeros. -/
theorem fits_spells {digits : List Char} {width n : Nat}
    (h : Spells digits width n) :
    List.Forall₂ (fun slot c => fits slot c = true)
      (List.replicate width '0') digits := by
  obtain ⟨rfl, hdigit, -⟩ := h
  induction digits with
  | nil => exact .nil
  | cons c digits ih =>
      refine .cons ?_ (ih fun d hd => hdigit d (.tail _ hd))
      exact hdigit c (.head _)

/-- A stamp looks like a date. -/
theorem dated_stamp (s : Stamp) : Dated s.text.toList := by
  have hday := s.day_le_31
  have hyear := s.year_le
  have hmonth := s.month_le
  have hhour := s.hour_le
  have hminute := s.minute_le
  have hsecond := s.second_le
  have two : ∀ {n : Nat}, n < 100 →
      List.Forall₂ (fun slot c => fits slot c = true) (List.replicate 2 '0')
        (Instant.padded 2 n).toList :=
    fun h => fits_spells (Calendar.spells_two h)
  have four : List.Forall₂ (fun slot c => fits slot c = true)
      (List.replicate 4 '0') (Instant.padded 4 s.year).toList :=
    fits_spells (Calendar.spells_four (by omega))
  have hlayout : dateLayout.toList = List.replicate 2 '0' ++ '/'
      :: (List.replicate 2 '0' ++ '/' :: (List.replicate 4 '0' ++ ' ' :: '-'
      :: ' ' :: (List.replicate 2 '0' ++ ':' :: (List.replicate 2 '0' ++ ':'
      :: (List.replicate 2 '0' ++ []))))) := by
    decide
  unfold Dated
  rw [hlayout, s.toList_text]
  exact List.rel_append (two (by omega)) (.cons rfl
    (List.rel_append (two (by omega)) (.cons rfl
    (List.rel_append four (.cons rfl (.cons rfl (.cons rfl
    (List.rel_append (two (by omega)) (.cons rfl
    (List.rel_append (two (by omega)) (.cons rfl
    (List.rel_append (two (by omega)) .nil))))))))))))

/-- A line as a server writes it. -/
def written (stamp : Stamp) (text ending : String) : String :=
  "L " ++ stamp.text ++ ": " ++ text ++ ending

/-- A line that a server writes has the time and the text that it was written
with. -/
theorem written_logged (stamp : Stamp) {text ending : String}
    (hsome : text ≠ "") (hunbroken : '\n' ∉ text.toList)
    (hending : ending = "" ∨ ending = "\n") :
    Logged (written stamp text ending).toList stamp.text.toList
      text.toList := by
  refine ⟨⟨' ', ' ', ending.toList, ?_, by decide, by decide, ?_⟩,
    dated_stamp stamp, ?_, hunbroken⟩
  · simp [written]
  · rcases hending with rfl | rfl
    · exact .inl rfl
    · exact .inr rfl
  · intro hnone
    exact hsome (String.toList_eq_nil_iff.mp hnone)

/-- A line has a time and a text in one way. -/
theorem Logged.unique {line date log date' log' : List Char}
    (h : Logged line date log) (h' : Logged line date' log') :
    date = date' ∧ log = log' := by
  obtain ⟨first, second, ending, rfl, -, -, hending⟩ := h.parts
  obtain ⟨first', second', ending', hline, -, -, hending'⟩ := h'.parts
  have hlength : date.length = date'.length :=
    h.dated.length_eq.symm.trans h'.dated.length_eq
  obtain ⟨hdate, hrest⟩ :=
    List.append_inj (List.cons.inj (List.cons.inj hline).2).2 hlength
  have hends : log ++ ending = log' ++ ending' :=
    (List.cons.inj (List.cons.inj hrest).2).2
  refine ⟨hdate, ?_⟩
  rcases hending with rfl | rfl
  · rcases hending' with rfl | rfl
    · simpa using hends
    · refine absurd ?_ h.unbroken
      rw [← List.append_nil log, hends]
      exact List.mem_append_right _ (.head _)
  · rcases hending' with rfl | rfl
    · refine absurd ?_ h'.unbroken
      rw [← List.append_nil log', ← hends]
      exact List.mem_append_right _ (.head _)
    · exact List.append_cancel_right hends

-- =============================================================== texts

/-- A comment is what is behind the asterisk that a text starts with, blanks
aside. -/
theorem commented_iff {log comment : List Char} :
    Commented log comment ↔ Text.dropBlanks log = '*' :: comment := by
  constructor
  · intro ⟨blanks, hlog, hblanks⟩
    unfold Text.dropBlanks
    rw [hlog, List.dropWhile_append_of_pos hblanks,
      List.dropWhile_cons_of_neg (by decide)]
  · intro h
    refine ⟨log.takeWhile Text.isBlank, ?_, ?_⟩
    · rw [← h]
      exact List.takeWhile_append_dropWhile.symm
    · intro c hc
      exact List.mem_takeWhile_imp hc

/-- The pattern for variables is greedy for the name. -/
theorem serverVariable_greedy : Greedy "cvar" serverVariableTree := by
  have hname : Greedy "cvar" (.seq
      (spell (.anchor .textStart) "server_cvar: \"".toList)
      (anything "cvar")) :=
    .behind (by rfl) (by rfl) (by decide) (.stars "cvar" .notLineFeed)
  have hvalue : Greedy "cvar" (.seq
      (.spell _ "\" \"".toList) (anything "value")) :=
    (hname.spell _).before rfl (by decide)
  exact (hvalue.spell _).before rfl (by decide)

/-- The name that is found is as long as the name in any way to read the
text. -/
theorem captures_longest {log cvar value : String}
    (hunbroken : '\n' ∉ log.toList)
    (hfound : Pattern.captures? ⟨serverVariable, serverVariableTree⟩ log
      = some (captures [("cvar", cvar), ("value", value)])) {c v : List Char}
    (hsets : Sets log.toList c v) : c.length ≤ cvar.toList.length := by
  rw [captures?_eq] at hfound
  obtain ⟨found, hsearch, hgroups⟩ := Option.map_eq_some_iff.mp hfound
  have hvalue : groupValue (found.map Capture.text) "cvar" = .str cvar := by
    have hentry := congrArg (·.find? (.str "cvar")) hgroups
    exact Option.some.inj hentry
  have hcvar : Entries.find? "cvar" (found.map Capture.text)
      = some cvar.toList := by
    unfold groupValue at hvalue
    cases htext : Entries.find? "cvar" (found.map Capture.text) with
    | none =>
        rw [htext] at hvalue
        cases hvalue
    | some text =>
        rw [htext] at hvalue
        cases hvalue
        rw [String.toList_ofList]
  obtain ⟨hc, hv⟩ := hsets.unbroken hunbroken
  have hmatch : serverVariableTree.Matches none log.toList []
      [("value", v), ("cvar", c)] :=
    matches_serverVariable.mpr ⟨rfl, c, v, hsets, hc, hv, rfl⟩
  have hfirst : serverVariableTree.search none 0 (log.toList ++ [])
      = some found := by
    rw [List.append_nil]
    exact hsearch
  have hlongest := serverVariable_greedy.search_longest hmatch hfirst
  unfold extent at hlongest
  rw [hcvar] at hlongest
  exact hlongest

/-- With a value without quotes no name is longer. -/
theorem Sets.unique {log cvar value c v : List Char}
    (h : Sets log cvar value) (h' : Sets log c v)
    (hlonger : c.length ≤ cvar.length) (hquote : '"' ∉ v) :
    cvar = c ∧ value = v := by
  have hboth : c ++ ("\" \"".toList ++ (v ++ "\"".toList))
      = cvar ++ ("\" \"".toList ++ (value ++ "\"".toList)) := by
    have hsame := h'.symm.trans h
    simp only [List.append_assoc] at hsame
    exact List.append_cancel_left hsame
  obtain ⟨d, rfl, hrest⟩ : ∃ d, cvar = c ++ d
      ∧ "\" \"".toList ++ (v ++ "\"".toList)
        = d ++ ("\" \"".toList ++ (value ++ "\"".toList)) := by
    rcases List.append_eq_append_iff.mp hboth with
      ⟨d, hcvar, hrest⟩ | ⟨d, hc, hrest⟩
    · exact ⟨d, hcvar, hrest⟩
    · have hnil : d = [] := by
        rw [hc, List.length_append] at hlonger
        exact List.eq_nil_of_length_eq_zero (by omega)
      subst hnil
      rw [List.append_nil] at hc
      exact ⟨[], by rw [hc, List.append_nil], hrest.symm⟩
  -- behind the shorter name there are three quotes, and no more
  have hv : v.count '"' = 0 := List.count_eq_zero.mpr hquote
  have hthree : List.count '"' ("\" \"".toList ++ (v ++ "\"".toList)) = 3 := by
    simp [List.count_append, hv]
  have hmore : List.count '"'
      (d ++ ("\" \"".toList ++ (value ++ "\"".toList))) = d.count '"'
        + (value.count '"' + 3) := by
    simp [List.count_append]
  have hnone : d.count '"' = 0 := by
    rw [hrest, hmore] at hthree
    omega
  cases d with
  | nil =>
      refine ⟨List.append_nil c, ?_⟩
      simpa using hrest.symm
  | cons x d =>
      have hx : x = '"' := by
        have hhead := congrArg List.head? hrest
        simpa using hhead.symm
      rw [hx, List.count_cons_self] at hnone
      exact absurd hnone (Nat.succ_ne_zero _)

-- ========================================================== what is said

/-- What a text says beside itself: a comment, a variable, or nothing. -/
inductive Says (text : List Char) : List (Key × Value) → Prop
  | comment {comment : String}
      (starred : Text.dropBlanks text = '*' :: comment.toList) :
      Says text [(.sym "type", .sym "comment"), (.sym "cdata", .str comment)]
  | setting {cvar value : String}
      (unstarred : (Text.dropBlanks text).head? ≠ some '*')
      (sets : Sets text cvar.toList value.toList)
      (longest : ∀ c v, Sets text c v → c.length ≤ cvar.toList.length) :
      Says text [(.sym "type", .sym "cvar_set"), (.sym "cvar", .str cvar),
        (.sym "value", .str value)]
  | nothing (unstarred : (Text.dropBlanks text).head? ≠ some '*')
      (unset : ∀ c v, ¬ Sets text c v) : Says text []

/-- A text that sets a variable is no comment. -/
theorem Sets.unstarred {log cvar value : List Char}
    (h : Sets log cvar value) : (Text.dropBlanks log).head? ≠ some '*' := by
  have hhead : log.head? = some 's' := by
    rw [h]
    simp
  obtain ⟨rest, rfl⟩ := List.head?_eq_some_iff.mp hhead
  unfold Text.dropBlanks
  rw [List.dropWhile_cons_of_neg (by decide), List.head?_cons]
  decide

/-- A variable whose value has no quotes is said as it was set. -/
theorem Says.setting_eq {text : List Char} {said : List (Key × Value)}
    (h : Says text said) {c v : String}
    (hsets : Sets text c.toList v.toList) (hquote : '"' ∉ v.toList) :
    said = [(.sym "type", .sym "cvar_set"), (.sym "cvar", .str c),
      (.sym "value", .str v)] := by
  cases h with
  | comment starred =>
      refine absurd ?_ hsets.unstarred
      rw [starred]
      rfl
  | nothing _ unset => exact absurd hsets (unset _ _)
  | setting _ sets longest =>
      obtain ⟨hc, hv⟩ := sets.unique hsets (longest _ _ hsets) hquote
      rw [String.toList_inj.mp hc, String.toList_inj.mp hv]

/-- Behind the block the record gets what the text says. -/
theorem text_says {enter : Code → Progress → Ending × Progress}
    {scope : Scope} {log : String} (hunbroken : '\n' ∉ log.toList)
    (time : Instant) :
    ∃ data said, outcomeOf enter scope textStatements
        (.ofFields (logFields time log)) = .ok data
      ∧ data.table.entries
        = [(.sym "time_format", .str defaultFormat), (.sym "time", .time time),
          (.sym "log", .str log)] ++ said
      ∧ Says log.toList said := by
  rcases captures_loggedComment hunbroken with
    ⟨comment, commented, hfound⟩ | ⟨hnone, uncommented⟩
  · exact ⟨_, _, outcomeOf_commented hfound time,
      entries_commentFields time comment,
      .comment (commented_iff.mp commented)⟩
  · have unstarred : (Text.dropBlanks log.toList).head? ≠ some '*' := by
      intro hstar
      obtain ⟨rest, hrest⟩ := List.head?_eq_some_iff.mp hstar
      apply uncommented (.ofList rest)
      rw [String.toList_ofList]
      exact commented_iff.mpr hrest
    rcases captures_serverVariable hunbroken with
      ⟨cvar, value, sets, hfound⟩ | ⟨hnone', unset⟩
    · exact ⟨_, _, outcomeOf_variable hnone hfound time,
        entries_variableFields time cvar value,
        .setting unstarred sets fun c v =>
          captures_longest hunbroken hfound⟩
    · refine ⟨_, [], outcomeOf_plain hnone hnone' time,
        entries_logFields time log, .nothing unstarred fun c v hsets => ?_⟩
      apply unset (.ofList c) (.ofList v)
      rw [String.toList_ofList, String.toList_ofList]
      exact hsets

/-- A line with a stamp gives the record the instant of the stamp, its text,
and what the text says. -/
theorem line_says (enter : Code → Progress → Ending × Progress)
    (scope : Scope) {stamp : Stamp} {text : String}
    (h : Logged scope.line.toList stamp.text.toList text.toList) :
    ∃ data said, outcomeOf enter scope statements .empty = .ok data
      ∧ data.table.entries
        = [(.sym "time_format", .str defaultFormat),
          (.sym "time", .time stamp.instant), (.sym "log", .str text)] ++ said
      ∧ Says text.toList said := by
  have hcaptures : Pattern.captures? ⟨logLine, logLineTree⟩ scope.line
      = some (captures [("datetime", stamp.text), ("data", text)]) := by
    rcases captures_logLine scope.line with
      ⟨date, log, logged, hfound⟩ | ⟨-, unlogged⟩
    · obtain ⟨hdate, hlog⟩ := logged.unique h
      rw [hfound, String.toList_inj.mp hdate, String.toList_inj.mp hlog]
    · exact absurd h (unlogged _ _)
  rw [outcomeOf_unstarred h.unstarred, outcomeOf_logLine hcaptures,
    stamp.parseTime_text]
  exact text_says h.unbroken stamp.instant

/-- Whatever a server writes under a stamp the built-in kind takes apart
again: the instant of the stamp, which shows the digits of the stamp, the
text, and what the text says. A name, and a value without quotes, come back
as they were. -/
theorem written_decoded :
    ∃ kind, builtin Basic.name = .ok kind
      ∧ ∀ (stamp : Stamp) (text ending : String), text ≠ "" →
        '\n' ∉ text.toList → ending = "" ∨ ending = "\n" →
        ∀ (options : Options) (depth : Nat),
          ∃ data said, ((LineParser.make kind (written stamp text ending)
              options).parse depth).outcome = .ok data
            ∧ data.table.entries
              = [(.sym "time_format", .str defaultFormat),
                (.sym "time", .time stamp.instant), (.sym "log", .str text)]
                ++ said
            ∧ stamp.instant.zuluText = stamp.zulu
            ∧ Says text.toList said
            ∧ ∀ c v : String, Sets text.toList c.toList v.toList →
              '"' ∉ v.toList →
              said = [(.sym "type", .sym "cvar_set"), (.sym "cvar", .str c),
                (.sym "value", .str v)] := by
  refine ⟨_, builtin_basic, ?_⟩
  intro stamp text ending hsome hunbroken hending options depth
  obtain ⟨enter, houtcome⟩ := builtin_outcome builtin_basic
    (written stamp text ending) options depth
  obtain ⟨data, said, hdata, hentries, hsays⟩ :=
    line_says enter ⟨.empty, written stamp text ending, options.settings⟩
      (written_logged stamp hsome hunbroken hending)
  exact ⟨data, said, houtcome.trans hdata, hentries, stamp.zuluText_instant,
    hsays, fun c v => hsays.setting_eq⟩

/-- Almost the last second of a day that only leap years have. -/
def leapStamp : Stamp :=
  ⟨2016, 2, 29, 23, 59, 58, by decide, by decide, by decide, by decide,
    by decide, by decide, by decide, by decide⟩

/-- Of the two ways to read this text the one with the longer name counts. -/
theorem written_decoded_quoted :
    ∃ kind data, builtin Basic.name = .ok kind
      ∧ ((LineParser.make kind
          "L 02/29/2016 - 23:59:58: server_cvar: \"a\" \"b\" \"c\"\n"
          .initial).parse 0).outcome = .ok data
      ∧ data.table.entries
        = [(.sym "time_format", .str "%m/%d/%Y - %H:%M:%S"),
          (.sym "time", .time ⟨1456790398, 0⟩),
          (.sym "log", .str "server_cvar: \"a\" \"b\" \"c\""),
          (.sym "type", .sym "cvar_set"), (.sym "cvar", .str "a\" \"b"),
          (.sym "value", .str "c")] := by
  obtain ⟨kind, hkind, hdecoded⟩ := written_decoded
  obtain ⟨data, said, hdata, hentries, -, -, hsaid⟩ := hdecoded leapStamp
    "server_cvar: \"a\" \"b\" \"c\"" "\n" (by decide) (by decide)
    (.inr rfl) .initial 0
  have hline : written leapStamp "server_cvar: \"a\" \"b\" \"c\"" "\n"
      = "L 02/29/2016 - 23:59:58: server_cvar: \"a\" \"b\" \"c\"\n" := by
    decide
  rw [hline] at hdata
  refine ⟨kind, data, hkind, hdata, ?_⟩
  rw [hentries, hsaid "a\" \"b" "c" (by unfold Sets; decide) (by decide)]
  rfl

end Logline.Parser.Basic
