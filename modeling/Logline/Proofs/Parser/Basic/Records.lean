/-
What the built-in kind of parser makes of a line.

The kind is five statements, without bindings, addins or presets, so a parse
is a run of these statements on an empty record (`parse_bare`). They are
followed one by one, the record at hand written down after each
(`outcomeOf`). Whether a statement matches is a matter of the form of the
line, and behind the block, of the form of the text that the block wrote. So
which record comes out follows from the line: `Shaped` gives, for each of the
shapes it can have, when it has it. The first rule and the last two stop
where they match, and the block fails where the date is none; hence no other
mixture.
-/
import Logline.Proofs.Addin.DateTime
import Logline.Proofs.Parser.Basic.Forms
import Logline.Proofs.Parser.Evaluation
import Logline.Proofs.Statement

namespace Logline

-- ============================================================== records

namespace Record

/-- The record that fields have been written to, one after the other. -/
def ofFields (fields : List (String × Value)) : Record :=
  empty.setAll (fields.map fun f => (.symbol f.1, f.2))

theorem ofFields_append (first second : List (String × Value)) :
    ofFields (first ++ second)
      = (ofFields first).setAll (second.map fun f => (.symbol f.1, f.2)) := by
  unfold ofFields setAll
  rw [List.map_append, List.foldl_append]

/-- Fields with names of their own stand in the order of their writing. -/
theorem entries_setAll_new {r : Record} (hgoing : r.stopped = false)
    {fields : List (String × Value)} (hplain : ∀ f ∈ fields, Plain f.1)
    (hnew : (r.data.entries.map (·.1.name) ++ fields.map Prod.fst).Nodup) :
    (r.setAll (fields.map fun f => (.symbol f.1, f.2))).data.entries
      = r.data.entries ++ fields.map fun f => (.sym f.1, f.2) := by
  induction fields generalizing r with
  | nil => exact (List.append_nil _).symm
  | cons f rest ih =>
      have hfirst : (r.set (.symbol f.1) f.2).data.entries
          = r.data.entries ++ [(.sym f.1, f.2)] := by
        unfold Record.set
        rw [hgoing, if_neg Bool.false_ne_true]
        refine Table.entries_set_new (hplain f (.head _))
          (fun e he hname => ?_) f.2
        exact (List.nodup_append.mp hnew).2.2 _
          (List.mem_map.mpr ⟨e, he, rfl⟩) _ (.head _) hname
      have hstep : r.setAll ((f :: rest).map fun f => (.symbol f.1, f.2))
          = (r.set (.symbol f.1) f.2).setAll
              (rest.map fun f => (.symbol f.1, f.2)) := rfl
      rw [hstep, ih ((r.set_stopped _ _).trans hgoing)
        (fun f hf => hplain f (.tail _ hf)), hfirst, List.append_assoc]
      · rfl
      · rw [hfirst, List.map_append, List.append_assoc]
        exact hnew

theorem entries_ofFields {fields : List (String × Value)}
    (names : List String) (hnames : fields.map Prod.fst = names)
    (hplain : ∀ name ∈ names, Plain name) (hnew : names.Nodup) :
    (ofFields fields).data.entries = fields.map fun f => (.sym f.1, f.2) := by
  subst hnames
  exact entries_setAll_new rfl
    (fun _ hf => hplain _ (List.mem_map_of_mem hf)) hnew

theorem stopped_ofFields (fields : List (String × Value)) :
    (ofFields fields).stopped = false := setAll_stopped

theorem violation_setAll (r : Record) (writes : List (Key × Value)) :
    (r.setAll writes).violation = r.violation := by
  unfold setAll
  induction writes generalizing r with
  | nil => rfl
  | cons w rest ih =>
      rw [List.foldl_cons, ih, Record.set]
      split <;> rfl

end Record

/-- Pairs of which one stops write the fields before it and stop. -/
theorem Pairs.merge_ofFields {captures : Table} {pairs : Pairs}
    (hstops : pairs.any stops = true) {written fields : List (String × Value)}
    (hwrites : writes captures pairs
      = fields.map fun f => (.symbol f.1, f.2)) :
    pairs.merge captures (.ofFields written)
      = (Record.ofFields (written ++ fields)).stop := by
  unfold merge
  rw [if_pos hstops, hwrites, Record.ofFields_append]

-- ============================================================= parsers

/-- What a parse makes of how its rules end. -/
def LineParser.settle : Ending × Progress → Outcome Data
  | (.failed cause, _) => .failed cause
  | (.exhausted, _) => .exhausted
  | (.returned _, p) =>
      match p.record.violation with
      | some operation => .failed (.capability operation)
      | none => .ok (.ofRecord p.record)

/-- Without bindings, addins and presets a parse is a run of the rules. -/
theorem LineParser.parse_bare (name : String) (rules : RuleSet)
    (line : String) (options : Options) (depth : Nat) :
    ((make ⟨name, [], [], [], rules⟩ line options).parse depth).outcome
      = settle (rules.code.run depth ⟨.empty, line, options.settings⟩
          ⟨.empty, []⟩) := by
  have hactive : (make ⟨name, [], [], [], rules⟩ line options).activate depth
      = ⟨.ok (), { make ⟨name, [], [], [], rules⟩ line options with
          context := { Context.empty with compiled := some .empty }
          activated := true }, []⟩ := by
    rfl
  have hpresets : Record.seeded [] = .empty := rfl
  rw [parse_outcome rfl]
  unfold evaluate
  rw [hactive]
  simp only [runCode, Context.run, Context.compile, finish, make]
  rw [hpresets]
  rcases rules.code.run depth ⟨.empty, line, options.settings⟩ ⟨.empty, []⟩
    with ⟨_ | _ | _, progress⟩
  · dsimp only [settle]
    cases progress.record.violation <;> rfl
  · rfl
  · rfl

namespace Parser.Basic

open Addin.DateTime (defaultFormat parseTime parseTime_error)
open Calendar (Instant TimeError)

-- ============================================================ the kind

/-- Lines that are comments. -/
def commentLineRule : Rule :=
  ⟨⟨commentLine, commentLineTree⟩, .line,
    [symbolPair "type" "comment", Pairs.stopPair], none⟩

/-- Lines with a time. -/
def logLineRule : Rule :=
  ⟨⟨logLine, logLineTree⟩, .line, [], some (.block storeLog)⟩

/-- Texts that are comments. -/
def loggedCommentRule : Rule :=
  ⟨⟨loggedComment, loggedCommentTree⟩, .field (.symbol "log"),
    [symbolPair "type" "comment", capturePair "cdata" "comment_data",
      Pairs.stopPair], none⟩

/-- Texts that set a variable. -/
def serverVariableRule : Rule :=
  ⟨⟨serverVariable, serverVariableTree⟩, .field (.symbol "log"),
    [symbolPair "type" "cvar_set", capturePair "cvar" "cvar",
      capturePair "value" "value", Pairs.stopPair], none⟩

/-- The statements that look at the text of a line. -/
def textStatements : RuleSet := [.on loggedCommentRule, .on serverVariableRule]

/-- The statements of the kind. -/
def statements : RuleSet :=
  .on commentLineRule :: .set (.symbol "time_format") (.str defaultFormat)
    :: .on logLineRule :: textStatements

theorem builtin_basic :
    builtin Basic.name = .ok ⟨name, [], [], [], statements⟩ := by
  have hrules : RuleSet.ofDeclarations rules = .ok statements := by
    simp only [RuleSet.ofDeclarations, rules, RuleSet.declare,
      Declaration.statement_on compile_commentLine,
      Declaration.statement_onBlock compile_logLine,
      Declaration.statement_onSubject compile_loggedComment,
      Declaration.statement_onSubject compile_serverVariable]
    rfl
  unfold builtin kind ParserKind.define
  simp only [if_true, Blueprint.ofRules, hrules]
  rfl

-- ========================================================== the shapes

/-- What a parse of a line comes to. -/
inductive Shaped (line : String) : Outcome Data → Prop
  /-- The line is a comment. -/
  | commentLine {data : Data} (starred : line.toList.head? = some '*')
      (entries : data.table.entries = [(.sym "type", .sym "comment")]) :
      Shaped line (.ok data)
  /-- The line is not a comment, and it has no time. -/
  | other {data : Data} (unstarred : line.toList.head? ≠ some '*')
      (unlogged : ∀ date log : String,
        ¬ Logged line.toList date.toList log.toList)
      (entries : data.table.entries
        = [(.sym "time_format", .str defaultFormat)]) :
      Shaped line (.ok data)
  /-- The line has a time, but its date is none. -/
  | refused {date log : String} {cause : TimeError}
      (logged : Logged line.toList date.toList log.toList)
      (refused : parseTime date defaultFormat = .error (.time cause)) :
      Shaped line (.failed (.time cause))
  /-- The line has a time, and its text is of no form. -/
  | text {data : Data} {date log : String} {time : Instant}
      (logged : Logged line.toList date.toList log.toList)
      (read : parseTime date defaultFormat = .ok time)
      (uncommented : ∀ comment : String,
        ¬ Commented log.toList comment.toList)
      (unset : ∀ cvar value : String,
        ¬ Sets log.toList cvar.toList value.toList)
      (entries : data.table.entries
        = [(.sym "time_format", .str defaultFormat), (.sym "time", .time time),
          (.sym "log", .str log)]) :
      Shaped line (.ok data)
  /-- The line has a time, and its text is a comment. -/
  | loggedComment {data : Data} {date log comment : String} {time : Instant}
      (logged : Logged line.toList date.toList log.toList)
      (read : parseTime date defaultFormat = .ok time)
      (commented : Commented log.toList comment.toList)
      (entries : data.table.entries
        = [(.sym "time_format", .str defaultFormat), (.sym "time", .time time),
          (.sym "log", .str log), (.sym "type", .sym "comment"),
          (.sym "cdata", .str comment)]) :
      Shaped line (.ok data)
  /-- The line has a time, and its text sets a variable. -/
  | serverVariable {data : Data} {date log cvar value : String}
      {time : Instant}
      (logged : Logged line.toList date.toList log.toList)
      (read : parseTime date defaultFormat = .ok time)
      (sets : Sets log.toList cvar.toList value.toList)
      (entries : data.table.entries
        = [(.sym "time_format", .str defaultFormat), (.sym "time", .time time),
          (.sym "log", .str log), (.sym "type", .sym "cvar_set"),
          (.sym "cvar", .str cvar), (.sym "value", .str value)]) :
      Shaped line (.ok data)

-- ============================================================ the run

/-- What a parse makes of a run of statements on a record. -/
def outcomeOf (enter : Code → Progress → Ending × Progress) (scope : Scope)
    (rules : RuleSet) (r : Record) : Outcome Data :=
  LineParser.settle ((RuleSet.code rules).runWith enter scope ⟨r, []⟩)

/-- The fields behind the block. -/
def logFields (time : Instant) (log : String) : List (String × Value) :=
  [("time_format", .str defaultFormat), ("time", .time time),
    ("log", .str log)]

section

variable {enter : Code → Progress → Ending × Progress} {scope : Scope}

theorem outcomeOf_on {rule : Rule} (h : rule.delegate = none)
    (rules : RuleSet) (r : Record) :
    outcomeOf enter scope (.on rule :: rules) r
      = outcomeOf enter scope rules (rule.applied scope r) := by
  unfold outcomeOf
  have hstep : RuleSet.code (.on rule :: rules)
      = Statement.code (RuleSet.code rules) (.on rule) := rfl
  rw [hstep, Statement.on_runWith h]

/-- Where nothing is written any more the record is handed out. -/
theorem outcomeOf_returned {rules : RuleSet} {r : Record}
    (h : (RuleSet.code rules).runWith enter scope ⟨r, []⟩
      = (.returned none, ⟨r, []⟩)) (hviolation : r.violation = none) :
    outcomeOf enter scope rules r = .ok (.ofRecord r) := by
  unfold outcomeOf
  rw [h]
  simp only [LineParser.settle, hviolation]

theorem outcomeOf_nil {fields : List (String × Value)} :
    outcomeOf enter scope [] (.ofFields fields)
      = .ok (.ofRecord (.ofFields fields)) :=
  outcomeOf_returned rfl (Record.violation_setAll _ _)

theorem outcomeOf_stopped {rules : RuleSet}
    (h : ∀ s ∈ rules, s.Declarative) {fields : List (String × Value)} :
    outcomeOf enter scope rules (Record.ofFields fields).stop
      = .ok (.ofRecord (Record.ofFields fields).stop) :=
  outcomeOf_returned (RuleSet.run_of_stopped h rfl)
    (Record.violation_setAll _ _)

theorem entries_logFields (time : Instant) (log : String) :
    (Record.ofFields (logFields time log)).data.entries
      = [(.sym "time_format", .str defaultFormat), (.sym "time", .time time),
        (.sym "log", .str log)] :=
  Record.entries_ofFields ["time_format", "time", "log"] rfl (by decide)
    (by decide)

/-- The text is found in the record that the block wrote. -/
theorem log_of_logFields (scope : Scope) (time : Instant) (log : String) :
    (Subject.field (.symbol "log")).resolve?
      (scope.view (.ofFields (logFields time log))) = some log := by
  change ((Table.probes (.symbol "log")).findSome? fun key =>
    Entries.find? key (Record.ofFields (logFields time log)).data.entries).bind
    Value.text? = some log
  rw [entries_logFields]
  rfl

/-- The fields of a comment in a text. -/
def commentFields (comment : String) : List (String × Value) :=
  [("type", .symbol "comment"), ("cdata", .str comment)]

/-- The fields of a variable that a text sets. -/
def variableFields (cvar value : String) : List (String × Value) :=
  [("type", .symbol "cvar_set"), ("cvar", .str cvar), ("value", .str value)]

section

variable {log : String}

theorem loggedComment_match? (time : Instant) :
    loggedCommentRule.match? (scope.view (.ofFields (logFields time log)))
      = Pattern.captures? ⟨loggedComment, loggedCommentTree⟩ log :=
  loggedCommentRule.match?_of_subject
    (Record.stopped_ofFields (logFields time log))
    (log_of_logFields scope time log)

theorem serverVariable_match? (time : Instant) :
    serverVariableRule.match? (scope.view (.ofFields (logFields time log)))
      = Pattern.captures? ⟨serverVariable, serverVariableTree⟩ log :=
  serverVariableRule.match?_of_subject
    (Record.stopped_ofFields (logFields time log))
    (log_of_logFields scope time log)

/-- Behind the block a comment is taken first. -/
theorem outcomeOf_commented {comment : String}
    (hfound : Pattern.captures? ⟨loggedComment, loggedCommentTree⟩ log
      = some (captures [("comment_data", comment)])) (time : Instant) :
    outcomeOf enter scope textStatements (.ofFields (logFields time log))
      = .ok (.ofRecord (Record.ofFields
          (logFields time log ++ commentFields comment)).stop) := by
  have hmerge : loggedCommentRule.pairs.merge
      (captures [("comment_data", comment)]) (.ofFields (logFields time log))
      = (Record.ofFields (logFields time log ++ commentFields comment)).stop :=
    Pairs.merge_ofFields (by decide) (by rfl)
  unfold textStatements
  rw [outcomeOf_on rfl,
    Rule.applied_of_some ((loggedComment_match? time).trans hfound), hmerge,
    outcomeOf_stopped (by simp [Statement.Declarative])]

/-- A variable is taken where there is no comment. -/
theorem outcomeOf_variable {cvar value : String}
    (hnone : Pattern.captures? ⟨loggedComment, loggedCommentTree⟩ log = none)
    (hfound : Pattern.captures? ⟨serverVariable, serverVariableTree⟩ log
      = some (captures [("cvar", cvar), ("value", value)])) (time : Instant) :
    outcomeOf enter scope textStatements (.ofFields (logFields time log))
      = .ok (.ofRecord (Record.ofFields
          (logFields time log ++ variableFields cvar value)).stop) := by
  have hmerge : serverVariableRule.pairs.merge
      (captures [("cvar", cvar), ("value", value)])
      (.ofFields (logFields time log))
      = (Record.ofFields
          (logFields time log ++ variableFields cvar value)).stop :=
    Pairs.merge_ofFields (by decide) (by rfl)
  unfold textStatements
  rw [outcomeOf_on rfl,
    Rule.applied_of_none ((loggedComment_match? time).trans hnone),
    outcomeOf_on rfl,
    Rule.applied_of_some ((serverVariable_match? time).trans hfound), hmerge,
    outcomeOf_stopped (List.forall_mem_nil _)]

theorem outcomeOf_plain
    (hnone : Pattern.captures? ⟨loggedComment, loggedCommentTree⟩ log = none)
    (hnone' : Pattern.captures? ⟨serverVariable, serverVariableTree⟩ log
      = none) (time : Instant) :
    outcomeOf enter scope textStatements (.ofFields (logFields time log))
      = .ok (.ofRecord (.ofFields (logFields time log))) := by
  unfold textStatements
  rw [outcomeOf_on rfl,
    Rule.applied_of_none ((loggedComment_match? time).trans hnone),
    outcomeOf_on rfl,
    Rule.applied_of_none ((serverVariable_match? time).trans hnone'),
    outcomeOf_nil]

theorem entries_commentFields (time : Instant) (comment : String) :
    (Record.ofFields (logFields time log
        ++ commentFields comment)).data.entries
      = [(.sym "time_format", .str defaultFormat), (.sym "time", .time time),
        (.sym "log", .str log), (.sym "type", .sym "comment"),
        (.sym "cdata", .str comment)] :=
  Record.entries_ofFields ["time_format", "time", "log", "type", "cdata"] rfl
    (by decide) (by decide)

theorem entries_variableFields (time : Instant) (cvar value : String) :
    (Record.ofFields (logFields time log
        ++ variableFields cvar value)).data.entries
      = [(.sym "time_format", .str defaultFormat), (.sym "time", .time time),
        (.sym "log", .str log), (.sym "type", .sym "cvar_set"),
        (.sym "cvar", .str cvar), (.sym "value", .str value)] :=
  Record.entries_ofFields
    ["time_format", "time", "log", "type", "cvar", "value"] rfl (by decide)
    (by decide)

/-- Behind the block two rules look at the text. -/
theorem text_shaped {date : String} {time : Instant}
    (logged : Logged scope.line.toList date.toList log.toList)
    (read : parseTime date defaultFormat = .ok time) :
    Shaped scope.line (outcomeOf enter scope textStatements
      (.ofFields (logFields time log))) := by
  rcases captures_loggedComment logged.unbroken with
    ⟨comment, commented, hfound⟩ | ⟨hnone, uncommented⟩
  · rw [outcomeOf_commented hfound]
    exact .loggedComment logged read commented
      (entries_commentFields time comment)
  · rcases captures_serverVariable logged.unbroken with
      ⟨cvar, value, sets, hfound⟩ | ⟨hnone', unset⟩
    · rw [outcomeOf_variable hnone hfound]
      exact .serverVariable logged read sets
        (entries_variableFields time cvar value)
    · rw [outcomeOf_plain hnone hnone']
      exact .text logged read uncommented unset (entries_logFields time log)

end

/-- The fields before the block. -/
def lineFields : List (String × Value) :=
  [("time_format", .str defaultFormat)]

theorem entries_lineFields :
    (Record.ofFields lineFields).data.entries
      = [(.sym "time_format", .str defaultFormat)] :=
  Record.entries_ofFields ["time_format"] rfl (by decide) (by decide)

/-- Before the block there is no text. -/
theorem log_of_lineFields (scope : Scope) :
    (Subject.field (.symbol "log")).resolve?
      (scope.view (.ofFields lineFields)) = none := by
  change ((Table.probes (.symbol "log")).findSome? fun key =>
    Entries.find? key (Record.ofFields lineFields).data.entries).bind
    Value.text? = none
  rw [entries_lineFields]
  rfl

/-- The block fails with what the date is refused for, or else it writes
time and text. -/
theorem storeLog_runWith (date log : String)
    (next : Except Error (Option Value) → Code) :
    ((storeLog (captures [("datetime", date), ("data", log)])).andThen
      next).runWith enter scope ⟨.ofFields lineFields, []⟩
      = match parseTime date defaultFormat with
        | .error cause =>
            (next (.error cause)).runWith enter scope
              ⟨.ofFields lineFields, []⟩
        | .ok time =>
            (next (.ok none)).runWith enter scope
              ⟨.ofFields (logFields time log), []⟩ := by
  have hformat : Table.text? (scope.view (.ofFields lineFields)).data
      Addin.DateTime.timeFormatKey = some defaultFormat := by rfl
  have hdate : Table.text? (captures [("datetime", date), ("data", log)])
      (.str "datetime") = some date := by rfl
  have hlog : Table.value (captures [("datetime", date), ("data", log)])
      (.str "data") = .str log := by rfl
  unfold storeLog
  rw [Code.andThen, Code.runWith]
  simp only [hformat, hdate, hlog, Option.getD_some]
  cases parseTime date defaultFormat <;> rfl

theorem commentLine_match? :
    commentLineRule.match? (scope.view .empty)
      = if scope.line.toList.head? = some '*' then some (captures [])
        else none :=
  (commentLineRule.match?_of_subject rfl rfl).trans
    (captures_commentLine scope.line)

theorem logLine_match? :
    logLineRule.match? (scope.view (.ofFields lineFields))
      = Pattern.captures? ⟨logLine, logLineTree⟩ scope.line :=
  logLineRule.match?_of_subject (Record.stopped_ofFields lineFields) rfl

/-- A line with a time comes to the rules behind the block, unless its date
is refused. -/
theorem outcomeOf_logLine {date log : String}
    (hfound : Pattern.captures? ⟨logLine, logLineTree⟩ scope.line
      = some (captures [("datetime", date), ("data", log)])) :
    outcomeOf enter scope (.on logLineRule :: textStatements)
        (.ofFields lineFields)
      = match parseTime date defaultFormat with
        | .error cause => .failed cause
        | .ok time => outcomeOf enter scope textStatements
            (.ofFields (logFields time log)) := by
  have hstep : RuleSet.code (.on logLineRule :: textStatements)
      = Statement.code (RuleSet.code textStatements) (.on logLineRule) := rfl
  unfold outcomeOf
  rw [hstep, Statement.block_runWith rfl, logLine_match?.trans hfound]
  dsimp only
  rw [storeLog_runWith]
  cases parseTime date defaultFormat <;> rfl

/-- Any other line comes to the end without a text. -/
theorem outcomeOf_unlogged
    (hnone : Pattern.captures? ⟨logLine, logLineTree⟩ scope.line = none) :
    outcomeOf enter scope (.on logLineRule :: textStatements)
        (.ofFields lineFields)
      = .ok (.ofRecord (.ofFields lineFields)) := by
  have hcomment := loggedCommentRule.match?_of_no_subject
    (log_of_lineFields scope)
  have hvariable := serverVariableRule.match?_of_no_subject
    (log_of_lineFields scope)
  have hstep : RuleSet.code (.on logLineRule :: textStatements)
      = Statement.code (RuleSet.code textStatements) (.on logLineRule) := rfl
  have hblock : outcomeOf enter scope (.on logLineRule :: textStatements)
      (.ofFields lineFields)
      = outcomeOf enter scope textStatements (.ofFields lineFields) := by
    unfold outcomeOf
    rw [hstep, Statement.block_runWith rfl, logLine_match?.trans hnone]
  unfold textStatements at hblock ⊢
  rw [hblock, outcomeOf_on rfl, Rule.applied_of_none hcomment,
    outcomeOf_on rfl, Rule.applied_of_none hvariable, outcomeOf_nil]

/-- A line that is not a comment comes to the block. -/
theorem line_shaped (unstarred : scope.line.toList.head? ≠ some '*') :
    Shaped scope.line (outcomeOf enter scope
      (.on logLineRule :: textStatements) (.ofFields lineFields)) := by
  rcases captures_logLine scope.line with
    ⟨date, log, logged, hfound⟩ | ⟨hnone, unlogged⟩
  · rw [outcomeOf_logLine hfound]
    cases read : parseTime date defaultFormat with
    | ok time => exact text_shaped logged read
    | error cause =>
        obtain ⟨refusal, rfl⟩ := parseTime_error read
        exact .refused logged read
  · rw [outcomeOf_unlogged hnone]
    exact .other unstarred unlogged entries_lineFields

/-- The first rule passes over a line that does not start with an
asterisk. -/
theorem outcomeOf_unstarred (unstarred : scope.line.toList.head? ≠ some '*') :
    outcomeOf enter scope statements .empty
      = outcomeOf enter scope (.on logLineRule :: textStatements)
          (.ofFields lineFields) := by
  unfold statements
  rw [outcomeOf_on rfl,
    Rule.applied_of_none (commentLine_match?.trans (if_neg unstarred))]
  rfl

/-- What the statements make of an empty record. -/
theorem statements_shaped (enter : Code → Progress → Ending × Progress)
    (scope : Scope) :
    Shaped scope.line (outcomeOf enter scope statements .empty) := by
  by_cases starred : scope.line.toList.head? = some '*'
  · have hmerge : commentLineRule.pairs.merge (captures []) (.ofFields [])
        = (Record.ofFields ([] ++ [("type", .symbol "comment")])).stop :=
      Pairs.merge_ofFields (by decide) (by rfl)
    have happlied : commentLineRule.applied scope .empty
        = (Record.ofFields ([] ++ [("type", .symbol "comment")])).stop :=
      (Rule.applied_of_some
        (commentLine_match?.trans (if_pos starred))).trans hmerge
    unfold statements
    rw [outcomeOf_on rfl, happlied, outcomeOf_stopped
      (by simp [Statement.Declarative, textStatements])]
    exact .commentLine starred (Record.entries_ofFields ["type"] rfl
      (by decide) (by decide))
  · rw [outcomeOf_unstarred starred]
    exact line_shaped starred

end

/-- A line with a time is not a comment. -/
theorem Logged.unstarred {line date log : List Char}
    (h : Logged line date log) : line.head? ≠ some '*' := by
  obtain ⟨first, second, ending, rfl, -⟩ := h.parts
  rw [List.head?_cons]
  decide

/-- The first shape is that of the lines that are comments. -/
theorem Shaped.comment_iff {line : String} {outcome : Outcome Data}
    (h : Shaped line outcome) :
    (∃ data, outcome = .ok data
      ∧ data.table.entries = [(.sym "type", .sym "comment")])
      ↔ line.toList.head? = some '*' := by
  have hlonger : ∀ {data : Data} {e f : Key × Value}
      {rest : List (Key × Value)}, data.table.entries = e :: f :: rest →
      ¬ ∃ data', Outcome.ok data = .ok data'
        ∧ data'.table.entries = [(.sym "type", .sym "comment")] := by
    rintro data e f rest hentries ⟨_, hsame, hshort⟩
    cases hsame
    rw [hentries] at hshort
    cases (List.cons.inj hshort).2
  cases h with
  | commentLine starred entries => exact iff_of_true ⟨_, rfl, entries⟩ starred
  | other unstarred _ entries =>
      refine iff_of_false ?_ unstarred
      rintro ⟨_, hsame, hcomment⟩
      cases hsame
      rw [entries] at hcomment
      have hname := congrArg (·.1.name) (List.cons.inj hcomment).1
      exact absurd hname (by decide)
  | refused logged _ => exact iff_of_false nofun logged.unstarred
  | text logged _ _ _ entries =>
      exact iff_of_false (hlonger entries) logged.unstarred
  | loggedComment logged _ _ entries =>
      exact iff_of_false (hlonger entries) logged.unstarred
  | serverVariable logged _ _ entries =>
      exact iff_of_false (hlonger entries) logged.unstarred

/-- A parse of the kind is a run of its statements on an empty record. -/
theorem builtin_outcome {kind : ParserKind}
    (h : builtin Basic.name = .ok kind) (line : String) (options : Options)
    (depth : Nat) :
    ∃ enter, ((LineParser.make kind line options).parse depth).outcome
      = outcomeOf enter ⟨.empty, line, options.settings⟩ statements .empty := by
  cases builtin_basic.symm.trans h
  obtain ⟨enter, henter⟩ := Code.run_enters depth
    ⟨.empty, line, options.settings⟩
  refine ⟨enter, ?_⟩
  rw [LineParser.parse_bare, henter]
  rfl

theorem builtin_shaped {kind : ParserKind}
    (h : builtin Basic.name = .ok kind) (line : String) (options : Options)
    (depth : Nat) :
    Shaped line ((LineParser.make kind line options).parse depth).outcome := by
  obtain ⟨enter, houtcome⟩ := builtin_outcome h line options depth
  rw [houtcome]
  exact statements_shaped enter ⟨.empty, line, options.settings⟩

/-- Every line that a fresh parser of the built-in kind parses comes to data
of one of five shapes, each under its own condition on the line, or its date
is refused. The first shape is that of the lines that start with an
asterisk. -/
theorem records_shaped :
    ∃ kind, builtin Basic.name = .ok kind
      ∧ ∀ (line : String) (options : Options) (depth : Nat),
        Shaped line ((LineParser.make kind line options).parse depth).outcome
          ∧ ((∃ data, ((LineParser.make kind line options).parse
                depth).outcome = .ok data
                ∧ data.table.entries = [(.sym "type", .sym "comment")])
              ↔ line.toList.head? = some '*') := by
  refine ⟨_, builtin_basic, fun line options depth => ?_⟩
  have hshaped := builtin_shaped builtin_basic line options depth
  exact ⟨hshaped, hshaped.comment_iff⟩

end Parser.Basic

end Logline
