/-
The lines and texts that the built-in kind of parser tells apart.

They are given here by themselves: lines with a time (`Logged`), texts that
are comments (`Commented`) and texts that set a variable (`Sets`). Each of
the patterns of the kind stands for one of these forms. Its tree is written
down as a chain of parts, and reading the pattern gives that tree; what the
chain matches is put into plain terms part by part; and from there, since
every pattern is anchored, follows when the pattern finds captures and that
they are the parts of the form.
-/
import Logline.Parser.Basic
import Logline.Proofs.Pattern.Anchored

namespace Logline.Pattern

deriving instance DecidableEq for CharClass
deriving instance DecidableEq for Node

end Logline.Pattern

namespace Logline.Parser.Basic

open Pattern Pattern.Node

-- ============================================================== forms

/-- What a date looks like, with a zero for each digit. -/
def dateLayout : String := "00/00/0000 - 00:00:00"

/-- Whether a character can stand for one of a layout: a digit for a zero, a
blank for a space, and otherwise the character itself. -/
def fits (slot c : Char) : Bool :=
  if slot = '0' then c.isDigit
  else if slot = ' ' then Text.isBlank c
  else c = slot

/-- Texts that look like dates. -/
def Dated (date : List Char) : Prop :=
  List.Forall₂ (fun slot c => fits slot c = true) dateLayout.toList date

instance (date : List Char) : Decidable (Dated date) :=
  inferInstanceAs (Decidable (List.Forall₂ _ _ _))

/-- Lines with a time: the letter, a blank, a date with a colon, a blank,
and a text, which one line feed may end. -/
structure Logged (line date log : List Char) : Prop where
  parts : ∃ first second ending,
    line = 'L' :: first :: (date ++ ':' :: second :: (log ++ ending))
      ∧ Text.isBlank first = true ∧ Text.isBlank second = true
      ∧ (ending = [] ∨ ending = ['\n'])
  dated : Dated date
  nonempty : log ≠ []
  unbroken : '\n' ∉ log

/-- Texts that are comments: an asterisk, behind blanks or not, and the
comment. -/
def Commented (log comment : List Char) : Prop :=
  ∃ blanks, log = blanks ++ '*' :: comment
    ∧ ∀ c ∈ blanks, Text.isBlank c = true

/-- Texts that set a variable: its name and its value, each in quotes. -/
def Sets (log cvar value : List Char) : Prop :=
  log = "server_cvar: \"".toList ++ cvar ++ "\" \"".toList ++ value
    ++ "\"".toList

-- ============================================================== trees

/-- A character as it is. -/
def one (c : Char) : Node := .chars (.single c)

def blank : Node := .chars (.property .blank)

def digit : CharClass := .union .none .asciiDigit

def digits (count : Nat) : Node := .exactly (.chars digit) count

/-- A group of whatever comes before a line feed. -/
def anything (name : String) : Node := .group name (.stars true .notLineFeed)

def dateTree : Node :=
  [one '/', digits 2, one '/', digits 4, blank, one '-', blank, digits 2,
    one ':', digits 2, one ':', digits 2].foldl .seq (digits 2)

def commentLineTree : Node := .seq (.anchor .textStart) (one '*')

/-- The flag before the anchor leaves an empty part behind. -/
def logLineTree : Node :=
  [.anchor .textStart, one 'L', blank, .group "datetime" dateTree, one ':',
    blank, .group "data" (.run true .notLineFeed), .optional true (one '\n'),
    .anchor .textEnd].foldl .seq .empty

def loggedCommentTree : Node :=
  [.stars true (.property .blank), one '*', anything "comment_data",
    .anchor .textEnd].foldl .seq (.anchor .textStart)

def serverVariableTree : Node :=
  let cvar := Node.seq
    (spell (.anchor .textStart) "server_cvar: \"".toList) (anything "cvar")
  let value := Node.seq (cvar.spell "\" \"".toList) (anything "value")
  .seq (value.spell "\"".toList) (.anchor .textEnd)

theorem compile_of_read {source : String} {tree : Node}
    (h : Reader.read? source.toList = some tree) :
    Pattern.compile source = .ok ⟨source, tree⟩ := by
  unfold Pattern.compile
  rw [h]

theorem compile_commentLine :
    Pattern.compile commentLine = .ok ⟨commentLine, commentLineTree⟩ :=
  compile_of_read (by decide +kernel)

theorem compile_logLine :
    Pattern.compile logLine = .ok ⟨logLine, logLineTree⟩ :=
  compile_of_read (by decide +kernel)

theorem compile_loggedComment :
    Pattern.compile loggedComment = .ok ⟨loggedComment, loggedCommentTree⟩ :=
  compile_of_read (by decide +kernel)

theorem compile_serverVariable :
    Pattern.compile serverVariable
      = .ok ⟨serverVariable, serverVariableTree⟩ :=
  compile_of_read (by decide +kernel)

-- ======================================================= what they match

section

variable {before : Option Char} {piece rest : List Char} {texts : Texts}

/-- The class of the characters that can stand for one of a layout. -/
def slotClass (slot : Char) : CharClass :=
  if slot = '0' then digit
  else if slot = ' ' then .property .blank
  else .single slot

theorem holds_slotClass (slot c : Char) :
    (slotClass slot).holds c = fits slot c := by
  unfold slotClass fits
  split
  · unfold digit CharClass.asciiDigit CharClass.holds Char.isDigit
    rw [CharClass.holds, CharClass.holds, Bool.false_or]
    rfl
  · split
    · rfl
    · rw [Bool.eq_iff_iff, CharClass.holds_single, decide_eq_true_eq]

theorem matches_date :
    dateTree.Matches before piece rest texts ↔ Dated piece ∧ texts = [] := by
  have hshape : dateTree.shape? = some (dateLayout.toList.map slotClass) := by
    decide +kernel
  rw [matches_shape hshape, List.forall₂_map_left_iff]
  simp only [holds_slotClass]
  rfl

/-- What looks like a date need not be one. -/
example : Dated "99/99/9999 - 99:99:99".toList := by decide

theorem matches_commentLine :
    commentLineTree.Matches none piece rest texts
      ↔ piece = ['*'] ∧ texts = [] := by
  simp [commentLineTree, one, matches_seq, matches_chars]

theorem holds_blank (c : Char) :
    (CharClass.property .blank).holds c = Text.isBlank c := rfl

theorem matches_logLine :
    logLineTree.Matches none piece rest texts
      ↔ rest = [] ∧ ∃ date log, Logged piece date log
          ∧ texts = [("data", log), ("datetime", date)] := by
  -- part by part, where the last part but one covers the line feed or nothing
  have hparts : logLineTree.Matches none piece rest texts
      ↔ (∃ ending left log second date first,
          piece = 'L' :: first :: (date ++ ':' :: second :: (log ++ ending))
            ∧ texts = left ++ [("data", log), ("datetime", date)]
            ∧ (((Text.isBlank first = true ∧ Dated date)
                ∧ Text.isBlank second = true) ∧ log ≠ [] ∧ '\n' ∉ log)
            ∧ (ending = ['\n'] ∧ left = [] ∨ ending = [] ∧ left = []))
          ∧ rest = [] := by
    simp [logLineTree, matches_seq, matches_group, matches_chars, matches_run,
      matches_alt, matches_empty, matches_date, one, blank, Node.optional,
      holds_blank, List.forall_mem_ne']
  rw [hparts]
  constructor
  · rintro ⟨⟨ending, left, log, second, date, first, rfl, rfl,
      ⟨⟨⟨hfirst, hdated⟩, hsecond⟩, hsome, hunbroken⟩, hending⟩, hrest⟩
    refine ⟨hrest, date, log, ⟨⟨first, second, ending, rfl, hfirst, hsecond,
      ?_⟩, hdated, hsome, hunbroken⟩, ?_⟩
    · exact hending.symm.imp And.left And.left
    · rcases hending with ⟨-, rfl⟩ | ⟨-, rfl⟩ <;> rfl
  · rintro ⟨hrest, date, log, ⟨⟨first, second, ending, rfl, hfirst, hsecond,
      hending⟩, hdated, hsome, hunbroken⟩, rfl⟩
    exact ⟨⟨ending, [], log, second, date, first, rfl, rfl,
      ⟨⟨⟨hfirst, hdated⟩, hsecond⟩, hsome, hunbroken⟩,
      hending.symm.imp (⟨·, rfl⟩) (⟨·, rfl⟩)⟩, hrest⟩

theorem matches_loggedComment :
    loggedCommentTree.Matches none piece rest texts
      ↔ rest = [] ∧ ∃ comment, Commented piece comment ∧ '\n' ∉ comment
          ∧ texts = [("comment_data", comment)] := by
  have hparts : loggedCommentTree.Matches none piece rest texts
      ↔ (∃ comment blanks, piece = blanks ++ '*' :: comment
          ∧ texts = [("comment_data", comment)]
          ∧ (∀ c ∈ blanks, Text.isBlank c = true) ∧ '\n' ∉ comment)
        ∧ rest = [] := by
    simp [loggedCommentTree, matches_seq, matches_group, matches_chars,
      matches_stars, one, anything, holds_blank, List.forall_mem_ne']
  rw [hparts]
  constructor
  · rintro ⟨⟨comment, blanks, hpiece, htexts, hblanks, hunbroken⟩, hrest⟩
    exact ⟨hrest, comment, ⟨blanks, hpiece, hblanks⟩, hunbroken, htexts⟩
  · rintro ⟨hrest, comment, ⟨blanks, hpiece, hblanks⟩, hunbroken, htexts⟩
    exact ⟨⟨comment, blanks, hpiece, htexts, hblanks, hunbroken⟩, hrest⟩

theorem matches_serverVariable :
    serverVariableTree.Matches none piece rest texts
      ↔ rest = [] ∧ ∃ cvar value, Sets piece cvar value ∧ '\n' ∉ cvar
          ∧ '\n' ∉ value ∧ texts = [("value", value), ("cvar", cvar)] := by
  have hparts : serverVariableTree.Matches none piece rest texts
      ↔ (∃ value cvar, Sets piece cvar value
          ∧ texts = [("value", value), ("cvar", cvar)]
          ∧ '\n' ∉ cvar ∧ '\n' ∉ value)
        ∧ rest = [] := by
    simp [serverVariableTree, matches_seq, matches_group, matches_stars,
      anything, matches_spell, Sets, List.forall_mem_ne']
  rw [hparts]
  constructor
  · rintro ⟨⟨value, cvar, hpiece, htexts, hcvar, hvalue⟩, hrest⟩
    exact ⟨hrest, cvar, value, hpiece, hcvar, hvalue, htexts⟩
  · rintro ⟨hrest, cvar, value, hpiece, hcvar, hvalue, htexts⟩
    exact ⟨⟨value, cvar, hpiece, htexts, hcvar, hvalue⟩, hrest⟩

end

-- ======================================================= what they capture

/-- The table of groups with their texts. -/
def captures (texts : List (String × String)) : Table :=
  .ofList (texts.map fun g => (.str g.1, .str g.2))

/-- A line is a comment if it starts with an asterisk. -/
theorem captures_commentLine (line : String) :
    Pattern.captures? ⟨commentLine, commentLineTree⟩ line
      = if line.toList.head? = some '*' then some (captures [])
        else none := by
  have hs := captures?_searched (p := ⟨commentLine, commentLineTree⟩) rfl rfl
    line
  generalize Pattern.captures? _ line = found at hs ⊢
  cases hs with
  | found parts covered =>
      obtain ⟨rfl, rfl⟩ := matches_commentLine.mp covered
      rw [parts]
      rfl
  | absent uncovered =>
      rw [if_neg]
      intro h
      obtain ⟨rest, hline⟩ := List.head?_eq_some_iff.mp h
      exact uncovered ['*'] rest [] hline (matches_commentLine.mpr ⟨rfl, rfl⟩)

/-- The pattern for lines with a time finds date and text. -/
theorem captures_logLine (line : String) :
    (∃ date log : String, Logged line.toList date.toList log.toList
      ∧ Pattern.captures? ⟨logLine, logLineTree⟩ line
          = some (captures [("datetime", date), ("data", log)]))
    ∨ Pattern.captures? ⟨logLine, logLineTree⟩ line = none
      ∧ ∀ date log : String,
          ¬ Logged line.toList date.toList log.toList := by
  rcases captures?_whole (p := ⟨logLine, logLineTree⟩) rfl rfl
    matches_logLine line with
    ⟨_, ⟨date, log, hlogged, rfl⟩, hfound⟩ | ⟨hnone, hno⟩
  · refine .inl ⟨.ofList date, .ofList log, ?_, hfound⟩
    rw [String.toList_ofList, String.toList_ofList]
    exact hlogged
  · exact .inr ⟨hnone, fun date log hlogged =>
      hno _ ⟨date.toList, log.toList, hlogged, rfl⟩⟩

/-- On a text without line feeds the pattern for comments finds the
comment. -/
theorem captures_loggedComment {log : String} (h : '\n' ∉ log.toList) :
    (∃ comment : String, Commented log.toList comment.toList
      ∧ Pattern.captures? ⟨loggedComment, loggedCommentTree⟩ log
          = some (captures [("comment_data", comment)]))
    ∨ Pattern.captures? ⟨loggedComment, loggedCommentTree⟩ log = none
      ∧ ∀ comment : String, ¬ Commented log.toList comment.toList := by
  rcases captures?_whole (p := ⟨loggedComment, loggedCommentTree⟩) rfl rfl
    matches_loggedComment log with
    ⟨_, ⟨comment, hcommented, -, rfl⟩, hfound⟩ | ⟨hnone, hno⟩
  · refine .inl ⟨.ofList comment, ?_, hfound⟩
    rw [String.toList_ofList]
    exact hcommented
  · refine .inr ⟨hnone, fun comment hcommented => ?_⟩
    refine hno _ ⟨comment.toList, hcommented, fun hmem => h ?_, rfl⟩
    obtain ⟨blanks, hlog, -⟩ := hcommented
    rw [hlog]
    exact List.mem_append_right _ (.tail _ hmem)

/-- In a text without line feeds name and value have none. -/
theorem Sets.unbroken {log cvar value : List Char}
    (h : Sets log cvar value) (hlog : '\n' ∉ log) :
    '\n' ∉ cvar ∧ '\n' ∉ value := by
  rw [h] at hlog
  simp only [List.mem_append, not_or] at hlog
  exact ⟨hlog.1.1.1.2, hlog.1.2⟩

/-- On a text without line feeds the pattern for variables finds name and
value. -/
theorem captures_serverVariable {log : String} (h : '\n' ∉ log.toList) :
    (∃ cvar value : String, Sets log.toList cvar.toList value.toList
      ∧ Pattern.captures? ⟨serverVariable, serverVariableTree⟩ log
          = some (captures [("cvar", cvar), ("value", value)]))
    ∨ Pattern.captures? ⟨serverVariable, serverVariableTree⟩ log = none
      ∧ ∀ cvar value : String,
          ¬ Sets log.toList cvar.toList value.toList := by
  rcases captures?_whole (p := ⟨serverVariable, serverVariableTree⟩) rfl rfl
    matches_serverVariable log with
    ⟨_, ⟨cvar, value, hsets, -, -, rfl⟩, hfound⟩ | ⟨hnone, hno⟩
  · refine .inl ⟨.ofList cvar, .ofList value, ?_, hfound⟩
    rw [String.toList_ofList, String.toList_ofList]
    exact hsets
  · refine .inr ⟨hnone, fun cvar value hsets => ?_⟩
    obtain ⟨hcvar, hvalue⟩ := hsets.unbroken h
    exact hno _ ⟨cvar.toList, value.toList, hsets, hcvar, hvalue, rfl⟩

end Logline.Parser.Basic
