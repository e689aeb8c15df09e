/-
The built-in kind of parser, for the logs of game servers. A line that starts with an asterisk is
a comment. A line with the letter L, a date and a text gives the time and the text; a text that
starts with an asterisk is a comment in turn, and one that sets a variable gives its name and
value.
-/
import Logline.Parser.Kind

namespace Logline.Parser.Basic

def name : String := "basic"

-- ========================================================= patterns

def commentLine : String := "\\A\\*"

/-- The letter, the date up to its colon, and the text up to the end of the line. -/
def logLine : String :=
  "(?x)
    \\AL\\s
    (?<datetime>
        [0-9]{2}/[0-9]{2}/[0-9]{4}\\s-\\s   # date
        [0-9]{2}:[0-9]{2}:[0-9]{2}        # time
    ):\\s
    (?<data>.+)
    \\n?\\z"

def loggedComment : String := "\\A\\s*\\*(?<comment_data>.*)\\z"

def serverVariable : String := "\\Aserver_cvar: \"(?<cvar>.*)\" \"(?<value>.*)\"\\z"

-- ============================================================ rules

/-- Writes the time and the text of a line. -/
def storeLog (captures : Table) : Code :=
  .look fun view =>
    let format := (Table.text? view.data Addin.DateTime.timeFormatKey).getD
      Addin.DateTime.defaultFormat
    let date := (Table.text? captures (.str "datetime")).getD ""
    match Addin.DateTime.parseTime date format with
    | .error cause => .fail cause
    | .ok t =>
      .set (.symbol "time") (.time t)
        (.set (.symbol "log") (Table.value captures (.str "data")) (.done none))

/-- A pair with a symbol for its value. -/
def symbolPair (key value : String) : Key × Pending := Pairs.pair key (.literal (.symbol value))

/-- A pair with what a group captured for its value. -/
def capturePair (key group : String) : Key × Pending := Pairs.pair key (.capture group)

def rules : List Declaration :=
  [.on commentLine [symbolPair "type" "comment", Pairs.stopPair],
    .set "time_format" (.str Addin.DateTime.defaultFormat),
    .onBlock logLine storeLog,
    .onSubject loggedComment (.field (.symbol "log"))
      [symbolPair "type" "comment", capturePair "cdata" "comment_data", Pairs.stopPair],
    .onSubject serverVariable (.field (.symbol "log"))
      [symbolPair "type" "cvar_set", capturePair "cvar" "cvar", capturePair "value" "value",
        Pairs.stopPair]]

/-- The kind. -/
def kind : Except Error ParserKind := ParserKind.define (.ofRules name rules)

end Basic

/-- The names of the built-in kinds. -/
def builtinNames : List String := [Basic.name]

/-- The built-in kind of a name. -/
def builtin (name : String) : Except Error ParserKind :=
  if name = Basic.name then Basic.kind
  else .error (.configuration (.unknownParser name builtinNames))

end Logline.Parser
