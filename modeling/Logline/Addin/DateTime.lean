/-
The addin that finds a time in a line. Its setup looks for the first text that matches the
pattern in `date_match_to`, reads it along the format in `time_format` or else in `date_format`,
and puts the instant under `time`. Fields that are missing it gives their defaults first. The
operation that it exposes reads any other text.
-/
import Logline.Addin
import Logline.Calendar.Reading
import Logline.Rule

namespace Logline.Addin.DateTime

open Calendar

def matchKey : Key := .str "date_match_to"
def formatKey : Key := .str "date_format"
def timeFormatKey : Key := .str "time_format"
def timeKey : Key := .str "time"

/-- Month, day and year with strokes, a minus, and the time of day. -/
def defaultMatch : String :=
  "[0-9]{2}/[0-9]{2}/[0-9]{4}\\s-\\s[0-9]{2}:[0-9]{2}:[0-9]{2}"

def defaultFormat : String := "%m/%d/%Y - %H:%M:%S"

/-- The format that the record asks for. -/
def format (data : Table) : String :=
  ((Table.text? data timeFormatKey).or (Table.text? data formatKey)).getD defaultFormat

/-- The instant of a text, or why there is none. -/
def parseTime (text format : String) : Except Error Instant :=
  match Instant.read text format with
  | .ok t => .ok t
  | .error cause => .error (.time cause)

-- ======================================================= operations

/-- The operation that reads a time. -/
def operation : String := "parse_time"

/-- Reads a text, or fails. -/
def readText (text : Value) (format : String) : Code :=
  match text.text? with
  | none => .fail (.operation operation "expected a string to parse")
  | some text =>
    match parseTime text format with
    | .ok t => .done (some (.time t))
    | .error cause => .fail cause

/-- Reads a text along the format of the record, or along one that is given. -/
def invoke (name : String) (args : List Value) : Code :=
  if name ≠ operation then .fail (.capability name)
  else
    match args with
    | [text] => .look fun view => readText text (format view.data)
    | [text, format] =>
      match format.text? with
      | some format => readText text format
      | none => .fail (.operation operation "format must be a string")
    | _ => .fail (.arity operation args.length)

-- ============================================================ setup

/-- Writes a default under a symbol, unless the key is there in some form. -/
def setDefault (key : Key) (value : String) (next : Code) : Code :=
  .look fun view =>
    if Table.has view.data key then next else .set key.symForm (.str value) next

/-- Puts the instant of the captured text under `time`. -/
def storeTime (captures : Table) : Code :=
  match Table.text? captures timeKey with
  | none => .done none
  | some text =>
    .look fun view =>
      match parseTime text (format view.data) with
      | .ok t => .set timeKey.symForm (.time t) (.done none)
      | .error cause => .fail cause

/-- The pattern of a text to look for, with the whole of it as the group `time`. -/
def groupPattern (source : String) : String := "(?<time>" ++ source ++ ")"

/-- Looks for a time in the line. -/
def findTime : Code :=
  .look fun view =>
    match Pattern.compile (groupPattern ((Table.text? view.data matchKey).getD defaultMatch)) with
    | .error cause => .fail cause
    | .ok pattern =>
      (Rule.mk pattern .line [] (some (.block storeTime))).on (Code.orFail fun _ => .done none)

def setup : Code := setDefault matchKey defaultMatch (setDefault formatKey defaultFormat findTime)

/-- The addin. -/
def addin : Addin := ⟨"DateTime", [operation], (· == operation), invoke, setup⟩

end Logline.Addin.DateTime

namespace Logline.Registry

/-- The addins that are always there. -/
def builtin : Registry := Registry.register .empty Addin.DateTime.addin

end Logline.Registry
