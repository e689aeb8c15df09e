/-
Configurations: which kind of parser reads a log, with which settings, how records are printed, and
what is reported while the program runs.

A configuration starts from defaults. A file gives some fields, the environment overrides them, and
the last word has whoever loads it. Fields that a file does not give keep their defaults, and
fields that a configuration does not have are ignored.
-/
import Logline.Files
import Logline.Parser.Cache
import Logline.Text.Blank
import Logline.Toml.Document

namespace Logline

/-- How records are printed. -/
inductive Layout where
  /-- Each record on one line. -/
  | json
  /-- Each field on a line of its own. -/
  | pretty
  deriving DecidableEq, Repr

namespace Layout

def name : Layout → String
  | json => "json"
  | pretty => "pretty"

/-- The layout of a name, written exactly so. -/
def ofName? (s : String) : Option Layout :=
  if s = json.name then some json else if s = pretty.name then some pretty else none

/-- A text without white space around it and with its capitals of ASCII made small. -/
def normalized (s : String) : String :=
  String.ofList ((Text.trimBlanks s.toList).map Char.toLower)

/-- The layout of a name, in whatever case and with white space around it. -/
def read (s : String) : Except Error Layout :=
  match ofName? (normalized s) with
  | some layout => .ok layout
  | none => .error (.configuration (.unknownOutput (normalized s)))

end Layout

/-- A configuration. -/
structure Config where
  /-- The kind of parser, by name. -/
  parser : String
  settings : Settings
  layout : Layout
  /-- What is reported while the program runs. -/
  logFilter : String

namespace Config

def initial : Config := ⟨Options.defaultParser, .empty, .json, "delog=info"⟩

instance : Inhabited Config := ⟨initial⟩

-- ============================================================ files

open Toml (Item Items)

/-- The text of an item. -/
def text? : Item → Option String
  | .text s => some s
  | _ => none

/-- The settings of a table, in which everything has to be a text. -/
def settings? : Item → Option Settings
  | .table _ entries =>
    (entries.mapM fun e => (text? e.2).map fun s => (e.1, s)).map OrderedMap.ofList
  | _ => none

/-- The layout of a text, or of a table that has nothing but an empty table under the name. -/
def layout? : Item → Option Layout
  | .text s => Layout.ofName? s
  | .table _ [(name, .table _ [])] => Layout.ofName? name
  | _ => none

/-- A field of a document, where an absent one is given its default. -/
def field? {α : Type} (items : Items) (name : String) (read? : Item → Option α) (default : α) :
    Option α :=
  match Entries.find? name items with
  | none => some default
  | some item => read? item

/-- The configuration of a document. -/
def ofItems? (items : Items) : Option Config :=
  match field? items "parser" text? initial.parser,
    field? items "settings" settings? initial.settings,
    field? items "output" layout? initial.layout,
    field? items "log_filter" text? initial.logFilter with
  | some parser, some settings, some layout, some logFilter =>
    some ⟨parser, settings, layout, logFilter⟩
  | _, _, _, _ => none

/-- The configuration of a file. -/
def ofFile (files : FileSystem) (path : String) : Except Error Config :=
  match (files path).text with
  | .error reason => .error (.io reason)
  | .ok text =>
    match (Toml.read? text).bind ofItems? with
    | some config => .ok config
    | none => .error (.configuration (.badFile path))

-- ====================================================== environment

/-- The variables of an environment. -/
abbrev Environment := String → Option String

def parserVariable : String := "DELOG_PARSER"
def outputVariable : String := "DELOG_OUTPUT"
def logVariable : String := "DELOG_LOG"
def fileVariable : String := "DELOG_CONFIG_FILE"

/-- The file that is looked for where none is named. -/
def defaultFile : String := "delog.toml"

/-- Overrides the parser, then the layout, then the log filter. A layout that is none ends this,
and the parser stays overridden. -/
def applyEnv (c : Config) (env : Environment) : Except Error Unit × Config :=
  let c := { c with parser := (env parserVariable).getD c.parser }
  match (env outputVariable).map Layout.read with
  | some (.error cause) => (.error cause, c)
  | some (.ok layout) =>
    (.ok (), { c with layout := layout, logFilter := (env logVariable).getD c.logFilter })
  | none => (.ok (), { c with logFilter := (env logVariable).getD c.logFilter })

/-- The configuration with the overrides of an environment. -/
def overridden (c : Config) (env : Environment) : Except Error Config :=
  match c.applyEnv env with
  | (.ok _, c) => .ok c
  | (.error cause, _) => .error cause

-- ========================================================== loading

/-- Whether a text has nothing but white space. -/
def isBlank (s : String) : Bool := s.toList.all Text.isBlank

/-- Refuses a blank parser, and blank names of settings. -/
def validate (c : Config) : Except Error Unit :=
  if isBlank c.parser then .error (.configuration .emptyParser)
  else if c.settings.keys.any isBlank then .error (.configuration .emptySettingName)
  else .ok ()

/-- A configuration that stands up to validation. -/
def validated (c : Config) : Except Error Config := c.validate.map fun _ => c

/-- The configuration of a file that need not exist, with the overrides of an environment. -/
def loadFrom (files : FileSystem) (env : Environment) (path : String) : Except Error Config :=
  match if (files path).present then ofFile files path else .ok initial with
  | .error cause => .error cause
  | .ok c =>
    match c.overridden env with
    | .error cause => .error cause
    | .ok c => c.validated

/-- The configuration of the file that the environment names, or else of the default file. -/
def load (files : FileSystem) (env : Environment) : Except Error Config :=
  loadFrom files env ((env fileVariable).getD defaultFile)

/-- The options that lines are parsed with. -/
def options (c : Config) : Options := ⟨.named c.parser, c.settings⟩

end Config

end Logline
