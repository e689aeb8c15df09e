/-
The program as a function: from its words, its environment and the files it can find to what it
prints and how it exits. The command line has the last word over the environment, the environment
over the configuration file, and the file over the defaults.
-/
import Logline.Command.Arguments
import Logline.Command.Filter
import Logline.Command.Run

namespace Logline.Command

open Config (Environment)

-- ==================================================== configuration

namespace Arguments

/-- A configuration with what the command line overrides. -/
def override (args : Arguments) (c : Config) : Config where
  parser := args.parser.getD c.parser
  settings := c.settings.insertAll args.settings
  layout := if args.pretty then .pretty else c.layout
  logFilter := c.logFilter

/-- The configuration before the command line overrides it. A file that the command line names has
to exist, and what is in it is not validated yet. -/
def baseConfig (args : Arguments) (files : FileSystem) (env : Environment) :
    Except Error Config :=
  match args.config with
  | none => Config.load files env
  | some path =>
    match Config.ofFile files path with
    | .error cause => .error cause
    | .ok c => c.overridden env

/-- The configuration that the program runs with. -/
def loadConfig (args : Arguments) (files : FileSystem) (env : Environment) :
    Except Error Config :=
  match args.baseConfig files env with
  | .error cause => .error cause
  | .ok c => (args.override c).validated

/-- The paths of the files that the program reads. -/
def paths (args : Arguments) (env : Environment) : List String :=
  [args.config.getD ((env Config.fileVariable).getD Config.defaultFile), args.path]

end Arguments

-- ======================================================= the program

/-- How the program ends. -/
structure Exit where
  code : Nat
  output : String
  /-- What is said beside the output. -/
  complaint : String

namespace Program

def versionText : String := "delog 0.0.1\n"

def helpText : String :=
  "Parse log files into structured records\n\n" ++
  "Usage: delog [OPTIONS] <PATH>\n\n" ++
  "Arguments:\n" ++
  "  <PATH>  Log file to parse\n\n" ++
  "Options:\n" ++
  "  -c, --config <CONFIG>   Configuration file " ++
  "(defaults to $DELOG_CONFIG_FILE or ./delog.toml)\n" ++
  "  -p, --parser <PARSER>   Parser type, e.g. `basic`\n" ++
  "  -s, --set <NAME=VALUE>  Parser setting as NAME=VALUE (repeatable)\n" ++
  "      --pretty            Pretty-print each record\n" ++
  "  -h, --help              Print help\n" ++
  "  -V, --version           Print version\n"

/-- The variable under which the environment gives a log filter of its own. -/
def filterVariable : String := "RUST_LOG"

def complaint : Usage → String
  | .missingPath => "error: the path of a log file is missing"
  | .unknownWord => "error: unexpected argument"
  | .malformedSetting => "error: expected NAME=VALUE"
  | .missingValue => "error: a value is missing"
  | .repeated => "error: an option is given twice"
  | .unneededValue => "error: a value is not needed"
  | .help => ""
  | .version => ""

/-- The end for words that ask for nothing to be parsed. -/
def usageExit : Usage → Exit
  | .help => ⟨0, helpText, ""⟩
  | .version => ⟨0, versionText, ""⟩
  | u => ⟨2, "", complaint u⟩

/-- The end in an error, with what was printed before it. -/
def failure (output : String) (cause : Error) : Exit := ⟨1, output, cause.message⟩

/-- What is said of lines that were passed over. -/
def skippedText (failed : Nat) : String :=
  if failed = 0 then "" else toString failed ++ " line(s) could not be parsed"

/-- The end of a run. -/
def reportExit (report : Report) : Exit :=
  match report.outcome with
  | .ok summary => ⟨0, report.output.text, skippedText summary.failed⟩
  | .failed cause => failure report.output.text cause
  | .exhausted => ⟨1, report.output.text, "operations call each other too deeply"⟩

/-- Runs the program with what the command line asks for. -/
def runWith (depth : Nat) (args : Arguments) (files : FileSystem) (env : Environment) : Exit :=
  match args.loadConfig files env with
  | .error cause => failure "" cause
  | .ok config =>
    match Filter.initial.apply config.logFilter (env filterVariable).isSome with
    | .error cause => failure "" cause
    | .ok _ => reportExit (Run.file depth files args.path config .unlimited .empty)

/-- Runs the program. -/
def run (depth : Nat) (words : List String) (files : FileSystem) (env : Environment) : Exit :=
  match Arguments.read words with
  | .error u => usageExit u
  | .ok args => runWith depth args files env

end Program

end Logline.Command
