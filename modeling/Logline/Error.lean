/-
Everything that can fail, by cause, with the text of each. Nothing inside the engine recovers
from an error: what goes wrong in a rule, an addin or an operation ends the parse of its line.
-/
import Logline.Calendar.Fields
import Logline.Key

namespace Logline

open Calendar

/-- What can be wrong with a definition or a configuration. -/
inductive Misconfiguration where
  /-- A mapping is given as the match, and a list of pairs beside it. -/
  | mappingWithPairs
  /-- A mapping does not start with a pattern and its subject. -/
  | mappingWithoutSubject
  /-- A pattern stands among the pairs of a mapping. -/
  | latePattern (pattern : String)
  /-- A binding whose receiver does not support the operation. -/
  | unsupportedBinding (operation receiver : String)
  /-- An addin that exposes an operation it does not support. -/
  | unsupportedExposure (addin operation : String)
  /-- No addin of that name is registered. -/
  | unknownAddin (canonical given : String)
  /-- No parser type of that name. -/
  | unknownParser (name : String) (known : List String)
  | emptyParser
  | emptySettingName
  | unknownOutput (given : String)
  /-- A configuration file that is no TOML document of the right shape. -/
  | badFile (path : String)
  /-- A log filter that cannot be read. -/
  | badLogFilter (directive : String)
  /-- Raised by sandboxed code. -/
  | custom (message : String)
  deriving DecidableEq, Repr

namespace Misconfiguration

def message : Misconfiguration → String
  | mappingWithPairs => "a mapping match cannot also take a pair list"
  | mappingWithoutSubject => "the first mapping entry must pair a pattern with its subject"
  | latePattern pattern => "pattern " ++ pattern ++ " can only appear as the first mapping entry"
  | unsupportedBinding operation receiver =>
    "undefined method `" ++ operation ++ "' for " ++ receiver
  | unsupportedExposure addin operation =>
    "addin " ++ addin ++ " whitelists `" ++ operation ++ "' but does not support it"
  | unknownAddin canonical given =>
    "uninitialized constant " ++ canonical ++ " (addin `" ++ given ++ "')"
  | unknownParser name known =>
    "unknown parser `" ++ name ++ "' (built-in parsers: " ++ String.intercalate ", " known ++ ")"
  | emptyParser => "parser must not be empty"
  | emptySettingName => "setting names must not be empty"
  | unknownOutput given => "output must be `json' or `pretty', got `" ++ given ++ "'"
  | badFile path => "invalid config " ++ path
  | badLogFilter directive => "invalid log filter " ++ Text.quoted directive
  | custom message => message

end Misconfiguration

/-- What can be wrong with the source of a log. -/
inductive SourceFault where
  | cannotOpen (path reason : String)
  /-- The line is the first one that was not read to its end. -/
  | cannotRead (line : Nat) (reason : String)
  deriving DecidableEq, Repr

namespace SourceFault

def message : SourceFault → String
  | cannotOpen path reason => "cannot open " ++ path ++ ": " ++ reason
  | cannotRead line reason => "cannot read line " ++ toString line ++ ": " ++ reason

end SourceFault

/-- What may not be modified. -/
inductive Frozen where
  | record (key : Key)
  | line
  deriving DecidableEq, Repr

namespace Frozen

def message : Frozen → String
  | record key => "cannot set " ++ key.display ++ " on a parsed line"
  | line => "cannot modify a line directly"

end Frozen

/-- A failure. -/
inductive Error where
  /-- Sandboxed code called an operation that is not exposed to it. -/
  | capability (operation : String)
  | configuration (cause : Misconfiguration)
  | modification (target : Frozen)
  | source (fault : SourceFault)
  | io (reason : String)
  /-- A pattern that is not well formed. -/
  | pattern
  | time (cause : TimeError)
  /-- An attribute or operation got too many arguments. -/
  | arity (name : String) (given : Nat)
  /-- An exposed operation ran and failed. -/
  | operation (name message : String)
  deriving DecidableEq, Repr

namespace Error

def message : Error → String
  | .capability name => "undefined operation `" ++ name ++ "' for sandboxed context"
  | .configuration cause => "Configuration error: " ++ cause.message
  | .modification target => "Modification error: " ++ target.message
  | .source fault => "Source error: " ++ fault.message
  | .io reason => "I/O error: " ++ reason
  | .pattern => "Invalid pattern"
  | .time cause => "Invalid timestamp: " ++ cause.message
  | .arity name given =>
    "wrong number of arguments for `" ++ name ++ "' (given " ++ toString given ++
      ", expected 0..1)"
  | .operation name message => "Operation `" ++ name ++ "' failed: " ++ message

end Error

end Logline
