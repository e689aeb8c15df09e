/-
The command line program. It collects what the program may look at, the environment and the files
that its words name, and leaves the rest to `Program.run`.
-/
import Logline.Command.Program

namespace Logline.Command

/-- The variables of the environment that matter. -/
def variableNames : List String :=
  [Config.parserVariable, Config.outputVariable, Config.logVariable, Config.fileVariable,
    Program.filterVariable]

/-- The deepest calls of operations that a run is given. -/
def maxCalls : Nat := 100000

/-- The number by which the system says that a path is a directory. Some calls give it negated. -/
def isDirectoryCode (code : UInt32) : Bool := code = 21 || code + 21 = 0

/-- What is found under a path. -/
def lookUp (path : String) : IO Found :=
  try
    pure (.file (← IO.FS.readBinFile path).toList)
  catch
    | .inappropriateType _ code _ =>
      pure (if isDirectoryCode code then .directory else .belowFile)
    | _ => pure .missing

end Logline.Command

open Logline Logline.Command

/-- Runs the program on its words. -/
def main (words : List String) : IO UInt32 := do
  let given ← variableNames.mapM fun name => do pure (name, ← IO.getEnv name)
  let env : Config.Environment := fun name => (given.lookup name).join
  let found ← match Arguments.read words with
    | .ok args => (args.paths env).mapM fun path => do pure (path, ← lookUp path)
    | .error _ => pure []
  let files : FileSystem := fun path => (found.lookup path).getD .missing
  let exit := Program.run maxCalls words files env
  IO.print exit.output
  unless exit.complaint.isEmpty do IO.eprintln exit.complaint
  pure exit.code.toUInt32
