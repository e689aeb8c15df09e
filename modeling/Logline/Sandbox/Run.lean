/-
Running sandboxed code.

A scope is what code runs in: a surface, a line and settings. A run takes a record along and
leaves it as the code's requests made it. A call of an operation that the surface binds runs the
code of its receiver in the same scope. Any other call runs nothing: it is answered with an error,
and the record remembers it.

Operations can call each other without end, so a run is given a depth of calls that it may not
exceed. A run that would exceed it is exhausted, and so is every run that waits for it; code is
not told.
-/
import Logline.Sandbox.Surface

namespace Logline

/-- What code runs in. -/
structure Scope where
  surface : Surface
  line : String
  settings : Settings

/-- What a run works on: the record, and the journal from its first line on. -/
structure Progress where
  record : Record
  journal : List Entry

/-- How a run ends. -/
inductive Ending where
  | returned (result : Option Value)
  | failed (cause : Error)
  | exhausted

namespace Scope

/-- What code sees when it looks at a record. -/
def view (scope : Scope) (record : Record) : View where
  data := record.data
  stopped := record.stopped
  line := scope.line
  settings := scope.settings
  allows := scope.surface.allows

end Scope

namespace Code

/-- Runs code, where `enter` runs the code of an operation. -/
def runWith (enter : Code → Progress → Ending × Progress) (scope : Scope) :
    Code → Progress → Ending × Progress
  | done result, p => (.returned result, p)
  | fail cause, p => (.failed cause, p)
  | look next, p => runWith enter scope (next (scope.view p.record)) p
  | set key value next, p =>
    runWith enter scope next { p with record := p.record.set key value }
  | del key next, p =>
    runWith enter scope (next (p.record.del key).1) { p with record := (p.record.del key).2 }
  | stop next, p => runWith enter scope next { p with record := p.record.stop }
  | call operation args next, p =>
    match scope.surface.receiver? operation with
    | none =>
      runWith enter scope (next (.error (.capability operation)))
        { p with record := p.record.flag operation }
    | some receiver =>
      match enter (receiver.invoke operation args) p with
      | (.returned result, p) => runWith enter scope (next (.ok (result.getD .nil))) p
      | (.failed cause, p) => runWith enter scope (next (.error cause)) p
      | (.exhausted, p) => (.exhausted, p)
  | note entry next, p => runWith enter scope next { p with journal := p.journal ++ [entry] }

/-- Runs code with calls nested no deeper than the given depth. -/
def run : Nat → Scope → Code → Progress → Ending × Progress
  | 0, scope => runWith (fun _ p => (.exhausted, p)) scope
  | depth + 1, scope => runWith (run depth scope) scope

end Code

end Logline
