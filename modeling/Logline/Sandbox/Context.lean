/-
The sandbox of one parser instance.

A context holds the bindings as they stand, the surface compiled from them, and the surface that
code last ran on. Every change of the bindings forgets both surfaces and raises the version, so a
surface is never used after its bindings were changed, and two surfaces of one version have the
same bindings.
-/
import Logline.Sandbox.Run

namespace Logline

/-- Bindings and the surfaces made of them. -/
structure Context where
  bindings : Bindings
  compiled : Option Surface
  current : Option Surface
  /-- The number of changes so far. It has no bound here, where a counter of 64 bits would begin
  again after 2^64 changes. -/
  version : Nat

namespace Context

def empty : Context := ⟨.empty, none, none, 0⟩

instance : Inhabited Context := ⟨empty⟩

/-- Forgets the surfaces. -/
def invalidate (c : Context) : Context :=
  { c with compiled := none, current := none, version := c.version + 1 }

/-- Binds an operation to a receiver. -/
def bind (c : Context) (operation : String) (receiver : Receiver) : Context :=
  { c with bindings := c.bindings.insert operation receiver }.invalidate

/-- Binds several operations, one after the other. -/
def bindAll (c : Context) (bindings : List (String × Receiver)) : Context :=
  bindings.foldl (fun c b => c.bind b.1 b.2) c

/-- Removes a binding: its receiver, and the context after it. -/
def unbind (c : Context) (operation : String) : Option Receiver × Context :=
  (c.bindings.find? operation, { c with bindings := c.bindings.erase operation }.invalidate)

/-- The surface of the bindings, made if there is none yet. -/
def compile (c : Context) : Except Error Surface × Context :=
  match c.compiled with
  | some surface => (.ok surface, c)
  | none =>
    match Surface.compile c.bindings c.version with
    | .error cause => (.error cause, c)
    | .ok surface => (.ok surface, { c with compiled := some surface })

/-- Runs code on the compiled surface, which becomes the current one. If the surface cannot be
made, nothing is run. -/
def run (depth : Nat) (c : Context) (line : String) (settings : Settings) (code : Code)
    (p : Progress) : Ending × Progress × Context :=
  match c.compile with
  | (.error cause, c) => (.failed cause, p, c)
  | (.ok surface, c) =>
    let (ending, p) := code.run depth ⟨surface, line, settings⟩ p
    (ending, p, { c with current := some surface })

/-- Runs code on the current surface. Without one there is no run. -/
def runCurrent (depth : Nat) (c : Context) (line : String) (settings : Settings) (code : Code)
    (p : Progress) : Option Ending × Progress :=
  match c.current with
  | none => (none, p)
  | some surface =>
    let (ending, p) := code.run depth ⟨surface, line, settings⟩ p
    (some ending, p)

/-- The operations that are bound, in the order of their binding. -/
def operations (c : Context) : List String := c.bindings.keys

end Context

end Logline
