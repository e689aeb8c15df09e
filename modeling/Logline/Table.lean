/-
Tables: maps from keys to values that do not mind in which form a key is given.

A read looks for the key itself, then its string form, then its symbolic form. A write goes to
the string form if that is there, else to the symbolic form if that is there, else to the key as
given. The two orders differ on purpose: a write rather reuses an entry under a string than adds
a symbol beside it.
-/
import Logline.Error
import Logline.Value

namespace Logline

/-- Values by key, in order of insertion. -/
abbrev Table := OrderedMap Key Value

namespace Table

/-- The forms of a key in the order in which reads look for them. -/
def probes (key : Key) : List Key := [key, key.strForm, key.symForm]

/-- The value under a key in any form. -/
def get? (t : Table) (key : Key) : Option Value := (probes key).findSome? t.find?

/-- The text under a key in any form, if there is a string or a symbol. -/
def text? (t : Table) (key : Key) : Option String := (get? t key).bind Value.text?

/-- The value under a key in any form, `nil` where there is none. -/
def value (t : Table) (key : Key) : Value := (get? t key).getD .nil

/-- Whether a key is present in any form. -/
def has (t : Table) (key : Key) : Bool := (probes key).any t.contains

/-- The key that a write under `key` goes to. -/
def target (t : Table) (key : Key) : Key :=
  if t.contains key.strForm then key.strForm
  else if t.contains key.symForm then key.symForm
  else key

/-- Writes under a key in whatever form it is present. -/
def set (t : Table) (key : Key) (value : Value) : Table := t.insert (target t key) value

/-- Takes out the first form of a key that is present, in the order of reads: what was under it,
and the table after it. -/
def take (t : Table) (key : Key) : Option Value × Table :=
  ((probes key).findSome? fun probe =>
    (t.find? probe).map fun value => (some value, t.erase probe)).getD (none, t)

/-- The table after a removal. -/
def remove (t : Table) (key : Key) : Table := (take t key).2

/-- Whether the value under a key is one of the candidates; an absent one counts as `nil`. -/
def isAny (t : Table) (key : Key) (candidates : List Value) : Bool :=
  candidates.any fun candidate => candidate.same (value t key)

/-- The table as a value. -/
def toValue (t : Table) : Value := .map t.entries

/-- Whether two tables hold the same, in whatever order. -/
def same (a b : Table) : Bool := a.toValue.same b.toValue

/-- The table as JSON. -/
def toJson (t : Table) : Json := t.toValue.toJson

end Table

-- ======================================================= attributes

/-- What an attribute call amounts to. -/
inductive Attribute where
  | read (key : Key)
  | test (key : Key) (candidates : List Value)
  | write (key : Key) (value : Value)

namespace Attribute

/-- The name before a question mark at the end. -/
def testedName? (name : String) : Option String :=
  match name.toList.reverse with
  | '?' :: rest => some (String.ofList rest.reverse)
  | _ => none

/-- A name with no argument reads and with one argument writes; with a question mark at its end
and at least one argument it tests. -/
def ofCall (name : String) (args : List Value) : Except Error Attribute :=
  match testedName? name, args with
  | some base, _ :: _ => .ok (.test (.str base) args)
  | _, [] => .ok (.read (.symbol name))
  | _, [v] => .ok (.write (.symbol name) v)
  | _, _ => .error (.arity name args.length)

end Attribute

namespace Table

/-- An attribute call on a table: its result, and the table after it. A write gives the value
written. -/
def attr (t : Table) (name : String) (args : List Value) : Except Error Value × Table :=
  match Attribute.ofCall name args with
  | .error e => (.error e, t)
  | .ok (.read key) => (.ok (value t key), t)
  | .ok (.test key candidates) => (.ok (.bool (isAny t key candidates)), t)
  | .ok (.write key v) => (.ok v, set t key v)

end Table

end Logline
