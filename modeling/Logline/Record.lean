/-
Records. While a line is parsed its data gathers in a record. A record can be stopped, and from
then on every write to it is dropped. It also remembers the first operation that was called
without being exposed, so that a parse fails for it even where the code that called went on.

A finished record is data: it reads like a table and refuses every write.
-/
import Logline.Table

namespace Logline

/-- The data of a line under way. -/
structure Record where
  data : Table
  stopped : Bool
  /-- The first operation that was called although it was not exposed. -/
  violation : Option String

namespace Record

def empty : Record := ⟨.empty, false, none⟩

instance : Inhabited Record := ⟨empty⟩

/-- A fresh record with presets written to it in order. -/
def seeded (presets : List (Key × Value)) : Record :=
  { empty with data := presets.foldl (fun t p => Table.set t p.1 p.2) .empty }

def get? (r : Record) (key : Key) : Option Value := Table.get? r.data key

def has (r : Record) (key : Key) : Bool := Table.has r.data key

/-- Writes, unless the record is stopped. -/
def set (r : Record) (key : Key) (value : Value) : Record :=
  if r.stopped then r else { r with data := Table.set r.data key value }

/-- Removes, unless the record is stopped: what was removed, and the record after it. -/
def del (r : Record) (key : Key) : Option Value × Record :=
  if r.stopped then (none, r)
  else
    let (removed, data) := Table.take r.data key
    (removed, { r with data := data })

/-- Drops all writes from now on. -/
def stop (r : Record) : Record := { r with stopped := true }

/-- Remembers a call that was not allowed, if it is the first one. -/
def flag (r : Record) (operation : String) : Record :=
  { r with violation := r.violation.or (some operation) }

/-- An attribute call on the record. A write to a stopped record gives its value all the same. -/
def attr (r : Record) (name : String) (args : List Value) : Except Error Value × Record :=
  match Attribute.ofCall name args with
  | .error e => (.error e, r)
  | .ok (.read key) => (.ok (Table.value r.data key), r)
  | .ok (.test key candidates) => (.ok (.bool (Table.isAny r.data key candidates)), r)
  | .ok (.write key value) => (.ok value, r.set key value)

end Record

/-- The data of a parsed line. -/
structure Data where
  table : Table

namespace Data

/-- What a record becomes when its line is parsed. -/
def ofRecord (r : Record) : Data := ⟨r.data⟩

def get? (d : Data) (key : Key) : Option Value := Table.get? d.table key

def text? (d : Data) (key : Key) : Option String := Table.text? d.table key

def value (d : Data) (key : Key) : Value := Table.value d.table key

def has (d : Data) (key : Key) : Bool := Table.has d.table key

def isAny (d : Data) (key : Key) (candidates : List Value) : Bool :=
  Table.isAny d.table key candidates

/-- Reads and tests; a write is refused. -/
def attr (d : Data) (name : String) (args : List Value) : Except Error Value :=
  match Attribute.ofCall name args with
  | .error e => .error e
  | .ok (.read key) => .ok (d.value key)
  | .ok (.test key candidates) => .ok (.bool (d.isAny key candidates))
  | .ok (.write key _) => .error (.modification (.record key))

/-- Refused, whatever the key. -/
def set (_ : Data) (key : Key) (_ : Value) : Except Error Unit :=
  .error (.modification (.record key))

end Data

end Logline
