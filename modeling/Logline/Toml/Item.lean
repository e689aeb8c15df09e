/-
What a TOML document holds. Tables come into being in several ways, and which way it was decides
what may be added to them later: a header opens a table once; a table that was only named on the
way to another may still get a header of its own; one that dotted keys made takes more dotted keys
but no header; and one in braces is complete.
-/
import Logline.OrderedMap

namespace Logline.Toml

/-- How a table came into being. -/
inductive Form where
  /-- By a header of its own, or as the whole document. -/
  | header
  /-- On the way of a header to another table. -/
  | implied
  /-- By dotted keys. -/
  | dotted
  /-- In braces. -/
  | inline
  deriving DecidableEq

/-- A value. -/
inductive Item where
  | text (s : String)
  /-- A value without quotes. -/
  | scalar
  | array
  | table (form : Form) (entries : List (String × Item))
  /-- Tables with headers in double brackets, of which only the last can still change. -/
  | tables (last : List (String × Item))

abbrev Items := List (String × Item)

/-- A key with the tables on the way to it. -/
structure KeyPath where
  parents : List String
  last : String

namespace Item

/-- Changes the table at the end of a way. Tables that are missing on the way are made: by dotted
keys, or as implied by a header. -/
def descend (dotted : Bool) (change : Form → Items → Option (Form × Items)) :
    List String → Form → Items → Option (Form × Items)
  | [], form, entries => change form entries
  | name :: rest, form, entries =>
    match Entries.find? name entries with
    | none =>
      (descend dotted change rest (if dotted then .dotted else .implied) []).map fun inner =>
        (form, Entries.insert name (.table inner.1 inner.2) entries)
    | some (.table inner innerEntries) =>
      if inner = .inline ∨ (dotted ∧ inner = .header) then none
      else
        (descend dotted change rest inner innerEntries).map fun inner =>
          (form, Entries.insert name (.table inner.1 inner.2) entries)
    | some (.tables last) =>
      (descend dotted change rest .header last).map fun inner =>
        (form, Entries.insert name (.tables inner.2) entries)
    | some _ => none

/-- Gives a key its value. The key must be new, and dotted keys only go on where dotted keys have
begun. -/
def assign (path : KeyPath) (item : Item) : Form → Items → Option (Form × Items) :=
  descend true
    (fun form entries =>
      if decide (form = .dotted) = path.parents.isEmpty then none
      else
        match Entries.find? path.last entries with
        | some _ => none
        | none => some (form, Entries.insert path.last item entries))
    path.parents

/-- Opens a table with a header. -/
def openTable (path : KeyPath) : Form → Items → Option (Form × Items) :=
  descend false
    (fun form entries =>
      match Entries.find? path.last entries with
      | none => some (form, Entries.insert path.last (.table .header []) entries)
      | some (.table .implied inner) =>
        some (form, Entries.insert path.last (.table .header inner) entries)
      | some _ => none)
    path.parents

/-- Opens one more table with a header in double brackets. -/
def openNext (path : KeyPath) : Form → Items → Option (Form × Items) :=
  descend false
    (fun form entries =>
      match Entries.find? path.last entries with
      | none => some (form, Entries.insert path.last (.tables []) entries)
      | some (.tables _) => some (form, Entries.insert path.last (.tables []) entries)
      | some _ => none)
    path.parents

end Item

end Logline.Toml
