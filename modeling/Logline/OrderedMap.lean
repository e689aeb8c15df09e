/-
Finite maps that remember the order in which their keys came in. Everything the library stores by
name is one of these: the data of a record, the operations a sandbox may call, the settings of a
parser. Writing under a key that is already there keeps its place; a new key goes to the end;
removing a key closes the gap.

`Entries` holds the operations on bare lists of pairs, where a proof can follow them one entry at
a time. `OrderedMap` packs such a list with the proof that no key occurs twice, so nothing that is
built from its operations ever has to ask.
-/
namespace Logline

-- ==================================================== lists of pairs

namespace Entries

variable {κ α : Type} [DecidableEq κ]

/-- The value under `key`: the first entry decides. -/
def find? (key : κ) : List (κ × α) → Option α
  | [] => none
  | (k, v) :: rest => if k = key then some v else find? key rest

/-- Overwrites the entry under `key` where it stands, or appends one. -/
def insert (key : κ) (value : α) : List (κ × α) → List (κ × α)
  | [] => [(key, value)]
  | (k, v) :: rest => if k = key then (k, value) :: rest else (k, v) :: insert key value rest

/-- Drops the entry under `key` and keeps the order of the others. -/
def erase (key : κ) : List (κ × α) → List (κ × α)
  | [] => []
  | (k, v) :: rest => if k = key then rest else (k, v) :: erase key rest

/-- The keys, in order. -/
def keys (entries : List (κ × α)) : List κ := entries.map Prod.fst

theorem find?_eq_none_iff {key : κ} {entries : List (κ × α)} :
    find? key entries = none ↔ key ∉ keys entries := by
  induction entries with
  | nil => simp [find?, keys]
  | cons e rest ih =>
    obtain ⟨k, v⟩ := e
    by_cases h : k = key
    · simp [find?, keys, h]
    · simp [find?, keys, h, Ne.symm h] at ih ⊢
      exact ih

/-- A write leaves the keys alone, or adds its own at the end. -/
theorem keys_insert (key : κ) (value : α) (entries : List (κ × α)) :
    keys (insert key value entries) =
      if key ∈ keys entries then keys entries else keys entries ++ [key] := by
  induction entries with
  | nil => simp [insert, keys]
  | cons e rest ih =>
    obtain ⟨k, v⟩ := e
    by_cases h : k = key
    · simp [insert, keys, h]
    · simp only [insert, h, if_false]
      simp only [keys, List.map_cons] at ih ⊢
      rw [ih]
      by_cases hm : key ∈ rest.map Prod.fst <;> simp [hm, Ne.symm h]

/-- A removal takes its own key out and no other. -/
theorem keys_erase (key : κ) (entries : List (κ × α)) :
    keys (erase key entries) = (keys entries).erase key := by
  induction entries with
  | nil => rfl
  | cons e rest ih =>
    obtain ⟨k, v⟩ := e
    by_cases h : k = key
    · simp [erase, keys, h]
    · simp only [keys] at ih
      simp [erase, keys, h, ih]

theorem nodup_insert {key : κ} {value : α} {entries : List (κ × α)} (h : (keys entries).Nodup) :
    (keys (insert key value entries)).Nodup := by
  rw [keys_insert]
  split
  · exact h
  · rename_i hk
    rw [List.nodup_append]
    refine ⟨h, by simp, ?_⟩
    intro a ha b hb
    simp only [List.mem_singleton] at hb
    subst hb
    intro hab
    exact hk (hab ▸ ha)

theorem nodup_erase {key : κ} {entries : List (κ × α)} (h : (keys entries).Nodup) :
    (keys (erase key entries)).Nodup := by
  rw [keys_erase]
  exact h.erase key

/-- A write is read back under its own key. -/
theorem find?_insert_self (key : κ) (value : α) (entries : List (κ × α)) :
    find? key (insert key value entries) = some value := by
  induction entries with
  | nil => simp [insert, find?]
  | cons e rest ih =>
    obtain ⟨k, v⟩ := e
    by_cases h : k = key <;> simp [insert, find?, h, ih]

/-- A write does not show under another key. -/
theorem find?_insert_of_ne {key other : κ} (h : other ≠ key) (value : α)
    (entries : List (κ × α)) :
    find? other (insert key value entries) = find? other entries := by
  induction entries with
  | nil => simp [insert, find?, Ne.symm h]
  | cons e rest ih =>
    obtain ⟨k, v⟩ := e
    by_cases hk : k = key
    · subst hk
      simp [insert, find?, Ne.symm h]
    · simp [insert, find?, hk, ih]

/-- A removal does not show under another key. -/
theorem find?_erase_of_ne {key other : κ} (h : other ≠ key) (entries : List (κ × α)) :
    find? other (erase key entries) = find? other entries := by
  induction entries with
  | nil => rfl
  | cons e rest ih =>
    obtain ⟨k, v⟩ := e
    by_cases hk : k = key
    · subst hk
      simp [erase, find?, Ne.symm h]
    · simp [erase, find?, hk, ih]

/-- Where keys are distinct a removed key is gone. -/
theorem find?_erase_self {key : κ} {entries : List (κ × α)} (h : (keys entries).Nodup) :
    find? key (erase key entries) = none := by
  rw [find?_eq_none_iff, keys_erase]
  exact fun hm => (List.Nodup.mem_erase_iff h).1 hm |>.1 rfl

end Entries

-- ==================================================== maps

/-- A map from `κ` to `α` in order of insertion. -/
structure OrderedMap (κ α : Type) [DecidableEq κ] where
  entries : List (κ × α)
  distinct : (Entries.keys entries).Nodup

namespace OrderedMap

variable {κ α : Type} [DecidableEq κ]

/-- Two maps with the same entries in the same order are the same map. -/
theorem ext_entries {a b : OrderedMap κ α} (h : a.entries = b.entries) : a = b := by
  cases a; cases b; simp at h; subst h; rfl

def empty : OrderedMap κ α := ⟨[], by simp [Entries.keys]⟩

instance : Inhabited (OrderedMap κ α) := ⟨empty⟩

/-- The value under exactly this key. -/
def find? (m : OrderedMap κ α) (key : κ) : Option α := Entries.find? key m.entries

/-- Whether exactly this key is present. -/
def contains (m : OrderedMap κ α) (key : κ) : Bool := (m.find? key).isSome

/-- Overwrites in place, or appends. -/
def insert (m : OrderedMap κ α) (key : κ) (value : α) : OrderedMap κ α :=
  ⟨Entries.insert key value m.entries, Entries.nodup_insert m.distinct⟩

/-- Removes exactly this key. -/
def erase (m : OrderedMap κ α) (key : κ) : OrderedMap κ α :=
  ⟨Entries.erase key m.entries, Entries.nodup_erase m.distinct⟩

/-- Writes the pairs one after the other, so a repeated key keeps its first place and takes its
last value. -/
def insertAll (m : OrderedMap κ α) (pairs : List (κ × α)) : OrderedMap κ α :=
  pairs.foldl (fun acc e => acc.insert e.1 e.2) m

def ofList (pairs : List (κ × α)) : OrderedMap κ α := empty.insertAll pairs

def keys (m : OrderedMap κ α) : List κ := Entries.keys m.entries

def size (m : OrderedMap κ α) : Nat := m.entries.length

def isEmpty (m : OrderedMap κ α) : Bool := m.entries.isEmpty

end OrderedMap

end Logline
