/-
What is found in a map after writes to it.

A map that is written to pair by pair holds, under each key, the last value
that the pairs have for it, and where they have none the value it held
before (`find?_insertAll`). So what a list of pairs comes to can be told
apart from what it is written over: the list alone decides about its own
keys. Keys never move, so pairs that are written again, over what they came
to, change nothing at all (`insertAll_self`).
-/
import Logline.OrderedMap

namespace Logline

namespace Entries

variable {κ α : Type} [DecidableEq κ]

/-- What is found is there. -/
theorem mem_of_find? {key : κ} {value : α} {entries : List (κ × α)}
    (h : find? key entries = some value) : (key, value) ∈ entries := by
  induction entries with
  | nil => cases h
  | cons e rest ih =>
      obtain ⟨k, v⟩ := e
      by_cases hk : k = key
      · simp only [find?, hk, if_true, Option.some.injEq] at h
        rw [hk, h]
        exact .head _
      · simp only [find?, hk, if_false] at h
        exact .tail _ (ih h)

/-- Where keys are distinct, what is there is found. -/
theorem find?_of_mem {key : κ} {value : α} {entries : List (κ × α)}
    (distinct : (keys entries).Nodup) (h : (key, value) ∈ entries) :
    find? key entries = some value := by
  induction entries with
  | nil => cases h
  | cons e rest ih =>
      obtain ⟨k, v⟩ := e
      have hsplit := List.nodup_cons.mp distinct
      rcases List.mem_cons.mp h with he | hrest
      · cases he
        simp [find?]
      · have hk : k ≠ key := by
          rintro rfl
          exact hsplit.1 (List.mem_map.mpr ⟨_, hrest, rfl⟩)
        simp only [find?, hk, if_false]
        exact ih hsplit.2 hrest

/-- Entries under the same distinct keys, in the same order, are the same
where the same is found under each key. -/
theorem ext_find? {entries others : List (κ × α)}
    (distinct : (keys entries).Nodup) (hkeys : keys entries = keys others)
    (h : ∀ key, find? key entries = find? key others) :
    entries = others := by
  induction entries generalizing others with
  | nil => exact (List.map_eq_nil_iff.mp hkeys.symm).symm
  | cons e rest ih =>
      obtain ⟨k, v⟩ := e
      rcases others with _ | ⟨⟨k', v'⟩, rest'⟩
      · cases hkeys
      obtain ⟨rfl, hrest⟩ : k = k' ∧ keys rest = keys rest' := by
        simpa [keys] using hkeys
      have hsplit : k ∉ keys rest ∧ (keys rest).Nodup :=
        List.nodup_cons.mp distinct
      have hv : v = v' := by simpa [find?] using h k
      rw [hv, ih hsplit.2 hrest fun key => ?_]
      by_cases hk : k = key
      · subst hk
        rw [find?_eq_none_iff.mpr hsplit.1,
          find?_eq_none_iff.mpr (hrest ▸ hsplit.1)]
      · simpa only [find?, hk, if_false] using h key

/-- What is found in one list after another: the first one decides. -/
theorem find?_append (key : κ) (first second : List (κ × α)) :
    find? key (first ++ second)
      = (find? key first).or (find? key second) := by
  induction first with
  | nil => rfl
  | cons e rest ih =>
      obtain ⟨k, v⟩ := e
      by_cases hk : k = key
      · simp [find?, hk]
      · simp only [List.cons_append, find?, hk, if_false]
        exact ih

/-- What is written under a new key goes to the end. -/
theorem insert_new {key : κ} {entries : List (κ × α)}
    (h : key ∉ keys entries) (value : α) :
    insert key value entries = entries ++ [(key, value)] := by
  induction entries with
  | nil => rfl
  | cons e rest ih =>
      obtain ⟨k, v⟩ := e
      have hk : k ≠ key := fun hk => h (hk ▸ .head _)
      rw [insert, if_neg hk, ih fun hrest => h (.tail _ hrest)]
      rfl

section

variable {key : κ} {before : List (κ × α)} (h : key ∉ keys before)

include h

/-- Behind entries under other keys a write replaces the first one under its
key. -/
theorem insert_split (old value : α) (after : List (κ × α)) :
    insert key value (before ++ (key, old) :: after)
      = before ++ (key, value) :: after := by
  induction before with
  | nil => simp [insert]
  | cons e rest ih =>
      obtain ⟨k, v⟩ := e
      have hk : k ≠ key := fun hk => h (hk ▸ .head _)
      rw [List.cons_append, insert, if_neg hk,
        ih fun hrest => h (.tail _ hrest)]
      rfl

/-- A removal takes that one out. -/
theorem erase_split (old : α) (after : List (κ × α)) :
    erase key (before ++ (key, old) :: after) = before ++ after := by
  induction before with
  | nil => simp [erase]
  | cons e rest ih =>
      obtain ⟨k, v⟩ := e
      have hk : k ≠ key := fun hk => h (hk ▸ .head _)
      rw [List.cons_append, erase, if_neg hk,
        ih fun hrest => h (.tail _ hrest)]
      rfl

end

/-- What is found is the value of the first entry under its key. -/
theorem split_of_find? {key : κ} {value : α} {entries : List (κ × α)}
    (h : find? key entries = some value) :
    ∃ before after, key ∉ keys before
      ∧ entries = before ++ (key, value) :: after := by
  induction entries with
  | nil => cases h
  | cons e rest ih =>
      obtain ⟨k, v⟩ := e
      by_cases hk : k = key
      · simp only [find?, hk, if_true, Option.some.injEq] at h
        exact ⟨[], rest, List.not_mem_nil, by rw [hk, h]; rfl⟩
      · simp only [find?, hk, if_false] at h
        obtain ⟨before, after, hbefore, rfl⟩ := ih h
        refine ⟨(k, v) :: before, after, ?_, rfl⟩
        intro hmem
        rcases List.mem_cons.mp hmem with hmem | hmem
        · exact hk hmem.symm
        · exact hbefore hmem

end Entries

namespace OrderedMap

variable {κ α : Type} [DecidableEq κ]

/-- What is found under a key is an entry of the map. -/
theorem find?_iff_mem {m : OrderedMap κ α} {key : κ} {value : α} :
    m.find? key = some value ↔ (key, value) ∈ m.entries :=
  ⟨Entries.mem_of_find?, Entries.find?_of_mem m.distinct⟩

/-- A write shows under its own key and no other. -/
theorem find?_insert (m : OrderedMap κ α) (key other : κ) (value : α) :
    (m.insert key value).find? other
      = if other = key then some value else m.find? other := by
  split
  · rename_i h
    subst h
    exact Entries.find?_insert_self other value m.entries
  · rename_i h
    exact Entries.find?_insert_of_ne h value m.entries

/-- An entry that is found is the one place where a write under its key, or a
removal of it, makes a difference. -/
theorem split_of_find? {m : OrderedMap κ α} {key : κ} {old : α}
    (h : m.find? key = some old) :
    ∃ before after, m.entries = before ++ (key, old) :: after
      ∧ (∀ value, (m.insert key value).entries
        = before ++ (key, value) :: after)
      ∧ (m.erase key).entries = before ++ after := by
  obtain ⟨before, after, hbefore, hentries⟩ := Entries.split_of_find? h
  refine ⟨before, after, hentries, fun value => ?_, ?_⟩
  · show Entries.insert key value m.entries = _
    rw [hentries, Entries.insert_split hbefore]
  · show Entries.erase key m.entries = _
    rw [hentries, Entries.erase_split hbefore]

theorem contains_iff {m : OrderedMap κ α} {key : κ} :
    m.contains key = true ↔ key ∈ m.keys := by
  have hnone : m.find? key = none ↔ key ∉ m.keys :=
    Entries.find?_eq_none_iff
  unfold contains
  cases hf : m.find? key with
  | none => simp [hnone.mp hf]
  | some value =>
      rw [hf] at hnone
      simpa using hnone

/-- A write makes its own key present, and no other. -/
@[simp] theorem contains_insert (m : OrderedMap κ α) (key other : κ)
    (value : α) :
    (m.insert key value).contains other
      = (decide (other = key) || m.contains other) := by
  unfold contains
  rw [find?_insert]
  by_cases h : other = key <;> simp [h]

/-- A removal shows under its own key and no other. -/
theorem find?_erase (m : OrderedMap κ α) (key other : κ) :
    (m.erase key).find? other = if other = key then none else m.find? other := by
  split
  · rename_i h
    subst h
    exact Entries.find?_erase_self m.distinct
  · rename_i h
    exact Entries.find?_erase_of_ne h m.entries

theorem contains_erase (m : OrderedMap κ α) (key other : κ) :
    (m.erase key).contains other
      = (decide (other ≠ key) && m.contains other) := by
  unfold contains
  rw [find?_erase]
  by_cases h : other = key <;> simp [h]

/-- The pairs decide about their own keys, the map about all others. -/
theorem find?_insertAll (m : OrderedMap κ α) (pairs : List (κ × α))
    (key : κ) :
    (m.insertAll pairs).find? key
      = ((ofList pairs).find? key).or (m.find? key) := by
  induction pairs generalizing m with
  | nil => rfl
  | cons e rest ih =>
      obtain ⟨k, v⟩ := e
      have hstep : ∀ m : OrderedMap κ α,
          m.insertAll ((k, v) :: rest) = (m.insert k v).insertAll rest :=
        fun _ => rfl
      unfold ofList
      rw [hstep, hstep, ih, ih, find?_insert, find?_insert, Option.or_assoc]
      by_cases hk : key = k
      · simp [hk]
      · simp only [hk, if_false]
        rfl

/-- One list of pairs written after another. -/
theorem insertAll_append (m : OrderedMap κ α) (first second : List (κ × α)) :
    m.insertAll (first ++ second) = (m.insertAll first).insertAll second :=
  List.foldl_append

theorem ofList_append (first second : List (κ × α)) :
    ofList (first ++ second) = (ofList first).insertAll second :=
  insertAll_append empty first second

/-- The last pair under a key decides. -/
theorem find?_ofList (pairs : List (κ × α)) (key : κ) :
    (ofList pairs).find? key = Entries.find? key pairs.reverse := by
  induction pairs with
  | nil => rfl
  | cons e rest ih =>
      obtain ⟨k, v⟩ := e
      have hstep : ofList ((k, v) :: rest)
          = (empty.insert k v).insertAll rest := rfl
      rw [hstep, find?_insertAll, ih, List.reverse_cons,
        Entries.find?_append]
      rfl

/-- What a list of pairs comes to is among them. -/
theorem mem_of_find?_ofList {pairs : List (κ × α)} {key : κ} {value : α}
    (h : (ofList pairs).find? key = some value) : (key, value) ∈ pairs := by
  induction pairs with
  | nil => cases h
  | cons e rest ih =>
      obtain ⟨k, v⟩ := e
      have hstep : ofList ((k, v) :: rest)
          = (empty.insert k v).insertAll rest := rfl
      rw [hstep, find?_insertAll, find?_insert] at h
      rcases Option.or_eq_some_iff.mp h with hrest | ⟨-, hfirst⟩
      · exact .tail _ (ih hrest)
      · by_cases hk : key = k
        · simp only [hk, if_true, Option.some.injEq] at hfirst
          rw [hk, hfirst]
          exact .head _
        · simp only [hk, if_false] at hfirst
          cases hfirst

-- ============================================================= keys

/-- A write leaves the keys alone, or adds its own at the end. -/
theorem keys_insert (m : OrderedMap κ α) (key : κ) (value : α) :
    (m.insert key value).keys
      = if key ∈ m.keys then m.keys else m.keys ++ [key] :=
  Entries.keys_insert key value m.entries

theorem keys_erase (m : OrderedMap κ α) (key : κ) :
    (m.erase key).keys = m.keys.erase key :=
  Entries.keys_erase key m.entries

theorem mem_keys_insertAll {m : OrderedMap κ α} {pairs : List (κ × α)}
    {key : κ} :
    key ∈ (m.insertAll pairs).keys
      ↔ key ∈ m.keys ∨ key ∈ Entries.keys pairs := by
  induction pairs generalizing m with
  | nil => simp [insertAll, Entries.keys]
  | cons e rest ih =>
      have hstep : m.insertAll (e :: rest)
          = (m.insert e.1 e.2).insertAll rest := rfl
      rw [hstep, ih, keys_insert]
      split
      · rename_i hmem
        constructor
        · rintro (h | h)
          · exact .inl h
          · exact .inr (.tail _ h)
        · rintro (h | h)
          · exact .inl h
          · rcases List.mem_cons.mp h with rfl | hrest
            · exact .inl hmem
            · exact .inr hrest
      · simp [Entries.keys, or_assoc]

/-- Pairs whose keys are all there already leave the keys alone. -/
theorem keys_insertAll {m : OrderedMap κ α} {pairs : List (κ × α)}
    (h : ∀ key ∈ Entries.keys pairs, key ∈ m.keys) :
    (m.insertAll pairs).keys = m.keys := by
  induction pairs generalizing m with
  | nil => rfl
  | cons e rest ih =>
      have hstep : m.insertAll (e :: rest)
          = (m.insert e.1 e.2).insertAll rest := rfl
      have hsame : (m.insert e.1 e.2).keys = m.keys := by
        rw [keys_insert, if_pos (h e.1 (.head _))]
      rw [hstep, ih fun key hkey => ?_, hsame]
      rw [hsame]
      exact h key (.tail _ hkey)

/-- Pairs written over what they come to change nothing. -/
theorem insertAll_self (pairs : List (κ × α)) :
    (ofList pairs).insertAll pairs = ofList pairs := by
  have hkeys : ((ofList pairs).insertAll pairs).keys = (ofList pairs).keys :=
    keys_insertAll fun key hkey => mem_keys_insertAll.mpr (.inr hkey)
  refine ext_entries (Entries.ext_find? (distinct _) hkeys fun key => ?_)
  have hfind := find?_insertAll (ofList pairs) pairs key
  rw [Option.or_self] at hfind
  exact hfind

-- ================================================== all that is found

/-- Everything that is found in the map satisfies `P` with its key. -/
def All (P : κ → α → Prop) (m : OrderedMap κ α) : Prop :=
  ∀ key value, m.find? key = some value → P key value

variable {P : κ → α → Prop}

theorem All.empty : All P (empty : OrderedMap κ α) :=
  fun _ _ h => nomatch h

/-- Pairs that come to nothing else can be written over a map. -/
theorem All.insertAll {m : OrderedMap κ α} {pairs : List (κ × α)}
    (h : m.All P) (hpairs : (ofList pairs).All P) :
    (m.insertAll pairs).All P := by
  intro key value hfound
  rw [find?_insertAll] at hfound
  rcases Option.or_eq_some_iff.mp hfound with hnew | ⟨-, hold⟩
  · exact hpairs key value hnew
  · exact h key value hold

/-- Pairs all of which satisfy `P` come to nothing else. -/
theorem All.ofList {pairs : List (κ × α)} (h : ∀ e ∈ pairs, P e.1 e.2) :
    (OrderedMap.ofList pairs).All P :=
  fun _ _ hfound => h _ (mem_of_find?_ofList hfound)

end OrderedMap

end Logline
