/-
When two values are the same.

A comparison of two maps takes the entries of the one in turn and looks for
a partner in what is left of the other. What that comes to is told key by
key: under each key the same values follow each other in both
(`Value.sameEntries_iff`), and the order of the keys does not enter.

Maps hold maps, so the induction that goes with this is on how deep a value
is nested: what passes from the values of a map to the map holds of all
(`Value.nested`). By it sameness is an equivalence. Nothing is asked about
keys that occur twice in a list of entries; in a table none does, and tables
with the same under each key are the same (`Table.same_of_find?`).
-/
import Logline.Proofs.OrderedMap
import Logline.Table
import Mathlib.Data.List.Forall2

namespace Logline

-- =================================================== values by their key

namespace Entries

variable {κ α : Type} [DecidableEq κ]

/-- All values under a key, in order. -/
def under (key : κ) (entries : List (κ × α)) : List α :=
  (entries.filter fun e => e.1 = key).map Prod.snd

theorem under_cons_self (key : κ) (value : α) (rest : List (κ × α)) :
    under key ((key, value) :: rest) = value :: under key rest := by
  simp [under]

theorem under_cons_of_ne {key other : κ} (h : key ≠ other) (value : α)
    (rest : List (κ × α)) :
    under other ((key, value) :: rest) = under other rest := by
  simp [under, h]

/-- What is found under a key is the first of the values there. -/
theorem find?_eq_head? (key : κ) (entries : List (κ × α)) :
    find? key entries = (under key entries).head? := by
  induction entries with
  | nil => rfl
  | cons e rest ih =>
      obtain ⟨k, v⟩ := e
      by_cases hk : k = key
      · subst hk
        rw [under_cons_self]
        simp [find?]
      · rw [under_cons_of_ne hk]
        simp only [find?, hk, if_false]
        exact ih

/-- A removal takes the first of the values under its key. -/
theorem under_erase_self (key : κ) (entries : List (κ × α)) :
    under key (erase key entries) = (under key entries).tail := by
  induction entries with
  | nil => rfl
  | cons e rest ih =>
      obtain ⟨k, v⟩ := e
      by_cases hk : k = key
      · subst hk
        rw [under_cons_self]
        simp [erase]
      · rw [under_cons_of_ne hk]
        simp only [erase, hk, if_false]
        rw [under_cons_of_ne hk, ih]

theorem under_erase_of_ne {key other : κ} (h : other ≠ key)
    (entries : List (κ × α)) :
    under other (erase key entries) = under other entries := by
  induction entries with
  | nil => rfl
  | cons e rest ih =>
      obtain ⟨k, v⟩ := e
      by_cases hk : k = key
      · subst hk
        rw [under_cons_of_ne (Ne.symm h)]
        simp [erase]
      · simp only [erase, hk, if_false]
        by_cases ho : k = other
        · subst ho
          rw [under_cons_self, under_cons_self, ih]
        · rw [under_cons_of_ne ho, under_cons_of_ne ho, ih]

/-- Where keys are distinct there is one value under a key, or none. -/
theorem under_of_distinct {key : κ} {entries : List (κ × α)}
    (distinct : (keys entries).Nodup) :
    under key entries = (find? key entries).toList := by
  induction entries with
  | nil => rfl
  | cons e rest ih =>
      obtain ⟨k, v⟩ := e
      obtain ⟨hnot, hrest⟩ := List.nodup_cons.mp distinct
      by_cases hk : k = key
      · subst hk
        have hnone : find? k rest = none := find?_eq_none_iff.mpr hnot
        rw [under_cons_self, ih hrest, hnone]
        simp [find?]
      · rw [under_cons_of_ne hk, ih hrest]
        simp only [find?, hk, if_false]

/-- A value under a key is that of an entry with this key. -/
theorem mem_of_under {key : κ} {value : α} {entries : List (κ × α)}
    (h : value ∈ under key entries) : (key, value) ∈ entries := by
  obtain ⟨e, he, rfl⟩ := List.mem_map.mp h
  obtain ⟨hmem, hk⟩ := List.mem_filter.mp he
  rw [← of_decide_eq_true hk]
  exact hmem

end Entries

-- ========================================================== comparisons

/-- Relations between the elements of lists compose. -/
private theorem forall₂_comp {α β γ : Type} {r : α → β → Prop}
    {s : β → γ → Prop} {t : α → γ → Prop}
    (h : ∀ a b c, r a b → s b c → t a c) {as : List α} {bs : List β}
    {cs : List γ} (hab : List.Forall₂ r as bs) (hbc : List.Forall₂ s bs cs) :
    List.Forall₂ t as cs := by
  induction hab generalizing cs with
  | nil =>
      cases hbc
      exact .nil
  | cons hr _ ih =>
      cases hbc with
      | cons hs hrest => exact .cons (h _ _ _ hr hs) (ih hrest)

namespace Value

/-- What passes from the values of a map to the map holds of all values. -/
theorem nested {holds : Value → Prop}
    (plain : ∀ v : Value, v.entries? = none → holds v)
    (ofMap : ∀ entries, (∀ e ∈ entries, holds e.2) → holds (map entries)) :
    ∀ v, holds v
  | nil => plain _ rfl
  | bool _ => plain _ rfl
  | int _ => plain _ rfl
  | str _ => plain _ rfl
  | sym _ => plain _ rfl
  | time _ => plain _ rfl
  | map entries => ofMap entries fun e _ => nested plain ofMap e.2
termination_by v => sizeOf v
decreasing_by
  have hmem := List.sizeOf_lt_of_mem ‹e ∈ entries›
  obtain ⟨key, value⟩ := e
  simp only [Prod.mk.sizeOf_spec, map.sizeOf_spec] at hmem ⊢
  omega

/-- A value that is not a map is the same as itself alone. -/
theorem same_plain {v w : Value} (hv : v.entries? = none) :
    v.same w = true ↔ v = w := by
  cases v <;> cases w <;> simp_all [same, entries?]

theorem same_map (a : List (Key × Value)) (w : Value) :
    (map a).same w = true ↔ ∃ b, w = map b ∧ sameEntries a b = true := by
  cases w <;> simp [same]

/-- Entries are the same where under each key the same values follow each
other. -/
theorem sameEntries_iff {a b : List (Key × Value)} :
    sameEntries a b = true
      ↔ ∀ key, List.Forall₂ (fun v w => v.same w = true)
          (Entries.under key a) (Entries.under key b) := by
  induction a generalizing b with
  | nil =>
      cases b with
      | nil => exact iff_of_true rfl fun _ => .nil
      | cons e rest =>
          refine iff_of_false nofun fun h => ?_
          have hkey := h e.1
          rw [Entries.under_cons_self] at hkey
          cases hkey
  | cons e rest ih =>
      obtain ⟨key, v⟩ := e
      unfold sameEntries
      rw [Entries.find?_eq_head?]
      cases hb : Entries.under key b with
      | nil =>
          refine iff_of_false nofun fun h => ?_
          have hkey := h key
          rw [Entries.under_cons_self, hb] at hkey
          cases hkey
      | cons w others =>
          simp only [List.head?_cons, Bool.and_eq_true, ih]
          constructor
          · rintro ⟨hv, hrest⟩ other
            by_cases ho : key = other
            · subst ho
              have hothers := hrest key
              rw [Entries.under_erase_self, hb] at hothers
              rw [Entries.under_cons_self, hb]
              exact .cons hv hothers
            · have hothers := hrest other
              rw [Entries.under_erase_of_ne (Ne.symm ho)] at hothers
              rw [Entries.under_cons_of_ne ho]
              exact hothers
          · intro h
            have hkey := h key
            rw [Entries.under_cons_self, hb, List.forall₂_cons] at hkey
            refine ⟨hkey.1, fun other => ?_⟩
            by_cases ho : key = other
            · subst ho
              rw [Entries.under_erase_self, hb]
              exact hkey.2
            · have hother := h other
              rw [Entries.under_cons_of_ne ho] at hother
              rw [Entries.under_erase_of_ne (Ne.symm ho)]
              exact hother

-- ========================================================= equivalence

theorem same_refl (v : Value) : v.same v = true := by
  induction v using nested with
  | plain v hv => exact (same_plain hv).mpr rfl
  | ofMap entries ih =>
      refine (same_map _ _).mpr ⟨entries, rfl, sameEntries_iff.mpr fun key => ?_⟩
      refine List.forall₂_same.mpr fun v hv => ?_
      exact ih _ (Entries.mem_of_under hv)

theorem same_symm {v w : Value} (h : v.same w = true) : w.same v = true := by
  induction v using nested generalizing w with
  | plain v hv =>
      rw [(same_plain hv).mp h]
      exact same_refl w
  | ofMap entries ih =>
      obtain ⟨others, rfl, hsame⟩ := (same_map _ _).mp h
      refine (same_map _ _).mpr ⟨entries, rfl, sameEntries_iff.mpr fun key => ?_⟩
      have hback : ∀ v ∈ Entries.under key entries,
          ∀ w, v.same w = true → w.same v = true :=
        fun v hv w => ih _ (Entries.mem_of_under hv)
      have hboth := (List.forall₂_and_left _ _).mpr
        ⟨hback, sameEntries_iff.mp hsame key⟩
      exact (hboth.imp fun v w hvw => hvw.1 w hvw.2).flip

theorem same_trans {u v w : Value} (h : u.same v = true)
    (h' : v.same w = true) : u.same w = true := by
  induction u using nested generalizing v w with
  | plain u hu =>
      rw [(same_plain hu).mp h]
      exact h'
  | ofMap entries ih =>
      obtain ⟨others, rfl, hfirst⟩ := (same_map _ _).mp h
      obtain ⟨last, rfl, hsecond⟩ := (same_map _ _).mp h'
      refine (same_map _ _).mpr ⟨last, rfl, sameEntries_iff.mpr fun key => ?_⟩
      have hon : ∀ u ∈ Entries.under key entries,
          ∀ v w, u.same v = true → v.same w = true → u.same w = true :=
        fun u hu v w => ih _ (Entries.mem_of_under hu)
      have hboth := (List.forall₂_and_left _ _).mpr
        ⟨hon, sameEntries_iff.mp hfirst key⟩
      exact forall₂_comp (fun u v w huv hvw => huv.1 v w huv.2 hvw) hboth
        (sameEntries_iff.mp hsecond key)

end Value

/-- Tables that hold the same under each key are the same, in whatever order
they hold it. -/
theorem Table.same_of_find? {a b : Table}
    (h : ∀ key, a.find? key = b.find? key) : Table.same a b = true := by
  refine (Value.same_map _ _).mpr ⟨b.entries, rfl, ?_⟩
  refine Value.sameEntries_iff.mpr fun key => ?_
  have hkey : Entries.find? key a.entries = Entries.find? key b.entries :=
    h key
  rw [Entries.under_of_distinct a.distinct,
    Entries.under_of_distinct b.distinct, hkey]
  exact List.forall₂_same.mpr fun v _ => Value.same_refl v

end Logline
