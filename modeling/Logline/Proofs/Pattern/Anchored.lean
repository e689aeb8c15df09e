/-
Patterns that start at the start of the text, and what they are put together
from.

Such a pattern has one place where it can match, so its captures say how the
text starts, and without captures no start of the text is of its form
(`captures?_searched`). What that form is follows from the pattern part by
part. Besides the parts themselves, three ways to put them together have a
form of their own: a pattern followed by characters as they are (`spell`),
any number of characters of a class, and a sequence of classes, which covers
just as many characters (`shape?`).
-/
import Mathlib.Data.List.Forall2
import Logline.Proofs.Pattern.Matches

namespace Logline.Pattern

-- ============================================================= classes

namespace CharClass

@[simp] theorem holds_single {c d : Char} :
    (single c).holds d = true ↔ d = c := by
  unfold single holds
  rw [Bool.and_eq_true, decide_eq_true_eq, decide_eq_true_eq]
  constructor
  · rintro ⟨hle, hge⟩
    exact Char.toNat_inj.mp (Nat.le_antisymm hge hle)
  · rintro rfl
    exact ⟨Nat.le_refl _, Nat.le_refl _⟩

@[simp] theorem holds_notLineFeed {c : Char} :
    notLineFeed.holds c = true ↔ c ≠ '\n' := by
  unfold notLineFeed holds
  rw [Bool.not_eq_true', ← Bool.not_eq_true, holds_single]

end CharClass

namespace Node

section

variable {node : Node} {a : CharClass} {greedy : Bool} {before : Option Char}
  {piece rest : List Char} {texts : Texts}

-- ============================================================= anchors

@[simp] theorem matches_textStart :
    Matches (.anchor .textStart) before piece rest texts
      ↔ piece = [] ∧ before = none ∧ texts = [] := by
  rw [matches_anchor]
  unfold Anchor.holds
  rw [Option.isNone_iff_eq_none]

@[simp] theorem matches_textEnd :
    Matches (.anchor .textEnd) before piece rest texts
      ↔ piece = [] ∧ rest = [] ∧ texts = [] := by
  rw [matches_anchor]
  unfold Anchor.holds
  rw [Option.isNone_iff_eq_none, List.head?_eq_none_iff]

/-- Whether a pattern starts at the start of the text. -/
def anchored : Node → Bool
  | .anchor .textStart => true
  | .seq .empty b => anchored b
  | .seq a _ => anchored a
  | _ => false

theorem Matches.at_start (h : node.Matches before piece rest texts)
    (hanchored : node.anchored = true) : before = none := by
  induction h with
  | @anchor a before rest holds =>
      cases a with
      | textStart => exact Option.isNone_iff_eq_none.mp holds
      | _ => cases hanchored
  | @seq x y before first second rest texts texts' left right ihleft
      ihright =>
      cases x with
      | empty =>
          -- the empty part covers nothing, so the other starts where it does
          cases left
          exact ihright hanchored
      | _ => exact ihleft hanchored
  | _ => cases hanchored

-- ====================================================== any number of one

/-- Any number of characters of a class. -/
def stars (greedy : Bool) (a : CharClass) : Node := zeroOrMore greedy (.chars a)

theorem matches_stars :
    Matches (stars greedy a) before piece rest texts
      ↔ (∀ c ∈ piece, a.holds c = true) ∧ texts = [] := by
  have hboth : Matches (stars greedy a) before piece rest texts
      ↔ Matches (.run greedy a) before piece rest texts
        ∨ Matches .empty before piece rest texts := by
    cases greedy with
    | true => exact matches_alt
    | false => exact matches_alt.trans Or.comm
  rw [hboth, matches_run, matches_empty]
  constructor
  · rintro (⟨-, holds, rfl⟩ | ⟨rfl, rfl⟩)
    · exact ⟨holds, rfl⟩
    · exact ⟨List.forall_mem_nil _, rfl⟩
  · rintro ⟨holds, htexts⟩
    by_cases hnone : piece = []
    · exact .inr ⟨hnone, htexts⟩
    · exact .inl ⟨hnone, holds, htexts⟩

-- ====================================================== characters as they are

/-- A pattern followed by characters as they are. -/
def spell (node : Node) (text : List Char) : Node :=
  text.foldl (fun node c => .seq node (.chars (.single c))) node

theorem matches_spell {text : List Char} :
    Matches (node.spell text) before piece rest texts
      ↔ ∃ first, piece = first ++ text
        ∧ Matches node before first (text ++ rest) texts := by
  induction text generalizing node piece with
  | nil =>
      constructor
      · intro h
        exact ⟨piece, (List.append_nil _).symm, h⟩
      · rintro ⟨first, rfl, h⟩
        rw [List.append_nil]
        exact h
  | cons c text ih =>
      have hstep : node.spell (c :: text)
          = (Node.seq node (.chars (.single c))).spell text := rfl
      rw [hstep, ih]
      constructor
      · rintro ⟨_, rfl, h⟩
        cases h with
        | seq left right =>
            obtain ⟨d, rfl, hd, rfl⟩ := matches_chars.mp right
            obtain rfl := CharClass.holds_single.mp hd
            exact ⟨_, List.append_assoc _ _ _, left⟩
      · rintro ⟨first, rfl, h⟩
        have hc : Matches (.chars (.single c)) (last before first) [c]
            (text ++ rest) [] := .chars (CharClass.holds_single.mpr rfl)
        have hboth : Matches (.seq node (.chars (.single c))) before
            (first ++ [c]) (text ++ rest) ([] ++ texts) := .seq h hc
        exact ⟨_, (List.append_assoc first [c] text).symm, hboth⟩

-- ===================================================== one class after another

/-- The classes of a pattern that is a sequence of single characters. -/
def shape? : Node → Option (List CharClass)
  | .chars a => some [a]
  | .seq a b =>
      match shape? a, shape? b with
      | some first, some second => some (first ++ second)
      | _, _ => none
  | _ => none

theorem matches_shape {classes : List CharClass}
    (h : node.shape? = some classes) :
    Matches node before piece rest texts
      ↔ List.Forall₂ (fun a c => a.holds c = true) classes piece
        ∧ texts = [] := by
  induction node generalizing classes before piece rest texts with
  | chars a =>
      cases h
      rw [matches_chars]
      constructor
      · rintro ⟨c, rfl, hc, rfl⟩
        exact ⟨.cons hc .nil, rfl⟩
      · rintro ⟨hall, rfl⟩
        cases hall with
        | cons hc hnil =>
            cases hnil
            exact ⟨_, rfl, hc, rfl⟩
  | seq x y ihx ihy =>
      simp only [shape?] at h
      split at h
      · rename_i first second hx hy
        cases h
        rw [matches_seq]
        constructor
        · rintro ⟨_, _, _, _, rfl, rfl, hleft, hright⟩
          obtain ⟨hfirst, rfl⟩ := (ihx hx).mp hleft
          obtain ⟨hsecond, rfl⟩ := (ihy hy).mp hright
          exact ⟨List.rel_append hfirst hsecond, rfl⟩
        · rintro ⟨hall, rfl⟩
          refine ⟨piece.take first.length, piece.drop first.length, [], [],
            (List.take_append_drop _ _).symm, rfl, (ihx hx).mpr ⟨?_, rfl⟩,
            (ihy hy).mpr ⟨?_, rfl⟩⟩
          · have htake := List.forall₂_take first.length hall
            rw [List.take_left] at htake
            exact htake
          · have hdrop := List.forall₂_drop first.length hall
            rw [List.drop_left] at hdrop
            exact hdrop
      · cases h
  | _ => cases h

end

end Node

-- ============================================================ captures

theorem captured?_eq (name : String) (captures : List Capture) :
    captured? name captures
      = Entries.find? name (captures.map Capture.text) := by
  induction captures with
  | nil => rfl
  | cons c rest ih =>
      rw [captured?, List.map_cons, Capture.text, Entries.find?, ih]

/-- What a group is worth: its text, or nothing if it has none. -/
def groupValue (texts : Texts) (name : String) : Value :=
  ((Entries.find? name texts).map fun text =>
    Value.str (String.ofList text)).getD .nil

/-- The named groups of a pattern with what they are worth. -/
def groups (p : Pattern) (texts : Texts) : Table :=
  .ofList (p.node.names.map fun name => (.str name, groupValue texts name))

theorem captures?_eq (p : Pattern) (text : String) :
    p.captures? text
      = (p.match? text).map fun captures =>
          p.groups (captures.map Capture.text) := by
  unfold captures? groups
  congr 1
  funext captures
  congr 2
  funext name
  unfold captureValue groupValue
  rw [captured?_eq]
  cases Entries.find? name (captures.map Capture.text) <;> rfl

/-- What a pattern finds that matches at the start of a text or not at
all. -/
inductive Searched (p : Pattern) (text : String) : Option Table → Prop
  | found {piece rest : List Char} {texts : Texts}
      (parts : text.toList = piece ++ rest)
      (covered : p.node.Matches none piece rest texts) :
      Searched p text (some (p.groups texts))
  | absent (uncovered : ∀ piece rest texts, text.toList = piece ++ rest →
        ¬ p.node.Matches none piece rest texts) :
      Searched p text none

theorem captures?_searched {p : Pattern} (hflat : p.node.flat = true)
    (hanchored : p.node.anchored = true) (text : String) :
    Searched p text (p.captures? text) := by
  rw [captures?_eq, match?]
  cases hs : p.node.search none 0 text.toList with
  | some captures =>
      obtain ⟨skipped, piece, rest, htext, hcovered⟩ :=
        Node.search_matches hflat hs
      obtain rfl := last_none (hcovered.at_start hanchored)
      rw [List.nil_append] at htext
      rw [last_nil] at hcovered
      exact .found htext hcovered
  | none =>
      refine .absent fun piece rest texts htext hcovered => ?_
      have hfound : (p.node.search none 0 ([] ++ (piece ++ rest))).isSome
          = true := Node.search_isSome hflat hcovered
      rw [List.nil_append, ← htext, hs] at hfound
      cases hfound

/-- Where a pattern matches whole texts of a form only, it tells the texts
of that form apart. -/
theorem captures?_whole {p : Pattern} (hflat : p.node.flat = true)
    (hanchored : p.node.anchored = true) {form : List Char → Texts → Prop}
    (hform : ∀ {piece rest texts}, p.node.Matches none piece rest texts
      ↔ rest = [] ∧ form piece texts) (text : String) :
    (∃ texts, form text.toList texts
      ∧ p.captures? text = some (p.groups texts))
    ∨ p.captures? text = none ∧ ∀ texts, ¬ form text.toList texts := by
  have hs := captures?_searched hflat hanchored text
  generalize p.captures? text = found at hs ⊢
  cases hs with
  | found parts covered =>
      obtain ⟨rfl, h⟩ := hform.mp covered
      rw [← List.append_nil text.toList, parts]
      exact .inl ⟨_, by rwa [List.append_nil, List.append_nil], rfl⟩
  | absent uncovered =>
      refine .inr ⟨rfl, fun texts h => ?_⟩
      exact uncovered text.toList [] texts (List.append_nil _).symm
        (hform.mpr ⟨rfl, h⟩)

end Logline.Pattern
