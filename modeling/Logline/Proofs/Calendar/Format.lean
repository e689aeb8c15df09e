/-
How the items of a time format are spelled.

A format is read in steps (`Item.Taken`). A step takes text without a percent
sign, or a field: a percent sign and a few letters, among which there is a
percent sign only if it is all of them. So each item that gives an offset can
be seen in the format, in one of six spellings (`Item.Lexed.spelled`). But
one of these that can be seen need not be an item. Its percent sign may be the
second one of a field that stands for a percent sign (`Item.Lexed.escaped`).
-/
import Logline.Calendar.Reading

namespace Logline.Calendar

namespace Item

open Text

-- =============================================================== fields

/-- Whether an item gives an offset. -/
def zoned : Item → Bool
  | .offset _ => true
  | .rfc3339 => true
  | _ => false

/-- Whether a format has an item that gives an offset. -/
def anyZoned (format : String) : Bool := (ofFormat format).any zoned

/-- The letters of the fields that give an offset. -/
def zoneLetters : List (List Char) :=
  [['z'], [':', 'z'], [':', ':', 'z'], [':', ':', ':', 'z'], ['#', 'z'], ['+']]

/-- Letters after a percent sign, and items that they may be read as. -/
structure Spelled (letters : List Char) (items : List Item) : Prop where
  percent : '%' ∈ letters → letters = ['%']
  zoned : items.any Item.zoned = true → letters ∈ zoneLetters

/-- What a step takes from the start of a format: the format, the items and
the rest. A field that is none takes all. -/
inductive Taken : List Char → List Item → List Char → Prop
  | field {letters items} (hspelled : Spelled letters items) (rest) :
      Taken ('%' :: (letters ++ rest)) items rest
  | plain {text item} (hpercent : '%' ∉ text) (htext : text ≠ [])
      (hzoned : item.zoned = false) (hbad : item ≠ .bad) (rest) :
      Taken (text ++ rest) [item] rest
  | bad (cs) : Taken ('%' :: cs) [.bad] []

theorem spelled_ofLetter (letter : Char) :
    Spelled [letter] (ofLetter letter) where
  percent h := by rw [List.mem_singleton.mp h]
  zoned h := by
    unfold ofLetter at h
    split at h
    all_goals first
      | decide
      | cases h

/-- A padding mark and a letter are one number, or nothing. -/
theorem readPadded_taken {mark : Char} (hmark : mark ≠ '%')
    (cs : List Char) :
    Taken ('%' :: mark :: cs) (readField.padded cs).1
      (readField.padded cs).2 := by
  unfold readField.padded
  split
  · rename_i letter rest
    split
    · rename_i field hnumber
      have hspelled : Spelled [mark, letter] [.number field] := by
        refine ⟨fun h => ?_, fun h => nomatch h⟩
        obtain rfl : '%' = letter := by
          simpa [hmark.symm] using h
        cases hnumber
      exact .field hspelled rest
    · exact .bad _
  · exact .bad _

theorem readField_taken (cs : List Char) :
    Taken ('%' :: cs) (readField cs).1 (readField cs).2 := by
  have hfield (letters : List Char) {item : Item} {rest : List Char}
      (h : '%' ∉ letters ∧ (item.zoned = true → letters ∈ zoneLetters)) :
      Taken ('%' :: (letters ++ rest)) [item] rest :=
    .field ⟨fun hpercent => absurd hpercent h.1, by simpa using h.2⟩ rest
  fun_cases readField cs with
  | case1 rest | case2 rest | case3 rest =>
      exact readPadded_taken (by decide) rest
  | case4 => exact hfield ['#', 'z'] (by decide)
  | case6 => exact hfield [':', 'z'] (by decide)
  | case7 => exact hfield [':', ':', 'z'] (by decide)
  | case8 => exact hfield [':', ':', ':', 'z'] (by decide)
  | case9 => exact hfield ['.', 'f'] (by decide)
  | case10 => exact hfield ['.', '3', 'f'] (by decide)
  | case11 => exact hfield ['.', '6', 'f'] (by decide)
  | case12 => exact hfield ['.', '9', 'f'] (by decide)
  | case13 => exact hfield ['3', 'f'] (by decide)
  | case14 => exact hfield ['6', 'f'] (by decide)
  | case15 => exact hfield ['9', 'f'] (by decide)
  | case16 letter rest => exact .field (spelled_ofLetter letter) rest
  | case5 | case17 => exact .bad _

theorem percent_not_blank : isBlank '%' = false := by
  decide

/-- A step takes from every format that is not empty. -/
theorem readItems_taken (c : Char) (cs : List Char) :
    Taken (c :: cs) (readItems (c :: cs)).1 (readItems (c :: cs)).2 := by
  have hplain {p : Char → Bool} {item : Item} (hc : p c = true)
      (hp : p '%' = false) (hzoned : item.zoned = false)
      (hbad : item ≠ .bad) : Taken (c :: cs) [item] (cs.dropWhile p) := by
    have hpercent : '%' ∉ c :: cs.takeWhile p := by
      intro h
      have hall : p '%' = true := by
        obtain h | h := List.mem_cons.mp h
        · rw [h, hc]
        · exact List.all_eq_true.mp List.all_takeWhile _ h
      rw [hp] at hall
      cases hall
    have htaken := Taken.plain hpercent (List.cons_ne_nil _ _) hzoned hbad
      (cs.dropWhile p)
    rwa [List.cons_append, List.takeWhile_append_dropWhile] at htaken
  unfold readItems
  split
  · rename_i heq
    cases heq
  · rename_i heq
    cases heq
    exact readField_taken _
  · rename_i hpercent heq
    cases heq
    split
    · rename_i hblank
      exact hplain hblank percent_not_blank rfl nofun
    · rename_i hblank
      have hc : c ≠ '%' := hpercent
      exact hplain (p := isLiteral) (by simp [isLiteral, hc, hblank]) rfl rfl
        nofun

/-- The letters that the search for an offset looks for. -/
def soughtLetters : List (List Char) := [['z'], [':', 'z']]

/-- Where a step finds what the search looks for, it is an item that gives an
offset. -/
theorem readItems_sought {letters : List Char} (cs : List Char)
    (hletters : letters ∈ soughtLetters) (h : '%' :: letters <+: cs) :
    (readItems cs).1.any zoned = true := by
  obtain ⟨rest, rfl⟩ := h
  simp only [soughtLetters, List.mem_cons, List.not_mem_nil, or_false]
    at hletters
  obtain rfl | rfl := hletters
  · rfl
  · rfl

-- ============================================================== formats

/-- A format and its items. The items end with the first that is none. -/
inductive Lexed : List Char → List Item → Prop
  | nil : Lexed [] []
  | field {letters rest : List Char} {items more : List Item}
      (hspelled : Spelled letters items)
      (hsought : ∀ sought ∈ soughtLetters, sought <+: letters ++ rest →
        items.any zoned = true)
      (hrest : Lexed rest more) :
      Lexed ('%' :: (letters ++ rest)) (items ++ more)
  | plain {text rest : List Char} {item : Item} {more : List Item}
      (hpercent : '%' ∉ text) (hzoned : item.zoned = false)
      (hrest : Lexed rest more) : Lexed (text ++ rest) (item :: more)
  | stop {letters items} (hspelled : Spelled letters items)
      (hbad : .bad ∈ items) (rest) : Lexed ('%' :: (letters ++ rest)) items

theorem lexed_readAll {turns : Nat} {cs : List Char}
    (hturns : cs.length ≤ turns) : Lexed cs (readAll turns cs) := by
  induction turns generalizing cs with
  | zero =>
      obtain rfl := List.length_eq_zero_iff.mp (Nat.le_zero.mp hturns)
      exact .nil
  | succ turns ih =>
      cases cs with
      | nil => exact .nil
      | cons c cs =>
          have hsought {letters} (h : letters ∈ soughtLetters) :=
            readItems_sought (c :: cs) h
          have htaken := readItems_taken c cs
          unfold readAll
          generalize c :: cs = all at *
          generalize readItems all = read at *
          obtain ⟨items, rest⟩ := read
          dsimp only at *
          cases htaken with
          | @field letters _ hspelled _ =>
              split
              · rename_i hbad
                rw [List.append_nil]
                exact .stop hspelled (List.contains_iff_mem.mp hbad) rest
              · refine .field hspelled (fun sought h hin => ?_) (ih ?_)
                · exact hsought h (List.prefix_cons_inj _ |>.mpr hin)
                · simp only [List.length_cons, List.length_append] at hturns
                  omega
          | @plain text item hpercent htext hzoned hbad _ =>
              have hrest : rest.length ≤ turns := by
                have hlength := List.length_pos_iff.mpr htext
                rw [List.length_append] at hturns
                omega
              rw [if_neg (by simpa using hbad.symm)]
              exact .plain hpercent hzoned (ih hrest)
          | bad cs =>
              -- as if it had no letters
              have hspelled : Spelled [] [.bad] :=
                ⟨nofun, fun h => nomatch h⟩
              exact .stop hspelled (List.mem_singleton_self _) cs

/-- An item that gives an offset is spelled out in the format. -/
theorem Lexed.spelled {cs : List Char} {items : List Item}
    (h : Lexed cs items) (hzoned : items.any zoned = true) :
    ∃ letters ∈ zoneLetters, '%' :: letters <:+: cs := by
  induction h with
  | nil => cases hzoned
  | @field letters rest items more hspelled _ _ ih =>
      rw [List.any_append, Bool.or_eq_true] at hzoned
      obtain hzoned | hzoned := hzoned
      · exact ⟨letters, hspelled.zoned hzoned,
          (List.prefix_append ('%' :: letters) rest).isInfix⟩
      · obtain ⟨found, hfound, hin⟩ := ih hzoned
        exact ⟨found, hfound,
          hin.trans (List.suffix_append ('%' :: letters) rest).isInfix⟩
  | @plain text rest item more _ hitem _ ih =>
      rw [List.any_cons, hitem, Bool.false_or] at hzoned
      obtain ⟨found, hfound, hin⟩ := ih hzoned
      exact ⟨found, hfound, hin.trans (List.suffix_append text rest).isInfix⟩
  | @stop letters items hspelled _ rest =>
      exact ⟨letters, hspelled.zoned hzoned,
        (List.prefix_append ('%' :: letters) rest).isInfix⟩

theorem infix_of_infix_append {text letters rest : List Char}
    (hpercent : '%' ∉ text) (h : '%' :: letters <:+: text ++ rest) :
    '%' :: letters <:+: rest := by
  induction text with
  | nil => exact h
  | cons c text ih =>
      rw [List.mem_cons, not_or] at hpercent
      rw [List.cons_append, List.infix_cons_iff] at h
      obtain h | h := h
      · exact absurd (List.cons_prefix_cons.mp h).1 hpercent.1
      · exact ih hpercent.2 h

/-- What the search finds in a format without an offset, comes behind one
more percent sign. -/
theorem Lexed.escaped {cs sought : List Char} {items : List Item}
    (h : Lexed cs items) (hbad : .bad ∉ items)
    (hzoned : items.any zoned = false) (hsought : sought ∈ soughtLetters)
    (hin : '%' :: sought <:+: cs) : '%' :: '%' :: sought <:+: cs := by
  induction h with
  | nil => cases List.infix_nil.mp hin
  | @field letters rest items more hspelled hstart _ ih =>
      rw [List.mem_append, not_or] at hbad
      rw [List.any_append, Bool.or_eq_false_iff] at hzoned
      have hrest (hin : '%' :: sought <:+: rest) :
          '%' :: '%' :: sought <:+: '%' :: (letters ++ rest) :=
        (ih hbad.2 hzoned.2 hin).trans
          (List.suffix_append ('%' :: letters) rest).isInfix
      obtain hin | hin := List.infix_cons_iff.mp hin
      · have hhere := hstart sought hsought (List.cons_prefix_cons.mp hin).2
        rw [hzoned.1] at hhere
        cases hhere
      · by_cases hpercent : '%' ∈ letters
        · -- the field stands for a percent sign
          obtain rfl := hspelled.percent hpercent
          obtain hin | hin := List.infix_cons_iff.mp hin
          · exact ((List.prefix_cons_inj _).mpr hin).isInfix
          · exact hrest hin
        · exact hrest (infix_of_infix_append hpercent hin)
  | @plain text rest item more hpercent _ _ ih =>
      rw [List.any_cons, Bool.or_eq_false_iff] at hzoned
      have hrest := ih (fun h => hbad (List.mem_cons_of_mem _ h)) hzoned.2
        (infix_of_infix_append hpercent hin)
      exact hrest.trans (List.suffix_append text rest).isInfix
  | stop _ hmem _ => exact absurd hmem hbad

theorem lexed_ofFormat (format : String) :
    Lexed format.toList (ofFormat format) :=
  lexed_readAll (Nat.le_refl _)

end Item

-- =============================================================== search

namespace Instant

theorem occursIn_iff {part cs : List Char} :
    occursIn part cs = true ↔ part <:+: cs := by
  induction cs with
  | nil =>
      unfold occursIn
      rw [List.isEmpty_iff, List.infix_nil]
  | cons c cs ih =>
      unfold occursIn
      rw [Bool.or_eq_true, List.isPrefixOf_iff_prefix, ih,
        List.infix_cons_iff]

theorem asksForOffset_iff {format : String} :
    asksForOffset format = true
      ↔ ∃ sought ∈ Item.soughtLetters, '%' :: sought <:+: format.toList := by
  unfold asksForOffset
  rw [Bool.or_eq_true, occursIn_iff, occursIn_iff]
  simp [Item.soughtLetters]

end Instant

end Logline.Calendar
