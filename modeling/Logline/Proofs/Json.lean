/-
Compact JSON is one line.

A line feed could come from three places: from a text, where it is escaped,
from a number, which is digits and a minus, and from what stands between the
parts of an object. So the proof is one for a character, one for a number,
and the induction over the value that follows the two functions that write
it.
-/
import Logline.Json

namespace Logline.Json

theorem digitChar_ne_lineFeed {n : Nat} (h : n < 16) :
    Nat.digitChar n ≠ '\n' := by
  have hall : ∀ k : Fin 16, Nat.digitChar k ≠ '\n' := by decide
  exact hall ⟨n, h⟩

/-- No character is escaped to a line feed. -/
theorem lineFeed_not_mem_escapedChar (c : Char) : '\n' ∉ escapedChar c := by
  unfold escapedChar
  split
  case h_8 _ _ hlf _ _ _ _ =>
      split
      · rename_i hcontrol
        have hhigh := digitChar_ne_lineFeed (n := c.toNat / 16) (by omega)
        have hlow := digitChar_ne_lineFeed (n := c.toNat % 16) (by omega)
        simp [hhigh.symm, hlow.symm]
      · rw [List.mem_singleton]
        exact fun h => hlf h.symm
  all_goals decide

theorem lineFeed_not_mem_quote (s : String) : '\n' ∉ (quote s).toList := by
  unfold quote
  rw [String.toList_ofList, List.mem_append, List.mem_cons, List.mem_flatMap]
  rintro ((h | ⟨c, -, h⟩) | h)
  · exact absurd h (by decide)
  · exact lineFeed_not_mem_escapedChar c h
  · exact absurd (List.mem_singleton.mp h) (by decide)

theorem lineFeed_not_mem_toString (n : Int) : '\n' ∉ (toString n).toList := by
  have hdigits : ∀ m : Nat, '\n' ∉ m.repr.toList := by
    intro m h
    rw [Nat.toList_repr] at h
    exact absurd (Nat.isDigit_of_mem_toDigits (by decide) (by decide) h)
      (by decide)
  rw [Int.toString_eq_repr, Int.repr_eq_if]
  split
  · exact hdigits _
  · rw [String.toList_append, List.mem_append]
    rintro (h | h)
    · exact absurd h (by decide)
    · exact hdigits _ h

mutual

/-- A compact value is one line. -/
theorem lineFeed_not_mem_compact : ∀ j : Json, '\n' ∉ j.compact.toList
  | null => by decide
  | bool b => by cases b <;> decide
  | int n => lineFeed_not_mem_toString n
  | str s => lineFeed_not_mem_quote s
  | obj fields => by
      have hfields := lineFeed_not_mem_compactFields fields
      simp [compact, hfields]

theorem lineFeed_not_mem_compactFields :
    ∀ fields : List (String × Json), '\n' ∉ (compactFields fields).toList
  | [] => by decide
  | [(name, value)] => by
      have hvalue := lineFeed_not_mem_compact value
      simp [compactFields, lineFeed_not_mem_quote, hvalue]
  | (name, value) :: second :: rest => by
      have hvalue := lineFeed_not_mem_compact value
      have hrest := lineFeed_not_mem_compactFields (second :: rest)
      simp [compactFields, lineFeed_not_mem_quote, hvalue, hrest]

end

end Logline.Json
