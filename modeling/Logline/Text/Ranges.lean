/-
Sets of characters written as ranges of code points. The tables of this folder are properties of
the Unicode standard in this form: ends included, in increasing order.
-/
namespace Logline.Text

/-- Ranges of code points, ends included, in increasing order. -/
abbrev Ranges := List (Nat × Nat)

/-- Whether a code point lies in one of the ranges; the search ends at the first range beyond it. -/
def Ranges.contains : Ranges → Nat → Bool
  | [], _ => false
  | (low, high) :: rest, n =>
    if n < low then false else if n ≤ high then true else Ranges.contains rest n

end Logline.Text
