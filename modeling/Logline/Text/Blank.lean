/-
White space, as the Unicode property of that name has it, and the two ways in which texts lose
it at their ends.
-/
import Logline.Text.Ranges

namespace Logline.Text

/-- The characters with the property White_Space. -/
def blankRanges : Ranges :=
  [(0x9, 0xD), (0x20, 0x20), (0x85, 0x85), (0xA0, 0xA0), (0x1680, 0x1680), (0x2000, 0x200A),
  (0x2028, 0x2029), (0x202F, 0x202F), (0x205F, 0x205F), (0x3000, 0x3000)]

/-- Whether a character is white space. The zero-width space is not. -/
def isBlank (c : Char) : Bool := blankRanges.contains c.toNat

/-- The text without the white space at its start. -/
def dropBlanks (cs : List Char) : List Char := cs.dropWhile isBlank

/-- The text without the white space at both ends. -/
def trimBlanks (cs : List Char) : List Char := (dropBlanks (dropBlanks cs).reverse).reverse

/-- The string without the white space at both ends. -/
def trim (s : String) : String := String.ofList (trimBlanks s.toList)

end Logline.Text
