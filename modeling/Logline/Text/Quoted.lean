/-
Quoted texts, as diagnostics show them: between double quotes, on one line, with every character
that would not show escaped. The quote and the backslash take a backslash, so the quotes that
enclose the text are the only bare ones.
-/
import Logline.Text.Visible

namespace Logline.Text

/-- A code point in braces, in hexadecimal, after `\u`. -/
def escapeCodePoint (c : Char) : List Char :=
  '\\' :: 'u' :: '\x7b' :: Nat.toDigits 16 c.toNat ++ ['\x7d']

/-- A character as it stands between the quotes. -/
def quotedChar (c : Char) : List Char :=
  match c with
  | '"' => ['\\', '"']
  | '\\' => ['\\', '\\']
  | '\t' => ['\\', 't']
  | '\n' => ['\\', 'n']
  | '\r' => ['\\', 'r']
  | '\x00' => ['\\', '0']
  | c => if isVisible c then [c] else escapeCodePoint c

/-- The text between quotes. -/
def quoted (s : String) : String :=
  String.ofList ('"' :: s.toList.flatMap quotedChar ++ ['"'])

end Logline.Text
