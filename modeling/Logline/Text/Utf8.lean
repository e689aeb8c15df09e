/-
Reading UTF-8. `decode?` refuses a sequence that is not UTF-8; `decodeLossy` reads any sequence
and puts one replacement character for each part that cannot be continued to a character: a bad
lead byte alone, or a lead byte with the tails it got before the first byte that does not fit.

Both run one machine over the bytes. A byte below 0x80 always ends what came before it, so a line
feed splits a sequence into parts that decode each on their own.
-/
namespace Logline.Text

/-- A character under way: its bits so far, the tails owed, and the bounds of the next tail. -/
structure Unfinished where
  bits : Nat
  owed : Nat
  low : UInt8
  high : UInt8

/-- What one byte leads to. -/
inductive ByteStep where
  | whole (c : Char)
  | more (state : Unfinished)
  | bad

/-- A byte between characters. -/
def leadByte (b : UInt8) : ByteStep :=
  let n := b.toNat
  if n ≤ 0x7F then .whole (Char.ofNat n)
  else if 0xC2 ≤ n ∧ n ≤ 0xDF then .more ⟨n - 0xC0, 1, 0x80, 0xBF⟩
  else if n = 0xE0 then .more ⟨0, 2, 0xA0, 0xBF⟩
  else if n = 0xED then .more ⟨0xD, 2, 0x80, 0x9F⟩
  else if 0xE1 ≤ n ∧ n ≤ 0xEF then .more ⟨n - 0xE0, 2, 0x80, 0xBF⟩
  else if n = 0xF0 then .more ⟨0, 3, 0x90, 0xBF⟩
  else if 0xF1 ≤ n ∧ n ≤ 0xF3 then .more ⟨n - 0xF0, 3, 0x80, 0xBF⟩
  else if n = 0xF4 then .more ⟨4, 3, 0x80, 0x8F⟩
  else .bad

/-- A byte within a character. -/
def tailByte (state : Unfinished) (b : UInt8) : ByteStep :=
  if state.low ≤ b ∧ b ≤ state.high then
    let bits := state.bits * 64 + (b.toNat - 0x80)
    if state.owed = 1 then .whole (Char.ofNat bits)
    else .more ⟨bits, state.owed - 1, 0x80, 0xBF⟩
  else .bad

/-- What stands for a part that is no character. -/
def replacement : Char := Char.ofNat 0xFFFD

/-- Decodes from a state of the machine. A byte that breaks a character off is read again as a
lead byte. -/
def decodeFrom : Option Unfinished → List UInt8 → List Char
  | none, [] => []
  | some _, [] => [replacement]
  | none, b :: rest =>
    match leadByte b with
    | .whole c => c :: decodeFrom none rest
    | .more state => decodeFrom (some state) rest
    | .bad => replacement :: decodeFrom none rest
  | some state, b :: rest =>
    match tailByte state b with
    | .whole c => c :: decodeFrom none rest
    | .more state => decodeFrom (some state) rest
    | .bad =>
      replacement ::
        match leadByte b with
        | .whole c => c :: decodeFrom none rest
        | .more state => decodeFrom (some state) rest
        | .bad => replacement :: decodeFrom none rest

/-- The text of any bytes. -/
def decodeLossy (bytes : List UInt8) : String := String.ofList (decodeFrom none bytes)

/-- Decodes from a state of the machine, or stops at the first byte that does not fit. -/
def decodeFrom? : Option Unfinished → List UInt8 → Option (List Char)
  | none, [] => some []
  | some _, [] => none
  | none, b :: rest =>
    match leadByte b with
    | .whole c => (decodeFrom? none rest).map (c :: ·)
    | .more state => decodeFrom? (some state) rest
    | .bad => none
  | some state, b :: rest =>
    match tailByte state b with
    | .whole c => (decodeFrom? none rest).map (c :: ·)
    | .more state => decodeFrom? (some state) rest
    | .bad => none

/-- The text of bytes that are UTF-8. -/
def decode? (bytes : List UInt8) : Option String := (decodeFrom? none bytes).map String.ofList

end Logline.Text
