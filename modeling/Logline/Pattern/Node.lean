/-
Patterns and how they match.

A pattern is a tree. At a place of a text it can match in several ways, and `Node.ways` lists
them in the order in which they are preferred: the left branch of a choice before the right one,
one more round of a greedy repetition before none, none before one more round of a lazy one. Of
two ways that end at the same place the first one wins, since whatever follows would do the same
after either; that keeps the list no longer than the text. A repetition likewise does not go on
from a place it has been at, so a round that matches nothing ends it.

A match of the text is the first way from the first place from which there is one.
-/
import Logline.Pattern.CharClass

namespace Logline.Pattern

open Text

-- ========================================================== places

/-- A place in a text: the character before it, what follows it, and its distance from the
start. -/
structure Place where
  before : Option Char
  rest : List Char
  position : Nat

-- ========================================================= anchors

/-- A condition on a place. -/
inductive Anchor where
  | textStart
  | textEnd
  | lineStart
  | lineEnd
  /-- Lines that a carriage return, a line feed or both end. -/
  | anyLineStart
  | anyLineEnd
  | wordBoundary (unicode : Bool)
  | notWordBoundary (unicode : Bool)
  | wordStart (unicode : Bool)
  | wordEnd (unicode : Bool)
  | wordStartHalf (unicode : Bool)
  | wordEndHalf (unicode : Bool)
  deriving DecidableEq, Repr

/-- Whether there is a word character. -/
def isWordAt (unicode : Bool) : Option Char → Bool
  | none => false
  | some c => if unicode then isWordChar c else CharClass.asciiWord.holds c

def Anchor.holds (a : Anchor) (before after : Option Char) : Bool :=
  match a with
  | textStart => before.isNone
  | textEnd => after.isNone
  | lineStart => before.isNone || before = some '\n'
  | lineEnd => after.isNone || after = some '\n'
  | anyLineStart =>
    before.isNone || before = some '\n' || (before = some '\r' && after ≠ some '\n')
  | anyLineEnd => after.isNone || after = some '\r' || (after = some '\n' && before ≠ some '\r')
  | wordBoundary u => isWordAt u before != isWordAt u after
  | notWordBoundary u => isWordAt u before == isWordAt u after
  | wordStart u => !isWordAt u before && isWordAt u after
  | wordEnd u => isWordAt u before && !isWordAt u after
  | wordStartHalf u => !isWordAt u before
  | wordEndHalf u => !isWordAt u after

-- =========================================================== trees

/-- A pattern as a tree. -/
inductive Node where
  | empty
  | chars (a : CharClass)
  | anchor (a : Anchor)
  | seq (first second : Node)
  | alt (preferred other : Node)
  /-- One or more characters of a class. -/
  | run (greedy : Bool) (a : CharClass)
  /-- One or more rounds. -/
  | many (greedy : Bool) (body : Node)
  /-- Up to a number of rounds. -/
  | upTo (greedy : Bool) (most : Nat) (body : Node)
  | group (name : String) (body : Node)
  deriving Repr

namespace Node

/-- One or more rounds, where a single character is a run. -/
def oneOrMore (greedy : Bool) : Node → Node
  | chars a => run greedy a
  | body => many greedy body

/-- None or one, in the order of preference. -/
def optional (greedy : Bool) (body : Node) : Node :=
  if greedy then alt body empty else alt empty body

def zeroOrMore (greedy : Bool) (body : Node) : Node := optional greedy (oneOrMore greedy body)

/-- This many rounds. Sequences lean to the left: what comes first has found its ways, each end
once, before the next part is asked. -/
def exactly (body : Node) : Nat → Node
  | 0 => empty
  | 1 => body
  | n + 1 => seq (exactly body n) body

/-- No more rounds than this. -/
def atMost (greedy : Bool) (body : Node) : Nat → Node
  | 0 => empty
  | 1 => optional greedy body
  | n => upTo greedy n body

/-- Rounds between two bounds, or from a bound on. -/
def rounds (greedy : Bool) (least : Nat) (most : Option Nat) (body : Node) : Node :=
  match most with
  | some most =>
    if most = 0 then empty
    else if most = least then exactly body least
    else if least = 0 then atMost greedy body most
    else seq (exactly body least) (atMost greedy body (most - least))
  | none =>
    if least = 0 then zeroOrMore greedy body
    else if least = 1 then oneOrMore greedy body
    else seq (exactly body (least - 1)) (oneOrMore greedy body)

/-- The names of the groups, in the order of their opening. -/
def names : Node → List String
  | empty => []
  | chars _ => []
  | anchor _ => []
  | seq a b => let first := names a; first ++ (names b).filter (!first.contains ·)
  | alt a b => let first := names a; first ++ (names b).filter (!first.contains ·)
  | run _ _ => []
  | many _ body => names body
  | upTo _ _ body => names body
  | group name body => name :: (names body).filter (· ≠ name)

end Node

-- ============================================================ ways

/-- What a group matched: the text from its start on, and how much of it. -/
structure Capture where
  name : String
  start : List Char
  width : Nat

/-- A way to match: the place it ends at, and the captures so far, the last one first. -/
structure Way where
  place : Place
  captures : List Capture

/-- A set of positions, one bit for each. -/
abbrev Positions := Nat

namespace Positions

def none : Positions := 0

def holds (s : Positions) (position : Nat) : Bool := s.testBit position

def add (s : Positions) (position : Nat) : Positions := s ||| 1 <<< position

theorem holds_none (p : Nat) : none.holds p = false := by simp [none, holds]

theorem holds_add (s : Positions) (p q : Nat) :
    (s.add p).holds q = (p == q || s.holds q) := by
  simp only [add, holds, Nat.testBit_or, Nat.one_shiftLeft, Nat.testBit_two_pow]
  by_cases h : p = q <;> simp [h]

end Positions

/-- The ways without those that end where an earlier one does. -/
def firsts : Positions → List Way → List Way
  | _, [] => []
  | seen, w :: rest =>
    if seen.holds w.place.position then firsts seen rest
    else w :: firsts (seen.add w.place.position) rest

/-- The places after one or more characters of a class, the nearest first. -/
def runPlaces (a : CharClass) (position : Nat) : List Char → List Place
  | [] => []
  | c :: rest =>
    if a.holds c then ⟨some c, rest, position + 1⟩ :: runPlaces a (position + 1) rest else []

/-- What a repetition has found: its ways, the last one first, and the places it has been at. -/
structure Found where
  ways : List Way
  seen : Positions

/-- The ways of a repetition from the ends of its latest round. From each end that is new it goes
on with another round, unless the first round made no progress. -/
def afterRound (greedy : Bool) (origin : Nat) (another : Way → Found → Found) :
    List Way → Found → Found
  | [], found => found
  | w :: rest, found =>
    if found.seen.holds w.place.position then afterRound greedy origin another rest found
    else
      let found := { found with seen := found.seen.add w.place.position }
      let ends (f : Found) : Found := { f with ways := w :: f.ways }
      if w.place.position = origin then afterRound greedy origin another rest (ends found)
      else if greedy then afterRound greedy origin another rest (ends (another w found))
      else afterRound greedy origin another rest (another w (ends found))

/-- The rounds of a repetition, as many as there are characters left and one more. -/
def allRounds (greedy : Bool) (body : Way → List Way) (origin : Nat) :
    Nat → Way → Found → Found
  | 0, _, found => found
  | n + 1, w, found =>
    afterRound greedy origin (allRounds greedy body origin n) (body w) found

/-- The ways of a repetition with rounds left, from the end of a way. The same place may be
reached with other numbers of rounds left, and then it is a place of its own. -/
def boundedRounds (greedy : Bool) (most : Nat) (body : Way → List Way) :
    Nat → Way → Found → Found
  | left, w, found =>
    let slot := w.place.position * (most + 1) + left
    if found.seen.holds slot then found
    else
      let found := { found with seen := found.seen.add slot }
      let ends (f : Found) : Found := { f with ways := w :: f.ways }
      match left with
      | 0 => ends found
      | left + 1 =>
        let goOn (f : Found) : Found :=
          (body w).foldl (fun f e => boundedRounds greedy most body left e f) f
        if greedy then ends (goOn found) else goOn (ends found)

namespace Node

/-- The ways in which a pattern matches from the end of a way, in order of preference. -/
def ways : Node → Way → List Way
  | empty, w => [w]
  | chars a, w =>
    match w.place.rest with
    | [] => []
    | c :: rest => if a.holds c then [⟨⟨some c, rest, w.place.position + 1⟩, w.captures⟩] else []
  | anchor a, w => if a.holds w.place.before w.place.rest.head? then [w] else []
  | seq a b, w => firsts .none ((ways a w).flatMap (ways b))
  | alt a b, w => firsts .none (ways a w ++ ways b w)
  | run greedy a, w =>
    let places := runPlaces a w.place.position w.place.rest
    (if greedy then places.reverse else places).map (⟨·, w.captures⟩)
  | many greedy body, w =>
    (allRounds greedy (ways body) w.place.position (w.place.rest.length + 1) w
      ⟨[], .none⟩).ways.reverse
  | upTo greedy most body, w =>
    firsts .none (boundedRounds greedy most (ways body) most w ⟨[], .none⟩).ways.reverse
  | group name body, w =>
    (ways body w).map fun e =>
      ⟨e.place, ⟨name, w.place.rest, e.place.position - w.place.position⟩ :: e.captures⟩

/-- The captures of the first match from a place on. -/
def search (node : Node) (before : Option Char) (position : Nat) :
    List Char → Option (List Capture)
  | [] => (ways node ⟨⟨before, [], position⟩, []⟩).head?.map Way.captures
  | c :: rest =>
    match ways node ⟨⟨before, c :: rest, position⟩, []⟩ with
    | w :: _ => some w.captures
    | [] => search node (some c) (position + 1) rest

end Node

/-- The text of the last capture of a group. -/
def captured? (name : String) : List Capture → Option (List Char)
  | [] => none
  | c :: rest => if c.name = name then some (c.start.take c.width) else captured? name rest

end Logline.Pattern
