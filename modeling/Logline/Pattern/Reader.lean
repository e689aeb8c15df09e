/-
Reading patterns.

A pattern is read from left to right. What has been read of the sequence at hand is a stack of
items, so that a repetition can take the last one; what encloses it is a stack of open groups.
Flags hold from where they are set to the end of the group they are set in. In the extended
notation white space and comments stand for nothing, so they are skipped wherever a new element
may begin.

Everything that is not well formed is refused as a whole, without saying why.
-/
import Logline.Pattern.Node

namespace Logline.Pattern

open Text

namespace Reader

-- =========================================================== flags

/-- The flags in force. -/
structure Flags where
  ignoreCase : Bool
  dotMatchesAll : Bool
  multiLine : Bool
  extended : Bool
  lazyByDefault : Bool
  unicode : Bool
  anyLineBreak : Bool

def Flags.initial : Flags := ⟨false, false, false, false, false, true, false⟩

/-- Sets or clears the flag of a letter. -/
def Flags.set? (f : Flags) (letter : Char) (on : Bool) : Option Flags :=
  match letter with
  | 'i' => some { f with ignoreCase := on }
  | 's' => some { f with dotMatchesAll := on }
  | 'm' => some { f with multiLine := on }
  | 'x' => some { f with extended := on }
  | 'U' => some { f with lazyByDefault := on }
  | 'u' => some { f with unicode := on }
  | 'R' => some { f with anyLineBreak := on }
  | _ => none

/-- Reads flags up to the colon or bracket that ends them, which it leaves. A minus clears the
flags after it; it may stand once and not last, and no letter may come twice. Gives whether there
was anything at all. -/
def readFlags (f : Flags) (on afterMinus : Bool) (letters : List Char) :
    List Char → Option (Flags × Bool × List Char)
  | [] => none
  | c :: rest =>
    if c = ':' ∨ c = ')' then
      if afterMinus then none else some (f, !(letters.isEmpty && on), c :: rest)
    else if c = '-' then
      if on then readFlags f false true letters rest else none
    else if letters.contains c then none
    else
      match f.set? c on with
      | some f => readFlags f on false (c :: letters) rest
      | none => none

-- ========================================================== blanks

/-- Skips a comment with the line feed that ends it. -/
def skipComment : List Char → List Char
  | [] => []
  | c :: rest => if c = '\n' then rest else skipComment rest

theorem skipComment_length_le (cs : List Char) : (skipComment cs).length ≤ cs.length := by
  induction cs with
  | nil => simp [skipComment]
  | cons c rest ih =>
    simp only [skipComment]
    split
    · simp
    · simp only [List.length_cons]; omega

/-- Skips white space and comments. -/
def skipBlanks (cs : List Char) : List Char :=
  match cs with
  | [] => []
  | c :: rest =>
    if isBlank c then skipBlanks rest
    else if c = '#' then skipBlanks (skipComment rest)
    else c :: rest
termination_by cs.length
decreasing_by
  · simp
  · have := skipComment_length_le rest
    simp only [List.length_cons]; omega

/-- Skips what stands for nothing in the notation at hand. -/
def skip (f : Flags) (cs : List Char) : List Char := if f.extended then skipBlanks cs else cs

-- ========================================================= escapes

/-- Characters that mean something in patterns. -/
def isMeta (c : Char) : Bool := "\\.+*?()|[]\x7b\x7d^$#&-~".toList.contains c

/-- Characters that a backslash may stand before for nothing: every one of ASCII that is neither
letter nor digit, but for the angle brackets. -/
def isEscapable (c : Char) : Bool :=
  isMeta c || (c.toNat < 0x80 && !c.isAlphanum && c != '<' && c != '>')

/-- A single element of a pattern. -/
inductive Primitive where
  /-- A character. A byte is one that is written with two hexadecimal digits. -/
  | char (c : Char) (byte : Bool)
  | cls (a : CharClass)
  | anchor (a : Anchor)

def hexDigit? (c : Char) : Option Nat :=
  if c.isDigit then some (c.toNat - 0x30)
  else if 'a' ≤ c ∧ c ≤ 'f' then some (c.toNat - 0x61 + 10)
  else if 'A' ≤ c ∧ c ≤ 'F' then some (c.toNat - 0x41 + 10)
  else none

/-- The character with a code in hexadecimal. -/
def hexChar? (digits : List Char) : Option Char :=
  if digits.isEmpty then none
  else
    match digits.mapM hexDigit? with
    | none => none
    | some values =>
      let n := values.foldl (fun n v => if n < 0x110000 then n * 16 + v else n) 0
      if n < 0xD800 ∨ (0xE000 ≤ n ∧ n < 0x110000) then some (Char.ofNat n) else none

/-- A code in hexadecimal: a fixed number of digits, or any number of them in braces. -/
def readHex (f : Flags) (width : Nat) (cs : List Char) : Option (Primitive × List Char) :=
  match skip f cs with
  | '\x7b' :: rest =>
    let digits := rest.takeWhile (· != '\x7d')
    match rest.dropWhile (· != '\x7d') with
    | _ :: rest =>
      (hexChar? (digits.filter fun c => !(f.extended && isBlank c))).map (.char · false, rest)
    | [] => none
  | rest =>
    let digits := rest.take width
    if digits.length < width then none
    else (hexChar? digits).map fun c => (.char c (width = 2 && 0x7F < c.toNat), rest.drop width)

/-- The name of a property, without the characters that do not count. -/
def looseName (cs : List Char) : String :=
  String.ofList ((cs.filter fun c => c != '_' && c != '-' && !isBlank c).map Char.toLower)

/-- A property: one letter, or a name in braces. A circumflex takes the complement. -/
def readProperty (f : Flags) (complement : Bool) (cs : List Char) :
    Option (Primitive × List Char) :=
  let ofName (name : List Char) (complement : Bool) (rest : List Char) :=
    if f.unicode then
      (CharClass.propertyNamed? (looseName name)).map fun a =>
        let a := if f.ignoreCase then .folded a else a
        (Primitive.cls (if complement then .complement a else a), rest)
    else none
  match cs with
  | '\x7b' :: rest =>
    let name := rest.takeWhile (· != '\x7d')
    match rest.dropWhile (· != '\x7d') with
    | _ :: rest =>
      match name with
      | '^' :: name => ofName name (!complement) rest
      | name => ofName name complement rest
    | [] => none
  | c :: rest => ofName [c] complement rest
  | [] => none

/-- What may stand in braces after the escape of the word boundary. -/
def wordAnchor? (unicode : Bool) : String → Option Anchor
  | "start" => some (.wordStart unicode)
  | "end" => some (.wordEnd unicode)
  | "start-half" => some (.wordStartHalf unicode)
  | "end-half" => some (.wordEndHalf unicode)
  | _ => none

def isAnchorLetter (c : Char) : Bool := c.isAlpha || c = '-'

/-- A word boundary, which may be followed by its kind in braces. Braces that do not start like a
kind are left to be read as a repetition. -/
def readWordBoundary (f : Flags) (cs : List Char) : Option (Primitive × List Char) :=
  match cs with
  | '\x7b' :: rest =>
    match skip f rest with
    | [] => none
    | c :: more =>
      if isAnchorLetter c then
        let body := (c :: more).filter fun c => !(f.extended && isBlank c)
        let kind := body.takeWhile isAnchorLetter
        match body.dropWhile isAnchorLetter, (c :: more).dropWhile (· != '\x7d') with
        | '\x7d' :: _, _ :: rest =>
          (wordAnchor? f.unicode (String.ofList kind)).map (.anchor ·, rest)
        | _, _ => none
      else some (.anchor (.wordBoundary f.unicode), cs)
  | cs => some (.anchor (.wordBoundary f.unicode), cs)

/-- What follows a backslash. -/
def readEscape (f : Flags) (cs : List Char) : Option (Primitive × List Char) :=
  match cs with
  | [] => none
  | c :: rest =>
    match c with
    | 'x' => readHex f 2 rest
    | 'u' => readHex f 4 rest
    | 'U' => readHex f 8 rest
    | 'p' => readProperty f false (skip f rest)
    | 'P' => readProperty f true (skip f rest)
    | 'a' => some (.char '\x07' false, rest)
    | 'f' => some (.char '\x0c' false, rest)
    | 't' => some (.char '\t' false, rest)
    | 'n' => some (.char '\n' false, rest)
    | 'r' => some (.char '\r' false, rest)
    | 'v' => some (.char '\x0b' false, rest)
    | 'A' => some (.anchor .textStart, rest)
    | 'z' => some (.anchor .textEnd, rest)
    | 'b' => readWordBoundary f rest
    | 'B' => some (.anchor (.notWordBoundary f.unicode), rest)
    | '<' => some (.anchor (.wordStart f.unicode), rest)
    | '>' => some (.anchor (.wordEnd f.unicode), rest)
    | c =>
      match CharClass.ofLetter? f.unicode c with
      | some a => some (.cls a, rest)
      | none => if isEscapable c then some (.char c false, rest) else none

-- ========================================================= classes

/-- An operation between two classes. -/
inductive ClassOp where
  | intersection
  | difference
  | symmetricDifference

def ClassOp.apply : ClassOp → CharClass → CharClass → CharClass
  | intersection, a, b => .inter a b
  | difference, a, b => .difference a b
  | symmetricDifference, a, b => .symmetricDifference a b

/-- A class within brackets so far: what comes before the last operation, and what follows it. -/
structure OpenClass where
  negated : Bool
  before : Option (ClassOp × CharClass)
  items : CharClass
  /-- How deep brackets nest in it. -/
  depth : Nat

/-- The class with what differs in case, where case is ignored. -/
def foldCase (f : Flags) (a : CharClass) : CharClass :=
  if f.ignoreCase then (if f.unicode then .folded a else .foldedAscii a) else a

namespace OpenClass

def add (o : OpenClass) (a : CharClass) : OpenClass := { o with items := .union o.items a }

/-- What has been read, with the last operation carried out. -/
def value (f : Flags) (o : OpenClass) : CharClass :=
  match o.before with
  | none => foldCase f o.items
  | some (op, a) => op.apply a (foldCase f o.items)

/-- Goes on behind an operation. -/
def operate (f : Flags) (o : OpenClass) (op : ClassOp) : OpenClass :=
  { o with before := some (op, o.value f), items := .none, depth := o.depth + 1 }

/-- The class when its bracket closes. -/
def close (f : Flags) (o : OpenClass) : CharClass :=
  if o.negated then .complement (o.value f) else o.value f

end OpenClass

/-- Minus signs at the start of a class stand for themselves. -/
def leadingMinuses (f : Flags) (o : OpenClass) : List Char → OpenClass × List Char
  | [] => (o, [])
  | c :: rest =>
    if c = '-' then leadingMinuses f (o.add (.single '-')) rest
    else if f.extended && isBlank c then leadingMinuses f o rest
    else (o, c :: rest)

/-- The start of a class, behind its bracket: a circumflex, minus signs, and a closing bracket
that stands for itself where the class would else be empty. -/
def openClass (f : Flags) (cs : List Char) : OpenClass × List Char :=
  let (negated, cs) := match skip f cs with
    | '^' :: rest => (true, skip f rest)
    | cs => (false, cs)
  let hasMinus := cs.head? == some '-'
  let (o, cs) := leadingMinuses f ⟨negated, none, .none, 1⟩ cs
  match hasMinus, cs with
  | false, ']' :: rest => (o.add (.single ']'), rest)
  | _, cs => (o, cs)

/-- A named class in brackets within brackets, behind the first bracket. -/
def namedClass? (cs : List Char) : Option (CharClass × List Char) :=
  match cs with
  | ':' :: rest =>
    let (negated, rest) := match rest with
      | '^' :: rest => (true, rest)
      | rest => (false, rest)
    match rest.dropWhile (· != ':') with
    | ':' :: ']' :: after =>
      (CharClass.named? (String.ofList (rest.takeWhile (· != ':')))).map fun a =>
        (if negated then .complement a else a, after)
    | _ => none
  | _ => none

/-- A single element of a class. -/
def readClassElement (f : Flags) (cs : List Char) : Option (Primitive × List Char) :=
  match cs with
  | [] => none
  | '\\' :: rest => readEscape f rest
  | c :: rest => some (.char c false, rest)

/-- The bound of a range. Outside the Unicode notation it is a byte. -/
def boundOf? (f : Flags) : Primitive → Option Char
  | .char c byte => if f.unicode || byte || c.toNat < 0x80 then some c else none
  | _ => none

/-- An element or a range of a class. -/
def readClassItem (f : Flags) (cs : List Char) : Option (CharClass × List Char) := do
  let (first, rest) ← readClassElement f cs
  let rest := skip f rest
  let alone : Option (CharClass × List Char) :=
    match first with
    | .char _ _ => (boundOf? f first).map fun c => (.single c, rest)
    | .cls a => some (a, rest)
    | .anchor _ => none
  match rest with
  | [] => none
  | '-' :: after =>
    match skip f after with
    | [] => none
    | ']' :: _ => alone
    | '-' :: _ => alone
    | after => do
      let (last, rest) ← readClassElement f after
      let low ← boundOf? f first
      let high ← boundOf? f last
      if high.toNat < low.toNat then none else some (.range low.toNat high.toNat, rest)
  | _ => alone

/-- The rest of a class, given as many turns as it has characters: the class, how deep brackets
nest in it, and what follows. -/
def readClass (f : Flags) : Nat → OpenClass → List Char → Option (CharClass × Nat × List Char)
  | 0, _, _ => none
  | turns + 1, o, cs =>
    match skip f cs with
    | [] => none
    | '[' :: rest =>
      match namedClass? rest with
      | some (a, rest) => readClass f turns (o.add a) rest
      | none =>
        let (inner, rest) := openClass f rest
        match readClass f turns inner rest with
        | some (a, depth, rest) =>
          readClass f turns { o.add a with depth := max o.depth (depth + 1) } rest
        | none => none
    | ']' :: rest => some (o.close f, o.depth, rest)
    | '&' :: '&' :: rest => readClass f turns (o.operate f .intersection) rest
    | '-' :: '-' :: rest => readClass f turns (o.operate f .difference) rest
    | '~' :: '~' :: rest => readClass f turns (o.operate f .symmetricDifference) rest
    | cs =>
      match readClassItem f cs with
      | some (a, rest) => readClass f turns (o.add a) rest
      | none => none

-- =========================================================== items

/-- An element of a sequence: its tree, how deep it nests, and how large the machine for it would
be. A setting of flags is an element that cannot be repeated. -/
structure Element where
  node : Node
  depth : Nat
  size : Nat
  repeatable : Bool

/-- How deep a pattern may nest. -/
def depthLimit : Nat := 250

/-- How large a pattern may be, in bytes of a machine with 32 bytes for a state. -/
def sizeLimit : Nat := 10485760

/-- The bytes that a class takes. A class of Unicode is spread over the lead bytes of UTF-8. -/
def classSize : CharClass → Nat
  | .none => 32
  | .range low high => if high < 0x80 ∨ low = high then 32 else 320
  | .property .word => 28000
  | .property .decimal => 6000
  | .property .blank => 900
  | .property _ => 24000
  | .complement a => classSize a + 320
  | .union a b => classSize a + classSize b
  | .inter a b => classSize a + classSize b
  | .folded a => classSize a + 64
  | .foldedAscii a => classSize a + 32

def Element.ofClass (a : CharClass) (depth : Nat) : Element := ⟨.chars a, depth, classSize a, true⟩

def Element.ofAnchor (a : Anchor) : Element := ⟨.anchor a, 0, 32, true⟩

/-- A class that may stand in a pattern: outside the Unicode notation it must keep to ASCII. -/
def allowed? (f : Flags) (a : CharClass) : Option CharClass :=
  if f.unicode || !a.reachesBeyondAscii then some a else none

/-- A character in a sequence. -/
def charElement (f : Flags) (c : Char) (byte : Bool) : Option Element :=
  if !f.unicode && byte then none else some (.ofClass (foldCase f (.single c)) 0)

/-- The sequence of elements, given last one first. -/
def sequence : List Element → Element
  | [] => ⟨.empty, 0, 32, true⟩
  | [e] => e
  | elements =>
    ⟨joined elements, (elements.map Element.depth).foldl max 0 + 1,
      (elements.map Element.size).foldl (· + ·) 0, true⟩
where
  /-- The elements one after the other, from the last one back. -/
  joined : List Element → Node
    | [] => .empty
    | [e] => e.node
    | e :: before => .seq (joined before) e.node

/-- The choice between branches, given last one first. -/
def choice : List Element → Element
  | [] => ⟨.empty, 0, 32, true⟩
  | [e] => e
  | branches =>
    let ordered := branches.reverse
    ⟨nodes ordered, (ordered.map Element.depth).foldl max 0 + 1,
      (ordered.map Element.size).foldl (· + ·) 64, true⟩
where
  /-- The branches in order of preference. -/
  nodes : List Element → Node
    | [] => .empty
    | [e] => e.node
    | e :: rest => .alt e.node (nodes rest)

/-- An element repeated. -/
def Element.repeated (f : Flags) (least : Nat) (most : Option Nat) (greedy : Bool)
    (e : Element) : Option Element :=
  let size := e.size * max 1 (most.getD (max 1 least)) + 64
  if e.repeatable && size ≤ sizeLimit then
    some ⟨.rounds (greedy != f.lazyByDefault) least most e.node, e.depth + 1, size, true⟩
  else none

-- ========================================================== counts

/-- A number of rounds, with white space around it. -/
def readCount (cs : List Char) : Option (Nat × List Char) :=
  let cs := cs.dropWhile isBlank
  let digits := cs.takeWhile Char.isDigit
  let n := digits.foldl (fun n c => n * 10 + (c.toNat - '0'.toNat)) 0
  if digits.isEmpty || 4294967295 < n then none
  else some (n, (cs.drop digits.length).dropWhile isBlank)

/-- The bounds of a repetition, behind the brace. -/
def readBounds (f : Flags) (cs : List Char) : Option (Nat × Option Nat × List Char) := do
  let (least, rest) ← readCount (skip f cs)
  match rest with
  | '\x7d' :: rest => some (least, some least, rest)
  | ',' :: rest =>
    match skip f rest with
    | '\x7d' :: rest => some (least, none, rest)
    | rest => do
      let (most, rest) ← readCount rest
      match rest with
      | '\x7d' :: rest => if most < least then none else some (least, some most, rest)
      | _ => none
  | _ => none

/-- A question mark after a repetition turns its preference. -/
def readGreed : List Char → Bool × List Char
  | '?' :: rest => (false, rest)
  | rest => (true, rest)

-- ========================================================== groups

/-- What an open group encloses, and what comes back into force when it closes. -/
structure Frame where
  elements : List Element
  branches : List Element
  flags : Flags
  name : Option String

/-- A pattern under way. -/
structure State where
  flags : Flags
  /-- The sequence at hand, last element first. -/
  elements : List Element
  /-- The branches before it, last one first. -/
  branches : List Element
  frames : List Frame
  names : List String

namespace State

def initial : State := ⟨.initial, [], [], [], []⟩

def push (s : State) (e : Element) : State := { s with elements := e :: s.elements }

/-- The choice at hand, with the sequence at hand as its last branch. -/
def finished (s : State) : Element := choice (sequence s.elements :: s.branches)

/-- Opens a group. -/
def enter (s : State) (flags : Flags) (name : Option String) : State :=
  { s with
    flags := flags
    elements := []
    branches := []
    frames := ⟨s.elements, s.branches, s.flags, name⟩ :: s.frames }

/-- Closes the last group. -/
def leave? (s : State) : Option State :=
  match s.frames with
  | [] => none
  | frame :: frames =>
    let inner := s.finished
    let node := match frame.name with
      | some name => .group name inner.node
      | none => inner.node
    some
      { s with
        flags := frame.flags
        elements := ⟨node, inner.depth + 1, inner.size + 64, true⟩ :: frame.elements
        branches := frame.branches
        frames := frames }

/-- Repeats the last element. -/
def repeatLast? (s : State) (least : Nat) (most : Option Nat) (greedy : Bool) : Option State :=
  match s.elements with
  | [] => none
  | e :: rest =>
    (e.repeated s.flags least most greedy).map fun e => { s with elements := e :: rest }

end State

def isNameStart (c : Char) : Bool := c = '_' || isAlphabetic c

def isNameChar (c : Char) : Bool :=
  c = '_' || c = '.' || c = '[' || c = ']' || isAlphanumeric c

/-- The name of a group, up to its angle bracket. -/
def readName (cs : List Char) : Option (String × List Char) :=
  let name := cs.takeWhile (· != '>')
  match cs.dropWhile (· != '>'), name with
  | _ :: rest, c :: more =>
    if isNameStart c && more.all isNameChar then some (String.ofList name, rest) else none
  | _, _ => none

/-- Opens a named group, whose name no other group may have. -/
def enterNamed (s : State) (cs : List Char) : Option (State × List Char) := do
  let (name, rest) ← readName cs
  if s.names.contains name then none
  else some ({ s.enter s.flags (some name) with names := name :: s.names }, rest)

/-- What follows an opening bracket. -/
def openGroup (s : State) (cs : List Char) : Option (State × List Char) :=
  match skip s.flags cs with
  | '?' :: 'P' :: '<' :: rest => enterNamed s rest
  | '?' :: '<' :: rest =>
    match rest with
    | '=' :: _ => none
    | '!' :: _ => none
    | rest => enterNamed s rest
  | '?' :: rest =>
    match readFlags s.flags true false [] rest with
    | some (flags, _, ':' :: rest) => some (s.enter flags none, rest)
    | some (flags, true, ')' :: rest) =>
      some ({ s with flags := flags }.push ⟨.empty, 0, 0, false⟩, rest)
    | _ => none
  | rest => some (s.enter s.flags none, rest)

-- ========================================================= patterns

/-- The anchors and the dot under the flags in force. -/
def dotClass (f : Flags) : CharClass :=
  if f.dotMatchesAll then .any
  else if f.anyLineBreak then .notLineBreak
  else .notLineFeed

def startAnchor (f : Flags) : Anchor :=
  if f.multiLine then (if f.anyLineBreak then .anyLineStart else .lineStart) else .textStart

def endAnchor (f : Flags) : Anchor :=
  if f.multiLine then (if f.anyLineBreak then .anyLineEnd else .lineEnd) else .textEnd

/-- An element behind a backslash. -/
def escapeElement (f : Flags) (cs : List Char) : Option (Element × List Char) := do
  let (p, rest) ← readEscape f cs
  match p with
  | .char c byte =>
    let e ← charElement f c byte
    return (e, rest)
  | .cls a =>
    let a ← allowed? f a
    return (.ofClass a 0, rest)
  | .anchor a => return (.ofAnchor a, rest)

/-- One step of reading: an element, a repetition, a bracket or a stroke. -/
def step (s : State) (c : Char) (rest : List Char) : Option (State × List Char) :=
  let f := s.flags
  match c with
  | '(' => openGroup s rest
  | ')' => s.leave?.map (·, rest)
  | '|' =>
    some ({ s with elements := [], branches := sequence s.elements :: s.branches }, rest)
  | '[' => do
    let (o, rest) := openClass f rest
    let (a, depth, rest) ← readClass f (rest.length + 1) o rest
    let a ← allowed? f a
    return (s.push (.ofClass a depth), rest)
  | '?' =>
    let (greedy, rest) := readGreed rest
    (s.repeatLast? 0 (some 1) greedy).map (·, rest)
  | '*' =>
    let (greedy, rest) := readGreed rest
    (s.repeatLast? 0 none greedy).map (·, rest)
  | '+' =>
    let (greedy, rest) := readGreed rest
    (s.repeatLast? 1 none greedy).map (·, rest)
  | '\x7b' => do
    let (least, most, rest) ← readBounds f rest
    let (greedy, rest) := readGreed (skip f rest)
    let s ← s.repeatLast? least most greedy
    return (s, rest)
  | '\\' => do
    let (e, rest) ← escapeElement f rest
    return (s.push e, rest)
  | '.' => do
    let a ← allowed? f (dotClass f)
    return (s.push (.ofClass a 0), rest)
  | '^' => some (s.push (.ofAnchor (startAnchor f)), rest)
  | '$' => some (s.push (.ofAnchor (endAnchor f)), rest)
  | c => do
    let e ← charElement f c false
    return (s.push e, rest)

/-- Reads to the end, given as many turns as there are characters. -/
def readAll : Nat → State → List Char → Option State
  | turns, s, cs =>
    match turns, skip s.flags cs with
    | _, [] => some s
    | 0, _ :: _ => none
    | turns + 1, c :: rest =>
      match step s c rest with
      | some (s, rest) => readAll turns s rest
      | none => none

/-- The tree of a pattern, if the pattern is well formed and within the limits. -/
def read? (source : List Char) : Option Node :=
  match readAll source.length .initial source with
  | some s =>
    let whole := s.finished
    if s.frames.isEmpty && whole.depth ≤ depthLimit && whole.size ≤ sizeLimit then some whole.node
    else none
  | none => none

end Reader

end Logline.Pattern
