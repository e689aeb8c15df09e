/-
Log filters: what is reported while the program runs, and from which level on.

A filter is a list of directives with commas between them. A directive is a level, a target, or a
target with a level behind an equals sign; it can be narrowed down to spans of a name or to events
with a field. The most specific directive comes first, and of two that ask for the same the later
one counts.
-/
import Logline.Pattern

namespace Logline.Command

-- =========================================================== levels

/-- From where on events are reported. -/
inductive Level where
  | off
  | error
  | warn
  | info
  | debug
  | trace
  deriving DecidableEq, Repr

namespace Level

def name : Level → String
  | off => "off"
  | error => "error"
  | warn => "warn"
  | info => "info"
  | debug => "debug"
  | trace => "trace"

/-- The levels in their order, from none to all. -/
def all : List Level := [off, error, warn, info, debug, trace]

/-- A number without a sign or with a plus. -/
def number? (cs : List Char) : Option Nat :=
  let digits := match cs with
    | '+' :: rest => rest
    | cs => cs
  if digits.isEmpty || !digits.all Char.isDigit then none
  else some (digits.foldl (fun n c => n * 10 + (c.toNat - '0'.toNat)) 0)

/-- The level of a name, in whatever case, or of its place among the levels. -/
def ofText? (cs : List Char) : Option Level :=
  match (number? cs).bind fun n => all[n]? with
  | some level => some level
  | none => all.find? fun level => level.name.toList = cs.map Char.toLower

end Level

-- =========================================================== fields

/-- A value that a field is compared with. -/
inductive FieldValue where
  | bool (b : Bool)
  | float (text : String)
  | natural (n : Nat)
  | negative (n : Nat)
  | pattern (source : String)

namespace FieldValue

def text : FieldValue → String
  | bool b => if b then "true" else "false"
  | float t => t
  | natural n => toString n
  | negative n => if n = 0 then "0" else "-" ++ toString n
  | pattern source => source

/-- Kinds of values in their order. -/
def rank : FieldValue → Nat
  | bool _ => 0
  | float _ => 1
  | natural _ => 2
  | negative _ => 3
  | pattern _ => 4

def compare (a b : FieldValue) : Ordering :=
  match a, b with
  | natural a, natural b => Ord.compare a b
  | negative a, negative b => Ord.compare b a
  | a, b => (Ord.compare a.rank b.rank).then (Ord.compare a.text b.text)

/-- Whether a text is a float: digits with a point among them or an exponent behind them, or one of
the names of what is no number. -/
def isFloat (cs : List Char) : Bool :=
  let cs := match cs with
    | '-' :: rest => rest
    | '+' :: rest => rest
    | cs => cs
  if ["inf", "infinity", "nan"].contains (String.ofList (cs.map Char.toLower)) then true
  else
    let isMark (c : Char) : Bool := c = 'e' || c = 'E'
    let mantissa := cs.takeWhile fun c => !isMark c
    let whole := mantissa.takeWhile (· ≠ '.')
    let places := (mantissa.dropWhile (· ≠ '.')).drop 1
    let exponent := match cs.dropWhile fun c => !isMark c with
      | [] => ['0']
      | _ :: '-' :: rest => rest
      | _ :: '+' :: rest => rest
      | _ :: rest => rest
    !(whole ++ places).isEmpty && (whole ++ places).all Char.isDigit &&
      !exponent.isEmpty && exponent.all Char.isDigit

/-- The value of a text. What is nothing else has to be a pattern. -/
def ofText? (cs : List Char) : Option FieldValue :=
  if cs = "true".toList then some (bool true)
  else if cs = "false".toList then some (bool false)
  else
    match Level.number? cs, cs with
    | some n, _ => if n < Nat.pow 2 64 then some (natural n) else some (float (String.ofList cs))
    | none, '-' :: rest =>
      if rest.all Char.isDigit && !rest.isEmpty && (Level.number? rest).getD 0 ≤ Nat.pow 2 63 then
        some (negative ((Level.number? rest).getD 0))
      else other? cs
    | none, cs => other? cs
where
  /-- A float or a pattern. -/
  other? (cs : List Char) : Option FieldValue :=
    if isFloat cs then some (float (String.ofList cs))
    else
      match Pattern.compile (String.ofList cs) with
      | .ok p => some (pattern p.source)
      | .error _ => none

end FieldValue

/-- A field that events need to have, and its value. -/
structure FieldMatch where
  name : String
  value : Option FieldValue

namespace FieldMatch

/-- The name up to an equals sign, and the value up to the next one. -/
def ofText? (cs : List Char) : Option FieldMatch :=
  let name := String.ofList (cs.takeWhile (· ≠ '='))
  match cs.dropWhile (· ≠ '=') with
  | [] => some ⟨name, none⟩
  | _ :: rest => (FieldValue.ofText? (rest.takeWhile (· ≠ '='))).map fun v => ⟨name, some v⟩

def text (m : FieldMatch) : String :=
  match m.value with
  | none => m.name
  | some v => m.name ++ "=" ++ v.text

def compare (a b : FieldMatch) : Ordering :=
  (Ord.compare a.value.isSome b.value.isSome).then
    ((Ord.compare a.name b.name).then
      (match a.value, b.value with
        | some a, some b => a.compare b
        | _, _ => .eq))

end FieldMatch

-- ======================================================= directives

/-- A directive. -/
structure Directive where
  target : Option String
  span : Option String
  field : Option FieldMatch
  level : Level

namespace Directive

/-- The place and the text from the first character on that stops. The place counts bytes. -/
def scan (stops : Char → Bool) (place : Nat) : List Char → Nat × List Char
  | [] => (place, [])
  | c :: rest => if stops c then (place, c :: rest) else scan stops (place + c.utf8Size) rest

/-- The text from a place on. -/
def suffix? : Nat → List Char → Option (List Char)
  | 0, cs => some cs
  | _ + 1, [] => none
  | n + 1, c :: rest =>
    if c.utf8Size ≤ n + 1 then suffix? (n + 1 - c.utf8Size) rest else none

/-- The text between two places. -/
def between? (start stop : Nat) (cs : List Char) : Option (List Char) :=
  match suffix? start cs, suffix? stop cs with
  | some a, some b => some (a.take (a.length - b.length))
  | _, _ => none

-- The functions that read a directive get it twice: as it is written, and without the white space
-- around it. Places are found in the second and texts are taken from the first.

/-- Reads a level from a place to the end. -/
def level? (written : List Char) (place : Nat) (d : Directive) : Option Directive :=
  match suffix? place written with
  | none => none
  | some [] => some { d with level := .trace }
  | some cs => (Level.ofText? cs).map fun level => { d with level := level }

/-- Reads what may follow a bracket: nothing, or a level. -/
def behindBracket? (written : List Char) (place : Nat) (d : Directive) :
    List Char → Option Directive
  | [] => some d
  | c :: _ => if c = '=' then level? written (place + 1) d else none

/-- Reads a field and the marks behind it. -/
def field? (written : List Char) (start : Nat) (d : Directive) (cs : List Char) :
    Option Directive :=
  match scan (· = '\x7d') start cs with
  | (stop, _ :: ']' :: rest) =>
    match between? start stop written with
    | none => none
    | some [] => none
    | some text =>
      (FieldMatch.ofText? text).bind fun m =>
        behindBracket? written (stop + 2) { d with field := some m } rest
  | _ => none

/-- Reads the name of a span, and a field if there is one. -/
def span? (written : List Char) (start : Nat) (d : Directive) (cs : List Char) :
    Option Directive :=
  match scan (fun c => c = ']' || c = '\x7b') start cs with
  | (_, []) => none
  | (stop, c :: rest) =>
    match between? start stop written with
    | none => none
    | some name =>
      if c = ']' then
        behindBracket? written (stop + 1) { d with span := some (String.ofList name) } rest
      else
        let span := if name.isEmpty then none else some (String.ofList name)
        field? written (stop + 1) { d with span := span } rest

/-- Whether a target or a level may start with a character. -/
def isStart (c : Char) : Bool := "-:_".toList.contains c || Text.isAlphanumeric c

/-- Reads a target with what follows it, or a level alone. -/
def target? (written cs : List Char) : Option Directive :=
  match scan (fun c => c = '=' || c = '[') 0 cs with
  | (_, []) =>
    match Level.ofText? written with
    | some level => some ⟨none, none, none, level⟩
    | none => some ⟨some (String.ofList written), none, none, .trace⟩
  | (stop, c :: rest) =>
    (between? 0 stop written).bind fun target =>
      let d : Directive := ⟨some (String.ofList target), none, none, .trace⟩
      if c = '=' then level? written (stop + 1) d else span? written (stop + 1) d rest

/-- Reads a directive. -/
def read? (written : List Char) : Option Directive :=
  match Text.trimBlanks written with
  | [] => none
  | '[' :: rest => span? written 1 ⟨none, none, none, .trace⟩ rest
  | c :: rest => if isStart c then target? written (c :: rest) else none

/-- The part of a directive in brackets. -/
def bracketText (d : Directive) : String :=
  match d.span, d.field with
  | none, none => ""
  | span, field =>
    "[" ++ span.getD "" ++ (field.map fun m => "\x7b" ++ m.text ++ "\x7d").getD "" ++ "]"

def text (d : Directive) : String :=
  let scope := d.target.getD "" ++ d.bracketText
  if d.target.isNone && d.span.isNone && d.field.isNone then d.level.name
  else scope ++ "=" ++ d.level.name

/-- The order of the less specific directive before the more specific. -/
def specificity (a b : Directive) : Ordering :=
  (Ord.compare (a.target.map String.utf8ByteSize) (b.target.map String.utf8ByteSize)).then
    ((Ord.compare a.span.isSome b.span.isSome).then
      ((Ord.compare a.field.isSome b.field.isSome).then
        ((Ord.compare a.target b.target).then
          ((Ord.compare a.span b.span).then
            (match a.field, b.field with
              | some a, some b => a.compare b
              | _, _ => .eq)))))

/-- Puts a directive among others, the most specific first, in place of one for the same. -/
def place (d : Directive) : List Directive → List Directive
  | [] => [d]
  | e :: rest =>
    match specificity d e with
    | .gt => d :: e :: rest
    | .eq => d :: rest
    | .lt => e :: place d rest

/-- Whether a directive says more than a target and a level. -/
def isNarrow (d : Directive) : Bool := d.span.isSome || d.field.isSome

/-- Whether a directive can be decided without values of fields or names of spans. -/
def isPlain (d : Directive) : Bool :=
  d.span.isNone && !(d.field.any fun m => m.value.isSome)

end Directive

-- ========================================================== filters

/-- A log filter. -/
structure Filter where
  /-- Directives that can be decided without values of fields or names of spans. -/
  plain : List Directive
  narrow : List Directive

namespace Filter

/-- The filter of directives. Without any, errors are reported. -/
def ofDirectives (directives : List Directive) : Filter :=
  let (narrow, wide) := directives.partition Directive.isNarrow
  let sorted (ds : List Directive) : List Directive := ds.foldl (fun acc d => d.place acc) []
  let plain := sorted (wide ++ narrow.filter Directive.isPlain)
  if plain.isEmpty && narrow.isEmpty then ⟨[⟨none, none, none, .error⟩], []⟩
  else ⟨plain, sorted narrow⟩

/-- Cuts at commas and drops what is empty. -/
def parts (cs : List Char) : List (List Char) :=
  (pieces [] cs).filter fun p => !p.isEmpty
where
  /-- The texts between commas. -/
  pieces (piece : List Char) : List Char → List (List Char)
    | [] => [piece.reverse]
    | c :: rest => if c = ',' then piece.reverse :: pieces [] rest else pieces (c :: piece) rest

/-- Reads a filter. -/
def read (text : String) : Except Error Filter :=
  match (parts text.toList).mapM Directive.read? with
  | some directives => .ok (ofDirectives directives)
  | none => .error (.configuration (.badLogFilter text))

def text (f : Filter) : String :=
  String.intercalate "," ((f.plain ++ f.narrow).map Directive.text)

/-- The filter until a configuration is loaded. -/
def initial : Filter := ⟨[⟨some "delog", none, none, .info⟩], []⟩

/-- Replaces the filter by one that is given, unless the environment has the last word: then the
one that is given is not even read. -/
def apply (f : Filter) (text : String) (overridden : Bool) : Except Error Filter :=
  if overridden then .ok f else read text

end Filter

end Logline.Command
