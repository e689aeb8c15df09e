/-
Reading TOML documents. A document is a list of statements, each on its line: headers, which say
where the keys after them belong, and keys with their values. Whatever is not well formed makes the
whole document unreadable.

Values nest, in arrays and in braces, up to a fixed depth. Lists are read with as many rounds as
there are characters, since every round takes at least one.
-/
import Logline.Toml.Item
import Logline.Toml.Scalar
import Logline.Toml.Text

namespace Logline.Toml

-- ============================================================= gaps

def isBlank (c : Char) : Bool := c = ' ' || c = '\t'

def skipBlanks (cs : List Char) : List Char := cs.dropWhile isBlank

/-- Skips blanks, line breaks and comments. -/
def skipLines (inComment : Bool) : List Char → Option (List Char)
  | [] => some []
  | c :: rest =>
    if c = '\n' then skipLines false rest
    else if c = '\r' then if rest.head? = some '\n' then skipLines false rest else none
    else if inComment then if isControl c then none else skipLines true rest
    else if isBlank c then skipLines false rest
    else if c = '#' then skipLines true rest
    else some (c :: rest)

/-- Whether nothing but a comment follows on the line. -/
def endsLine (cs : List Char) : Bool :=
  match skipBlanks cs with
  | [] => true
  | '#' :: _ => true
  | '\n' :: _ => true
  | '\r' :: '\n' :: _ => true
  | _ => false

-- ============================================================= keys

def isKeyChar (c : Char) : Bool := c.isAlphanum || c = '_' || c = '-'

/-- Reads one part of a key: bare, or a text on one line. -/
def keyPart? (cs : List Char) : Option (String × List Char) :=
  match cs.takeWhile isKeyChar with
  | [] => Text.line? cs
  | name => some (String.ofList name, cs.dropWhile isKeyChar)

/-- Reads the parts of a key and the blanks behind it. -/
def keyParts? : Nat → List Char → Option (KeyPath × List Char)
  | 0, _ => none
  | rounds + 1, cs =>
    match keyPart? (skipBlanks cs) with
    | none => none
    | some (name, cs) =>
      match skipBlanks cs with
      | '.' :: cs =>
        (keyParts? rounds cs).map fun (path, cs) =>
          ({ path with parents := name :: path.parents }, cs)
      | cs => some (⟨[], name⟩, cs)

def key? (cs : List Char) : Option (KeyPath × List Char) := keyParts? (cs.length + 1) cs

-- =========================================================== values

/-- Reads the rest of an array. -/
def elements? (value? : List Char → Option (Item × List Char)) :
    Nat → List Char → Option (List Char)
  | 0, _ => none
  | rounds + 1, cs =>
    match skipLines false cs with
    | none => none
    | some (']' :: cs) => some cs
    | some cs =>
      match value? cs with
      | none => none
      | some (_, cs) =>
        match skipLines false cs with
        | some (',' :: cs) => elements? value? rounds cs
        | some (']' :: cs) => some cs
        | _ => none

/-- Reads a key with its value. -/
def pair? (value? : List Char → Option (Item × List Char)) (cs : List Char) :
    Option (KeyPath × Item × List Char) :=
  match key? cs with
  | some (path, '=' :: cs) => (value? (skipBlanks cs)).map fun (item, cs) => (path, item, cs)
  | _ => none

/-- Reads the rest of a table in braces. -/
def members? (value? : List Char → Option (Item × List Char)) (entries : Items) :
    Nat → List Char → Option (Items × List Char)
  | 0, _ => none
  | rounds + 1, cs =>
    match skipLines false cs with
    | none => none
    | some ('\x7d' :: cs) => some (entries, cs)
    | some cs =>
      match pair? value? cs with
      | none => none
      | some (path, item, cs) =>
        match Item.assign path item .inline entries with
        | none => none
        | some (_, entries) =>
          match skipLines false cs with
          | some (',' :: cs) => members? value? entries rounds cs
          | some ('\x7d' :: cs) => some (entries, cs)
          | _ => none

/-- Reads a text or a value without quotes. -/
def flat? (cs : List Char) : Option (Item × List Char) :=
  match cs with
  | '"' :: _ => (Text.read? cs).map fun (s, cs) => (.text s, cs)
  | '\'' :: _ => (Text.read? cs).map fun (s, cs) => (.text s, cs)
  | cs => (Scalar.behind? cs).map fun cs => (.scalar, cs)

/-- Reads a value that nests no deeper than a depth. -/
def value? : Nat → List Char → Option (Item × List Char)
  | 0, cs => flat? cs
  | depth + 1, cs =>
    match cs with
    | '[' :: cs => (elements? (value? depth) (cs.length + 1) cs).map fun cs => (.array, cs)
    | '\x7b' :: cs =>
      (members? (value? depth) [] (cs.length + 1) cs).map fun (entries, cs) =>
        (.table .inline entries, cs)
    | cs => flat? cs

/-- How deep values may nest. -/
def maxDepth : Nat := 80

-- ======================================================== documents

/-- What has been read of a document: its items, and where the next keys belong. -/
structure Document where
  items : Items
  place : List String

namespace Document

/-- A change of the items. -/
def changed (d : Document) (place : List String) (change : Form → Items → Option (Form × Items)) :
    Option Document :=
  (change .header d.items).map fun r => ⟨r.2, place⟩

/-- Reads a statement. -/
def statement? (d : Document) (cs : List Char) : Option (Document × List Char) :=
  match cs with
  | '[' :: '[' :: cs =>
    match key? cs with
    | some (path, ']' :: ']' :: cs) =>
      (d.changed (path.parents ++ [path.last]) (Item.openNext path)).map (·, cs)
    | _ => none
  | '[' :: cs =>
    match key? cs with
    | some (path, ']' :: cs) =>
      (d.changed (path.parents ++ [path.last]) (Item.openTable path)).map (·, cs)
    | _ => none
  | cs =>
    match pair? (value? maxDepth) cs with
    | some (path, item, cs) =>
      (d.changed d.place (Item.descend false (Item.assign path item) d.place)).map (·, cs)
    | none => none

/-- Reads statements up to the end. -/
def statements? : Nat → Document → List Char → Option Document
  | 0, _, _ => none
  | rounds + 1, d, cs =>
    match skipLines false cs with
    | none => none
    | some [] => some d
    | some cs =>
      match d.statement? cs with
      | none => none
      | some (d, cs) => if endsLine cs then statements? rounds d cs else none

end Document

/-- A text without the mark that may stand before its first character. -/
def withoutMark : List Char → List Char
  | '\ufeff' :: cs => cs
  | cs => cs

/-- The items of a document. -/
def read? (text : String) : Option Items :=
  let cs := withoutMark text.toList
  (Document.statements? (cs.length + 1) ⟨[], []⟩ cs).map Document.items

end Logline.Toml
