/-
Files as programs see them: what is found under a path, and the texts of the system's errors.

A `Files` is a small tree of named files and directories. Paths go down it from its root, which is
also where they start; `.` stays, `..` goes up, and repeated slashes count as one.
-/
import Logline.OrderedMap
import Logline.Text.Utf8

namespace Logline

/-- What is found under a path. -/
inductive Found where
  | file (bytes : List UInt8)
  | directory
  | missing
  /-- The path goes on below a file. -/
  | belowFile
  /-- The path holds a null character. -/
  | unusable

namespace Found

def missingText : String := "No such file or directory (os error 2)"
def belowFileText : String := "Not a directory (os error 20)"
def directoryText : String := "Is a directory (os error 21)"
def unusableText : String := "file name contained an unexpected NUL byte"
def notUtf8Text : String := "stream did not contain valid UTF-8"

/-- Whether there is something. -/
def present : Found → Bool
  | file _ => true
  | directory => true
  | _ => false

/-- The bytes of a file, and why reading stops early, if it does. Opening may fail instead. -/
def opened : Found → Except String (List UInt8 × Option String)
  | file bytes => .ok (bytes, none)
  | directory => .ok ([], some directoryText)
  | missing => .error missingText
  | belowFile => .error belowFileText
  | unusable => .error unusableText

/-- The text of a file, or why it cannot be read. -/
def text (f : Found) : Except String String :=
  match f.opened with
  | .error reason => .error reason
  | .ok (_, some reason) => .error reason
  | .ok (bytes, none) =>
    match Text.decode? bytes with
    | some s => .ok s
    | none => .error notUtf8Text

end Found

/-- What a program can find, by path. -/
abbrev FileSystem := String → Found

-- ======================================================= small trees

/-- A named thing in a tree. -/
inductive Filed where
  | file (bytes : List UInt8)
  | directory

/-- Things by their path from the root, the names from the root down. -/
abbrev Files := OrderedMap (List String) Filed

namespace Files

/-- The names of a path, from the first slash to the last. -/
def names (path : String) : List String :=
  pieces [] path.toList
where
  /-- Cuts at slashes. -/
  pieces (name : List Char) : List Char → List String
    | [] => [String.ofList name.reverse]
    | c :: rest =>
      if c = '/' then String.ofList name.reverse :: pieces [] rest else pieces (c :: name) rest

/-- Goes down names from a directory, which is given by its own names in reverse. -/
def descend (files : Files) : List String → List String → Found
  | _, [] => .directory
  | here, name :: rest =>
    if name = "" ∨ name = "." then descend files here rest
    else if name = ".." then descend files (here.drop 1) rest
    else
      match files.find? (name :: here).reverse with
      | some .directory => descend files (name :: here) rest
      | some (.file bytes) => if rest.isEmpty then .file bytes else .belowFile
      | none => .missing

/-- What is found under a path from the root. Paths from another root find nothing. -/
def find (files : Files) (path : String) : Found :=
  if path.toList.contains '\x00' then .unusable
  else if path = "" ∨ path.toList.head? = some '/' then .missing
  else descend files [] (names path)

/-- The directories above a name. -/
def parents (path : List String) : List (List String) :=
  (List.range path.length).filterMap fun n => if n = 0 then none else some (path.take n)

/-- Puts something under a path, with the directories that it needs. -/
def put (files : Files) (path : String) (what : Filed) : Files :=
  let path := (names path).filter fun n => n ≠ "" ∧ n ≠ "."
  let files := (parents path).foldl
    (fun files p => if files.contains p then files else files.insert p .directory) files
  files.insert path what

/-- Removes what is under a path. -/
def remove (files : Files) (path : String) : Files :=
  files.erase ((names path).filter fun n => n ≠ "" ∧ n ≠ ".")

end Files

end Logline
