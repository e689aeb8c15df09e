/-
Logs: lines in their order, from a text, from bytes or from a file. Loading only splits; lines are
parsed when they are asked for. A line ends with its line feed, and bytes that are not UTF-8 spoil
no more than their own line.
-/
import Logline.Files
import Logline.Log.Line

namespace Logline

-- ======================================================== splitting

/-- Cuts behind every element that ends a part. No part is empty. -/
def splitAfter {α : Type} (ends : α → Bool) : List α → List (List α)
  | [] => []
  | a :: rest =>
    if ends a then [a] :: splitAfter ends rest
    else
      match splitAfter ends rest with
      | [] => [[a]]
      | part :: parts => (a :: part) :: parts

/-- The lines of a text. -/
def textLines (text : String) : List String :=
  (splitAfter (· = '\n') text.toList).map String.ofList

/-- The lines of bytes, each decoded on its own. -/
def byteLines (bytes : List UInt8) : List String :=
  (splitAfter (· = 10) bytes).map Text.decodeLossy

-- ============================================================= logs

/-- A log. -/
structure Log where
  /-- The file it was loaded from. -/
  path : Option String
  options : Options
  lines : List Line

namespace Log

/-- Lines with their numbers. -/
def number (options : Options) (texts : List String) : List Line :=
  texts.zipIdx.map fun t => Line.make t.1 t.2 options

def ofText (text : String) (options : Options) : Log :=
  ⟨none, options, number options (textLines text)⟩

/-- The lines of bytes that may break off with an error, which then is the error of the line that
is not complete. -/
def readLines (options : Options) (bytes : List UInt8) (failure : Option String) :
    Except Error (List Line) :=
  match failure with
  | some reason => .error (.source (.cannotRead (bytes.count 10) reason))
  | none => .ok (number options (byteLines bytes))

def ofBytes (bytes : List UInt8) (failure : Option String) (options : Options) :
    Except Error Log :=
  (readLines options bytes failure).map fun lines => ⟨none, options, lines⟩

/-- The lines of the file under a path. -/
def readPath (files : FileSystem) (path : String) (options : Options) :
    Except Error (List Line) :=
  match (files path).opened with
  | .error reason => .error (.source (.cannotOpen path reason))
  | .ok (bytes, failure) => readLines options bytes failure

def openPath (files : FileSystem) (path : String) (options : Options) : Except Error Log :=
  (readPath files path options).map fun lines => ⟨some path, options, lines⟩

/-- Reads the file again. A log without a file stays as it is, and so does one whose file cannot
be read. -/
def refresh (files : FileSystem) (log : Log) : Except Error Unit × Log :=
  match log.path with
  | none => (.ok (), log)
  | some path =>
    match readPath files path log.options with
    | .error cause => (.error cause, log)
    | .ok lines => (.ok (), { log with lines := lines })

/-- Loads every line in order: the outcomes, the log and the cache after it. -/
def loadAll (depth : Nat) (cache : ParserCache) :
    List Line → List (Outcome Data) × List Line × ParserCache
  | [] => ([], [], cache)
  | l :: rest =>
    let reply := l.load depth cache
    let (outcomes, lines, cache) := loadAll depth reply.cache rest
    (reply.outcome :: outcomes, reply.line :: lines, cache)

end Log

end Logline
