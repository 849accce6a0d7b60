import ShapeCheck.Reference
import ShapeCheck.Yaml.Token

/-!
# Files

`Files` are files with what is in them, and a present directory. A path is a text with slashes: `FilePath.ofText` splits it,
and `Files.at?` tells what it leads to. Apart from those around the present one, a directory is there as long as it holds
a file.
-/

namespace ShapeCheck

/-- A path, either from the top or from the present directory. Its parts are no dots and not empty. -/
structure FilePath where
  absolute : Bool
  parts : List String
deriving DecidableEq, Repr

namespace FilePath

def ofText (s : String) : FilePath where
  absolute := s.toList.head? = some '/'
  parts := ((splitAtChar '/' s.toList).map String.ofList).filter fun p => p ≠ "" ∧ p ≠ "."

def text (p : FilePath) : String :=
  let joined := "/".intercalate p.parts
  if p.absolute then "/" ++ joined else if joined = "" then "." else joined

/-- The path to something in a directory. -/
def child (p : FilePath) (name : String) : FilePath := { p with parts := p.parts ++ [name] }

/-- Parts with each double dot taken away together with the part before it. -/
def climb : List String → List String → List String
  | done, [] => done.reverse
  | done, part :: rest => if part = ".." then climb done.tail rest else climb (part :: done) rest

/-- A path as one from the top, for a present directory. -/
def resolve (directory : String) (p : FilePath) : FilePath where
  absolute := true
  parts := climb [] (if p.absolute then p.parts else (ofText directory).parts ++ p.parts)

/-- The name at the end of a path behind its last point, with the point. -/
def suffix (p : FilePath) : String :=
  let name := (p.parts.getLast?.getD "").toList
  let after := (name.reverse.takeWhile (· ≠ '.')).reverse
  let before := name.length - after.length
  if 1 < before && !after.isEmpty then String.ofList ('.' :: after) else ""

end FilePath

/-- What is in a file. -/
inductive FileContent where
  | text (s : String)
  /-- Bytes that are no text. What stands in front of them may already be wrong as a part of a document. -/
  | bytes (sooner : Option Yaml.Error)

/-- What stands at a path. -/
inductive FileEntry where
  | file (content : FileContent)
  /-- The names in a directory. -/
  | directory (names : List String)

/-- Files with their paths, as parts from the top. -/
structure Files where
  /-- The present directory. -/
  present : String
  entries : List (List String × FileContent) := []

namespace Files

/-- The parts of the present directory. -/
def presentParts (fs : Files) : List String := (FilePath.ofText fs.present).parts

/-- The parts of a path from the top. -/
def partsOf (fs : Files) (p : FilePath) : List String := if p.absolute then p.parts else fs.presentParts ++ p.parts

/-- What stands at parts from the top. The present directory and those around it are there even if they are empty. -/
def entryAt? (fs : Files) (parts : List String) : Option FileEntry :=
  match fs.entries.lookup parts with
  | some content => some (.file content)
  | none =>
    let below := fs.entries.filterMap fun (p, _) => if parts.isPrefixOf p then (p.drop parts.length).head? else none
    if below.isEmpty && !parts.isPrefixOf fs.presentParts then none else some (.directory below.eraseDups)

/-- Follows parts one by one; each but the last has to be a directory. -/
def walk (fs : Files) : List String → List String → Option (List String)
  | here, [] => some here
  | here, part :: rest =>
    match fs.entryAt? here with
    | some (.directory _) => if part = ".." then fs.walk here.dropLast rest else fs.walk (here ++ [part]) rest
    | _ => none

/-- What a path leads to. -/
def at? (fs : Files) (p : FilePath) : Option FileEntry := (fs.walk [] (fs.partsOf p)).bind fs.entryAt?

/-- What a text as a path leads to. A slash or a point at its end asks for a directory. -/
def atText? (fs : Files) (s : String) : Option FileEntry :=
  let last := ((splitAtChar '/' s.toList).getLast?).getD []
  match fs.at? (FilePath.ofText s) with
  | some (.file content) => if last = [] || last = ['.'] then none else some (.file content)
  | found => if s = "" then none else found

/-- Puts a file in the place of an old one. -/
def put (fs : Files) (p : FilePath) (content : FileContent) : Files :=
  let parts := FilePath.climb [] (fs.partsOf p)
  { fs with entries := (fs.entries.filter fun e => e.1 ≠ parts) ++ [(parts, content)] }

/-- Writes a text to a file. -/
def write (fs : Files) (p : FilePath) (text : String) : Files := fs.put p (.text text)

end Files

end ShapeCheck
