import FigureScript.Files.OsError
import FigureScript.Files.Path
import FigureScript.Workbook.Basic

/-!
# Stored files

The files and directories that the program reads and writes.

## Main Definitions

* `FileContent` — what a file holds
* `Store` — files and directories by their place
* `Store.resolve` — the place that a path names
* `Store.readText`, `Store.write` — access by path

## Design Notes

A place is the list of names that lead to it from the root.  Each place has at most one
entry; the root is always a directory.  A path is followed name by name, and every
name but the last must lead to a directory.
-/

namespace FigureScript

/-- **What a file holds.** -/
inductive FileContent where
  | text (text : String)
  /-- Bytes that are not text. -/
  | binary (bytes : List UInt8)
  | workbook (workbook : Workbook)
  deriving DecidableEq

/-- A file or a directory. -/
inductive StoreEntry where
  | directory
  | file (content : FileContent) (executable : Bool)
  deriving DecidableEq

/-- A place: the names that lead to it from the root. -/
abbrev Place := List String

/-- **Files and directories.** -/
structure Store where
  /-- The working directory, where relative paths start. -/
  cwd : Place := []
  entries : List (Place × StoreEntry) := []

namespace Store

/-- What stands at a place. -/
def get? (s : Store) (place : Place) : Option StoreEntry :=
  if place.isEmpty then some .directory
  else (s.entries.find? (·.1 = place)).map (·.2)

/-- Puts an entry at a place, in place of one that is there. -/
def put (s : Store) (place : Place) (entry : StoreEntry) : Store :=
  if s.entries.any (·.1 = place) then
    { s with entries := s.entries.map fun (p, old) => (p, if p = place then entry else old) }
  else
    { s with entries := s.entries ++ [(place, entry)] }

/-- The names longer than this, in bytes, do not exist. -/
def maxNameLength : Nat := 255

/-- The paths longer than this, in bytes, name nothing. -/
def maxPathLength : Nat := 4095

/-- Follows names from a place. -/
def follow (s : Store) (here : Place) : List String → Except OsError Place
  | [] => .ok here
  | name :: rest =>
    match s.get? here with
    | none => .error .notFound
    | some (.file _ _) => .error .notDirectory
    | some .directory =>
      if name = "." then follow s here rest
      else if name = ".." then follow s here.dropLast rest
      else if maxNameLength < name.utf8ByteSize then .error .nameTooLong
      else follow s (here ++ [name]) rest

/-- **The place that a path names**, which need not have an entry. -/
def resolve (s : Store) (path : String) : Except OsError Place :=
  if path.toList.any (· = '\x00') then .error .nulInPath
  else if path = "" then .error .notFound
  else if maxPathLength < path.utf8ByteSize then .error .nameTooLong
  else
    let names := Path.parts path ++ if path.toList.getLast? = some '/' then ["."] else []
    s.follow (if Path.isAbsolute path then [] else s.cwd) names

/-- What a path names. -/
def lookup (s : Store) (path : String) : Except OsError StoreEntry := do
  match s.get? (← s.resolve path) with
  | some entry => .ok entry
  | none => .error .notFound

/-- Something has this path. -/
def hasEntry (s : Store) (path : String) : Bool :=
  (s.lookup path).isOk

/-- The path names a directory. -/
def isDirectory (s : Store) (path : String) : Bool :=
  match s.lookup path with
  | .ok .directory => true
  | _ => false

/-- The path names a file. -/
def isFile (s : Store) (path : String) : Bool :=
  match s.lookup path with
  | .ok (.file _ _) => true
  | _ => false

/-- The content of the file at a path. -/
def read (s : Store) (path : String) : Except OsError FileContent := do
  match ← s.lookup path with
  | .directory => .error .isDirectory
  | .file content _ => .ok content

/-- **The text at a path.** -/
def readText (s : Store) (path : String) : Except OsError String := do
  match ← s.read path with
  | .text text => .ok text
  | _ => .error .notText

/-- **Writes a file.**  One that exists keeps its permission to be executed. -/
def write (s : Store) (path : String) (content : FileContent) : Except OsError Store := do
  let place ← s.resolve path
  match s.get? place with
  | some .directory => .error .isDirectory
  | some (.file _ executable) => .ok (s.put place (.file content executable))
  | none => .ok (s.put place (.file content false))

/-- The name of an entry directly inside a directory. -/
def childName? (directory place : Place) : Option String :=
  if place.dropLast = directory then place.getLast? else none

/-- The names in a directory, sorted. -/
def names (s : Store) (directory : Place) : List String :=
  (s.entries.filterMap fun (place, _) => childName? directory place).mergeSort (· ≤ ·)

/-- The names in the directory that a path names, sorted. -/
def list (s : Store) (path : String) : List String :=
  match s.resolve path with
  | .ok place => s.names place
  | .error _ => []

/-- Creates a directory with all that lead to it. -/
def makeDirectories (s : Store) (place : Place) : Store :=
  ((List.range place.length).map fun n => place.take (n + 1)).foldl
    (fun s place => if (s.get? place).isSome then s else s.put place .directory) s

/-- Puts a file with the directories that lead to it. -/
def putFile (s : Store) (place : Place) (content : FileContent) (executable : Bool) : Store :=
  (s.makeDirectories place.dropLast).put place (.file content executable)

/-- Removes a directory and all that is in it. -/
def removeTree (s : Store) (directory : Place) : Store :=
  { s with entries := s.entries.filter fun (place, _) => !directory.isPrefixOf place }

/-- The files that are new or have changed since `before`. -/
def changedSince (after before : Store) : List (Place × FileContent) :=
  after.entries.filterMap fun (place, entry) =>
    match entry, before.get? place with
    | .directory, _ => none
    | .file content _, some (.file old _) => if content = old then none else some (place, content)
    | .file content _, _ => some (place, content)

end Store

end FigureScript
