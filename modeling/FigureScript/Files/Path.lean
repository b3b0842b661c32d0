/-!
# Paths

A path is a text of names separated by slashes.  These functions look at the text
alone, never at files.

## Main Definitions

* `Path.parts` — the names of a path
* `Path.fileName?`, `Path.fileStem?`, `Path.extension?` — the last name and its parts
* `Path.withExtension` — the path with another extension
* `Path.parent`, `Path.join` — going up and down

## Design Notes

A part `.` and doubled slashes mean nothing, except that a path can be `.` as a whole.  A
name that starts with its only dot has no extension.
-/

namespace FigureScript.Path

/-- The texts between slashes, empty ones included. -/
def splitSlashes : List Char → List (List Char)
  | [] => [[]]
  | c :: rest =>
    if c = '/' then [] :: splitSlashes rest
    else match splitSlashes rest with
      | [] => [[c]]
      | part :: parts => (c :: part) :: parts

/-- **The names of a path**, with `.` and `..` among them. -/
def parts (path : String) : List String :=
  ((splitSlashes path.toList).filter (!·.isEmpty)).map String.ofList

/-- The path starts at the root. -/
def isAbsolute (path : String) : Bool :=
  path.toList.head? = some '/'

/-- **The last name**, unless the path ends in `..` or names nothing. -/
def fileName? (path : String) : Option String :=
  ((parts path).filter (· ≠ ".")).getLast?.filter (· ≠ "..")

/-- A name up to its last dot, and what follows that dot; a dot at the start does not
count. -/
def splitName (name : List Char) : List Char × Option (List Char) :=
  let after := (name.reverse.takeWhile (· ≠ '.')).reverse
  let before := name.take (name.length - after.length - 1)
  if after.length = name.length ∨ before.isEmpty then (name, none) else (before, some after)

/-- **The last name without its extension.** -/
def fileStem? (path : String) : Option String :=
  (fileName? path).map fun name => String.ofList (splitName name.toList).1

/-- The extension of the last name, which may be empty. -/
def extension? (path : String) : Option String :=
  ((fileName? path).bind fun name => (splitName name.toList).2).map String.ofList

/-- A reversed path without the slashes and dots behind its last name. -/
def trimReversed : List Char → List Char
  | '/' :: rest => trimReversed rest
  | '.' :: '/' :: rest => trimReversed rest
  | path => path

/-- A path that ends with its last name. -/
def trimmed (path : String) : List Char :=
  (trimReversed path.toList.reverse).reverse

/-- **The path with another extension**, or unchanged if it has no last name.  The old
extension is taken off first: where that leaves `..`, which is no name, nothing is put in its
place. -/
def withExtension (path ext : String) : String :=
  match fileName? path with
  | none => path
  | some name =>
    let text := trimmed path
    let stem := (splitName name.toList).1
    let bare := text.take (text.length - name.length + stem.length)
    if stem = ['.'] ∧ text.length = path.length then String.ofList (bare ++ ['.'])
    else String.ofList (bare ++ '.' :: ext.toList)

/-- **The path without its last name**; empty if there is nothing else. -/
def parent (path : String) : String :=
  let text := trimmed path
  let name := (text.reverse.takeWhile (· ≠ '/')).length
  let up := (trimReversed (text.reverse.drop name)).reverse
  if up.isEmpty && isAbsolute path then "/" else String.ofList up

/-- **A path below another one.**  An absolute path stands for itself. -/
def join (base path : String) : String :=
  if isAbsolute path || base = "" then path
  else if base.toList.getLast? = some '/' then base ++ path
  else base ++ "/" ++ path

end FigureScript.Path
