import FigureScript.Files.Pattern
import FigureScript.Files.Store

/-!
# Expanding patterns

The files that a pattern names.

## Main Definitions

* `Store.expand` — the paths that fit a pattern, in the order of a walk through the
  directories

## Design Notes

A part of the pattern without wildcards is looked up; any other part is compared with the
sorted names of the directory.  A wildcard fits names that start with a dot, but `.` and
`..` themselves only if it starts with a dot as well, and these two come first.  Below
`**`, each directory comes before what is inside it.
-/

namespace FigureScript

namespace Pattern

/-- The part stands for any depth of directories. -/
def isAnyDepth (tokens : List PatternToken) : Bool :=
  tokens.contains .anyDepth

/-- The parts of a pattern behind its root.  A slash at the end adds none. -/
def parts (pattern : List Char) : List (List Char) :=
  let body := if pattern.head? = some '/' then pattern.tail else pattern
  let split := Path.splitSlashes body
  if !body.isEmpty && split.getLast? = some [] then split.dropLast else split

/-- The parts of a pattern from the first one behind those for any depth. -/
def skipDepth : List (List PatternToken) → List (List PatternToken)
  | [] => []
  | part :: parts => if isAnyDepth part then skipDepth parts else part :: parts

/-- The last of the parts for any depth in front, with what follows. -/
def lastDepth : List (List PatternToken) → List (List PatternToken)
  | a :: b :: rest => if isAnyDepth b then lastDepth (b :: rest) else a :: b :: rest
  | parts => parts

/-- The part fits a name. -/
def partFits (part : List PatternToken) (name : String) : Bool :=
  matchesName part name.toList

end Pattern

namespace Store

/-- The path is a spelling of the working directory. -/
def isHere (path : String) : Bool :=
  !Path.isAbsolute path && !(Path.parts path).isEmpty && (Path.parts path).all (· = ".")

/-- A path below a directory; the working directory itself is left out. -/
def below (directory name : String) : String :=
  if isHere directory then name else Path.join directory name

mutual

/-- The paths inside a directory that fit the parts of a pattern. -/
def expandIn (s : Store) (requireDirectory : Bool) :
    (fuel : Nat) → (directory : String) → List (List PatternToken) → List String
  | 0, _, _ => []
  | _, _, [] => []
  | fuel + 1, directory, part :: parts =>
    match Pattern.literal? part with
    | some name =>
      let path := below directory name
      let isSpecial := name = "." ∨ name = ".."
      if if isSpecial then s.isDirectory directory else s.hasEntry path then
        expandAt s requireDirectory fuel path parts
      else []
    | none =>
      if s.isDirectory directory then
        let special :=
          if part.head? = some (.literal '.') then
            ["..", "."].filter (Pattern.partFits part)
          else []
        (special.flatMap fun name =>
            expandAt s requireDirectory fuel (Path.join directory name) parts) ++
          (s.list directory).flatMap fun name =>
            visit s requireDirectory fuel (below directory name) name (part :: parts)
      else []

/-- The paths that fit once everything up to a path did: the path itself, or those
inside. -/
def expandAt (s : Store) (requireDirectory : Bool) :
    (fuel : Nat) → (path : String) → List (List PatternToken) → List String
  | 0, _, _ => []
  | _ + 1, path, [] => if requireDirectory && !s.isDirectory path then [] else [path]
  | fuel + 1, path, parts => expandIn s requireDirectory fuel path parts

/-- The paths at or below an entry of a directory that fit the parts of a pattern, the
first of which has wildcards. -/
def visit (s : Store) (requireDirectory : Bool) :
    (fuel : Nat) → (path name : String) → List (List PatternToken) → List String
  | 0, _, _, _ => []
  | _, _, _, [] => []
  | fuel + 1, path, name, part :: parts =>
    let isDirectory := s.isDirectory path
    if Pattern.isAnyDepth part then
      let inside :=
        if isDirectory then
          expandIn s requireDirectory fuel path (Pattern.lastDepth (part :: parts))
        else []
      match Pattern.skipDepth parts with
      | [] => if isDirectory then path :: inside else []
      | next :: rest =>
        (if Pattern.partFits next name then
            expandAt s requireDirectory fuel path rest
          else []) ++ inside
    else if Pattern.partFits part name then
      expandAt s requireDirectory fuel path parts
    else []

end

/-- **The paths that fit a pattern.**  The depth of the walk is bounded by the parts of the
pattern and the directories there are. -/
def expand (s : Store) (pattern : String) : Except PatternProblem (List String) := do
  let text := pattern.toList
  let _ ← Pattern.parse text
  let parts ← (Pattern.parts text).mapM Pattern.parse
  let fuel := 3 * (parts.length + 1) * (s.entries.length + 2)
  let root := if Path.isAbsolute pattern then "/" else "."
  return s.expandIn (text.getLast? = some '/') fuel root parts

end Store

end FigureScript
