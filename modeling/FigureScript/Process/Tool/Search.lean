import FigureScript.Process.Tool.Lines
import FigureScript.Process.Tool.Regular

/-!
# Searching in texts

## Main Definitions

* `Tool.search` — shows the lines that fit patterns

## Design Notes

The status tells whether anything was found; a problem with a file takes precedence, unless
nothing is to be shown and something was found.
-/

namespace FigureScript.Tool

/-- The known options of a search. -/
def searchOptions : KnownOptions :=
  { flags := "EFGPivwxcnlLqsohHrRzayUIbT".toList
    valued := "emfABCdD".toList
    long := [("extended-regexp", 'E'), ("fixed-strings", 'F'), ("basic-regexp", 'G'),
      ("perl-regexp", 'P'), ("ignore-case", 'i'), ("invert-match", 'v'), ("word-regexp", 'w'),
      ("line-regexp", 'x'), ("count", 'c'), ("line-number", 'n'), ("files-with-matches", 'l'),
      ("files-without-match", 'L'), ("quiet", 'q'), ("silent", 'q'), ("no-messages", 's'),
      ("only-matching", 'o'), ("no-filename", 'h'), ("with-filename", 'H'), ("recursive", 'r'),
      ("regexp", 'e'), ("max-count", 'm'), ("text", 'a'), ("byte-offset", 'b')] }

/-- Complains about how the search was called. -/
def searchMisused (message : Option String) : Tool Unit := do
  if let some message := message then complain 2 message
  modify fun s =>
    { s with
      status := 2
      written := (2, ("Usage: " ++ s.name ++ " [OPTION]... PATTERNS [FILE]...\nTry '" ++ s.name ++
        " --help' for more information.\n").toList) :: s.written }

/-- The pattern that options and texts mean. -/
def searchPattern (o : Options) (texts : List (List Char)) : Except Regular.Flaw Regular := do
  let patterns ← texts.mapM fun text =>
    if o.has 'F' then return Regular.ofLiteral text
    else Regular.ofText (o.has 'E' || o.has 'P') text
  let any := match patterns with
    | [] => Regular.one fun _ => false
    | first :: others => others.foldl .either first
  let between (left right : TextEdge) (r : Regular) : Regular :=
    .follow (.edge left) (.follow r (.edge right))
  let bounded :=
    if o.has 'x' then between .lineStart .lineEnd any
    else if o.has 'w' then between .noWordBefore .noWordAfter any
    else any
  return if o.has 'i' || o.has 'y' then bounded.ignoringCase else bounded

/-- The parts of a line that fit, from left to right; empty ones do not count. -/
def fittingParts (r : Regular) : (fuel : Nat) → (before : Option Char) → List Char →
    List (List Char)
  | 0, _, _ => []
  | fuel + 1, before, text =>
    match r.find? before text with
    | none => []
    | some found =>
      if found.text.isEmpty then
        match found.behind.rest with
        | [] => []
        | c :: rest => fittingParts r fuel (some c) rest
      else found.text :: fittingParts r fuel found.behind.before found.behind.rest

/-- Searches in one file.  The answer is whether anything was found. -/
def searchIn (o : Options) (r : Regular) (shownName : Option (List Char))
    (name content : List Char) : Tool Bool := do
  let most := (o.value? 'm').bind number?
  let fitting := ((linesOf content).zipIdx).filter fun (line, _) =>
    (r.find? none line).isSome != o.has 'v'
  let kept := match most with
    | some most => fitting.take most
    | none => fitting
  let label := match shownName with
    | some name => name ++ [':']
    | none => []
  if o.has 'q' then return !kept.isEmpty
  else if o.has 'l' then
    if !kept.isEmpty then sayLine name
    return !kept.isEmpty
  else if o.has 'L' then
    if kept.isEmpty then sayLine name
    return !kept.isEmpty
  else if o.has 'c' then
    sayLine (label ++ (toString kept.length).toList)
    return !kept.isEmpty
  else
    kept.forM fun (line, index) => do
      let label := if o.has 'n' then label ++ (toString (index + 1)).toList ++ [':'] else label
      if o.has 'o' then
        if !o.has 'v' then
          (fittingParts r (line.length + 1) none line).forM fun part => sayLine (label ++ part)
      else sayLine (label ++ line)
    return !kept.isEmpty

/-- **Shows the lines that fit patterns.** -/
def search (arguments : List (List Char)) : Tool Unit := do
  match readOptions searchOptions (arguments.length + 1) {} arguments with
  | .error problem => searchMisused (some problem)
  | .ok o =>
    let given := (o.given.filter (·.1 = 'e')).map (·.2)
    let (texts, files) := match given, o.operands with
      | [], [] => (none, [])
      | [], text :: files => (some [text], files)
      | given, files => (some given, files)
    match texts with
    | none => searchMisused none
    | some texts =>
      if ((o.value? 'm').map number?).any (·.isNone) then complain 2 "invalid max count"
      else match searchPattern o (texts.flatMap Text.splitLines) with
        | .error flaw => complain 2 flaw.message
        | .ok r =>
          let isNamed := (o.has 'H' || 1 < files.length) && !o.has 'h'
          let step (state : Bool × Bool) (path : List Char) : Tool (Bool × Bool) := do
            let (found, failed) := state
            if found && o.has 'q' then return state
            let name := if path = ['-'] then "(standard input)".toList else path
            match ← readFile path with
            | .ok content =>
              let here ← searchIn o r (if isNamed then some name else none) name content
              return (found || here, failed)
            | .error e =>
              if !o.has 's' then complain 2 (String.ofList path ++ ": " ++ e.reason)
              return (found, true)
          let (found, failed) ←
            (if files.isEmpty then [['-']] else files).foldlM step (false, false)
          setStatus (if failed && !(found && o.has 'q') then 2 else if found then 0 else 1)

end FigureScript.Tool
