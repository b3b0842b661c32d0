import FigureScript.Process.Tool.Basic

/-!
# Tools for files

Copying, moving, removing and creating files and directories.

## Main Definitions

* `Tool.copy`, `Tool.move`, `Tool.remove` — files and directories
* `Tool.makeDirectories`, `Tool.removeDirectories`, `Tool.touch` — creating and removing
* `Tool.list` — the names in directories
* `Tool.changeMode` — whether files can be executed
-/

namespace FigureScript

namespace Store

/-- Removes the entry at a place, with all that is below it. -/
def remove (s : Store) (place : Place) : Store :=
  { s with entries := s.entries.filter fun (p, _) => !place.isPrefixOf p }

/-- Copies the entry at a place, with all that is below it, to another place. -/
def copyTree (s : Store) (source target : Place) : Store :=
  (s.entries.filter fun (p, _) => source.isPrefixOf p).foldl
    (fun s (p, entry) => s.put (target ++ p.drop source.length) entry) s

/-- Moves the entry at a place, with all that is below it, to another place. -/
def move (s : Store) (source target : Place) : Store :=
  { s with entries := (s.remove target).entries.map fun (p, entry) =>
      (if source.isPrefixOf p then target ++ p.drop source.length else p, entry) }

end Store

namespace Tool

/-- A path without the slashes behind its last name. -/
def withoutSlashes (path : List Char) : List Char :=
  let text := (path.reverse.dropWhile (· = '/')).reverse
  if text.isEmpty then path.take 1 else text

/-- The last name of a path. -/
def lastName (path : List Char) : List Char :=
  ((withoutSlashes path).reverse.takeWhile (· ≠ '/')).reverse

/-- A path below another one. -/
def joined (directory name : List Char) : List Char :=
  if directory.getLast? = some '/' then directory ++ name else directory ++ '/' :: name

/-- The argument is the path of a directory. -/
def isDirectory (path : List Char) : Tool Bool := do
  return (← get).store.isDirectory (pathOf path)

/-- Replaces the files. -/
def setStore (store : Store) : Tool Unit :=
  modify fun s => { s with store }

/-- The place that a path names. -/
def place (path : List Char) : Tool (Except OsError Place) := do
  return (← get).store.resolve (pathOf path)

/-- What stands at a path. -/
def entry (path : List Char) : Tool (Except OsError StoreEntry) := do
  return (← get).store.lookup (pathOf path)

/-- Says that a file cannot be found. -/
def cannotStat (path : List Char) (e : OsError) : Tool Unit :=
  complain 1 ("cannot stat " ++ quoted path ++ ": " ++ e.reason)

/-- Tells what has been done, if that is asked for. -/
def report (o : Options) (message : String) : Tool Unit := do
  if o.has 'v' then sayLine message.toList

/-! ### Copying and moving -/

/-- Does something with each source and the path that it gets: below the target if that is a
directory, and the target itself otherwise, which takes a single source. -/
def toTarget (operands : List (List Char)) (run : (source target : List Char) → Tool Unit) :
    Tool Unit := do
  match operands.reverse with
  | [] => misused 1 "missing file operand"
  | [only] => misused 1 ("missing destination file operand after " ++ quoted only)
  | target :: sources =>
    if ← isDirectory target then
      sources.reverse.forM fun source => run source (joined target (lastName source))
    else match sources with
      | [source] => run source target
      | _ =>
        match ← entry target with
        | .ok _ => complain 1 ("target " ++ quoted target ++ ": Not a directory")
        | .error e => complain 1 ("target " ++ quoted target ++ ": " ++ e.reason)

/-- Copies one file or directory. -/
def copyOne (o : Options) (source target : List Char) : Tool Unit := do
  let recursive := o.has 'r' || o.has 'R' || o.has 'a'
  match ← entry source, ← place source, ← place target with
  | .error e, _, _ | .ok _, .error e, _ => cannotStat source e
  | .ok .directory, .ok origin, .ok goal =>
    if !recursive then complain 1 ("-r not specified; omitting directory " ++ quoted source)
    else match (← get).store.get? goal with
      | some (.file _ _) =>
        complain 1 ("cannot overwrite non-directory " ++ quoted target ++ " with directory " ++
          quoted source)
      | _ =>
        if origin.isPrefixOf goal then
          complain 1 ("cannot copy a directory, " ++ quoted source ++ ", into itself, " ++
            quoted target)
        else setStore ((← get).store.copyTree origin goal)
  | .ok .directory, _, .error e =>
    if recursive then complain 1 ("cannot create directory " ++ quoted target ++ ": " ++ e.reason)
    else complain 1 ("-r not specified; omitting directory " ++ quoted source)
  | .ok (.file content executable), .ok origin, .ok goal =>
    if origin = goal then
      complain 1 (quoted source ++ " and " ++ quoted target ++ " are the same file")
    else match (← get).store.get? goal with
      | some .directory =>
        complain 1 ("cannot overwrite directory " ++ quoted target ++ " with non-directory")
      | some (.file _ old) =>
        if !o.has 'n' then
          setStore ((← get).store.put goal (.file content old))
          report o (quoted source ++ " -> " ++ quoted target)
      | none =>
        setStore ((← get).store.put goal (.file content executable))
        report o (quoted source ++ " -> " ++ quoted target)
  | .ok (.file _ _), _, .error e =>
    complain 1 ("cannot create regular file " ++ quoted target ++ ": " ++ e.reason)

/-- **Copies files.** -/
def copy (arguments : List (List Char)) : Tool Unit :=
  options
    { flags := "abdfHilLnPpRrsTuvxZ".toList
      valued := "St".toList
      long := [("recursive", 'r'), ("force", 'f'), ("archive", 'a'), ("no-clobber", 'n'),
        ("verbose", 'v')] }
    1 arguments fun o => toTarget o.operands (copyOne o)

/-- Moves one file or directory. -/
def moveOne (o : Options) (source target : List Char) : Tool Unit := do
  let cannotMove (e : OsError) :=
    complain 1 ("cannot move " ++ quoted source ++ " to " ++ quoted target ++ ": " ++ e.reason)
  match ← entry source, ← place source with
  | .error e, _ | .ok _, .error e => cannotStat source e
  | .ok moved, .ok origin =>
    match ← place (if moved = .directory then withoutSlashes target else target) with
    | .error e => cannotMove (if target.getLast? = some '/' then .notDirectory else e)
    | .ok goal =>
      let move : Tool Unit := do
        setStore ((← get).store.move origin goal)
        report o ("renamed " ++ quoted source ++ " -> " ++ quoted target)
      if origin = goal then
        complain 1 (quoted source ++ " and " ++ quoted target ++ " are the same file")
      else match (← get).store.get? goal, moved with
        | some .directory, .file _ _ =>
          complain 1 ("cannot overwrite directory " ++ quoted target ++ " with non-directory")
        | some (.file _ _), .directory =>
          complain 1 ("cannot overwrite non-directory " ++ quoted target ++ " with directory " ++
            quoted source)
        | some .directory, .directory =>
          if ((← get).store.names goal).isEmpty then move
          else complain 1 ("cannot overwrite " ++ quoted target ++ ": Directory not empty")
        | some (.file _ _), .file _ _ =>
          if !o.has 'n' then move
        | none, _ =>
          if origin.isPrefixOf goal then
            complain 1 ("cannot move " ++ quoted source ++ " to a subdirectory of itself, " ++
              quoted target)
          else move

/-- **Moves files.** -/
def move (arguments : List (List Char)) : Tool Unit :=
  options
    { flags := "bfinTuvZ".toList
      valued := "St".toList
      long := [("force", 'f'), ("no-clobber", 'n'), ("verbose", 'v')] }
    1 arguments fun o => toTarget o.operands (moveOne o)

/-! ### Removing and creating -/

/-- Removes one file, or one directory if that is asked for. -/
def removeOne (o : Options) (path : List Char) : Tool Unit := do
  let recursive := o.has 'r' || o.has 'R'
  let cannot (reason : String) := complain 1 ("cannot remove " ++ quoted path ++ ": " ++ reason)
  match ← entry path, ← place path with
  | .error e, _ | .ok _, .error e =>
    if !(o.has 'f' && (e = .notFound || e = .notDirectory)) then cannot e.reason
  | .ok .directory, .ok there =>
    let name := lastName path
    if recursive && (name = ['.'] || name = ['.', '.']) then
      complain 1 ("refusing to remove '.' or '..' directory: skipping " ++ quoted path)
    else if recursive || (o.has 'd' && ((← get).store.names there).isEmpty) then
      setStore ((← get).store.remove there)
    else cannot (if o.has 'd' then "Directory not empty" else OsError.isDirectory.reason)
  | .ok (.file _ _), .ok there =>
    setStore ((← get).store.remove there)
    report o ("removed " ++ quoted path)

/-- **Removes files.** -/
def remove (arguments : List (List Char)) : Tool Unit :=
  options
    { flags := "dfiIrRv".toList
      long := [("recursive", 'r'), ("force", 'f'), ("dir", 'd'), ("verbose", 'v')] }
    1 arguments fun o => do
      if o.operands.isEmpty && !o.has 'f' then misused 1 "missing operand"
      else o.operands.forM (removeOne o)

/-- Removes one empty directory. -/
def removeDirectory (o : Options) (path : List Char) : Tool Unit := do
  report o ((← get).name ++ ": removing directory, " ++ quoted path)
  let cannot (reason : String) :=
    complain 1 ("failed to remove " ++ quoted path ++ ": " ++ reason)
  match ← entry path, ← place path with
  | .error e, _ | .ok _, .error e => cannot e.reason
  | .ok (.file _ _), _ => cannot OsError.notDirectory.reason
  | .ok .directory, .ok there =>
    if lastName path = ['.'] then cannot "Invalid argument"
    else if ((← get).store.names there).isEmpty then setStore ((← get).store.remove there)
    else cannot "Directory not empty"

/-- **Removes empty directories.** -/
def removeDirectories (arguments : List (List Char)) : Tool Unit :=
  options { flags := "pv".toList, long := [("parents", 'p'), ("verbose", 'v')] } 1 arguments
    fun o => do
      if o.operands.isEmpty then misused 1 "missing operand"
      else o.operands.forM (removeDirectory o)

/-- The paths that lead to a path, and the path itself. -/
def pathsTo (path : List Char) : List (List Char) :=
  let ends := (List.range path.length).filter fun n => n ≠ 0 && path[n]? = some '/'
  ends.map path.take ++ [path]

/-- Creates one directory; with `quiet` one that exists is left as it is. -/
def makeDirectory (o : Options) (quiet : Bool) (path : List Char) : Tool Unit := do
  let cannot (reason : String) :=
    complain 1 ("cannot create directory " ++ quoted path ++ ": " ++ reason)
  match ← place (withoutSlashes path) with
  | .error e => cannot e.reason
  | .ok there =>
    match (← get).store.get? there with
    | some .directory => if !quiet then cannot "File exists"
    | some (.file _ _) => cannot "File exists"
    | none =>
      setStore ((← get).store.put there .directory)
      report o ((← get).name ++ ": created directory " ++ quoted path)

/-- **Creates directories.** -/
def makeDirectories (arguments : List (List Char)) : Tool Unit :=
  options
    { flags := "pvZ".toList, valued := ['m'], long := [("parents", 'p'), ("verbose", 'v')] }
    1 arguments fun o => do
      if o.operands.isEmpty then misused 1 "missing operand"
      else o.operands.forM fun path => do
        if o.has 'p' then
          if !(← isDirectory path) then
            (pathsTo (withoutSlashes path)).forM (makeDirectory o true)
        else makeDirectory o false path

/-- **Creates files that do not exist yet.** -/
def touch (arguments : List (List Char)) : Tool Unit :=
  options { flags := "achmf".toList, valued := "drt".toList } 1 arguments fun o => do
    if o.operands.isEmpty then misused 1 "missing file operand"
    else o.operands.forM fun path => do
      match ← entry path with
      | .ok _ => return
      | .error _ =>
        if !o.has 'c' then
          match ← writeFile path [] with
          | .ok () => return
          | .error e => complain 1 ("cannot touch " ++ quoted path ++ ": " ++ e.reason)

/-! ### Modes and names -/

/-- What a mode makes of the permission to execute a file. -/
def executable? (mode : List Char) (old : Bool) : Option Bool :=
  if !mode.isEmpty && mode.all fun c => '0' ≤ c && c ≤ '7' then
    some (mode.any fun c => c.toNat % 2 = 1)
  else
    let who := mode.takeWhile "ugoa".toList.contains
    match mode.drop who.length with
    | sign :: permissions =>
      if !"+-=".toList.contains sign || !permissions.all "rwxXst".toList.contains then none
      else if permissions.contains 'x' then some (sign ≠ '-')
      else some (sign ≠ '=' && old)
    | [] => none

/-- **Sets whether files can be executed.** -/
def changeMode (arguments : List (List Char)) : Tool Unit := do
  match arguments with
  | [] => misused 1 "missing operand"
  | [only] => misused 1 ("missing operand after " ++ quoted only)
  | mode :: paths =>
    if (executable? mode false).isNone then misused 1 ("invalid mode: " ++ quoted mode)
    else paths.forM fun path => do
      match ← entry path, ← place path with
      | .ok (.file content old), .ok there =>
        let executable := (executable? mode old).getD old
        setStore ((← get).store.put there (.file content executable))
      | .ok .directory, _ => return
      | .error e, _ | _, .error e =>
        complain 1 ("cannot access " ++ quoted path ++ ": " ++ e.reason)

/-- The names in a directory that are shown. -/
def shownNames (o : Options) (path : List Char) : Tool (List (List Char)) := do
  let names := (← get).store.octetNames path
  let shown := names.filter fun name =>
    name.head? ≠ some '.' || o.has 'a' ||
      (o.has 'A' && name ≠ ['.'] && name ≠ ['.', '.'])
  return if o.has 'r' then shown.reverse else shown

/-- **Lists files and the names in directories.** -/
def list (arguments : List (List Char)) : Tool Unit :=
  options
    { flags := "1aAbBcCdDfFgGhHiklLmnNopqQrRsStuUvxXZ".toList
      long := [("all", 'a'), ("almost-all", 'A'), ("reverse", 'r')] }
    2 arguments fun o => do
      let operands := if o.operands.isEmpty then [['.']] else o.operands
      let found ← operands.filterM fun path => do
        match ← entry path with
        | .ok _ => return true
        | .error e =>
          complain 2 ("cannot access " ++ quoted path ++ ": " ++ e.reason)
          return false
      let ordered := found.mergeSort fun a b => String.ofList a ≤ String.ofList b
      let directories ← if o.has 'd' then pure [] else ordered.filterM isDirectory
      let files := ordered.filter fun path => !directories.contains path
      files.forM sayLine
      (directories.zipIdx).forM fun (path, index) => do
        if 1 < operands.length then
          if 0 < index || !files.isEmpty then sayLine []
          sayLine (path ++ [':'])
        (← shownNames o path).forM sayLine

end Tool

end FigureScript
