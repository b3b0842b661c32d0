import FigureScript.Process.Shell.Condition
import FigureScript.Process.Tool.Calculation
import FigureScript.Process.Tool.Edit
import FigureScript.Process.Tool.Search

/-!
# The tools by name

## Main Definitions

* `Tool.find?` — the tool of a name
* `Tool.look` — what a path names
* `Program.launch` — the tool or shell that a program file stands for

## Design Notes

A program file is a script whose first line names what reads it, by its path and with at most
one argument.  The files of the tools and the shells themselves are in directories that are
not stored; any spelling of the path of such a directory counts.
-/

namespace FigureScript

namespace Tool

/-- The number of milliseconds of a duration: a number of seconds, or of the unit behind
it. -/
def milliseconds? (text : List Char) : Option Nat :=
  let (body, unit) := match text.reverse with
    | 's' :: rest => (rest.reverse, 1)
    | 'm' :: rest => (rest.reverse, 60)
    | 'h' :: rest => (rest.reverse, 3600)
    | 'd' :: rest => (rest.reverse, 86400)
    | _ => (text, 1)
  let whole := body.takeWhile Char.isDigit
  let read (fraction : List Char) : Option Nat :=
    if (whole ++ fraction).isEmpty || !fraction.all Char.isDigit then none
    else some (unit * Format.decimal (whole ++ (fraction ++ ['0', '0', '0']).take 3))
  match body.drop whole.length with
  | [] => read []
  | '.' :: fraction => read fraction
  | _ => none

/-- **Lets time pass.** -/
def sleep (arguments : List (List Char)) : Tool Unit :=
  options { flags := [] } 1 arguments fun o => do
    match o.operands.filter fun text => (milliseconds? text).isNone with
    | [] =>
      if o.operands.isEmpty then misused 1 "missing operand"
      else modify fun s =>
        { s with duration := (o.operands.filterMap milliseconds?).foldl (· + ·) 0 }
    | wrong =>
      wrong.dropLast.forM fun text => complain 1 ("invalid time interval " ++ quoted text)
      misused 1 ("invalid time interval " ++ quoted (wrong.getLast?.getD []))

/-- The path of a device. -/
def isDevice (path : String) : Bool :=
  ["/dev/null", "/dev/zero", "/dev/full", "/dev/stdin", "/dev/stdout", "/dev/stderr"].contains path

/-- The names of the shells. -/
def shellNames : List String :=
  ["sh", "dash", "bash"]

/-- The names of the tools that the table has. -/
def names : List String :=
  ["true", "false", "echo", "printf", "test", "[", "sleep", "cat", "head", "tail", "wc", "sort",
    "uniq", "tr", "cut", "tee", "seq", "basename", "dirname", "realpath", "cp", "mv", "rm", "rmdir",
    "mkdir", "touch", "ls", "chmod", "pwd", "kill", "date", "sync", "env", "grep", "egrep", "fgrep",
    "sed", "expr"]

/-- The directories of the tools and the shells. -/
def directories : List (List String) :=
  [["bin"], ["usr", "bin"]]

/-- The places that names lead to from a place, by the names alone. -/
def walk (here : Place) (names : List String) : Place :=
  names.foldl (fun here name =>
    if name = "." then here else if name = ".." then here.dropLast else here ++ [name]) here

/-- The tool or the shell that a path names. -/
def atPath? (path : String) : Option String :=
  if Path.isAbsolute path && path.toList.getLast? ≠ some '/' then
    let place := walk [] (Path.parts path)
    place.getLast?.filter fun name =>
      directories.contains place.dropLast && (names.contains name || shellNames.contains name)
  else none

/-- **What a path names**, the files of the tools included. -/
def look (store : Store) (path : List Char) : Option PathKind :=
  let text := pathOf path
  match store.lookup text with
  | .ok .directory => some .directory
  | .ok (.file content executable) => some (.file content.bytes.length executable)
  | .error _ =>
    if isDevice text then some .device
    else if (atPath? text).isSome then some (.file 1 true)
    else none

/-- Decides a condition. -/
def decideCondition (arguments : List (List Char)) : Tool Unit := do
  let s ← get
  match Condition.holds (look s.store) (arguments.length + 1) arguments with
  | .ok holds => setStatus (if holds then 0 else 1)
  | .error problem => complain 2 problem

/-- **The tool of a name.** -/
def find? (name : String) : Option (List (List Char) → Tool Unit) :=
  match name with
  | "true" | "sync" => some fun _ => setStatus 0
  | "false" => some fun _ => setStatus 1
  | "echo" => some echo
  | "printf" => some print
  | "test" => some decideCondition
  | "[" => some fun arguments =>
    if arguments.getLast? = some [']'] then decideCondition arguments.dropLast
    else complain 2 "missing ']'"
  | "sleep" => some sleep
  | "cat" => some concatenate
  | "head" => some (showParts firstPart)
  | "tail" => some (showParts lastPart)
  | "wc" => some count
  | "sort" => some sort
  | "uniq" => some distinct
  | "tr" => some translate
  | "cut" => some cut
  | "tee" => some tee
  | "seq" => some sequence
  | "basename" => some baseName
  | "dirname" => some directoryName
  | "realpath" => some realPath
  | "cp" => some copy
  | "mv" => some move
  | "rm" => some remove
  | "rmdir" => some removeDirectories
  | "mkdir" => some makeDirectories
  | "touch" => some touch
  | "ls" => some list
  | "chmod" => some changeMode
  | "pwd" => some fun arguments => options { flags := "LP".toList } 1 arguments fun _ => do
    sayLine (Octets.ofText ("/" ++ "/".intercalate (← get).store.cwd))
  | "date" => some fun arguments => options { flags := "uRI".toList, valued := "dfrs".toList } 1
    arguments fun _ => setStatus 0
  | "kill" => some fun _ => complain 1 "not enough arguments"
  | "grep" => some search
  | "egrep" => some fun arguments => search ("-E".toList :: arguments)
  | "fgrep" => some fun arguments => search ("-F".toList :: arguments)
  | "sed" => some edit
  | "expr" => some calculate
  | _ => none

end Tool

/-- **A tool or a shell that is started**: its name, how it was called, and its
arguments. -/
structure Launch where
  tool : String
  calledAs : String
  arguments : List (List Char)

namespace Program

/-- The words of the first line of a script: the path of what reads it, and an argument. -/
def reader? (text : List Char) : Option (List Char × Option (List Char)) :=
  match text with
  | '#' :: '!' :: rest =>
    let isBlank (c : Char) : Bool := c = ' ' || c = '\t'
    let line := (rest.takeWhile (· ≠ '\n')).dropWhile isBlank
    let path := line.takeWhile (!isBlank ·)
    let argument := (((line.drop path.length).dropWhile isBlank).reverse.dropWhile isBlank).reverse
    if path.isEmpty then none else some (path, if argument.isEmpty then none else some argument)
  | _ => none

/-- **The tool or the shell that a program file stands for.**  A script can be read by
another script, to some depth. -/
def launch (store : Store) : (depth : Nat) → (path : List Char) → List (List Char) →
    Except OsError Launch
  | 0, _, _ => .error .notExecutable
  | depth + 1, path, arguments =>
    match store.lookup (Tool.pathOf path) with
    | .ok .directory => .error .permissionDenied
    | .ok (.file content executable) =>
      if !executable then .error .permissionDenied
      else match reader? content.octets with
        | some (reader, argument) =>
          launch store depth reader (argument.toList ++ path :: arguments)
        | none => .error .notExecutable
    | .error e =>
      match Tool.atPath? (Tool.pathOf path) with
      | some tool => .ok ⟨tool, String.ofList path, arguments⟩
      | none => .error e

end Program

end FigureScript
