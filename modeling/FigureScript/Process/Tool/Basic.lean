import FigureScript.Files.Content
import FigureScript.Process.Shell.Wildcard

/-!
# Tools

The commands that shell scripts find on every machine.

## Main Definitions

* `Tool` — an activity of a tool: it reads and writes files and streams
* `Tool.Options`, `Tool.options` — the options among the arguments
* `Tool.quoted` — a name in a message

## Design Notes

Options can stand anywhere among the arguments in front of `--`, and several of one letter
can be given together.  A tool that does not know an option says so and does nothing.
-/

namespace FigureScript

/-- What a tool has to do with. -/
structure ToolState where
  /-- The name by which the tool was called. -/
  name : String
  store : Store
  /-- What can be read from its input. -/
  input : List Char
  /-- Its input is a file, and no pipe. -/
  isFileInput : Bool := false
  /-- It has read its input. -/
  usedInput : Bool := false
  /-- What it wrote, the last piece first, with the numbers of the streams. -/
  written : List (Nat × List Char) := []
  status : Nat := 0
  /-- How long it takes, in milliseconds. -/
  duration : Nat := 0

/-- **An activity of a tool.** -/
abbrev Tool := StateM ToolState

namespace Tool

/-- Writes to the output. -/
def say (text : List Char) : Tool Unit :=
  modify fun s => { s with written := (1, text) :: s.written }

/-- Writes a line to the output. -/
def sayLine (text : List Char) : Tool Unit :=
  say (text ++ ['\n'])

/-- Sets the status. -/
def setStatus (status : Nat) : Tool Unit :=
  modify fun s => { s with status }

/-- **Complains**: a line with the name of the tool goes to the error output. -/
def complain (status : Nat) (message : String) : Tool Unit :=
  modify fun s =>
    { s with status, written := (2, (s.name ++ ": " ++ message ++ "\n").toList) :: s.written }

/-- Complains about how the tool was called, in one or more lines. -/
def misused (status : Nat) (message : String) : Tool Unit := do
  complain status message
  modify fun s =>
    { s with written :=
        (2, ("Try '" ++ s.name ++ " --help' for more information.\n").toList) :: s.written }

/-! ### Names in messages -/

/-- A character that needs no quotes. -/
def isSafe (c : Char) : Bool :=
  c.isAlphanum || "%+,-./:@_]\x7b\x7d~".toList.contains c

/-- A character that can be shown. -/
def isShowable (c : Char) : Bool :=
  32 ≤ c.toNat && c.toNat < 127

/-- The escape for a character that cannot be shown. -/
def escaped (c : Char) : List Char :=
  match c.toNat with
  | 7 => ['\\', 'a']
  | 8 => ['\\', 'b']
  | 9 => ['\\', 't']
  | 10 => ['\\', 'n']
  | 11 => ['\\', 'v']
  | 12 => ['\\', 'f']
  | 13 => ['\\', 'r']
  | n =>
    let digits := Nat.toDigits 8 n
    '\\' :: (List.replicate (3 - digits.length) '0' ++ digits)

/-- A name within quotes, whose escapes have quotes of their own; `inside` is set behind an
escape. -/
def withEscapes : (inside : Bool) → List Char → List Char
  | _, [] => ['\'']
  | inside, c :: rest =>
    if isShowable c then
      (if inside then ['\'', '\''] else []) ++
        (if c = '\'' then "'\\''".toList else [c]) ++ withEscapes false rest
    else (if inside then [] else "'$'".toList) ++ escaped c ++ withEscapes true rest

/-- A name between quotes. -/
def quoted (name : List Char) : String :=
  if name.contains '\'' && name.all isShowable &&
      !name.any (fun c => "\"$\\\x60!".toList.contains c) then
    "\"" ++ String.ofList name ++ "\""
  else String.ofList ('\'' :: withEscapes false name)

/-- A name, between quotes only if it needs them. -/
def shown (name : List Char) : String :=
  if !name.isEmpty && name.all isSafe then String.ofList name else quoted name

/-! ### Options -/

/-- The options that were given, and what else. -/
structure Options where
  /-- The options with their values, in their order. -/
  given : List (Char × List Char) := []
  operands : List (List Char) := []

namespace Options

/-- An option was given. -/
def has (o : Options) (option : Char) : Bool :=
  o.given.any (·.1 = option)

/-- The last value of an option. -/
def value? (o : Options) (option : Char) : Option (List Char) :=
  (o.given.reverse.find? (·.1 = option)).map (·.2)

/-- With one more option. -/
def add (o : Options) (option : Char) (value : List Char) : Options :=
  { o with given := o.given ++ [(option, value)] }

end Options

/-- The options that a tool knows: letters, those among them that take a value, and long
names for some. -/
structure KnownOptions where
  flags : List Char
  valued : List Char := []
  long : List (String × Char) := []

/-- Reads options that are given together; the rest of the arguments may hold the value of
the last one. -/
def cluster (known : KnownOptions) : Options → List Char → List (List Char) →
    Except String (Options × List (List Char))
  | read, [], rest => .ok (read, rest)
  | read, c :: letters, rest =>
    if known.valued.contains c then
      match letters, rest with
      | [], [] => .error ("option requires an argument -- '" ++ String.ofList [c] ++ "'")
      | [], value :: rest => .ok (read.add c value, rest)
      | letters, rest => .ok (read.add c letters, rest)
    else if known.flags.contains c then cluster known (read.add c []) letters rest
    else .error ("invalid option -- '" ++ String.ofList [c] ++ "'")

/-- Reads a long option. -/
def longOption (known : KnownOptions) (read : Options) (text : List Char)
    (rest : List (List Char)) : Except String (Options × List (List Char)) :=
  let name := text.takeWhile (· ≠ '=')
  let value := text.drop (name.length + 1)
  let fitting := known.long.filter fun (long, _) => name.isPrefixOf long.toList
  match (fitting.find? fun (long, _) => long.toList = name) <|> fitting.head? with
  | none => .error ("unrecognized option '--" ++ String.ofList text ++ "'")
  | some (long, letter) =>
    if !known.valued.contains letter then .ok (read.add letter [], rest)
    else if name.length < text.length then .ok (read.add letter value, rest)
    else match rest with
      | value :: rest => .ok (read.add letter value, rest)
      | [] => .error ("option '--" ++ long ++ "' requires an argument")

/-- Reads the options among arguments. -/
def readOptions (known : KnownOptions) : (fuel : Nat) → Options → List (List Char) →
    Except String Options
  | 0, read, _ => .ok read
  | _, read, [] => .ok read
  | fuel + 1, read, argument :: rest =>
    match argument with
    | ['-', '-'] => .ok { read with operands := read.operands ++ rest }
    | '-' :: '-' :: name => do
      let (read, rest) ← longOption known read name rest
      readOptions known fuel read rest
    | '-' :: c :: letters => do
      let (read, rest) ← cluster known read (c :: letters) rest
      readOptions known fuel read rest
    | operand => readOptions known fuel { read with operands := read.operands ++ [operand] } rest

/-- **Runs a tool with its options**, unless they are not all known. -/
def options (known : KnownOptions) (status : Nat) (arguments : List (List Char))
    (run : Options → Tool Unit) : Tool Unit :=
  if arguments.contains "--help".toList || arguments.contains "--version".toList then
    setStatus 0
  else match readOptions known (arguments.length + 1) {} arguments with
    | .error problem => misused status problem
    | .ok options => run options

/-! ### Files -/

/-- The path that an argument is. -/
def pathOf (argument : List Char) : String :=
  Store.pathOfOctets argument

/-- The input as a whole. -/
def readInput : Tool (List Char) := do
  let s ← get
  set { s with usedInput := true, input := [] }
  return s.input

/-- The devices in which there is nothing. -/
def emptyDevices : List String :=
  ["/dev/null", "/dev/stdout", "/dev/stderr"]

/-- The content of a file. -/
def contentAt (store : Store) (path : List Char) : Except OsError (List Char) :=
  if emptyDevices.contains (pathOf path) then .ok []
  else (store.read (pathOf path)).map FileContent.octets

/-- The content of a file; the name `-` stands for the input. -/
def readFile (argument : List Char) : Tool (Except OsError (List Char)) := do
  if argument = ['-'] || argument = "/dev/stdin".toList then return .ok (← readInput)
  else return contentAt (← get).store argument

/-- Writes a file. -/
def writeFile (argument content : List Char) : Tool (Except OsError Unit) := do
  if emptyDevices.contains (pathOf argument) then return .ok ()
  match (← get).store.write (pathOf argument) (.ofOctets content) with
  | .ok store =>
    modify fun s => { s with store }
    return .ok ()
  | .error e => return .error e

end Tool

end FigureScript
