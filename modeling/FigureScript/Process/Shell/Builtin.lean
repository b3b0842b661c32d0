import FigureScript.Process.Shell.Expand
import FigureScript.Process.Tool.Table

/-!
# Commands of the shell

The commands that the shell knows by itself, as far as they run no further commands.

## Main Definitions

* `Builtin` — an activity that may fail
* `Builtin.find?` — the command of a name
* `Builtin.isSpecial` — the commands whose failure ends a script

## Design Notes

A failure is a message.  Reporting it, and ending the script if the command is a special one,
is left to whoever runs the command.
-/

namespace FigureScript

/-- **An activity of the shell that may fail** with a message. -/
abbrev Builtin := ExceptT String Shell

namespace Builtin

/-- The commands whose failure ends a script, and whose assignments stay. -/
def isSpecial (name : String) : Bool :=
  TokenReader.reservedNames.contains name || name = "local"

/-- The commands whose arguments are assignments. -/
def takesAssignments (name : String) : Bool :=
  name = "export" || name = "readonly" || name = "local"

/-- Writes to the output. -/
def say (text : List Char) : Builtin Unit := do
  if !(← Shell.write 1 text) then modify fun s => { s with isCut := true }

/-- Sets the status. -/
def setStatus (status : Nat) : Builtin Unit :=
  Shell.setStatus status

/-- The number that an argument is. -/
def number (text : List Char) : Builtin Nat := do
  let bare := ((text.dropWhile Arithmetic.isSpace).reverse.dropWhile Arithmetic.isSpace).reverse
  let (negative, digits) := match bare with
    | '-' :: digits => (true, digits)
    | '+' :: digits => (false, digits)
    | digits => (false, digits)
  let value := Format.decimal digits
  if digits.isEmpty || !digits.all Char.isDigit || 2147483647 < value || negative && value ≠ 0 then
    throw ("Illegal number: " ++ String.ofList text)
  else return value

/-- The options in front of arguments. -/
def options (flags valued : List Char) : (fuel : Nat) → List (List Char) →
    Builtin (List (Char × List Char) × List (List Char))
  | 0, arguments => return ([], arguments)
  | fuel + 1, arguments =>
    match arguments with
    | ['-', '-'] :: rest => return ([], rest)
    | ('-' :: c :: letters) :: rest => do
      if valued.contains c then
        match letters, rest with
        | [], [] => throw ("No arg for -" ++ String.ofList [c] ++ " option")
        | [], value :: rest =>
          let (given, rest) ← options flags valued fuel rest
          return ((c, value) :: given, rest)
        | value, rest =>
          let (given, rest) ← options flags valued fuel rest
          return ((c, value) :: given, rest)
      else if flags.contains c then
        let rest := if letters.isEmpty then rest else ('-' :: letters) :: rest
        let (given, rest) ← options flags valued fuel rest
        return ((c, []) :: given, rest)
      else throw ("Illegal option -" ++ String.ofList [c])
    | arguments => return ([], arguments)

/-- The options in front of arguments. -/
def readOptions (flags : String) (valued : String) (arguments : List (List Char)) :
    Builtin (List (Char × List Char) × List (List Char)) :=
  options flags.toList valued.toList (arguments.flatten.length + arguments.length + 1) arguments

/-! ### Texts -/

/-- Writes its arguments with their escapes replaced. -/
def echo (arguments : List (List Char)) : Builtin Unit := do
  let bare := arguments.head? = some "-n".toList
  let text := List.intercalate [' '] (if bare then arguments.tail else arguments)
  let (shown, stopped) := Format.echoed text.length text
  say (shown ++ if bare || stopped then [] else ['\n'])

/-- Writes its arguments as a format asks for it. -/
def print (arguments : List (List Char)) : Builtin Unit := do
  let (_, arguments) ← readOptions "" "" arguments
  match arguments with
  | [] => throw "usage: printf format [arg ...]"
  | format :: arguments =>
    let filled := Format.output format (arguments.length + 1) { arguments }
    filled.problems.forM fun problem => do
      Shell.report (String.ofList problem)
      setStatus 1
    if let some directive := filled.refused then
      Shell.report (if directive.isEmpty then "missing format character"
        else String.ofList directive ++ ": invalid directive")
      setStatus 2
    say filled.output

/-- Decides a condition. -/
def test (arguments : List (List Char)) : Builtin Unit := do
  let s ← get
  match Condition.holds (Tool.look s.store) (arguments.length + 1) arguments with
  | .ok holds => setStatus (if holds then 0 else 1)
  | .error problem => throw problem

/-! ### Directories -/

/-- The path of the working directory. -/
def workingDirectory : Builtin (List Char) := do
  return Octets.ofText ("/" ++ "/".intercalate (← get).store.cwd)

/-- Writes the path of the working directory. -/
def showDirectory (arguments : List (List Char)) : Builtin Unit := do
  let _ ← readOptions "LP" "" arguments
  say ((← workingDirectory) ++ ['\n'])

/-- Changes the working directory. -/
def changeDirectory (arguments : List (List Char)) : Builtin Unit := do
  let (_, arguments) ← readOptions "LP" "" arguments
  let old ← workingDirectory
  let target ← match arguments with
    | [] => pure ((← Shell.lookup "HOME").getD [])
    | ['-'] :: _ => pure ((← Shell.lookup "OLDPWD").getD old)
    | path :: _ => pure path
  if !target.isEmpty then
    let s ← get
    let path := Tool.pathOf target
    match s.store.resolve path, s.store.lookup path with
    | .ok place, .ok .directory => set { s with store := { s.store with cwd := place } }
    | _, _ => throw ("can't cd to " ++ String.ofList target)
  let here ← workingDirectory
  Shell.assign "OLDPWD" old false
  Shell.assign "PWD" here false
  if arguments.head? = some ['-'] then say (here ++ ['\n'])

/-! ### Variables -/

/-- A name and the value behind its equals sign. -/
def splitAssignment (text : List Char) : List Char × Option (List Char) :=
  let name := text.takeWhile (· ≠ '=')
  match text.drop name.length with
  | [] => (name, none)
  | _ :: value => (name, some value)

/-- A name of a variable. -/
def variableName (text : List Char) : Builtin String := do
  if Word.isName text then return String.ofList text
  else throw (String.ofList text ++ ": bad variable name")

/-- A value between quotes. -/
def quotedValue (value : List Char) : List Char :=
  "'".toList ++ ((String.ofList value).replace "'" "'\"'\"'").toList ++ "'".toList

/-- Writes the variables of a kind as commands. -/
def showVariables (word : String) (shown : Variable → Bool) : Builtin Unit := do
  let all := ((← get).bindings.filter fun (_, entry) => shown entry).mergeSort fun a b =>
    a.1 ≤ b.1
  all.forM fun (name, entry) =>
    say (word.toList ++ name.toList ++
      ((entry.value.map fun value => '=' :: quotedValue value).getD []) ++ ['\n'])

/-- Changes variables, which may get values. -/
def mark (word : String) (shown : Variable → Bool) (change : Variable → Variable)
    (arguments : List (List Char)) : Builtin Unit := do
  let (given, arguments) ← readOptions "p" "" arguments
  if arguments.isEmpty || given.any (·.1 = 'p') then showVariables (word ++ " ") shown
  else arguments.forM fun argument => do
    let (name, value) := splitAssignment argument
    let name ← variableName name
    if let some value := value then Shell.assign name value false
    if ← Shell.isRunning then
      let entry := (← Shell.entry? name).getD { value := none }
      Shell.setVariable name (some (change entry))

/-- Removes variables or functions. -/
def unset (arguments : List (List Char)) : Builtin Unit := do
  let (given, arguments) ← readOptions "fv" "" arguments
  let functions := (given.getLast?.map (·.1)) = some 'f'
  arguments.forM fun argument => do
    if functions then
      modify fun s =>
        { s with functions := s.functions.filter (·.1 ≠ String.ofList argument) }
    else
      let name ← variableName argument
      match ← Shell.entry? name with
      | some entry =>
        if entry.readonly then throw (name ++ ": is read only") else Shell.setVariable name none
      | none => return

/-- Makes variables those of the function that runs. -/
def makeLocal (arguments : List (List Char)) : Builtin Unit := do
  if (← get).locals.isEmpty then throw "not in a function"
  arguments.forM fun argument => do
    let (name, value) := splitAssignment argument
    let name ← variableName name
    Shell.saveLocal name
    if let some value := value then Shell.assign name value false

/-! ### Options and arguments -/

/-- The options by their letters and names. -/
def optionNames : List (Char × String) :=
  [('e', "errexit"), ('f', "noglob"), ('I', "ignoreeof"), ('i', "interactive"), ('m', "monitor"),
    ('n', "noexec"), ('s', "stdin"), ('x', "xtrace"), ('v', "verbose"), ('V', "vi"), ('E', "emacs"),
    ('C', "noclobber"), ('a', "allexport"), ('b', "notify"), ('u', "nounset"), ('p', "privileged"),
    ('l', "nolog"), ('d', "debug")]

/-- Sets or clears an option. -/
def setOption (on : Bool) (letter : Char) : Shell Unit :=
  modify fun s =>
    let others := s.options.filter (· ≠ letter)
    { s with options := if on then letter :: others else others }

/-- Sets or clears the options that an argument names, and passes over the arguments that
this takes. -/
def setLetters (on : Bool) : List Char → List (List Char) → Builtin (List (List Char))
  | [], rest => return rest
  | 'o' :: letters, rest => do
    match rest with
    | [] => setLetters on letters []
    | name :: rest =>
      match optionNames.find? (·.2.toList = name) with
      | some (letter, _) =>
        setOption on letter
        setLetters on letters rest
      | none => throw ("Illegal option -o " ++ String.ofList name)
  | letter :: letters, rest => do
    if "efmnsxvVECabuIip".toList.contains letter then
      setOption on letter
      setLetters on letters rest
    else throw ("Illegal option -" ++ String.ofList [letter])

/-- Sets options and arguments. -/
def setAll : (fuel : Nat) → List (List Char) → Builtin Unit
  | 0, _ => return
  | _, [] => return
  | fuel + 1, argument :: rest => do
    let replace (arguments : List (List Char)) : Builtin Unit :=
      modify fun s => { s with arguments }
    match argument with
    | ['-', '-'] => replace rest
    | ['-'] =>
      setOption false 'x'
      setOption false 'v'
      if !rest.isEmpty then replace rest
    | '-' :: letters => setAll fuel (← setLetters true letters rest)
    | '+' :: letters => setAll fuel (← setLetters false letters rest)
    | _ => replace (argument :: rest)

/-- Sets options and arguments, or shows all variables. -/
def setCommand (arguments : List (List Char)) : Builtin Unit :=
  if arguments.isEmpty then showVariables "" (·.value.isSome)
  else setAll (arguments.length + 1) arguments

/-- Drops arguments. -/
def shift (arguments : List (List Char)) : Builtin Unit := do
  let count ← match arguments with
    | [] => pure 1
    | text :: _ => number text
  let s ← get
  if s.arguments.length < count then throw "can't shift that many"
  else set { s with arguments := s.arguments.drop count }

/-- Reads the next option of the arguments of a script. -/
def nextOption (arguments : List (List Char)) : Builtin Unit := do
  match arguments with
  | known :: name :: given =>
    let name ← variableName name
    let quiet := known.head? = some ':'
    let index := (((← Shell.lookup "OPTIND").map Format.decimal).getD 1)
    let s ← get
    let given := if given.isEmpty then s.arguments else given
    let offset := if index ≤ 1 && s.optionOffset = 0 then 1 else max 1 s.optionOffset
    let finish (index offset status : Nat) (letter : List Char) : Builtin Unit := do
      modify fun s => { s with optionOffset := offset }
      Shell.assign "OPTIND" (toString index).toList false
      Shell.assign name letter false
      setStatus status
    match given[index - 1]? with
    | some ('-' :: c :: letters) =>
      let letters := '-' :: c :: letters
      if letters = ['-', '-'] then finish (index + 1) 0 1 ['?']
      else
        let letter := (letters[offset]?).getD '?'
        let isLast := letters.length ≤ offset + 1
        match known.dropWhile (· ≠ letter) with
        | _ :: ':' :: _ =>
          if !isLast then
            Shell.assign "OPTARG" (letters.drop (offset + 1)) false
            finish (index + 1) 0 0 [letter]
          else match given[index]? with
            | some value =>
              Shell.assign "OPTARG" value false
              finish (index + 2) 0 0 [letter]
            | none =>
              if quiet then
                Shell.assign "OPTARG" [letter] false
                finish (index + 1) 0 0 [':']
              else
                let _ ← Shell.write 2
                  ("No arg for -" ++ String.ofList [letter] ++ " option\n").toList
                finish (index + 1) 0 0 ['?']
        | _ :: _ =>
          if isLast then finish (index + 1) 0 0 [letter] else finish index (offset + 1) 0 [letter]
        | [] =>
          if quiet then Shell.assign "OPTARG" [letter] false
          else
            let _ ← Shell.write 2 ("Illegal option -" ++ String.ofList [letter] ++ "\n").toList
          finish (if isLast then index + 1 else index) (if isLast then 0 else offset + 1) 0 ['?']
    | _ => finish index 0 1 ['?']
  | _ => throw "Usage: getopts optstring var [arg...]"

/-! ### Flow -/

/-- Ends the script. -/
def exit (arguments : List (List Char)) : Builtin Unit := do
  let before := (← get).previous
  let status ← match arguments with
    | [] => pure before
    | text :: _ => pure ((← number text) % 256)
  modify fun s => { s with status, flow := .exiting }

/-- Ends the function that runs. -/
def leave (arguments : List (List Char)) : Builtin Unit := do
  let before := (← get).previous
  let status ← match arguments with
    | [] => pure before
    | text :: _ => pure ((← number text) % 256)
  modify fun s => { s with status, flow := .returning }

/-- Leaves loops, or goes on with their next round. -/
def leaveLoops (flow : Nat → Flow) (arguments : List (List Char)) : Builtin Unit := do
  let count ← match arguments with
    | [] => pure 1
    | text :: _ =>
      let count ← number text
      if count = 0 then throw ("Illegal number: " ++ String.ofList text) else pure count
  let s ← get
  setStatus 0
  if 0 < s.loops then
    modify fun s => { s with flow := flow (min count s.loops) }

/-! ### Reading -/

/-- The characters of a line, marked if a backslash protects them, and whether one at the end
joins it to the next line. -/
def markedChars : List Char → List (Char × Bool) × Bool
  | [] => ([], false)
  | ['\\'] => ([], true)
  | '\\' :: c :: rest =>
    let (text, goesOn) := markedChars rest
    ((c, true) :: text, goesOn)
  | c :: rest =>
    let (text, goesOn) := markedChars rest
    ((c, false) :: text, goesOn)

/-- A line that is read, with marks for its characters, and whether its end was there. -/
def readMarked (raw : Bool) : (fuel : Nat) → Builtin (List (Char × Bool) × Bool)
  | 0 => return ([], false)
  | fuel + 1 => do
    let (line, complete) ← Shell.readLine 0
    if raw then return (line.map fun c => (c, false), complete)
    else
      let (text, goesOn) := markedChars line
      if goesOn && complete then
        let (more, complete) ← readMarked raw fuel
        return (text ++ more, complete)
      else return (text, complete)

/-- Splits a line for some variables, the last of which gets all that is left. -/
def splitFields (separators : List Char) : (count : Nat) → List (Char × Bool) → List (List Char)
  | 0, _ => []
  | count + 1, line =>
    let separates : Char × Bool → Bool := fun (c, safe) => !safe && separators.contains c
    let isBlank : Char × Bool → Bool := fun (c, safe) =>
      separates (c, safe) && (c = ' ' || c = '\t' || c = '\n')
    let line := line.dropWhile isBlank
    let field := line.takeWhile (!separates ·)
    let behind := line.drop field.length
    let rest := behind.dropWhile isBlank
    let rest := match rest with
      | next :: more => if separates next then more.dropWhile isBlank else rest
      | [] => rest
    if count = 0 then
      let kept := (line.reverse.dropWhile isBlank).reverse
      if rest.isEmpty then [field.map (·.1)] else [kept.map (·.1)]
    else field.map (·.1) :: splitFields separators count rest

/-- Reads a line into variables. -/
def read (arguments : List (List Char)) : Builtin Unit := do
  let (given, arguments) ← readOptions "r" "p" arguments
  if arguments.isEmpty then throw "arg count"
  let names ← arguments.mapM variableName
  let separators ← Shell.separators
  let (line, complete) ← readMarked (given.any (·.1 = 'r')) 1000
  let fields := splitFields separators names.length line
  (names.zipIdx).forM fun (name, i) => Shell.assign name ((fields[i]?).getD []) false
  setStatus (if complete then 0 else 1)

/-! ### Signals and jobs -/

/-- The number of a signal. -/
def signal? (least : Nat) (text : List Char) : Option Nat :=
  if !text.isEmpty && text.all Char.isDigit then
    some (Format.decimal text) |>.filter (· < 65)
  else
    let name := "SIG" ++ String.ofList (text.map Char.toUpper)
    if least = 0 && name = "SIGEXIT" then some 0
    else (ExitStatus.signalNames.findIdx? (· = name)).map (· + 1)

/-- The usage of `kill`. -/
def killUsage : String :=
  "Usage: kill [-s sigspec | -signum | -sigspec] [pid | job]... or\nkill -l [exitstatus]"

/-- Sends a signal to a process; it may be one of those that are running. -/
def send (signal process : Nat) : Builtin Unit := do
  let s ← get
  if process = s.process then Shell.receive signal
  else match s.jobs.find? (·.process = process) with
    | some job =>
      if s.elapsed < job.ends && !Shell.isHarmless signal then
        let job :=
          { job with status := 128 + signal, ends := s.elapsed, held := min job.held s.elapsed }
        modify fun s =>
          { s with jobs := s.jobs.map fun old => if old.process = process then job else old }
    | none =>
      if s.ancestors.contains process then
        if !Shell.isHarmless signal then
          modify fun s => { s with flow := .killed process signal }
      else
        Shell.report "No such process\n"
        setStatus 1

/-- Sends signals, or shows their names. -/
def kill (arguments : List (List Char)) : Builtin Unit := do
  let sendAll (signal : Nat) (targets : List (List Char)) : Builtin Unit := do
    if targets.isEmpty then throw killUsage
    targets.forM fun target =>
      match target with
      | '-' :: digits => do send signal (← number digits)
      | '%' :: _ => throw ("No such job: " ++ String.ofList target)
      | digits => do send signal (← number digits)
  match arguments with
  | ('-' :: text) :: rest =>
    match signal? 1 text with
    | some signal => sendAll signal rest
    | none =>
      let (given, rest) ← readOptions "l" "s" arguments
      match given.getLast? with
      | some ('s', name) =>
        match signal? 1 name with
        | some signal => sendAll signal rest
        | none => throw ("invalid signal number or name: " ++ String.ofList name)
      | some _ =>
        let shortName (name : String) : List Char := name.toList.drop 3
        match rest with
        | [] =>
          say "0\n".toList
          ExitStatus.signalNames.forM fun name => say (shortName name ++ ['\n'])
        | text :: _ =>
          let n ← number text
          match ExitStatus.signalNames[(if 128 < n then n - 128 else n) - 1]? with
          | some name => say (shortName name ++ ['\n'])
          | none => throw ("invalid signal number or exit status: " ++ String.ofList text)
      | none => sendAll 15 rest
  | [] => throw killUsage
  | targets => sendAll 15 targets

/-- Waits for one job. -/
def waitFor (job : Job) : Builtin Unit := do
  Shell.pass (job.ends - (← get).elapsed)
  setStatus job.status
  if 128 < job.status && !job.isReported then
    Shell.tellSignal (job.status - 128)

/-- Waits for jobs to end. -/
def wait (arguments : List (List Char)) : Builtin Unit := do
  let (_, arguments) ← readOptions "" "" arguments
  let jobs := (← get).jobs
  if arguments.isEmpty then
    jobs.forM fun job => do Shell.pass (job.ends - (← get).elapsed)
    setStatus 0
  else arguments.forM fun argument => do
    match argument with
    | '%' :: _ => throw ("No such job: " ++ String.ofList argument)
    | digits =>
      let process ← number digits
      match jobs.find? (·.process = process) with
      | some job => waitFor job
      | none => setStatus 127

/-- Sets what is run at signals, or shows it. -/
def trap (arguments : List (List Char)) : Builtin Unit := do
  let (_, arguments) ← readOptions "" "" arguments
  let sorted := (← get).traps.mergeSort fun a b => a.1 ≤ b.1
  let name (signal : Nat) : List Char :=
    if signal = 0 then "EXIT".toList
    else ((ExitStatus.signalNames[signal - 1]?).map (·.toList.drop 3)).getD (toString signal).toList
  match arguments with
  | [] =>
    sorted.forM fun (signal, action) =>
      say ("trap -- ".toList ++ quotedValue action ++ ' ' :: name signal ++ ['\n'])
  | first :: rest =>
    let resets := rest.isEmpty || (signal? 0 first).isSome && first.all Char.isDigit
    let action := if resets || first = ['-'] then none else some first
    let set (good : Bool) (text : List Char) : Builtin Bool := do
      match if good then signal? 0 text else none with
      | some signal =>
        modify fun s =>
          let others := s.traps.filter (·.1 ≠ signal)
          { s with traps := match action with
              | some action => (signal, action) :: others
              | none => others }
        return true
      | none =>
        if good then
          let _ ← Shell.write 2 ("trap: " ++ String.ofList text ++ ": bad trap\n").toList
        setStatus 1
        return false
    let _ ← (if resets then first :: rest else rest).foldlM set true

/-- Shows the mask of permissions; another mask is taken without any effect. -/
def mask (arguments : List (List Char)) : Builtin Unit := do
  let (given, arguments) ← readOptions "S" "" arguments
  if arguments.isEmpty then
    say (if given.isEmpty then "0022\n".toList else "u=rwx,g=rx,o=rx\n".toList)

/-! ### All commands -/

/-- **The command of a name**, if it is one that runs no further commands. -/
def find? (name : String) : Option (List (List Char) → Builtin Unit) :=
  match name with
  | ":" | "true" => some fun _ => return
  | "false" => some fun _ => setStatus 1
  | "echo" => some echo
  | "printf" => some print
  | "test" => some test
  | "[" => some fun arguments =>
    if (arguments.getLast?.bind (·.head?)) = some ']' then test arguments.dropLast
    else throw "missing ]"
  | "cd" | "chdir" => some changeDirectory
  | "pwd" => some showDirectory
  | "export" => some (mark "export" (·.exported) fun entry => { entry with exported := true })
  | "readonly" => some (mark "readonly" (·.readonly) fun entry => { entry with readonly := true })
  | "unset" => some unset
  | "local" => some makeLocal
  | "set" => some setCommand
  | "shift" => some shift
  | "getopts" => some nextOption
  | "exit" => some exit
  | "return" => some leave
  | "break" => some (leaveLoops .breaking)
  | "continue" => some (leaveLoops .continuing)
  | "read" => some read
  | "kill" => some kill
  | "wait" => some wait
  | "trap" => some trap
  | "umask" => some mask
  | "alias" | "bg" | "fg" | "hash" | "jobs" | "times" | "ulimit" | "unalias" => some fun _ => return
  | _ => none

/-- The commands that run further commands. -/
def runners : List String :=
  [".", "command", "eval", "exec", "type"]

/-- A command that the shell knows by itself has this name. -/
def isKnown (name : String) : Bool :=
  (find? name).isSome || runners.contains name

end Builtin

end FigureScript
