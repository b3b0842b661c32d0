import FigureScript.Process.Shell.Run

/-!
# A machine

A machine that runs shell scripts among its files, and common tools by name.

## Main Definitions

* `Machine.host` — the machine

## Design Notes

A program is looked for from the working directory that it is to run in.  A name without a
slash is one of the tools or shells.  What is run reads nothing, and only its error output is
kept.
-/

namespace FigureScript.Machine

/-- The variables that every program finds. -/
def bindings : List (String × Variable) :=
  [("PATH", "/usr/local/sbin:/usr/local/bin:/usr/sbin:/usr/bin:/sbin:/bin"), ("HOME", "/root")].map
    fun (name, value) => (name, { value := some value.toList, exported := true })

/-- Scripts of this machine are nested to this depth. -/
def maxDepth : Nat := 10000

/-- The tool or the shell that a program stands for. -/
def launch (store : Store) (command : Command) : Except OsError Launch :=
  let arguments := command.arguments.map Octets.ofText
  if command.program.toList.contains '/' then
    Program.launch store 5 (Octets.ofText command.program) arguments
  else if (Tool.names ++ Tool.shellNames).contains command.program then
    .ok ⟨command.program, command.program, arguments⟩
  else .error .notFound

/-- The state in which a program starts. -/
def initial (store : Store) (command : Command) : ShellState where
  store := store
  name := ""
  arguments := []
  bindings := bindings
  streams := [(0, .nothing), (1, .nothing), (2, .writer Shell.errorBuffer)]
  buffers := [[]]
  deadline := command.deadline

/-- How a program ended that left a state. -/
def ending (s : ShellState) : Ending :=
  if s.deadline.any (· ≤ s.heldByAll) && 0 < s.heldByAll then .timedOut
  else match s.flow with
    | .timedOut => .timedOut
    | .killed _ signal => .finished (.signal signal)
    | _ => .finished (.code s.status)

/-- Runs a tool or a shell. -/
def execute (store : Store) (command : Command) (launch : Launch) : Execution :=
  let ((), s) := StateT.run (Shell.become maxDepth launch) (initial store command)
  { store := s.store
    ending := ending s
    errorOutput := Octets.toBytes ((s.buffers[Shell.errorBuffer]?).getD []) }

/-- Starts a program in the working directory of the files. -/
def start (store : Store) (command : Command) : Except OsError Execution := do
  return execute store command (← launch store command)

/-- The place in which a command is to run. -/
def workingPlace (store : Store) (command : Command) : Except OsError Place :=
  match command.directory with
  | none => .ok store.cwd
  | some path => do
    let place ← store.resolve path
    match store.get? place with
    | some .directory => .ok place
    | some (.file _ _) => .error .notDirectory
    | none => .error .notFound

/-- **The machine.**  A program that must be done at once is stopped before it does
anything. -/
def host : Host := fun store command => do
  if command.program.toList.contains (Char.ofNat 0) then throw .nulInCommand
  let cwd ← workingPlace store command
  let started := { store with cwd }
  if command.deadline = some 0 then
    let _ ← launch started command
    return { store, ending := .timedOut, errorOutput := [] }
  else
    let execution ← start started command
    return { execution with store := { execution.store with cwd := store.cwd } }

end FigureScript.Machine
