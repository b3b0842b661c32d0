import FigureScript.Files.Content
import FigureScript.Process.Basic
import FigureScript.Process.Shell.Script
import FigureScript.Process.Shell.Wildcard
import FigureScript.Text.Lines

/-!
# The state of a shell

What a shell knows while it runs a script: files, variables, streams, and how the script
goes on.

## Main Definitions

* `ShellState`, `Shell` — the state, and an activity of a shell
* `Shell.write`, `Shell.readLine` — streams
* `Shell.lookup`, `Shell.assign` — variables
* `Shell.pass` — time that passes

## Design Notes

A stream leads to a channel.  Channels of one kind are ends of buffers, into which outputs
are collected; the first buffer is the error output of the script as a whole.  Files that
are open have a position of their own, which the streams that lead to them share.

A script that is waited for with a deadline is waited for until nobody holds its error
output any more.  What holds it is noted whenever time passes.
-/

namespace FigureScript

/-- **Where a stream leads to.** -/
inductive Channel where
  /-- Nothing can be read there, and what is written vanishes. -/
  | nothing
  | writer (buffer : Nat)
  | reader (buffer : Nat)
  /-- A file, by its number among those that have been opened. -/
  | file (number : Nat)
  /-- Nothing can be written there. -/
  | full
  deriving DecidableEq

/-- A file that has been opened. -/
structure OpenFile where
  place : Place
  /-- How many bytes are in front of the position. -/
  position : Nat
  appends : Bool
  readable : Bool
  writable : Bool

/-- A variable. -/
structure Variable where
  value : Option (List Char)
  exported : Bool := false
  readonly : Bool := false

/-- **How a script goes on.** -/
inductive Flow where
  | running
  /-- So many loops are left. -/
  | breaking (loops : Nat)
  /-- The next round of an outer loop starts. -/
  | continuing (loops : Nat)
  | returning
  | exiting
  /-- The shell with a number was ended by a signal. -/
  | killed (process signal : Nat)
  | timedOut
  deriving DecidableEq

/-- A command that runs in the background. -/
structure Job where
  process : Nat
  status : Nat
  /-- When it ends. -/
  ends : Nat
  /-- Until when it holds the error output. -/
  held : Nat
  /-- A signal that ended it has been told of. -/
  isReported : Bool := false

/-- **The state of a shell.** -/
structure ShellState where
  store : Store
  /-- The name of the script. -/
  name : String
  arguments : List (List Char)
  bindings : List (String × Variable) := []
  functions : List (String × ShellCommand) := []
  /-- The values that variables had before a function made them its own. -/
  locals : List (List (String × Option Variable)) := []
  options : List Char := []
  /-- The scripts that are run at signals, by their numbers; zero stands for the end. -/
  traps : List (Nat × List Char) := []
  /-- The signals that have arrived and have a script. -/
  arrived : List Nat := []
  status : Nat := 0
  /-- The status of the command before. -/
  previous : Nat := 0
  /-- The status of the last script within the words of a command. -/
  innerStatus : Nat := 0
  /-- The line of the command that is run. -/
  line : Nat := 1
  /-- The line up to which the script has been read. -/
  reached : Nat := 1
  /-- Some of what a command of the shell wrote is lost. -/
  isCut : Bool := false
  /-- What reports name besides the script. -/
  activity : Option String := none
  streams : List (Nat × Channel) := []
  files : List OpenFile := []
  buffers : List (List Char) := []
  flow : Flow := .running
  loops : Nat := 0
  calls : Nat := 0
  /-- The number of the shell, by which a script names itself. -/
  process : Nat := 1000
  /-- The numbers of the shells that wait for it. -/
  ancestors : List Nat := []
  /-- The number of the last process. -/
  lastProcess : Nat := 1000
  jobs : List Job := []
  lastJob : Option Nat := none
  /-- The time since the start, in milliseconds. -/
  elapsed : Nat := 0
  deadline : Option Nat := none
  /-- Until when somebody holds the error output. -/
  held : Nat := 0
  /-- The shell itself holds the error output. -/
  holds : Bool := true
  inBackground : Bool := false
  /-- How far the options of the arguments have been read. -/
  optionOffset : Nat := 0

/-- Until when the shell and what runs in its background hold the error output. -/
def ShellState.heldByAll (s : ShellState) : Nat :=
  (s.jobs.map (·.held)).foldl max s.held

/-- **An activity of a shell.** -/
abbrev Shell := StateM ShellState

namespace Shell

/-- The script goes on with the next command. -/
def isRunning : Shell Bool := do
  return (← get).flow = .running

/-- Sets the status of the last command. -/
def setStatus (status : Nat) : Shell Unit :=
  modify fun s => { s with status }

/-- An option is set. -/
def hasOption (option : Char) : Shell Bool := do
  return (← get).options.contains option

/-! ### Buffers and files -/

/-- The first of all buffers: the error output as a whole. -/
def errorBuffer : Nat := 0

/-- A new buffer with a content. -/
def newBuffer (content : List Char) : Shell Nat := do
  let s ← get
  set { s with buffers := s.buffers ++ [content] }
  return s.buffers.length

/-- The content of a buffer. -/
def bufferContent (number : Nat) : Shell (List Char) := do
  return ((← get).buffers[number]?).getD []

/-- Gives a buffer another content. -/
def setBuffer (number : Nat) (content : List Char) : Shell Unit :=
  modify fun s => { s with buffers := s.buffers.set number content }

/-- The content of the file at a place. -/
def fileContent (place : Place) : Shell (List Char) := do
  match (← get).store.get? place with
  | some (.file content _) => return content.octets
  | _ => return []

/-- Gives the file at a place another content; one that is gone does not come back. -/
def setFileContent (place : Place) (content : List Char) : Shell Unit :=
  modify fun s =>
    match s.store.get? place with
    | some (.file _ executable) =>
      { s with store := s.store.put place (.file (.ofOctets content) executable) }
    | _ => s

/-! ### Streams -/

/-- The channel that a stream leads to; one that is closed leads nowhere. -/
def channel? (stream : Nat) : Shell (Option Channel) := do
  return (← get).streams.lookup stream

/-- Streams with another channel for one of them. -/
def withChannel (streams : List (Nat × Channel)) (stream : Nat) (channel : Option Channel) :
    List (Nat × Channel) :=
  let others := streams.filter (·.1 ≠ stream)
  match channel with
  | some channel => (stream, channel) :: others
  | none => others

/-- Leads a stream to a channel, or closes it. -/
def setChannel (stream : Nat) (channel : Option Channel) : Shell Unit :=
  modify fun s => { s with streams := withChannel s.streams stream channel }

/-- Writes to the file with a number, at its position. -/
def writeFile (number : Nat) (text : List Char) : Shell Bool := do
  match (← get).files[number]? with
  | none => return false
  | some file =>
    if !file.writable then return false
    else
      let content ← fileContent file.place
      let position := if file.appends then content.length else file.position
      let gap := List.replicate (position - content.length) (Char.ofNat 0)
      setFileContent file.place
        (content.take position ++ gap ++ text ++ content.drop (position + text.length))
      modify fun s =>
        { s with files := s.files.set number { file with position := position + text.length } }
      return true

/-- **Writes to a stream.**  The answer tells whether that was possible. -/
def write (stream : Nat) (text : List Char) : Shell Bool := do
  if text.isEmpty then return true
  match ← channel? stream with
  | some .nothing => return true
  | some (.writer buffer) =>
    setBuffer buffer ((← bufferContent buffer) ++ text)
    return true
  | some (.file number) => writeFile number text
  | some (.reader _) | some .full | none => return false

/-- All that can be read from a stream. -/
def readAll (stream : Nat) : Shell (List Char) := do
  match ← channel? stream with
  | some (.reader buffer) =>
    let content ← bufferContent buffer
    setBuffer buffer []
    return content
  | some (.file number) =>
    match (← get).files[number]? with
    | some file =>
      if file.readable then
        let content := (← fileContent file.place).drop file.position
        modify fun s =>
          { s with files :=
              s.files.set number { file with position := file.position + content.length } }
        return content
      else return []
    | none => return []
  | _ => return []

/-- Gives back what was read too much from a stream. -/
def unread (stream : Nat) (text : List Char) : Shell Unit := do
  match ← channel? stream with
  | some (.reader buffer) => setBuffer buffer (text ++ (← bufferContent buffer))
  | some (.file number) =>
    modify fun s =>
      match s.files[number]? with
      | some file =>
        { s with files := s.files.set number { file with position := file.position - text.length } }
      | none => s
  | _ => return

/-- **Reads a line from a stream.**  The answer tells whether its end was there. -/
def readLine (stream : Nat) : Shell (List Char × Bool) := do
  let text ← readAll stream
  let line := text.takeWhile (· ≠ '\n')
  match text.drop line.length with
  | [] => return (line, false)
  | _ :: rest =>
    unread stream rest
    return (line, true)

/-! ### Reports -/

/-- Writes a line to the error output, with the name of the script and the line of the
command. -/
def report (message : String) : Shell Unit := do
  let s ← get
  let activity := (s.activity.map (· ++ ": ")).getD ""
  let _ ← write 2 (s!"{s.name}: {s.line}: " ++ activity ++ message ++ "\n").toList

/-- **Reports a failure that ends the script.** -/
def fail (message : String) : Shell Unit := do
  report message
  modify fun s => { s with status := 2, flow := .exiting }

/-! ### Variables -/

/-- A variable. -/
def entry? (name : String) : Shell (Option Variable) := do
  return (← get).bindings.lookup name

/-- The value of a variable. -/
def lookup (name : String) : Shell (Option (List Char)) := do
  return (← entry? name).bind (·.value)

/-- Variables with another one of a name, or without it. -/
def withVariable (bindings : List (String × Variable)) (name : String)
    (entry : Option Variable) : List (String × Variable) :=
  let others := bindings.filter (·.1 ≠ name)
  match entry with
  | some entry => others ++ [(name, entry)]
  | none => others

/-- Puts a variable in place of the one of its name. -/
def setVariable (name : String) (entry : Option Variable) : Shell Unit :=
  modify fun s => { s with bindings := withVariable s.bindings name entry }

/-- **Gives a variable a value**, unless it has one for good, which ends the script. -/
def assign (name : String) (value : List Char) (exported : Bool) : Shell Unit := do
  let old := (← entry? name).getD { value := none }
  if old.readonly then
    fail (name ++ ": is read only")
  else
    let exported := exported || old.exported || (← hasOption 'a')
    setVariable name (some { old with value := some value, exported })

/-- Puts back what variables were before the last function was called. -/
def restoreLocals : Shell Unit := do
  match (← get).locals with
  | [] => return
  | frame :: outer =>
    modify fun s => { s with locals := outer }
    frame.forM fun (name, entry) => setVariable name entry

/-- Notes what a variable is before it becomes one of the function that runs. -/
def saveLocal (name : String) : Shell Unit := do
  let entry ← entry? name
  modify fun s =>
    match s.locals with
    | [] => s
    | frame :: outer =>
      if frame.any (·.1 = name) then s
      else { s with locals := ((name, entry) :: frame) :: outer }

/-! ### Time -/

/-- Somebody who runs now can write to the error output. -/
def holdsErrors (s : ShellState) : Bool :=
  (s.streams.any fun (_, channel) => channel = .writer errorBuffer) || (s.holds && !s.inBackground)

/-- **Lets time pass.**  A script that is still waited for at its deadline is ended. -/
def pass (duration : Nat) : Shell Unit :=
  modify fun s =>
    let elapsed := s.elapsed + duration
    if holdsErrors s then
      let late := !s.inBackground && s.deadline.any (· ≤ elapsed)
      { s with elapsed, held := max s.held elapsed, flow := if late then .timedOut else s.flow }
    else { s with elapsed }

/-- Gives up on a script that does not end. -/
def giveUp : Shell Unit :=
  modify fun s => { s with flow := .timedOut }

/-- Repeats a step as long as the answer is to go on, but not for ever. -/
def iterate {α : Type} (step : α → Shell (α × Bool)) : (rounds : Nat) → α → ShellState →
    α × ShellState
  | 0, a, s => (a, { s with flow := .timedOut })
  | rounds + 1, a, s =>
    let ((a, again), s) := (step a).run s
    if again then iterate step rounds a s else (a, s)

/-- A script that repeats something more often is taken to go on for ever. -/
def maxRounds : Nat := 100000

/-- **Repeats a step as long as the answer is to go on.** -/
def repeatWhile {α : Type} (step : α → Shell (α × Bool)) (a : α) : Shell α :=
  fun s => iterate step maxRounds a s

/-! ### Signals -/

/-- The number of a new process. -/
def newProcess : Shell Nat := do
  modify fun s => { s with lastProcess := s.lastProcess + 1 }
  return (← get).lastProcess

/-- The signals that end nobody. -/
def isHarmless (signal : Nat) : Bool :=
  [0, 17, 18, 23, 28].contains signal

/-- What is told of a process that a signal ended. -/
def signalTexts : List String :=
  ["Hangup", "Interrupt", "Quit", "Illegal instruction", "Trace/breakpoint trap", "Aborted",
    "Bus error", "Floating point exception", "Killed", "User defined signal 1",
    "Segmentation fault", "User defined signal 2", "Broken pipe", "Alarm clock", "Terminated",
    "Stack fault", "Child exited", "Continued", "Stopped (signal)", "Stopped",
    "Stopped (tty input)", "Stopped (tty output)", "Urgent I/O condition",
    "CPU time limit exceeded", "File size limit exceeded", "Virtual timer expired",
    "Profiling timer expired", "Window changed", "I/O possible", "Power failure",
    "Bad system call"]

/-- Tells that a signal ended a process, unless that is an ordinary end. -/
def tellSignal (signal : Nat) : Shell Unit := do
  if signal ≠ 2 && signal ≠ 13 then
    let text := (signalTexts[signal - 1]?).getD s!"Unknown signal {signal}"
    let _ ← write 2 (text ++ "\n").toList

/-- The signals that nobody can ignore. -/
def isMerciless (signal : Nat) : Bool :=
  [9, 19].contains signal

/-- **A signal arrives at the shell.** -/
def receive (signal : Nat) : Shell Unit :=
  modify fun s =>
    match if isMerciless signal then none else s.traps.lookup signal with
    | some [] => s
    | some _ => { s with arrived := s.arrived ++ [signal] }
    | none => if isHarmless signal then s else { s with flow := .killed s.process signal }

end Shell

end FigureScript
