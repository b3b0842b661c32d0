import FigureScript.Files.Store

/-!
# Programs that are run

What is known about a program that is started: how it was asked for, and how it ended.

## Main Definitions

* `ExitStatus` — how a program ended
* `Command` — a program with its arguments and its working directory
* `Execution` — the outcome of a run
* `Host` — a machine on which programs run
-/

namespace FigureScript

/-- **How a program ended.** -/
inductive ExitStatus where
  | code (code : Nat)
  | signal (number : Nat)
  deriving DecidableEq

namespace ExitStatus

/-- The names of the signals, from the first one on. -/
def signalNames : List String :=
  ["SIGHUP", "SIGINT", "SIGQUIT", "SIGILL", "SIGTRAP", "SIGABRT", "SIGBUS", "SIGFPE", "SIGKILL",
    "SIGUSR1", "SIGSEGV", "SIGUSR2", "SIGPIPE", "SIGALRM", "SIGTERM", "SIGSTKFLT", "SIGCHLD",
    "SIGCONT", "SIGSTOP", "SIGTSTP", "SIGTTIN", "SIGTTOU", "SIGURG", "SIGXCPU", "SIGXFSZ",
    "SIGVTALRM", "SIGPROF", "SIGWINCH", "SIGIO", "SIGPWR", "SIGSYS"]

/-- The wording of a status. -/
def message : ExitStatus → String
  | code n => s!"exit status: {n}"
  | signal n =>
    s!"signal: {n}" ++ match signalNames[n - 1]? with
      | some name => if n = 0 then "" else " (" ++ name ++ ")"
      | none => ""

/-- The program reports success. -/
def isSuccess : ExitStatus → Bool
  | code 0 => true
  | _ => false

end ExitStatus

/-- **A program to be started.** -/
structure Command where
  program : String
  arguments : List String
  /-- The working directory of the program, if it is not that of its starter. -/
  directory : Option String := none
  /-- It is stopped after so many milliseconds. -/
  deadline : Option Nat := none
  deriving DecidableEq

/-- How a run ended. -/
inductive Ending where
  | finished (status : ExitStatus)
  /-- The deadline passed. -/
  | timedOut
  deriving DecidableEq

/-- **The outcome of a run.** -/
structure Execution where
  /-- The files afterwards. -/
  store : Store
  ending : Ending
  /-- What the program wrote to its error output. -/
  errorOutput : List UInt8

/-- **A machine on which programs run**: what a command does to the files, unless it
cannot be started. -/
abbrev Host := Store → Command → Except OsError Execution

/-- A machine without a single program. -/
def Host.bare : Host :=
  fun _ _ => .error .notFound

end FigureScript
