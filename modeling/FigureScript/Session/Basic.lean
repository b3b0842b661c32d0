import FigureScript.Error
import FigureScript.Log

/-!
# Sessions

Operations that read and write files, run programs and report what they do.

## Main Definitions

* `Session` — the files, and what has been reported
* `Action` — an operation that may fail; what it did before remains

## Design Notes

A program that is run writes its error output among the reports, in their order.
-/

namespace FigureScript

/-- Something that was reported. -/
inductive Report where
  | entry (entry : LogEntry)
  /-- Error output of a program that was run. -/
  | output (bytes : List UInt8)
  deriving DecidableEq

/-- **The files, and what has been reported.** -/
structure Session where
  store : Store
  /-- The reports in their order. -/
  reports : List Report := []

/-- **An operation in a session.**  If it fails, the session keeps what it did so far. -/
abbrev Action := ExceptT Error (StateM Session)

namespace Session

/-- The log entries among the reports. -/
def log (s : Session) : Log :=
  s.reports.filterMap fun
    | .entry entry => some entry
    | .output _ => none

end Session

namespace Action

/-- Adds reports. -/
def report (reports : List Report) : Action Unit :=
  modify fun s => { s with reports := s.reports ++ reports }

/-- Adds entries to the log. -/
def logAll (log : Log) : Action Unit :=
  report (log.map .entry)

/-- Adds an entry to the log. -/
def log (level : LogLevel) (target message : String) : Action Unit :=
  logAll [⟨level, target, message⟩]

/-- An operation on the files, whose failure concerns a path. -/
def onFiles {α : Type} (path : String) (operation : Store → Except OsError α) : Action α := do
  match operation (← get).store with
  | .ok a => return a
  | .error e => throw (.io path e)

/-- The text of a file. -/
def readText (path : String) : Action String :=
  onFiles path (·.readText path)

/-- Writes a file. -/
def write (path : String) (content : FileContent) : Action Unit := do
  let store ← onFiles path (·.write path content)
  modify fun s => { s with store }

/-- Runs an action; its outcome does not stop the one that goes on. -/
def attempt {α : Type} (action : Action α) : Action (Except Error α) :=
  fun s =>
    let (outcome, s) := action.run s
    (.ok outcome, s)

/-- The outcome of an action and the session after it. -/
def perform {α : Type} (action : Action α) (s : Session) : Except Error α × Session :=
  action.run s

end Action

end FigureScript
