import FigureScript.Session.Basic
import FigureScript.Text.Lines
import FigureScript.Text.Utf8

/-!
# Running scripts

Scripts are run by an interpreter, which is first asked whether it has the plotting
library.

## Main Definitions

* `Runner` — an interpreter and the patience with it
* `Runner.probe` — checks that it can draw
* `Runner.run` — runs a script from the directory it is in
-/

namespace FigureScript

/-- **An interpreter of scripts.** -/
structure Runner where
  interpreter : String
  /-- How long it may take to answer a probe, in milliseconds. -/
  patience : Nat := 5000
  deriving DecidableEq

namespace Runner

/-- What a probe asks of the interpreter. -/
def probeCommand (r : Runner) : Command where
  program := r.interpreter
  arguments := ["-c", "import matplotlib"]
  deadline := some r.patience

/-- The last line with something on it. -/
def lastLine? (errorOutput : List UInt8) : Option String :=
  ((Text.lines (Utf8.lossyText errorOutput).toList).reverse.find?
    (!Text.isAllBlank ·)).map String.ofList

/-- Why a probe with this outcome failed, if it did. -/
def probeFailure? (r : Runner) (e : Execution) : Option String :=
  match e.ending with
  | .timedOut => some s!"no answer within {r.patience}ms"
  | .finished status =>
    if status.isSuccess then none
    else some ((lastLine? e.errorOutput).getD status.message)

/-- The error of a failed probe. -/
def missing (r : Runner) (reason : String) : Error :=
  .toolMissing ("matplotlib (" ++ r.interpreter ++ ")") reason

/-- **Checks that the interpreter starts and has the plotting library.** -/
def probe (host : Host) (r : Runner) : Action Unit := do
  match host (← get).store r.probeCommand with
  | .error e => throw (r.missing e.message)
  | .ok execution =>
    modify fun s => { s with store := execution.store }
    match r.probeFailure? execution with
    | some reason => throw (r.missing reason)
    | none => Action.log .debug "vfd::runner" (r.interpreter ++ " can import matplotlib")

/-- The command that runs a script. -/
def command (r : Runner) (script : String) : Command :=
  match Path.parent script, Path.fileName? script with
  | "", _ => { program := r.interpreter, arguments := [script] }
  | directory, some name =>
    { program := r.interpreter, arguments := [name], directory := some directory }
  | _, none => { program := r.interpreter, arguments := [script] }

/-- **Runs a script.**  Only a run that is waited for fails with the script. -/
def run (host : Host) (r : Runner) (script : String) (blocking : Bool) : Action Unit := do
  Action.log .info "vfd::runner" ("running " ++ r.interpreter ++ " " ++ script)
  let execution ← Action.onFiles script fun store => host store (r.command script)
  modify fun s => { s with store := execution.store }
  if !execution.errorOutput.isEmpty then
    Action.report [.output execution.errorOutput]
  if blocking then
    match execution.ending with
    | .finished status =>
      if !status.isSuccess then throw (.scriptFailed script status)
    | .timedOut => pure ()
  else
    Action.log .debug "vfd::runner" "started process"

end Runner

end FigureScript
