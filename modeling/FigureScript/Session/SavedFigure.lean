import FigureScript.Recorder.Figure
import FigureScript.Session.Batch

/-!
# Saving recorded figures

A recorded figure is saved as a figure file, exported by a script, or shown.

## Main Definitions

* `FigureRecorder.save` — the figure file
* `FigureRecorder.exportTo` — the figure file and a script that exports it to a path
* `FigureRecorder.display` — the figure on the screen

## Design Notes

Nothing is written unless the figure passes its checks.
-/

namespace FigureScript.FigureRecorder

/-- **Saves the figure** under a path, whose extension is replaced; the answer is the path
that was written. -/
def save (f : FigureRecorder) (path : String) : Action String := do
  let path := Path.withExtension path "vfd"
  Action.logAll f.figureLog
  match f.figure.check with
  | .error e => throw e
  | .ok () =>
    Action.write path (.text (f.figure.toText false))
    Action.log .info "vfd::builder" ("wrote " ++ path)
    return path

/-- The format that a path names: its extension, unless that is the one of figure
files. -/
def format? (path : String) : Option String :=
  (Path.extension? path).filter (· ≠ "vfd")

/-- The options with the format of a path, if it names one, in place of their formats. -/
def optionsFor (path : String) (options : BatchOptions) : BatchOptions :=
  match format? path with
  | some format => { options with program := { options.program with formats := [format] } }
  | none => options

/-- **Saves the figure and writes a script that exports it to a path.** -/
def exportTo (f : FigureRecorder) (host : Host) (path : String) (options : BatchOptions) :
    Action Outputs := do
  let input ← f.save path
  if let some runner := options.runner then
    runner.probe host
  convertFile host (optionsFor path options) input

/-- **Shows the figure** by a script in a directory of its own, which is removed
afterwards. -/
def display (f : FigureRecorder) (host : Host) (directory : Place) (options : BatchOptions) :
    Action Unit := do
  modify fun s => { s with store := s.store.makeDirectories directory }
  let path := "/" ++ "/".intercalate (directory ++ ["figure"])
  let outcome ← Action.attempt do
    let input ← f.save path
    let runner := options.runner.getD { interpreter := "python" }
    runner.probe host
    convertFile host
      { program := { options.program with formats := [] }, expand := false, runner := some runner }
      input
  modify fun s => { s with store := s.store.removeTree directory }
  match outcome with
  | .ok _ => return ()
  | .error e => throw e

end FigureScript.FigureRecorder
