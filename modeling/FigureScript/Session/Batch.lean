import FigureScript.Figure.Reading
import FigureScript.Files.Expand
import FigureScript.Program.OfFigure
import FigureScript.Session.Runner
import FigureScript.Workbook.OfPlot

/-!
# Converting files

Figure files become scripts of the same name beside them, and on request spreadsheets;
scripts can be run at once.

## Main Definitions

* `BatchOptions` — what is to be done with each file
* `expandFiles` — the files that a pattern names
* `convertFile` — one file
* `convertFiles` — all files of a pattern, each with a report

## Design Notes

A file that fails does not stop the others.  Nothing is written for a file that cannot be
read, is not a figure or cannot be compiled.
-/

namespace FigureScript

/-- **What is to be done with each file.** -/
structure BatchOptions where
  program : ProgramOptions := {}
  /-- Names are patterns. -/
  expand : Bool := true
  /-- Also write spreadsheets. -/
  spreadsheet : Bool := false
  /-- Who runs the scripts, if they are to be run. -/
  runner : Option Runner := none
  /-- Wait for the end of each run. -/
  blocking : Bool := true
  deriving DecidableEq

/-- **What was made of a file.** -/
structure Outputs where
  script : String
  spreadsheet : Option String
  executed : Bool
  deriving DecidableEq

/-- The outcome for one file. -/
structure FileReport where
  input : String
  outcome : Except Error Outputs

/-- **The files that a pattern names**; without expansion the pattern is a path. -/
def expandFiles (pattern : String) (expand : Bool) (store : Store) : Except Error (List String) :=
  if !expand then .ok [pattern]
  else match store.expand pattern with
    | .error problem => .error (.pattern pattern problem)
    | .ok [] => .error (.noMatch pattern)
    | .ok files => .ok files

/-- Writes the spreadsheet of a figure beside its file, which is created before the workbook
is finished.  A kind of figure that has none is passed over. -/
def writeSpreadsheet (input : String) (figure : Figure) : Action (Option String) := do
  let path := Path.withExtension input "xlsx"
  match Workbook.ofFigure figure with
  | .ok workbook =>
    Action.write path (.binary [])
    match workbook.finish with
    | .error problem => throw (.spreadsheet problem)
    | .ok workbook => Action.write path (.workbook workbook)
    Action.log .info "vfd::export::xlsx" ("wrote " ++ path)
    return some path
  | .error (.notImplemented kind) =>
    Action.log .warn "vfd::batch" (input ++ ": " ++ Error.missingExport kind)
    return none
  | .error e => throw e

/-- Reads and checks the figure of a file. -/
def readFigure (path : String) : Action Figure := do
  match Figure.ofText (← Action.readText path) with
  | .ok figure => return figure
  | .error e => throw e

/-- **Converts one file.**  Its script goes beside it and names the outputs for the
file. -/
def convertFile (host : Host) (options : BatchOptions) (input : String) : Action Outputs := do
  let figure ← readFigure input
  match Path.fileStem? input with
  | none => throw (.io input .noFileName)
  | some name =>
    Action.logAll (figure.programLog name options.program)
    match figure.script name options.program with
    | .error e => throw e
    | .ok text =>
      let script := Path.withExtension input "py"
      Action.write script (.text text)
      Action.log .info "vfd::batch" ("wrote " ++ script)
      let spreadsheet ← if options.spreadsheet then writeSpreadsheet input figure else pure none
      match options.runner with
      | none => return { script, spreadsheet, executed := false }
      | some runner =>
        runner.run host script options.blocking
        return { script, spreadsheet, executed := true }

/-- Converts one file and reports its failure under a part of the program. -/
def reportFile (host : Host) (options : BatchOptions) (target input : String) :
    Action FileReport := do
  let outcome ← Action.attempt (convertFile host options input)
  if let .error e := outcome then
    Action.log .error target (input ++ ": " ++ e.message)
  return { input, outcome }

/-- **Converts all files of a pattern.**  The interpreter is probed before the first
one. -/
def convertFiles (host : Host) (options : BatchOptions) (pattern : String) :
    Action (List FileReport) := do
  match expandFiles pattern options.expand (← get).store with
  | .error e => throw e
  | .ok files =>
    if let some runner := options.runner then
      runner.probe host
    files.mapM (reportFile host options "vfd::batch")

end FigureScript
