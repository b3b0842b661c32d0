import FigureScript.Figure.Problem
import FigureScript.Files.Pattern
import FigureScript.Json.TaggedReader
import FigureScript.Process.Basic

/-!
# Errors

Everything that can go wrong, by cause.

## Main Definitions

* `Error` — a failed operation
* `Error.message` — its wording
-/

namespace FigureScript

/-- **A failed operation.** -/
inductive Error where
  /-- A figure does not have the shape of its kind. -/
  | schema (location : Location) (problem : Problem)
  /-- The kind of a figure is missing or unknown. -/
  | unknownKind (name : String)
  | unsupported (cause : Unsupported)
  | io (path : String) (cause : OsError)
  /-- A text is not JSON, or not a figure. -/
  | json (failure : Json.Failure)
  /-- Figures of a kind have no spreadsheet. -/
  | notImplemented (kind : String)
  | spreadsheet (cause : SpreadsheetProblem)
  /-- A pattern of file names is malformed. -/
  | pattern (text : String) (problem : PatternProblem)
  /-- No file fits a pattern. -/
  | noMatch (text : String)
  /-- What a script needs to run is missing. -/
  | toolMissing (tool reason : String)
  | scriptFailed (script : String) (status : ExitStatus)
  /-- The configuration is malformed, in a line or as a whole. -/
  | config (line : Nat) (message : String)
  deriving DecidableEq

namespace Error

/-- The wording of an export that does not exist. -/
def missingExport (kind : String) : String :=
  "spreadsheet export of " ++ kind ++ " descriptions"

/-- The wording of an error. -/
def message : Error → String
  | schema location problem =>
    "schema violation at '" ++ location.text ++ "': " ++ problem.message
  | unknownKind name => "unknown description type: " ++ name
  | unsupported cause => "unsupported feature: " ++ cause.message
  | io path cause => "I/O error on " ++ path ++ ": " ++ cause.message
  | json failure => "JSON error: " ++ failure.message
  | notImplemented kind => "not implemented: " ++ missingExport kind
  | spreadsheet cause => "spreadsheet error: " ++ cause.message
  | pattern text problem => "invalid file pattern: " ++ text ++ ": " ++ problem.message
  | noMatch text => "no file matching " ++ text
  | toolMissing tool reason => tool ++ " is not available: " ++ reason
  | scriptFailed script status => "script " ++ script ++ " failed: " ++ status.message
  | config line message => s!"configuration error at line {line}: " ++ message

/-- The wording of an error and of what caused it, where that is told apart. -/
def chain (e : Error) : String :=
  match e with
  | io _ cause => e.message ++ ": " ++ cause.message
  | json failure => e.message ++ ": " ++ failure.message
  | spreadsheet cause => e.message ++ ": " ++ cause.message
  | _ => e.message

/-- The same error as one of a cell of a grid. -/
def inCell (row col : Nat) : Error → Error
  | schema location problem => schema (Location.ofCell row col ++ location) problem
  | unsupported cause => unsupported (.inCell row col cause)
  | other => other

end Error

end FigureScript
