import FigureScript.Figure.Location
import FigureScript.Json.Decode

/-!
# Problems with figures

What can be wrong with a figure, and what is right but not supported.

## Main Definitions

* `Problem` — a violation of the format
* `Unsupported` — a combination that cannot be compiled
-/

namespace FigureScript

/-- **A violation of the format.** -/
inductive Problem where
  | notObject
  /-- A field has the wrong type or is missing. -/
  | misfit (error : Json.DecodeError)
  | noSeries
  | noPoints
  /-- As many horizontal as vertical coordinates are needed. -/
  | unevenCoordinates (length wanted : Nat)
  | wrongCount (count wanted : Nat)
  | styleIndex
  | emptyMatrix
  /-- Coordinates of a field that are neither centres nor edges. -/
  | fieldCoordinates (length centers : Nat)
  | noCell
  | raggedGrid (cells wanted : Nat)
  | emptyGrid (rows cols : Nat)
  | notFinite
  | coordinatesNotFinite
  deriving DecidableEq

/-- The wording of a problem. -/
def Problem.message : Problem → String
  | notObject => "expected a JSON object"
  | misfit e => e.message
  | noSeries => "at least one series is required"
  | noPoints => "must not be empty"
  | unevenCoordinates length wanted => s!"length {length} does not match y length {wanted}"
  | wrongCount count wanted => s!"has {count} values, expected {wanted}"
  | styleIndex => "style indices start at 1"
  | emptyMatrix => "must be a non-empty matrix"
  | fieldCoordinates length centers =>
    s!"length {length} matches neither {centers} centers nor {centers + 1} edges"
  | noCell => "must contain at least one cell"
  | raggedGrid cells wanted =>
    s!"row has {cells} cells, expected {wanted} (grid must be rectangular)"
  | emptyGrid rows cols => s!"grid of {rows}x{cols} has no cell"
  | notFinite => "value is not finite"
  | coordinatesNotFinite => "coordinates must be finite"

/-- **A combination that is valid but not supported.** -/
inductive Unsupported where
  /-- More than one secondary axis is declared in one direction. -/
  | severalAxes (field : String) (count : Nat)
  /-- A series asks for a second secondary axis of one direction. -/
  | axisIndex (series : Nat) (field : String) (index : Nat)
  | bothDirections
  | colorplotCell (row col : Nat)
  /-- Something in a cell of a grid. -/
  | inCell (row col : Nat) (cause : Unsupported)
  deriving DecidableEq

/-- The wording of an unsupported combination. -/
def Unsupported.message : Unsupported → String
  | severalAxes field count =>
    field ++ s!" declares {count} secondary axes; only one per direction is supported"
  | axisIndex series field index =>
    s!"series[{series}]." ++ field ++
      s!" = {index}; only one secondary axis per direction is supported"
  | bothDirections => "secondary x and y axes in the same plot"
  | colorplotCell row col => s!"colorplot cell at plots[{row}][{col}] of a multiplot"
  | inCell row col cause => s!"plots[{row}][{col}]: " ++ cause.message

end FigureScript
