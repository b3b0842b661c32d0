import FigureScript.Error
import FigureScript.Figure.Basic

/-!
# Checking figures

The conditions that the types leave open: matching lengths, rectangular grids and
matrices, style indices counted from one.

## Main Definitions

* `Series.check`, `Plot.check`, `Colorplot.check`, `Multiplot.check` — the conditions
  of each part, at a location
* `Figure.check` — the conditions of a figure

## Design Notes

A check stops at the first violation: the shape of a grid goes first, then its
cells row by row, then the series, then the fields of a series in the order y, x,
error bars, style indices.
-/

namespace FigureScript

/-- Fails with a violation unless a condition holds. -/
def require (condition : Bool) (location : Location) (problem : Problem) : Except Error Unit :=
  if condition then .ok () else .error (.schema location problem)

/-- A number for every point fits any count, a list only its own. -/
def Values.fits (count : Nat) : Values → Bool
  | .scalar _ => true
  | .points values => values.length = count

/-- The length that a list of values has where `count` were wanted. -/
def Values.count (count : Nat) : Values → Nat
  | .scalar _ => count
  | .points values => values.length

/-- An optional list of values must have a length. -/
def checkValues (count : Nat) (location : Location) (values : Option Values) :
    Except Error Unit :=
  match values with
  | none => .ok ()
  | some values => require (values.fits count) location (.wrongCount (values.count count) count)

/-- An optional style index must be at least one. -/
def checkIndex (location : Location) (index : Option Int) : Except Error Unit :=
  require (index.all (1 ≤ ·)) location .styleIndex

namespace Series

/-- The parts of the error bars with their names, in the order of their checks. -/
def errorFields (s : Series) : List (String × Option Values) :=
  [("xerr", s.xerr), ("yerr", s.yerr), ("xmin", s.xmin), ("xmax", s.xmax),
    ("ymin", s.ymin), ("ymax", s.ymax)]

/-- **The conditions of a series.** -/
def check (location : Location) (s : Series) : Except Error Unit := do
  let field (name : String) : Location := location ++ [.field name]
  require (!s.y.isEmpty) (field "y") .noPoints
  require (s.x.all (·.length = s.y.length)) (field "x")
    (.unevenCoordinates s.xValues.length s.y.length)
  s.errorFields.forM fun (name, values) => checkValues s.y.length (field name) values
  checkIndex (field "color") s.color
  checkIndex (field "line") s.line

end Series

namespace Plot

/-- The conditions of the series of a chart, one after the other. -/
def checkSeries (location : Location) (p : Plot) : Except Error Unit :=
  p.series.zipIdx.forM fun (s, i) => s.check (location ++ .ofSeries i)

/-- **The conditions of a chart of series.** -/
def check (location : Location) (p : Plot) : Except Error Unit := do
  require (!p.series.isEmpty) (location ++ .ofField "series") .noSeries
  p.checkSeries location

end Plot

/-- The first of some lists that does not have a length, with its index. -/
def firstUneven? {α : Type} (length : Nat) (lists : List (List α)) : Option (List α × Nat) :=
  lists.zipIdx.find? fun (list, _) => list.length ≠ length

namespace Colorplot

/-- The number of columns, as the first row has it. -/
def cols (c : Colorplot) : Nat :=
  (c.z.head?.map List.length).getD 0

/-- **The size of a field**, which must be a rectangle with at least one value. -/
def shape (location : Location) (c : Colorplot) : Except Error (Nat × Nat) := do
  let field := location ++ .ofField "z"
  require (!c.z.isEmpty && c.cols ≠ 0) field .emptyMatrix
  match firstUneven? c.cols c.z with
  | some (row, i) => .error (.schema (field ++ [.index i]) (.wrongCount row.length c.cols))
  | none => return (c.z.length, c.cols)

/-- Coordinates must be centres, one for each cell, or edges, one more. -/
def checkCoordinates (location : Location) (cells : Nat) (coordinates : Option (List Float)) :
    Except Error Unit :=
  match coordinates with
  | none => .ok ()
  | some values =>
    require (values.length = cells ∨ values.length = cells + 1) location
      (.fieldCoordinates values.length cells)

/-- **The conditions of a scalar field.** -/
def check (location : Location) (c : Colorplot) : Except Error Unit := do
  let (rows, cols) ← c.shape location
  checkCoordinates (location ++ .ofField "x") cols c.x
  checkCoordinates (location ++ .ofField "y") rows c.y

end Colorplot

/-- The conditions of a cell. -/
def Cell.check (location : Location) : Cell → Except Error Unit
  | plot p => p.check location
  | colorplot c => c.check location

namespace Multiplot

/-- The number of columns, as the first row has it. -/
def cols (m : Multiplot) : Nat :=
  (m.plots.head?.map List.length).getD 0

/-- **The size of a grid**, which must be a rectangle with at least one cell. -/
def shape (m : Multiplot) : Except Error (Nat × Nat) := do
  require (!m.plots.isEmpty && m.cols ≠ 0) (.ofField "plots") .noCell
  match firstUneven? m.cols m.plots with
  | some (row, i) =>
    .error (.schema [.field "plots", .index i] (.raggedGrid row.length m.cols))
  | none => return (m.plots.length, m.cols)

/-- The cells with their places, row by row. -/
def cells (m : Multiplot) : List (Cell × Nat × Nat) :=
  m.plots.zipIdx.flatMap fun (row, i) => row.zipIdx.map fun (cell, j) => (cell, i, j)

/-- **The conditions of a grid.** -/
def check (m : Multiplot) : Except Error Unit := do
  let _ ← m.shape
  m.cells.forM fun (cell, i, j) => cell.check (.ofCell i j)

end Multiplot

/-- **The conditions of a figure.** -/
def Figure.check : Figure → Except Error Unit
  | plot p => p.check []
  | colorplot c => c.check []
  | multiplot m => m.check

end FigureScript
