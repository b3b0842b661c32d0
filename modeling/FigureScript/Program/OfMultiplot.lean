import FigureScript.Program.OfPlot

/-!
# Programs of grids

The statements that draw a grid of charts in one picture.

## Main Definitions

* `Multiplot.program` — the statements of a grid, after all checks
* `Multiplot.ignoredStyles` — the cells whose own style suggestions do not count

## Design Notes

The grid is checked as a whole before any cell: it must be a rectangle, and a scalar
field in a cell is not supported.  All cells share the style of the grid, each with
counters of its own.
-/

namespace FigureScript

/-- The chart in a cell, unless it is a scalar field. -/
def Cell.plot? : Cell → Option Plot
  | plot p => some p
  | colorplot _ => none

namespace Multiplot

/-- No cell may hold a scalar field; the first that does is named. -/
def checkCells (m : Multiplot) : Except Error Unit :=
  match m.cells.find? fun (cell, _, _) => cell.plot?.isNone with
  | some (_, i, j) => .error (.unsupported (.colorplotCell i j))
  | none => .ok ()

/-- **The cells whose style suggestions are passed over**, up to the first scalar
field, in a grid that is a rectangle. -/
def ignoredStyles (m : Multiplot) : List (Nat × Nat) :=
  match m.shape with
  | .error _ => []
  | .ok _ =>
    (m.cells.takeWhile fun (cell, _, _) => cell.plot?.isSome).filterMap fun (cell, i, j) =>
      if (cell.plot?.bind (·.style)).isSome then some (i, j) else none

/-- The statements of one cell.  A scalar field has none. -/
def cellProgram (style : StyleCycle) (rows cols : Nat) (cell : Cell) (i j : Nat) :
    Except Error (List Statement) :=
  match cell.plot? with
  | some p => (p.program (.cell i j rows cols) style).mapError (Error.inCell i j)
  | none => .ok []

/-- The gaps that are closed, between rows first. -/
def spacing (joined : Option Joined) : List Statement :=
  match joined with
  | none => []
  | some joined =>
    (if joined.vertical then [.collapseSpacing .y] else []) ++
      (if joined.horizontal then [.collapseSpacing .x] else [])

/-- **The program of a grid.** -/
def program (m : Multiplot) (style : StyleCycle) (scaled tightLayout : Bool) :
    Except Error (List Statement) := do
  let (rows, cols) ← m.shape
  m.checkCells
  let blocks ← m.cells.mapM fun (cell, i, j) => cellProgram style rows cols cell i j
  return .createAxes rows cols m.xshared m.yshared scaled :: blocks.flatten ++
    (m.title.map .supTitle).toList ++
    (if tightLayout then [.tightLayout] else []) ++
    spacing m.joined

end Multiplot

end FigureScript
