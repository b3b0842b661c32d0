import FigureScript.Figure.Writing
import FigureScript.Recorder.Axes

/-!
# Recording figures

A figure is recorded on its current axes, or on the cells of a grid once there is one.

## Main Definitions

* `FigureRecorder` — what has been recorded of a figure
* `Surface` — where a drawing call goes
* `FigureCall` — a call on a figure
* `FigureRecorder.apply` — a call applied to the recorded state
* `FigureRecorder.figure` — the figure that has been recorded
-/

namespace FigureScript

/-- A grid of recorded axes. -/
structure GridRecorder where
  cells : List (List AxesRecorder)
  xshared : Option Sharing
  yshared : Option Sharing
  deriving BEq

/-- **The recorded state of a figure.** -/
structure FigureRecorder where
  /-- The axes in use without a grid. -/
  current : AxesRecorder := {}
  grid : Option GridRecorder := none
  /-- The title of a grid. -/
  title : Option String := none
  deriving BEq

/-- **Where a drawing call goes**: the current axes or a cell of the grid, and from there
along a path of secondary axes. -/
inductive Surface where
  | current (path : List Axis)
  | cell (row col : Nat) (path : List Axis)
  deriving DecidableEq

/-- **A call on a figure.** -/
inductive FigureCall where
  | draw (surface : Surface) (call : DrawCall)
  /-- Starts a grid of empty cells. -/
  | subplots (rows cols : Nat) (xshared yshared : Option Sharing)
  /-- Sets the title of the grid. -/
  | supTitle (text : String)
  deriving DecidableEq

namespace GridRecorder

/-- The axes of a cell. -/
def get? (g : GridRecorder) (row col : Nat) : Option AxesRecorder :=
  g.cells[row]?.bind (·[col]?)

/-- Replaces the axes of a cell. -/
def set (g : GridRecorder) (row col : Nat) (axes : AxesRecorder) : GridRecorder :=
  { g with cells := g.cells.modify row fun cells => cells.set col axes }

end GridRecorder

namespace FigureRecorder

/-- The axes of a cell, if there is a grid with that cell. -/
def cell? (f : FigureRecorder) (row col : Nat) : Option AxesRecorder :=
  f.grid.bind (·.get? row col)

/-- Applies a drawing call.  One on a cell that does not exist does nothing. -/
def draw (f : FigureRecorder) (surface : Surface) (call : DrawCall) : FigureRecorder × Reply :=
  match surface with
  | .current path =>
    let (current, reply) := f.current.applyAt path call
    ({ f with current }, reply)
  | .cell row col path =>
    match f.grid, f.cell? row col with
    | some grid, some axes =>
      let (axes, reply) := axes.applyAt path call
      ({ f with grid := some (grid.set row col axes) }, reply)
    | _, _ => (f, {})

/-- **Applies a call.**  A grid without a cell is refused. -/
def apply (f : FigureRecorder) : FigureCall → FigureRecorder × Reply
  | .draw surface call => f.draw surface call
  | .subplots rows cols xshared yshared =>
    if rows = 0 ∨ cols = 0 then
      (f, { result := .error (.schema (.ofField "plots") (.emptyGrid rows cols)) })
    else
      let cells := List.replicate rows (List.replicate cols {})
      ({ f with grid := some { cells, xshared, yshared } }, {})
  | .supTitle text => ({ f with title := some text }, {})

/-- The state after a run of calls. -/
def applyAll (f : FigureRecorder) (calls : List FigureCall) : FigureRecorder :=
  calls.foldl (fun f call => (f.apply call).1) f

/-- **The figure that has been recorded.** -/
def figure (f : FigureRecorder) : Figure :=
  match f.grid with
  | none => f.current.cell.toFigure
  | some grid =>
    .multiplot
      { plots := grid.cells.map fun row => row.map AxesRecorder.cell
        title := f.title, xshared := grid.xshared, yshared := grid.yshared }

/-- What making that figure reports. -/
def figureLog (f : FigureRecorder) : Log :=
  match f.grid with
  | none => f.current.cellLog
  | some grid => grid.cells.flatten.flatMap AxesRecorder.cellLog

end FigureRecorder

end FigureScript
