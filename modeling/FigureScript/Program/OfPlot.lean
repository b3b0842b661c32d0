import FigureScript.Figure.Check
import FigureScript.Program.ErrorBar
import FigureScript.Style.Cycle

/-!
# Programs of charts

The statements that draw a chart of series.

## Main Definitions

* `PlotTarget` — where a chart is drawn
* `Plot.secondary` — the secondary axis that the series of a chart use
* `Plot.statements` — the statements of a chart, section by section
* `Plot.program` — the same after all checks

## Design Notes

Statements come in the order in which they depend on each other: the axes, the
series, ranges and scales, legends, labels, the secondary axis, the title, the notes.
The checks are all made before the first statement, so `Plot.statements` is a plain
function.
-/

namespace FigureScript

/-- **Where a chart is drawn.** -/
structure PlotTarget where
  axes : Axes
  title : TitlePlacement
  deriving DecidableEq

namespace PlotTarget

/-- The implicit current axes. -/
def current : PlotTarget :=
  ⟨.current, .above⟩

/-- A cell of a grid, which has no room above it. -/
def cell (row col rows cols : Nat) : PlotTarget :=
  ⟨.cell row col rows cols, .inside⟩

end PlotTarget

/-! ### Secondary axes -/

/-- **A secondary axis in use.** -/
structure Secondary where
  /-- The coordinate for which it adds an axis. -/
  adds : Axis
  settings : Option AddedAxis
  deriving DecidableEq

/-- The series is drawn against a secondary axis. -/
def Series.onSecondary (s : Series) : Bool :=
  s.xadded = some 1 || s.yadded = some 1

/-- Of the secondary axes declared in one direction only the first is supported. -/
def checkDeclared (field : String) (axes : List AddedAxis) : Except Error Unit :=
  if 1 < axes.length then .error (.unsupported (.severalAxes field axes.length)) else .ok ()

/-- A series may ask for the primary axis or the first secondary one. -/
def checkRequested (series : Nat) (field : String) (index : Option Nat) : Except Error Unit :=
  match index with
  | some k => if 1 < k then .error (.unsupported (.axisIndex series field k)) else .ok ()
  | none => .ok ()

/-- **The secondary axis that the series of a chart use**, if they use one.  Two
directions at once are not supported. -/
def Plot.secondary (p : Plot) : Except Error (Option Secondary) := do
  checkDeclared "xadded" p.xadded
  checkDeclared "yadded" p.yadded
  p.series.zipIdx.forM fun (s, i) => do
    checkRequested i "xadded" s.xadded
    checkRequested i "yadded" s.yadded
  match p.series.any (·.xadded = some 1), p.series.any (·.yadded = some 1) with
  | true, true => .error (.unsupported .bothDirections)
  | true, false => return some ⟨.x, p.xadded.head?⟩
  | false, true => return some ⟨.y, p.yadded.head?⟩
  | false, false => return none

/-- **The axes of one chart**: the primary ones and, where one is used, a secondary
axis over them. -/
structure PlotAxes where
  primary : Axes
  secondary : Option Secondary
  deriving DecidableEq

namespace PlotAxes

/-- The name that the current axes are bound to where they have to be addressed. -/
def primaryName : String := "ax"

/-- The axes of a chart at a target.  A twin needs a name for its parent, so the
current axes are bound to one. -/
def ofTarget (target : PlotTarget) (secondary : Option Secondary) : PlotAxes :=
  ⟨if secondary.isSome && target.axes.isCurrent then .named primaryName else target.axes,
    secondary⟩

/-- The twin axes. -/
def twin? (a : PlotAxes) : Option Axes :=
  a.secondary.map fun s => a.primary.twin s.adds

/-- The axes that a series is drawn into. -/
def ofSeries (a : PlotAxes) (s : Series) : Axes :=
  if s.onSecondary then a.twin?.getD a.primary else a.primary

end PlotAxes

/-! ### Sections -/

namespace Plot

/-- The statements that make the axes available. -/
def axesStatements (target : PlotTarget) (axes : PlotAxes) : List Statement :=
  match axes.secondary with
  | none => []
  | some s =>
    (if target.axes.isCurrent then [.bindAxes PlotAxes.primaryName] else []) ++
      [.createTwin axes.primary s.adds]

/-- The statement that draws one series, with an error bar if it has one. -/
def drawing (s : Series) (trace : Trace) : Statement :=
  if s.hasXError || s.hasYError then
    .drawErrorBar trace s.xBounds s.yBounds
  else
    .drawLine trace

/-- **The drawings of the series**, the first of which has number `i`.  A secondary
axis restarts the colours of the library that draws, so there a series without a
colour asks for the one of its overall place. -/
def drawings (style : StyleCycle) (axes : PlotAxes) :
    (cycler : Cycler) → (i : Nat) → List Series → List Statement
  | _, _, [] => []
  | cycler, i, s :: rest =>
    let (color, cycler) := cycler.color style s.color
    let color := if color.isNone && s.onSecondary then some s!"C{i}" else color
    let (linestyle, cycler) := cycler.line style s.line
    let (marker, cycler) := if s.isUnjoined then cycler.marker style else (none, cycler)
    drawing s
        { axes := axes.ofSeries s, x := s.xValues, y := s.y, marker
          style := { label := s.labelText, color, linestyle } } ::
      drawings style axes cycler (i + 1) rest

/-- A range, as a statement. -/
def limits (axes : Axes) (axis : Axis) (range : Option Range) : List Statement :=
  (range.map (.setLimits axes axis)).toList

/-- A logarithmic scale, as a statement. -/
def logScale (axes : Axes) (axis : Axis) (log : Bool) : List Statement :=
  if log then [.setLogScale axes axis] else []

/-- A label, as a statement. -/
def axisLabel (axes : Axes) (axis : Axis) (text : Option String) : List Statement :=
  (text.map (.setLabel axes axis)).toList

/-- A title, as a statement; an empty one is none. -/
def titleStatement (axes : Axes) (text : Option String) (placement : TitlePlacement) :
    List Statement :=
  ((text.filter (· ≠ "")).map fun text => .setTitle axes text placement).toList

/-- The corner that the primary legend leaves to the one of a secondary axis. -/
def primaryCorner : Axis → LegendLoc
  | .x => .lowerRight
  | .y => .lowerLeft

/-- The secondary axis that has a legend of its own: some series on it has a label. -/
def secondaryLegend (p : Plot) (axes : PlotAxes) : Option Secondary :=
  axes.secondary.filter fun _ =>
    p.series.any fun s => s.onSecondary && s.labelText.isSome

/-- **The legends**, that of the secondary axis first. -/
def legends (p : Plot) (axes : PlotAxes) : List Statement :=
  let secondary := p.secondaryLegend axes
  let twin := secondary.map fun s =>
    Statement.setLegend (axes.primary.twin s.adds) (some .upperRight)
      (s.settings.bind (·.legendLabel))
  let primary :=
    if p.series.any fun s => !s.onSecondary && s.labelText.isSome then
      [Statement.setLegend axes.primary (secondary.map fun s => primaryCorner s.adds) p.legendTitle]
    else
      []
  twin.toList ++ primary

/-- The decorations of the secondary axis. -/
def secondaryDecorations (axes : PlotAxes) : List Statement :=
  match axes.secondary with
  | some ⟨adds, some settings⟩ =>
    let twin := axes.primary.twin adds
    axisLabel twin adds settings.label ++ limits twin adds settings.range ++
      logScale twin adds settings.log
  | _ => []

/-- **The statements of a chart** whose secondary axis is known. -/
def statements (p : Plot) (target : PlotTarget) (style : StyleCycle)
    (secondary : Option Secondary) : List Statement :=
  let axes := PlotAxes.ofTarget target secondary
  axesStatements target axes ++ drawings style axes {} 0 p.series ++
    limits axes.primary .x p.xrange ++ limits axes.primary .y p.yrange ++
    logScale axes.primary .x p.xlog ++ logScale axes.primary .y p.ylog ++
    p.legends axes ++
    axisLabel axes.primary .x p.xlabel ++ axisLabel axes.primary .y p.ylabel ++
    secondaryDecorations axes ++
    titleStatement axes.primary p.title target.title ++
    p.epilog.map (.annotate axes.primary)

/-- **The program of a chart.**  It needs a supported secondary axis and valid series,
but not a series at all. -/
def program (p : Plot) (target : PlotTarget) (style : StyleCycle) :
    Except Error (List Statement) := do
  let secondary ← p.secondary
  p.checkSeries []
  return p.statements target style secondary

end Plot

end FigureScript
