import FigureScript.Program.OfColorplot
import FigureScript.Recorder.Rows

/-!
# Recording axes

Drawing calls on axes are recorded instead of carried out, and give a chart of series
or a scalar field.

## Main Definitions

* `AxesRecorder` — what has been recorded on axes and on their secondary axes
* `DrawCall` — one call
* `AxesRecorder.apply` — a call applied to the recorded state
* `AxesRecorder.cell` — the chart that has been recorded

## Design Notes

Calls are data, so that a run of calls is a list.  A call that fails leaves the series
and the field as they were.  Only the secondary axes directly over the primary ones
end up in the chart.
-/

namespace FigureScript

/-- **The recorded state of axes.** -/
structure AxesRecorder where
  /-- The recorded series and decorations. -/
  plot : Plot := { series := [] }
  /-- The recorded scalar field, which takes the place of the series. -/
  field : Option Colorplot := none
  /-- The secondary axes in the order of their creation, at most one for each
  coordinate. -/
  twins : List (Axis × AxesRecorder) := []
  deriving BEq, Inhabited

/-- **A drawing call.** -/
inductive DrawCall where
  /-- A series, whose points are numbered without `x`; `xlog` and `ylog` ask for
  logarithmic axes. -/
  | plot (xlog ylog : Bool) (x : Option (List Float)) (y : List Float) (label : Option String)
  /-- A series with error bars. -/
  | errorBar (x y : List Float) (yerr xerr : Option ErrorSpec) (label : Option String)
  /-- A scalar field over centres or edges. -/
  | field (kind : FieldKind) (x y : Option (List Float)) (z : List (List Float)) (zlog : Bool)
  | label (axis : Axis) (text : String)
  | title (text : String)
  /-- A legend, with a title or without. -/
  | legend (title : Option String)
  | limits (axis : Axis) (range : Range)
  /-- A text at data coordinates. -/
  | note (note : Note)
  deriving DecidableEq

/-- **What a call answers**: whether it succeeded, and what it reports. -/
structure Reply where
  result : Except Error Unit := .ok ()
  log : Log := []

namespace Plot

/-- Sets logarithmic axes; those that already are remain so. -/
def setLog (p : Plot) (xlog ylog : Bool) : Plot :=
  { p with xlog := p.xlog || xlog, ylog := p.ylog || ylog }

/-- Sets a label. -/
def setLabel (p : Plot) (axis : Axis) (text : String) : Plot :=
  match axis with
  | .x => { p with xlabel := some text }
  | .y => { p with ylabel := some text }

/-- Sets a range. -/
def setRange (p : Plot) (axis : Axis) (range : Range) : Plot :=
  match axis with
  | .x => { p with xrange := some range }
  | .y => { p with yrange := some range }

/-- The decorations of a chart that is recorded on secondary axes. -/
def addedAxis (p : Plot) : Axis → AddedAxis
  | .x => ⟨p.xrange, p.xlog, p.xlabel, p.legendTitle⟩
  | .y => ⟨p.yrange, p.ylog, p.ylabel, p.legendTitle⟩

/-- **Folds a chart that is recorded on secondary axes into its primary one.** -/
def addTwin (p : Plot) (adds : Axis) (recorded : Plot) : Plot :=
  match adds with
  | .x =>
    { p with
      series := p.series ++ recorded.series.map fun s => { s with xadded := some 1 }
      xadded := [recorded.addedAxis .x] }
  | .y =>
    { p with
      series := p.series ++ recorded.series.map fun s => { s with yadded := some 1 }
      yadded := [recorded.addedAxis .y] }

end Plot

/-! ### Scalar fields -/

/-- The place of the first value that is not finite. -/
def firstNotFinite? (z : List (List Float)) : Option (Nat × Nat) :=
  z.zipIdx.findSome? fun (row, i) =>
    (row.findIdx? fun value => !Number.isFinite value).map fun j => (i, j)

/-- Coordinates of `cells` cells, which must be finite; edges become centres. -/
def captureCoordinates (name : String) (cells : Nat) (coordinates : Option (List Float)) :
    Except Error (Option (List Float)) :=
  match coordinates with
  | none => .ok none
  | some values => do
    require (values.all Number.isFinite) (.ofField name) .coordinatesNotFinite
    Colorplot.checkCoordinates (.ofField name) cells (some values)
    return some (cellCenters cells (some values))

/-- **A scalar field from its values and coordinates**, all of which must be finite. -/
def Colorplot.capture (kind : FieldKind) (x y : Option (List Float)) (z : List (List Float))
    (zlog : Bool) : Except Error Colorplot := do
  let (rows, cols) ← Colorplot.shape [] { z }
  match firstNotFinite? z with
  | some (i, j) => .error (.schema [.field "z", .index i, .index j] .notFinite)
  | none =>
    let x ← captureCoordinates "x" cols x
    let y ← captureCoordinates "y" rows y
    return { z, x, y, contour := kind.isContour, fillContour := kind == .filled, zlog }

/-! ### Axes -/

namespace AxesRecorder

/-- **The secondary axes** that add an axis for a coordinate; without a call so far they
are empty. -/
def twin (a : AxesRecorder) (adds : Axis) : AxesRecorder :=
  ((a.twins.find? (·.1 = adds)).map (·.2)).getD {}

/-- Replaces the secondary axes of a coordinate, or creates them behind the others. -/
def setTwin (a : AxesRecorder) (adds : Axis) (twin : AxesRecorder) : AxesRecorder :=
  if a.twins.any (·.1 = adds) then
    { a with twins := a.twins.map fun (axis, old) => (axis, if axis = adds then twin else old) }
  else
    { a with twins := a.twins ++ [(adds, twin)] }

/-- Adds a series, if there is one. -/
def addSeries (a : AxesRecorder) (series : Option Series) : AxesRecorder :=
  { a with plot := { a.plot with series := a.plot.series ++ series.toList } }

/-- Where the next series will stand. -/
def nextSeries (a : AxesRecorder) : Location :=
  .ofSeries a.plot.series.length

/-- Horizontal and vertical coordinates must be equally many. -/
def checkCoordinates (a : AxesRecorder) (x y : List Float) : Except Error Unit :=
  require (x.length = y.length) (a.nextSeries ++ [.field "x"])
    (.unevenCoordinates x.length y.length)

/-- Records a series from its columns. -/
def pushColumns (a : AxesRecorder) (x y : List Float) (yerr xerr : Option ErrorColumns)
    (label : Option String) : AxesRecorder × Log :=
  let (series, log) := Series.record a.nextSeries x y yerr xerr label
  (a.addSeries series, log)

/-- Records a series. -/
def pushSeries (a : AxesRecorder) (x : Option (List Float)) (y : List Float)
    (label : Option String) : Except Error (AxesRecorder × Log) := do
  let x := x.getD (indexCoordinates y.length)
  a.checkCoordinates x y
  return a.pushColumns x y none none label

/-- Records a series with error bars. -/
def pushErrorBar (a : AxesRecorder) (x y : List Float) (yerr xerr : Option ErrorSpec)
    (label : Option String) : Except Error (AxesRecorder × Log) := do
  a.checkCoordinates x y
  let ycolumns ← yerr.mapM (ErrorSpec.columns (a.nextSeries ++ [.field "y"]) y)
  let xcolumns ← xerr.mapM (ErrorSpec.columns (a.nextSeries ++ [.field "x"]) x)
  return a.pushColumns x y ycolumns xcolumns label

/-- Records a scalar field. -/
def setField (a : AxesRecorder) (kind : FieldKind) (x y : Option (List Float))
    (z : List (List Float)) (zlog : Bool) : Except Error (AxesRecorder × Log) := do
  let field ← Colorplot.capture kind x y z zlog
  let count := a.plot.series.length
  let log :=
    if 0 < count then
      [recorderWarning s!"scalar field replaces {count} recorded series on the same axes"]
    else []
  return ({ a with field := some field }, log)

/-- The state after a step that may fail, and its reply. -/
def attempt (a : AxesRecorder) (step : Except Error (AxesRecorder × Log)) :
    AxesRecorder × Reply :=
  match step with
  | .ok (after, log) => (after, { log })
  | .error e => (a, { result := .error e })

/-- Changes the recorded chart. -/
def modifyPlot (a : AxesRecorder) (f : Plot → Plot) : AxesRecorder :=
  { a with plot := f a.plot }

/-- **Applies a call.**  A call that asks for logarithmic axes sets them before it
records its series. -/
def apply (a : AxesRecorder) : DrawCall → AxesRecorder × Reply
  | .plot xlog ylog x y label =>
    let a := a.modifyPlot (·.setLog xlog ylog)
    a.attempt (a.pushSeries x y label)
  | .errorBar x y yerr xerr label => a.attempt (a.pushErrorBar x y yerr xerr label)
  | .field kind x y z zlog => a.attempt (a.setField kind x y z zlog)
  | .label axis text => (a.modifyPlot (·.setLabel axis text), {})
  | .title text => (a.modifyPlot fun p => { p with title := some text }, {})
  | .legend title => (a.modifyPlot fun p => { p with legendTitle := title.or p.legendTitle }, {})
  | .limits axis range => (a.modifyPlot (·.setRange axis range), {})
  | .note note => (a.modifyPlot fun p => { p with epilog := p.epilog ++ [note] }, {})

/-- **Applies a call to secondary axes**, which are reached by a path and created on
the way. -/
def applyAt : (path : List Axis) → AxesRecorder → DrawCall → AxesRecorder × Reply
  | [], a, call => a.apply call
  | adds :: path, a, call =>
    let (twin, reply) := applyAt path (a.twin adds) call
    (a.setTwin adds twin, reply)

/-- The recorded field with the recorded decorations. -/
def decorated (a : AxesRecorder) (field : Colorplot) : Colorplot :=
  { field with
    xlabel := a.plot.xlabel, ylabel := a.plot.ylabel, title := a.plot.title
    xrange := a.plot.xrange, yrange := a.plot.yrange, xlog := a.plot.xlog, ylog := a.plot.ylog }

/-- **The chart that has been recorded.** -/
def cell (a : AxesRecorder) : Cell :=
  match a.field with
  | some field => .colorplot (a.decorated field)
  | none => .plot (a.twins.foldl (fun p (adds, twin) => p.addTwin adds twin.plot) a.plot)

/-- What making that chart reports. -/
def cellLog (a : AxesRecorder) : Log :=
  if a.field.isSome && !a.twins.isEmpty then
    [recorderWarning "secondary axes are not recorded for scalar fields"]
  else []

end AxesRecorder

end FigureScript
