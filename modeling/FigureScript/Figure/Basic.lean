/-!
# Figures

A figure is a chart of series, a scalar field over a grid, or a grid of such
charts.  These are the types of the description format; what makes a figure
valid, and how it is read and written, is said elsewhere.

## Main Definitions

* `Series`, `Plot` — data traces and the chart that shows them
* `Colorplot` — a scalar field
* `Multiplot` — a grid of charts
* `Figure` — any of the three

## Design Notes

Optional parts are `Option`s, so nothing later on has to ask whether a part was
written.  Switches that are off by default are plain `Bool`s.  Two figures are
equal in the sense of `==` when their numbers are equal as numbers; `=` also tells
the two zeros apart.
-/

namespace FigureScript

/-- A display range, from its first to its second bound. -/
structure Range where
  first : Float
  last : Float
  deriving BEq, DecidableEq

/-- **An uncertainty or a limit**: one number for every point, or a number each. -/
inductive Values where
  | scalar (value : Float)
  | points (values : List Float)
  deriving BEq, DecidableEq

/-- **One data trace** of a chart. -/
structure Series where
  /-- The horizontal coordinates; `1, 2, …` when absent. -/
  x : Option (List Float) := none
  /-- The vertical coordinates. -/
  y : List Float
  /-- The legend entry. -/
  label : Option String := none
  /-- Place in the colour cycle, counted from one. -/
  color : Option Int := none
  /-- Place in the cycle of line styles, counted from one. -/
  line : Option Int := none
  /-- `false` asks for markers that are not connected. -/
  joined : Option Bool := none
  /-- Symmetric uncertainty in x. -/
  xerr : Option Values := none
  /-- Symmetric uncertainty in y. -/
  yerr : Option Values := none
  /-- Lower end of the horizontal error bar; goes before `xerr`. -/
  xmin : Option Values := none
  /-- Upper end of the horizontal error bar; goes before `xerr`. -/
  xmax : Option Values := none
  /-- Lower end of the vertical error bar; goes before `yerr`. -/
  ymin : Option Values := none
  /-- Upper end of the vertical error bar; goes before `yerr`. -/
  ymax : Option Values := none
  /-- `1` draws against the secondary x axis, `0` against the primary one. -/
  xadded : Option Nat := none
  /-- `1` draws against the secondary y axis, `0` against the primary one. -/
  yadded : Option Nat := none
  deriving BEq, DecidableEq

/-- **A secondary axis**, which shares the other coordinate with the primary one. -/
structure AddedAxis where
  range : Option Range := none
  /-- Logarithmic scale. -/
  log : Bool := false
  label : Option String := none
  /-- Title of the legend of the series drawn against this axis. -/
  legendLabel : Option String := none
  deriving BEq, DecidableEq

/-- A text placed at data coordinates after everything else. -/
structure Note where
  x : Float
  y : Float
  text : String
  deriving BEq, DecidableEq

/-- **Style suggestions**: lists of tokens from which series are served in turn. -/
structure StyleHint where
  lines : Option (List String) := none
  colors : Option (List String) := none
  markers : Option (List String) := none
  deriving BEq, DecidableEq

/-- **A chart of series.** -/
structure Plot where
  /-- Version of the format, reserved. -/
  version : Option String := none
  /-- The traces, in drawing order. -/
  series : List Series
  xlabel : Option String := none
  ylabel : Option String := none
  title : Option String := none
  /-- Title of the legend. -/
  legendTitle : Option String := none
  xrange : Option Range := none
  yrange : Option Range := none
  /-- Logarithmic x axis. -/
  xlog : Bool := false
  /-- Logarithmic y axis. -/
  ylog : Bool := false
  /-- Secondary x axes, of which one is supported. -/
  xadded : List AddedAxis := []
  /-- Secondary y axes, of which one is supported. -/
  yadded : List AddedAxis := []
  style : Option StyleHint := none
  /-- Trailing notes. -/
  epilog : List Note := []
  deriving BEq, DecidableEq

/-- **A scalar field** over a rectangular grid of cells. -/
structure Colorplot where
  /-- Version of the format, reserved. -/
  version : Option String := none
  /-- The values, one row after the other. -/
  z : List (List Float)
  /-- Column coordinates: centres, or edges with one value more. -/
  x : Option (List Float) := none
  /-- Row coordinates: centres, or edges with one value more. -/
  y : Option (List Float) := none
  /-- Contour lines instead of a mesh. -/
  contour : Bool := false
  /-- With `contour`, fill the regions between the levels. -/
  fillContour : Bool := false
  /-- Logarithmic colour scale. -/
  zlog : Bool := false
  /-- Bounds of the colour scale. -/
  zrange : Option Range := none
  /-- Explicit contour levels. -/
  levels : Option (List Float) := none
  xrange : Option Range := none
  yrange : Option Range := none
  /-- Logarithmic x axis. -/
  xlog : Bool := false
  /-- Logarithmic y axis. -/
  ylog : Bool := false
  xlabel : Option String := none
  ylabel : Option String := none
  title : Option String := none
  /-- Style suggestions, which a field has no use for. -/
  style : Option StyleHint := none
  deriving BEq, DecidableEq

/-- A chart in a cell of a grid. -/
inductive Cell where
  | plot (plot : Plot)
  | colorplot (colorplot : Colorplot)
  deriving BEq, DecidableEq

/-- Which cells of a grid share an axis. -/
inductive Sharing where
  | all
  | none
  | row
  | col
  deriving BEq, DecidableEq

/-- For each direction, whether the gap between adjacent cells is collapsed. -/
structure Joined where
  horizontal : Bool
  vertical : Bool
  deriving BEq, DecidableEq

/-- **A grid of charts** in one picture. -/
structure Multiplot where
  /-- Version of the format, reserved. -/
  version : Option String := none
  /-- The rows of the grid. -/
  plots : List (List Cell)
  title : Option String := none
  xshared : Option Sharing := none
  yshared : Option Sharing := none
  joined : Option Joined := none
  /-- Style suggestions for all cells. -/
  style : Option StyleHint := none
  deriving BEq, DecidableEq

/-- **A figure.** -/
inductive Figure where
  | plot (plot : Plot)
  | colorplot (colorplot : Colorplot)
  | multiplot (multiplot : Multiplot)
  deriving BEq, DecidableEq

/-! ### Accessors -/

/-- The points `1, 2, …, n` that stand in for absent coordinates. -/
def indexCoordinates (n : Nat) : List Float :=
  (List.range n).map fun i => (i + 1).toUInt64.toFloat

theorem length_indexCoordinates (n : Nat) : (indexCoordinates n).length = n := by
  rw [indexCoordinates, List.length_map, List.length_range]

namespace Series

/-- The horizontal coordinates, `1, 2, …` when absent. -/
def xValues (s : Series) : List Float :=
  s.x.getD (indexCoordinates s.y.length)

/-- The legend entry; an empty label is none. -/
def labelText (s : Series) : Option String :=
  s.label.filter (· ≠ "")

/-- Some part of a vertical error bar is given. -/
def hasYError (s : Series) : Bool :=
  s.yerr.isSome || s.ymin.isSome || s.ymax.isSome

/-- Some part of a horizontal error bar is given. -/
def hasXError (s : Series) : Bool :=
  s.xerr.isSome || s.xmin.isSome || s.xmax.isSome

/-- The points are shown as markers that are not connected. -/
def isUnjoined (s : Series) : Bool :=
  s.joined = some false

end Series

/-- No list of tokens is present. -/
def StyleHint.isEmpty (h : StyleHint) : Bool :=
  h.lines.isNone && h.colors.isNone && h.markers.isNone

namespace Cell

/-- The kind of a cell, as its `type` names it. -/
def kind : Cell → String
  | plot _ => "plot"
  | colorplot _ => "colorplot"

/-- The cell as a figure of its own. -/
def toFigure : Cell → Figure
  | plot p => .plot p
  | colorplot c => .colorplot c

end Cell

/-- The keyword of a sharing policy. -/
def Sharing.keyword : Sharing → String
  | all => "all"
  | none => "none"
  | row => "row"
  | col => "col"

/-- The only cell of a grid with one row and one column. -/
def Multiplot.singleCell? (m : Multiplot) : Option Cell :=
  match m.plots with
  | [[cell]] => some cell
  | _ => none

namespace Figure

/-- The kind of a figure, as its `type` names it. -/
def kind : Figure → String
  | plot _ => "plot"
  | colorplot _ => "colorplot"
  | multiplot _ => "multiplot"

/-- The style suggestions of the figure as a whole. -/
def style : Figure → Option StyleHint
  | plot p => p.style
  | colorplot c => c.style
  | multiplot m => m.style

end Figure

end FigureScript
