import FigureScript.Figure.Basic
import FigureScript.Program.Axes

/-!
# Statements

A script is a list of statements.  Their order matters: names are bound before
they are used, and decorations follow the data that they decorate.

## Main Definitions

* `Statement` — one drawing, decoration or output step
* `Trace` — what lines and error bars have in common
* `FieldDrawing` — a scalar field
-/

namespace FigureScript

/-- Explicit attributes of a drawn series. -/
structure SeriesStyle where
  label : Option String := none
  color : Option String := none
  linestyle : Option String := none
  deriving BEq, DecidableEq

/-- The extent of error bars, as distances below and above each point. -/
structure ErrorBounds where
  lower : List Float
  upper : List Float
  deriving BEq, DecidableEq

/-- The ends of the error bars around `values`: all lower ends, all upper ends. -/
def ErrorBounds.absolute (b : ErrorBounds) (values : List Float) : List Float × List Float :=
  (List.zipWith (· - ·) values b.lower, List.zipWith (· + ·) values b.upper)

/-- How a scalar field is drawn. -/
inductive FieldKind where
  | mesh
  | contour
  | filled
  deriving BEq, DecidableEq

/-- Both kinds of contours. -/
def FieldKind.isContour : FieldKind → Bool
  | mesh => false
  | contour | filled => true

/-- How the values of a field are mapped to colours. -/
inductive ColorNorm where
  /-- Linear between the bounds of the data. -/
  | auto
  | log (bounds : Option Range)
  | linear (bounds : Range)
  deriving BEq, DecidableEq

/-- The corner of a legend. -/
inductive LegendLoc where
  | upperRight
  | upperLeft
  | lowerRight
  | lowerLeft
  deriving BEq, DecidableEq

/-- The keyword of a corner. -/
def LegendLoc.keyword : LegendLoc → String
  | upperRight => "upper right"
  | upperLeft => "upper left"
  | lowerRight => "lower right"
  | lowerLeft => "lower left"

/-- Where the title of a chart goes. -/
inductive TitlePlacement where
  /-- Above the chart. -/
  | above
  /-- Inside the chart, near its top. -/
  | inside
  deriving BEq, DecidableEq

/-- **A series to be drawn.** -/
structure Trace where
  axes : Axes
  x : List Float
  y : List Float
  marker : Option String := none
  style : SeriesStyle := {}
  deriving BEq, DecidableEq

/-- **A scalar field to be drawn.** -/
structure FieldDrawing where
  axes : Axes
  kind : FieldKind
  x : Option (List Float) := none
  y : Option (List Float) := none
  z : List (List Float)
  norm : ColorNorm := .auto
  levels : Option (List Float) := none
  /-- Stored as a bitmap in vector formats. -/
  rasterized : Bool := false
  deriving BEq, DecidableEq

/-- **One step of a script.** -/
inductive Statement where
  /-- Makes a name of a module available. -/
  | importName (module name : String)
  /-- Runs the body with style presets in force. -/
  | styleScope (presets : List String) (body : List Statement)
  /-- Creates the picture and its grid of axes; `scaled` enlarges it with the grid. -/
  | createAxes (rows cols : Nat) (xshared yshared : Option Sharing) (scaled : Bool)
  /-- Binds the current axes to a name. -/
  | bindAxes (name : String)
  /-- Creates twin axes. -/
  | createTwin (parent : Axes) (adds : Axis)
  | drawLine (trace : Trace)
  | drawErrorBar (trace : Trace) (xerr yerr : Option ErrorBounds)
  | drawField (field : FieldDrawing)
  | setLimits (axes : Axes) (axis : Axis) (range : Range)
  | setLogScale (axes : Axes) (axis : Axis)
  | setLegend (axes : Axes) (loc : Option LegendLoc) (title : Option String)
  | setLabel (axes : Axes) (axis : Axis) (text : String)
  | setTitle (axes : Axes) (text : String) (placement : TitlePlacement)
  /-- A text at data coordinates. -/
  | annotate (axes : Axes) (note : Note)
  /-- The legend of the colour scale. -/
  | colorbar
  /-- Labels on the contour lines. -/
  | contourLabels
  /-- The title of the whole picture. -/
  | supTitle (text : String)
  | tightLayout
  /-- Closes the gap between rows (`y`) or columns (`x`) of a grid. -/
  | collapseSpacing (between : Axis)
  | setWindowTitle (text : String)
  | showFigure
  | saveFigure (path : String)
  deriving Inhabited

end FigureScript
