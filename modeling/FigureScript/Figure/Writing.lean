import FigureScript.Figure.Basic
import FigureScript.Json.Writer

/-!
# Writing figures

Figures as JSON values and texts.  Absent parts, switches that are off and empty lists
with a default are left out; the entries of each object are sorted by name.

## Main Definitions

* `Figure.toJson` — a figure as a value
* `Figure.toText` — as a compact or a readable text
-/

namespace FigureScript

open Json (Value)

/-- A switch, written only when it is on. -/
def flag (on : Bool) : Option Value :=
  if on then some (.bool true) else none

/-- A list, written only when it has items. -/
def nonempty {α : Type} (f : α → Value) (items : List α) : Option Value :=
  if items.isEmpty then none else some (.array (items.map f))

/-- A range as two numbers. -/
def Range.toJson (r : Range) : Value :=
  .floats [r.first, r.last]

/-- A number or a list of numbers. -/
def Values.toJson : Values → Value
  | scalar value => .float value
  | points values => .floats values

/-- The fields of a series by name, each with its value if it is written. -/
def Series.written (s : Series) : List (String × Option Value) :=
  [("color", s.color.map .int),
    ("joined", s.joined.map .bool),
    ("label", s.label.map .string),
    ("line", s.line.map .int),
    ("x", s.x.map .floats),
    ("xadded", s.xadded.map fun n : Nat => .int n),
    ("xerr", s.xerr.map Values.toJson),
    ("xmax", s.xmax.map Values.toJson),
    ("xmin", s.xmin.map Values.toJson),
    ("y", some (.floats s.y)),
    ("yadded", s.yadded.map fun n : Nat => .int n),
    ("yerr", s.yerr.map Values.toJson),
    ("ymax", s.ymax.map Values.toJson),
    ("ymin", s.ymin.map Values.toJson)]

/-- A series. -/
def Series.toJson (s : Series) : Value :=
  .ofPresent s.written

/-- The fields of a secondary axis by name, each with its value if it is written. -/
def AddedAxis.written (a : AddedAxis) : List (String × Option Value) :=
  [("label", a.label.map .string),
    ("legendlabel", a.legendLabel.map .string),
    ("log", flag a.log),
    ("range", a.range.map Range.toJson)]

/-- A secondary axis. -/
def AddedAxis.toJson (a : AddedAxis) : Value :=
  .ofPresent a.written

/-- A note, tagged as a text. -/
def Note.toJson (n : Note) : Value :=
  .object [("text", .string n.text), ("type", .string "text"), ("x", .float n.x), ("y", .float n.y)]

/-- The fields of style suggestions by name, each with its value if it is written. -/
def StyleHint.written (h : StyleHint) : List (String × Option Value) :=
  [("colors", h.colors.map .strings),
    ("lines", h.lines.map .strings),
    ("markers", h.markers.map .strings)]

/-- Style suggestions. -/
def StyleHint.toJson (h : StyleHint) : Value :=
  .ofPresent h.written

/-- The fields of a chart of series by name, each with its value if it is written. -/
def Plot.written (p : Plot) : List (String × Option Value) :=
  [("epilog", nonempty Note.toJson p.epilog),
    ("legendtitle", p.legendTitle.map .string),
    ("series", some (.array (p.series.map Series.toJson))),
    ("style", p.style.map StyleHint.toJson),
    ("title", p.title.map .string),
    ("type", some (.string "plot")),
    ("version", p.version.map .string),
    ("xadded", nonempty AddedAxis.toJson p.xadded),
    ("xlabel", p.xlabel.map .string),
    ("xlog", flag p.xlog),
    ("xrange", p.xrange.map Range.toJson),
    ("yadded", nonempty AddedAxis.toJson p.yadded),
    ("ylabel", p.ylabel.map .string),
    ("ylog", flag p.ylog),
    ("yrange", p.yrange.map Range.toJson)]

/-- A chart of series, tagged. -/
def Plot.toJson (p : Plot) : Value :=
  .ofPresent p.written

/-- The fields of a scalar field by name, each with its value if it is written. -/
def Colorplot.written (c : Colorplot) : List (String × Option Value) :=
  [("contour", flag c.contour),
    ("fillcontour", flag c.fillContour),
    ("levels", c.levels.map .floats),
    ("style", c.style.map StyleHint.toJson),
    ("title", c.title.map .string),
    ("type", some (.string "colorplot")),
    ("version", c.version.map .string),
    ("x", c.x.map .floats),
    ("xlabel", c.xlabel.map .string),
    ("xlog", flag c.xlog),
    ("xrange", c.xrange.map Range.toJson),
    ("y", c.y.map .floats),
    ("ylabel", c.ylabel.map .string),
    ("ylog", flag c.ylog),
    ("yrange", c.yrange.map Range.toJson),
    ("z", some (.array (c.z.map .floats))),
    ("zlog", flag c.zlog),
    ("zrange", c.zrange.map Range.toJson)]

/-- A scalar field, tagged. -/
def Colorplot.toJson (c : Colorplot) : Value :=
  .ofPresent c.written

/-- A cell, tagged by its kind. -/
def Cell.toJson : Cell → Value
  | plot p => p.toJson
  | colorplot c => c.toJson

/-- The fields of a grid by name, each with its value if it is written. -/
def Multiplot.written (m : Multiplot) : List (String × Option Value) :=
  [("joined", m.joined.map fun j => .array [.bool j.horizontal, .bool j.vertical]),
    ("plots", some (.array (m.plots.map fun row => .array (row.map Cell.toJson)))),
    ("style", m.style.map StyleHint.toJson),
    ("title", m.title.map .string),
    ("type", some (.string "multiplot")),
    ("version", m.version.map .string),
    ("xshared", m.xshared.map fun s => .string s.keyword),
    ("yshared", m.yshared.map fun s => .string s.keyword)]

/-- A grid, tagged. -/
def Multiplot.toJson (m : Multiplot) : Value :=
  .ofPresent m.written

namespace Figure

/-- **A figure as a value**, tagged by its kind. -/
def toJson : Figure → Value
  | plot p => p.toJson
  | colorplot c => c.toJson
  | multiplot m => m.toJson

/-- **A figure as a text**: compact, or readable with one entry a line. -/
def toText (figure : Figure) (compact : Bool) : String :=
  String.ofList (if compact then figure.toJson.compact else figure.toJson.pretty)

end Figure

end FigureScript
