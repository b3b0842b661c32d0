import FigureScript.Error
import FigureScript.Figure.Basic
import FigureScript.Workbook.Basic

/-!
# Workbooks of charts

A chart of series as a workbook: a pair of columns for each series, and a scatter
chart that draws them.

## Main Definitions

* `Workbook.ofPlot` — the workbook of a chart, if it can be written
* `Workbook.ofFigure` — only charts of series have one

## Design Notes

Series `i` fills the columns `2 i` and `2 i + 1`, with headers in the first row.  The
limits of a worksheet are checked in the order in which the cells are filled.
-/

namespace FigureScript.Workbook

/-- The name of the worksheet. -/
def sheetName : String := "Data"

/-- The header of a series. -/
def header (s : Series) (i : Nat) : String :=
  s.labelText.getD s!"Series {i + 1}"

/-- The points of a series, in pairs. -/
def points (s : Series) : List (Float × Float) :=
  s.xValues.zip s.y

/-- **The cells of series** number `i`. -/
def seriesCells (s : Series) (i : Nat) : List (Place × CellValue) :=
  (⟨0, 2 * i⟩, .text "x") :: (⟨0, 2 * i + 1⟩, .text (header s i)) ::
    (points s).zipIdx.flatMap fun ((x, y), j) =>
      [(⟨j + 1, 2 * i⟩, .number x), (⟨j + 1, 2 * i + 1⟩, .number y)]

/-- The cells of a column from the second row down. -/
def columnRange (col rows : Nat) : CellRange :=
  ⟨sheetName, ⟨1, col⟩, ⟨rows, col⟩⟩

/-- The curve of series number `i`; a series without points has none. -/
def seriesCurve (s : Series) (i : Nat) : Option ChartSeries :=
  if s.y.isEmpty then none
  else some
    { name := .single sheetName ⟨0, 2 * i + 1⟩
      x := columnRange (2 * i) s.y.length
      y := columnRange (2 * i + 1) s.y.length }

/-- An axis with an optional name. -/
def axis (name : Option String) (log : Bool) : ChartAxis :=
  ⟨name.bind ChartText.ofString?, if log then some 10 else none⟩

/-- The chart over the cells of a plot, to the right of them. -/
def chartOf (p : Plot) : Chart where
  title := p.title.bind ChartText.ofString?
  x := axis p.xlabel p.xlog
  y := axis p.ylabel p.ylog
  series := p.series.zipIdx.filterMap fun (s, i) => seriesCurve s i
  corner := ⟨1, 2 * p.series.length + 1⟩

/-- A problem unless a condition holds. -/
def ensure (condition : Bool) (problem : SpreadsheetProblem) : Except SpreadsheetProblem Unit :=
  if condition then .ok () else .error problem

/-- One series must fit into the worksheet. -/
def checkSeries (s : Series) (i : Nat) : Except SpreadsheetProblem Unit := do
  ensure (Place.inSheet ⟨0, 2 * i + 1⟩) .outsideSheet
  ensure ((header s i).length ≤ maxTextLength) .textTooLong
  ensure (Place.inSheet ⟨(points s).length, 2 * i + 1⟩) .outsideSheet

/-- **The workbook of a chart of series.** -/
def ofPlot (p : Plot) : Except SpreadsheetProblem Workbook := do
  p.series.zipIdx.forM fun (s, i) => checkSeries s i
  let chart := chartOf p
  ensure chart.corner.inSheet .outsideSheet
  ensure (!chart.series.isEmpty) .noSeries
  let cells := p.series.zipIdx.flatMap fun (s, i) => seriesCells s i
  return { sheet := sheetName, cells, chart }

/-- **The workbook of a figure.** -/
def ofFigure : Figure → Except Error Workbook
  | .plot p => (ofPlot p).mapError .spreadsheet
  | other => .error (.notImplemented other.kind)

end FigureScript.Workbook
