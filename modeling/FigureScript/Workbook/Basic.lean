import FigureScript.Workbook.CellRange
import FigureScript.Workbook.StoredText

/-!
# Workbooks

A workbook with one worksheet of texts and numbers and one chart over its cells.

## Main Definitions

* `Workbook` — the cells and the chart
* `ChartText` — a title: a literal text, or a reference to a cell
* `SpreadsheetProblem` — why a workbook cannot be written
* `Workbook.finish` — a workbook whose titles refer to its own cells
-/

namespace FigureScript

/-- What a cell holds. -/
inductive CellValue where
  | text (value : String)
  | number (value : Float)
  deriving DecidableEq

/-- **A title in a chart.** -/
inductive ChartText where
  | literal (text : String)
  /-- The content of a cell, which is looked up when the workbook is opened. -/
  | reference (range : Workbook.CellRange)
  deriving DecidableEq

/-- A title from a text.  An empty one is none, and one that has the form of a reference
is taken as a reference. -/
def ChartText.ofString? (text : String) : Option ChartText :=
  match Workbook.CellRange.ofReference? text with
  | some range => some (.reference range)
  | none => if text = "" then none else some (.literal text)

/-- One curve of a chart, by the cells that hold its name and its coordinates. -/
structure ChartSeries where
  name : Workbook.CellRange
  x : Workbook.CellRange
  y : Workbook.CellRange
  deriving DecidableEq

/-- One axis of a chart. -/
structure ChartAxis where
  name : Option ChartText
  /-- The base of a logarithmic scale. -/
  logBase : Option Nat
  deriving DecidableEq

/-- **A chart** whose points are markers connected by straight lines. -/
structure Chart where
  title : Option ChartText
  x : ChartAxis
  y : ChartAxis
  series : List ChartSeries
  /-- The place of its upper left corner. -/
  corner : Workbook.Place
  deriving DecidableEq

/-- **A workbook** of one worksheet with a chart. -/
structure Workbook where
  sheet : String
  /-- The cells in the order in which they were filled. -/
  cells : List (Workbook.Place × CellValue)
  chart : Chart
  deriving DecidableEq

/-- **Why a workbook cannot be written.** -/
inductive SpreadsheetProblem where
  | noSeries
  | textTooLong
  | outsideSheet
  /-- A title refers to a worksheet that does not exist. -/
  | unknownSheet (range : Workbook.CellRange)
  deriving DecidableEq

/-- The wording of a problem. -/
def SpreadsheetProblem.message : SpreadsheetProblem → String
  | noSeries => "Chart error: 'Chart must contain at least one series'."
  | textTooLong => "String exceeds Excel's limit of 32,767 characters."
  | outsideSheet => "Row or column exceeds Excel's allowed limits (1,048,576 x 16,384)."
  | unknownSheet range =>
    "Unknown Worksheet name or index 'Unknown worksheet name '" ++ range.sheet ++
      "' in chart range '" ++ range.formula ++ "''."

namespace Workbook

/-- The longest text of a cell, in characters. -/
def maxTextLength : Nat := 32767

/-- **The cells row by row**, each row from left to right. -/
def rowMajor (w : Workbook) : List (Place × CellValue) :=
  w.cells.mergeSort fun a b => a.1.before b.1

/-- What a place holds. -/
def get? (w : Workbook) (place : Place) : Option CellValue :=
  (w.cells.find? (·.1 = place)).map (·.2)

/-- The titles of the chart: its own and those of its axes. -/
def titles (w : Workbook) : List ChartText :=
  [w.chart.title, w.chart.x.name, w.chart.y.name].filterMap id

/-- The range that a title refers to, if it is on a worksheet that does not exist. -/
def foreign? (w : Workbook) : ChartText → Option CellRange
  | .literal _ => none
  | .reference range => if range.sheet = w.sheet then none else some range

/-- **The workbook, unless one of its titles refers to another worksheet.**  This is found
out only when the workbook is stored. -/
def finish (w : Workbook) : Except SpreadsheetProblem Workbook :=
  match w.titles.findSome? w.foreign? with
  | some range => .error (.unknownSheet range)
  | none => .ok w

end Workbook

end FigureScript
