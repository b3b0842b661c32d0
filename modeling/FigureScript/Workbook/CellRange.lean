import FigureScript.Workbook.SheetName

/-!
# Ranges of cells

Rectangles of cells of a worksheet and the way formulas name them.

## Main Definitions

* `CellRange` — a rectangle of cells of a worksheet
* `CellRange.formula` — its name in a formula
* `CellRange.ofReference?` — the range that a text `Sheet!$A$1:$B$2` refers to

## Design Notes

A text is a reference by its form alone: the name of a worksheet, an exclamation mark, and
behind it capital letters, digits and colons from a letter to a digit, with dollar signs
anywhere among them.  What a corner leaves open is taken as the first column or the first
row.
-/

namespace FigureScript.Workbook

/-- **A rectangle of cells** between two corners, both included. -/
structure CellRange where
  sheet : String
  first : Place
  last : Place
  deriving DecidableEq

namespace CellRange

/-- A single cell. -/
def single (sheet : String) (place : Place) : CellRange :=
  ⟨sheet, place, place⟩

/-- The places of a range, row by row. -/
def places (r : CellRange) : List Place :=
  (List.range' r.first.row (r.last.row + 1 - r.first.row)).flatMap fun row =>
    (List.range' r.first.col (r.last.col + 1 - r.first.col)).map fun col => ⟨row, col⟩

/-- **The text of a range** in a formula; a single cell is named once. -/
def formula (r : CellRange) : String :=
  quotedSheetName r.sheet ++ "!" ++ r.first.fixedName ++
    (if r.first = r.last then "" else ":" ++ r.last.fixedName)

/-- A capital letter. -/
def isCapital (c : Char) : Bool :=
  'A' ≤ c && c ≤ 'Z'

/-- The corners of a range have this form, once dollar signs are left out. -/
def hasForm (corners : List Char) : Bool :=
  corners.head?.any isCapital && corners.getLast?.any Char.isDigit &&
    corners.all fun c => isCapital c || c.isDigit || c = ':'

/-- The largest number that counts a row in a reference. -/
def maxRowNumber : Nat := 4294967295

/-- The row, counted from zero, that a text names.  One that is no number of a row names the
first. -/
def rowOf (text : List Char) : Nat :=
  if text.all Char.isDigit && decimal text ≤ maxRowNumber then decimal text - 1 else 0

/-- The place that a corner names. -/
def cornerPlace (corner : List Char) : Place :=
  let letters := corner.takeWhile (!·.isDigit)
  ⟨rowOf (corner.drop letters.length), columnNumber letters - 1⟩

/-- The two corners of a text, which are the same if it has no colon. -/
def corners (text : List Char) : List Char × List Char :=
  let first := text.takeWhile (· ≠ ':')
  match text.drop first.length with
  | [] => (first, first)
  | _ :: last => (first, last)

/-- **The range that a text refers to**, with or without an equals sign in front. -/
def ofReference? (text : String) : Option CellRange :=
  let formula := match text.toList with
    | '=' :: rest => rest
    | rest => rest
  let sheet := formula.takeWhile (· ≠ '!')
  let behind := ((formula.drop sheet.length).drop 1).filter (· ≠ '$')
  let name := unquotedSheetName sheet
  if name.isEmpty || !hasForm behind then none
  else
    let (first, last) := corners behind
    some ⟨String.ofList name, cornerPlace first, cornerPlace last⟩

end CellRange

end FigureScript.Workbook
