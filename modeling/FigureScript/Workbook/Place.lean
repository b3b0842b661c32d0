/-!
# Places in a worksheet

Cells of a worksheet and the way formulas name them.

## Main Definitions

* `Place` — a row and a column, counted from zero
* `columnName` — `A`, `B`, … `Z`, `AA`, …
* `columnNumber` — the way back
-/

namespace FigureScript.Workbook

/-- **A place in a worksheet**, counted from zero. -/
structure Place where
  row : Nat
  col : Nat
  deriving DecidableEq

/-- A worksheet has this many rows. -/
def maxRows : Nat := 1048576

/-- A worksheet has this many columns. -/
def maxCols : Nat := 16384

/-- The place exists in a worksheet. -/
def Place.inSheet (p : Place) : Bool :=
  p.row < maxRows && p.col < maxCols

/-- One place is read before another: row by row, each from left to right. -/
def Place.before (p q : Place) : Bool :=
  p.row < q.row || p.row = q.row && p.col ≤ q.col

/-- The letters of a column number counted from one, in front of those already known. -/
def columnLetters (number : Nat) (known : List Char) : List Char :=
  if h : number = 0 then known
  else columnLetters ((number - 1) / 26) (Char.ofNat ('A'.toNat + (number - 1) % 26) :: known)
termination_by number
decreasing_by omega

/-- **The name of a column** counted from zero. -/
def columnName (col : Nat) : String :=
  String.ofList (columnLetters (col + 1) [])

/-- The name of a place. -/
def Place.name (p : Place) : String :=
  columnName p.col ++ toString (p.row + 1)

/-- The name of a place that stays the same when a formula is moved. -/
def Place.fixedName (p : Place) : String :=
  "$" ++ columnName p.col ++ "$" ++ toString (p.row + 1)

/-- The letters of a column stand for a number of so many values. -/
def columnNumbers : Nat := 65536

/-- **The number of a column**, counted from one, that letters stand for; zero without
letters. -/
def columnNumber (letters : List Char) : Nat :=
  letters.foldl (fun n c => (26 * n + c.toNat + columnNumbers + 1 - 'A'.toNat) % columnNumbers) 0

end FigureScript.Workbook
