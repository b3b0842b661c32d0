import FigureScript.Text.Alphanumeric
import FigureScript.Workbook.Place

/-!
# Names of worksheets in formulas

A formula names a worksheet as it is, or between quotes if the name could be taken for
something else.

## Main Definitions

* `needsQuotes` — the names that must be quoted
* `quotedSheetName`, `unquotedSheetName` — a name as a formula has it, and back

## Design Notes

A name that starts with a quote is taken as quoted already.  A formula can name cells by
letter and number (`B5`) or by two numbers (`R5C2`), so that names of both forms are
quoted.
-/

namespace FigureScript.Workbook

/-- A character that a plain name may hold. -/
def isNameChar (c : Char) : Bool :=
  Text.isAlphanumeric c || c = '_' || c = '.'

/-- The number that decimal digits stand for. -/
def decimal (digits : List Char) : Nat :=
  digits.foldl (fun n d => 10 * n + (d.toNat - '0'.toNat)) 0

/-- A number that counts rows of a worksheet, or its columns, from one. -/
def isOneOf (count number : Nat) : Bool :=
  1 ≤ number && number ≤ count

/-- The name is that of a cell, such as `B5`. -/
def isCellName (name : List Char) : Bool :=
  let letters := name.takeWhile Char.isAlpha
  let digits := name.drop letters.length
  isOneOf 3 letters.length && !digits.isEmpty && digits.all Char.isDigit &&
    isOneOf maxCols (columnNumber (letters.map Char.toUpper)) && isOneOf maxRows (decimal digits)

/-- The text starts with digits that count one of so many rows or columns. -/
def startsWithOneOf (count : Nat) (text : List Char) : Bool :=
  isOneOf count (decimal (text.takeWhile Char.isDigit))

/-- The name starts like a reference to a row or a column by its number, such as `R5` or
`RC2`, or is one without numbers.  Letters of both cases count. -/
def startsNumberedName (name : List Char) : Bool :=
  match name.map Char.toUpper with
  | ['R'] | ['C'] | ['R', 'C'] => true
  | 'R' :: 'C' :: rest => startsWithOneOf maxCols rest
  | 'R' :: rest => startsWithOneOf maxRows rest
  | 'C' :: rest => startsWithOneOf maxCols rest
  | _ => false

/-- **The name of a worksheet must be quoted** in a formula. -/
def needsQuotes (name : List Char) : Bool :=
  match name with
  | [] => false
  | c :: _ =>
    !name.all isNameChar || c.isDigit || c = '.' || isCellName name || startsNumberedName name

/-- A name with its quotes doubled. -/
def doubleQuotes (name : List Char) : List Char :=
  name.flatMap fun c => if c = '\'' then ['\'', '\''] else [c]

/-- A name with its doubled quotes made single. -/
def singleQuotes : List Char → List Char
  | '\'' :: '\'' :: rest => '\'' :: singleQuotes rest
  | c :: rest => c :: singleQuotes rest
  | [] => []

/-- **The name of a worksheet in a formula.** -/
def quotedSheetName (name : String) : String :=
  if name.toList.head? ≠ some '\'' && needsQuotes name.toList then
    "'" ++ String.ofList (doubleQuotes name.toList) ++ "'"
  else name

/-- The name of a worksheet that a formula has between quotes, if there are quotes around
it. -/
def unquotedSheetName (name : List Char) : List Char :=
  match name with
  | '\'' :: rest =>
    if rest.getLast? = some '\'' then singleQuotes rest.dropLast else name
  | name => name

end FigureScript.Workbook
