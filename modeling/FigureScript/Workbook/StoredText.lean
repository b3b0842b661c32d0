import FigureScript.Text.Quoted

/-!
# Texts in a workbook

A workbook cannot hold control characters; they are stored by their code, as
`_x0001_`.  A text of a cell that already looks like such a code gets the underscore in
front of it stored by code as well, so that reading gives it back.
-/

namespace FigureScript.Workbook

/-- A character that is stored by its code. -/
def isCoded (c : Char) : Bool :=
  c.toNat < 0x20 && c ≠ '\t' && c ≠ '\n'

/-- The stored code of a character. -/
def coded (c : Char) : List Char :=
  let digit (weight : Nat) := (Text.hexDigit (c.toNat / weight % 16)).toUpper
  ['_', 'x', digit 4096, digit 256, digit 16, digit 1, '_']

/-- The text starts like a stored code, of which the underscore at the end does not
matter. -/
def startsCode : List Char → Bool
  | '_' :: 'x' :: a :: b :: c :: d :: _ =>
    [a, b, c, d].all fun digit => (Text.hexValue? digit).isSome
  | _ => false

/-- The characters of the text of a cell as they are stored. -/
def storedChars : List Char → List Char
  | [] => []
  | c :: rest =>
    (if isCoded c || startsCode (c :: rest) then coded c else [c]) ++ storedChars rest

/-- **The text of a cell as a workbook stores it.** -/
def storedText (text : String) : String :=
  String.ofList (storedChars text.toList)

/-- **The text of a chart as a workbook stores it**; only control characters have
codes there. -/
def storedTitle (text : String) : String :=
  String.ofList (text.toList.flatMap fun c => if isCoded c then coded c else [c])

end FigureScript.Workbook
