import FigureScript.Number.Shortest

/-!
# Number notations

How numbers are spelled in scripts and in description files.

## Main Definitions

* `positional`, `scientific` — the two layouts of a decimal
* `scriptText` — a number in a script, read back to the same value
* `fixedText` — a number with six places, as ranges and positions are written
* `jsonText` — a number in a description file
* `plainText` — a number in a message

## Design Notes

Scripts write integral numbers below `10 ^ 16` with all their digits and `.0`,
numbers outside `10 ^ -4 … 10 ^ 16` with an exponent, and everything else
positionally.  Description files decide by the exponent of the leading digit
(`-5 … 15` is positional) and sign positive exponents.  Both use the fewest
digits that read back.
-/

namespace FigureScript.Number

/-- The sign of a number, written only when negative. -/
def signText (negative : Bool) : List Char :=
  if negative then ['-'] else []

/-- Digits scaled by a power of ten, without an exponent. -/
def positional (digits : List Char) (exponent : Int) : List Char :=
  if 0 ≤ exponent then
    digits ++ List.replicate exponent.toNat '0'
  else
    let places := (-exponent).toNat
    if places < digits.length then
      digits.take (digits.length - places) ++ '.' :: digits.drop (digits.length - places)
    else
      '0' :: '.' :: (List.replicate (places - digits.length) '0' ++ digits)

/-- One digit, the others after a point, and the exponent of the first. -/
def scientific (signPositive : Bool) (digits : List Char) (leading : Int) : List Char :=
  let significand := match digits with
    | [] => []
    | [d] => [d]
    | d :: rest => d :: '.' :: rest
  let sign := if leading < 0 then ['-'] else if signPositive then ['+'] else []
  significand ++ 'e' :: (sign ++ Nat.toDigits 10 leading.natAbs)

/-- Text of a number that is not finite. -/
def specialText (value : Float) : List Char :=
  if value.isNaN then "float(\"nan\")".toList
  else if 0 < value then "float(\"inf\")".toList
  else "-float(\"inf\")".toList

/-- A finite number in a script. -/
def finiteScriptText (b : Binary) : List Char :=
  signText b.negative ++
    if b.isIntegral && b.absLt (Nat.pow 10 16) 1 then
      Nat.toDigits 10 (b.num / b.den) ++ ['.', '0']
    else
      let d := shortest .up b
      if !b.absLt (Nat.pow 10 16) 1 || b.absLt 1 (Nat.pow 10 4) then
        scientific false d.digits d.leadingExponent
      else
        positional d.digits d.exponent

/-- **A number in a script**: the fewest digits that read back to the same value. -/
def scriptText (value : Float) : String :=
  String.ofList (if isFinite value then finiteScriptText (.ofFloat value) else specialText value)

/-- The quotient rounded to the nearest natural number, a half to the even one. -/
def roundDiv (p q : Nat) : Nat :=
  let below := p / q
  let rest := 2 * (p % q)
  if rest < q then below
  else if q < rest then below + 1
  else below + below % 2

/-- A finite number with six places. -/
def finiteFixedText (b : Binary) : List Char :=
  let millionths := roundDiv (b.num * Nat.pow 10 6) b.den
  let places := Nat.toDigits 10 (millionths % Nat.pow 10 6)
  signText b.negative ++ Nat.toDigits 10 (millionths / Nat.pow 10 6) ++
    '.' :: (List.replicate (6 - places.length) '0' ++ places)

/-- **A number with six places**, rounded half to even and never with an exponent. -/
def fixedText (value : Float) : String :=
  String.ofList (if isFinite value then finiteFixedText (.ofFloat value) else specialText value)

/-- **A finite number in a description file.** -/
def jsonText (value : Float) : String :=
  let b := Binary.ofFloat value
  let d := shortest .toEven b
  let leading := d.leadingExponent
  String.ofList (signText b.negative ++
    if b.mantissa = 0 then ['0', '.', '0']
    else if -5 ≤ leading ∧ leading ≤ 15 then
      positional d.digits d.exponent ++ (if 0 ≤ d.exponent then ['.', '0'] else [])
    else
      scientific true d.digits leading)

/-- **A number in a message**: the fewest digits that read back, never with an
exponent. -/
def plainText (value : Float) : String :=
  let b := Binary.ofFloat value
  let d := shortest .up b
  if value.isNaN then "NaN"
  else if !isFinite value then (if 0 < value then "inf" else "-inf")
  else String.ofList (signText b.negative ++
    if b.mantissa = 0 then ['0', '.', '0']
    else positional d.digits d.exponent ++ (if 0 ≤ d.exponent then ['.', '0'] else []))

end FigureScript.Number
