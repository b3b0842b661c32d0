import FigureScript.Number.Notation

/-!
# The nearest number

The floating point number nearest to a fraction or to a decimal.

## Main Definitions

* `nearest` — the number nearest to a quotient of natural numbers
* `Decimal.read?` — the number nearest to a decimal

## Design Notes

A quotient is scaled by a power of two so that its integral part has 53 bits, or fewer
below the smallest normal number, and then rounded to an integer, a half to the even
one.  That integer has an exact floating point number, and scaling it back is exact too.
-/

namespace FigureScript.Number

/-- The quotient of `p` and `q` times a power of two, rounded to an integer. -/
def scaledDiv (p q : Nat) (exponent : Int) : Nat :=
  if 0 ≤ exponent then roundDiv p (q * Nat.pow 2 exponent.toNat)
  else roundDiv (p * Nat.pow 2 (-exponent).toNat) q

/-- The quotient of `p` and `q` is at least a power of two. -/
def atLeastPower (p q : Nat) (exponent : Int) : Bool :=
  if 0 ≤ exponent then q * Nat.pow 2 exponent.toNat ≤ p else q ≤ p * Nat.pow 2 (-exponent).toNat

/-- **The number nearest to a quotient**; half way between two the even one. -/
def nearest (p q : Nat) : Float :=
  if p = 0 ∨ q = 0 then 0.0
  else
    let guess : Int := (p.log2 : Int) - q.log2
    let leading := if atLeastPower p q guess then guess else guess - 1
    let exponent := max (leading - 52) (-1074)
    if 1024 < leading then 1.0 / 0.0
    else (scaledDiv p q exponent).toUInt64.toFloat.scaleB exponent

namespace Decimal

/-- The decimal digits in front of a text, and the rest. -/
def splitDigits (text : List Char) : List Char × List Char :=
  text.span Char.isDigit

/-- The value of digits. -/
def value (digits : List Char) : Nat :=
  digits.foldl (fun n d => 10 * n + (d.toNat - '0'.toNat)) 0

/-- A sign in front of a text, and the rest. -/
def splitSign : List Char → Bool × List Char
  | '-' :: rest => (true, rest)
  | '+' :: rest => (false, rest)
  | text => (false, text)

/-- An exponent, which must be all of the text. -/
def exponent? : List Char → Option Int
  | [] => some 0
  | c :: rest =>
    if c = 'e' || c = 'E' then
      let (negative, digits) := splitSign rest
      if digits.isEmpty || !digits.all Char.isDigit then none
      else some (if negative then -(value digits : Int) else value digits)
    else none

/-- The number of `digits` digits with a value, scaled by a power of ten. -/
def scaled (digits significand : Nat) (exponent : Int) : Float :=
  if significand = 0 || exponent + digits < -400 then 0.0
  else if 400 < exponent then 1.0 / 0.0
  else if 0 ≤ exponent then nearest (significand * Nat.pow 10 exponent.toNat) 1
  else nearest significand (Nat.pow 10 (-exponent).toNat)

/-- **The number nearest to a decimal**, if all of a text is one: digits with at most one
point among or beside them, possibly with a sign and an exponent. -/
def read? (text : List Char) : Option Float := do
  let (negative, text) := splitSign text
  let (whole, rest) := splitDigits text
  let (fraction, rest) := match rest with
    | '.' :: rest => splitDigits rest
    | rest => ([], rest)
  if whole.isEmpty && fraction.isEmpty then none
  else
    let exponent ← exponent? rest
    let digits := whole ++ fraction
    let size := scaled digits.length (value digits) (exponent - fraction.length)
    return if negative then -size else size

end Decimal

end FigureScript.Number
