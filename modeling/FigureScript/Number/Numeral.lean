import FigureScript.Number.Notation

/-!
# Numerals

The numbers of description files: integers of 64 bits, which keep their
spelling, and floating point numbers.  `Literal.value?` reads a literal that has
already been taken apart into its digits.

## Main Definitions

* `Numeral` — an integer or a floating point number
* `Literal` — the parts of a number literal
* `Literal.value?` — the number it denotes, unless that is out of range

## Design Notes

Digits are collected in a significand below `2 ^ 64`.  At the first digit that
does not fit, the remaining digits of the integer part only raise the exponent
and those of the fraction are dropped.  The significand is then scaled by one
multiplication or division with a power of ten, after divisions by `10 ^ 308`
where the exponent is below `-308`.  Each of these steps rounds, so the value is
close to the literal but not always the nearest number: `1.602176634e-19` reads
as `1.6021766340000001e-19`.
-/

namespace FigureScript.Number

/-- **A number of a description file.** -/
inductive Numeral where
  | integer (value : Int)
  | real (value : Float)
  deriving DecidableEq

namespace Numeral

/-- The number as a floating point number. -/
def toFloat : Numeral → Float
  | integer (.ofNat n) => n.toUInt64.toFloat
  | integer (.negSucc n) => -(n + 1).toUInt64.toFloat
  | real x => x

/-- The number as description files spell it. -/
def text : Numeral → String
  | integer n => toString n
  | real x => jsonText x

end Numeral

/-- **A number literal**, taken apart into its digits. -/
structure Literal where
  negative : Bool
  integer : List Char
  /-- The digits after the point, if there is a point. -/
  fraction : Option (List Char)
  /-- The sign and the digits of the exponent, if there is one. -/
  exponent : Option (Bool × List Char)
  deriving DecidableEq

/-- The value of a decimal digit. -/
def digitValue (c : Char) : Nat :=
  c.toNat - '0'.toNat

/-- The natural number that a list of digits denotes. -/
def digitsValue (digits : List Char) : Nat :=
  digits.foldl (fun n d => 10 * n + digitValue d) 0

/-- Appends digits to a significand for as long as it stays below `2 ^ 64`; the
digits that no longer fit are left over. -/
def absorb : List Char → Nat → Nat × List Char
  | [], significand => (significand, [])
  | d :: rest, significand =>
    let longer := 10 * significand + digitValue d
    if longer < Nat.pow 2 64 then absorb rest longer else (significand, d :: rest)

/-- The floating point number nearest to a power of ten. -/
def powerOfTen (exponent : Nat) : Float :=
  Float.ofScientific 1 false exponent

/-- A significand scaled by a power of ten, unless the result is too large. -/
def scale? (significand : Float) (exponent : Int) : Option Float :=
  if 0 ≤ exponent then
    if exponent ≤ 308 then
      let scaled := significand * powerOfTen exponent.toNat
      if scaled.isInf then none else some scaled
    else if significand == 0 then some significand
    else none
  else if -308 ≤ exponent then
    some (significand / powerOfTen (-exponent).toNat)
  else if significand == 0 then some significand
  else scale? (significand / powerOfTen 308) (exponent + 308)
termination_by (-exponent).toNat

namespace Literal

/-- The significand and the power of ten that the digits stand for. -/
def parts (l : Literal) : Nat × Int :=
  let (significand, skipped) := absorb l.integer 0
  let (significand, places) := match l.fraction with
    | none => (significand, 0)
    | some digits =>
      let (significand, dropped) := absorb digits significand
      (significand, digits.length - dropped.length)
  let exponent : Int := match l.exponent with
    | none => 0
    | some (negative, digits) =>
      if negative then -(digitsValue digits : Int) else digitsValue digits
  (significand, skipped.length - places + exponent)

/-- The integer that a literal without point and exponent denotes, if it has 64
bits.  Negative zero is not an integer. -/
def integer? (l : Literal) : Option Int :=
  let n := digitsValue l.integer
  if l.fraction.isSome || l.exponent.isSome then none
  else if l.negative then
    if 0 < n ∧ n ≤ Nat.pow 2 63 then some (-(n : Int)) else none
  else if n < Nat.pow 2 64 then some n
  else none

/-- **The number that a literal denotes**, or `none` if it is too large. -/
def value? (l : Literal) : Option Numeral :=
  match l.integer? with
  | some n => some (.integer n)
  | none =>
    let (significand, exponent) := l.parts
    (scale? significand.toUInt64.toFloat exponent).map fun x =>
      .real (if l.negative then -x else x)

/-- How many digits of an exponent are read before it exceeds 31 bits, the
offending one included. -/
def exponentCut? (digits : List Char) : Option Nat :=
  (List.range (digits.length + 1)).find? fun n => Nat.pow 2 31 ≤ digitsValue (digits.take n)

end Literal

end FigureScript.Number
