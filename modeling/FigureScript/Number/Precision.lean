import FigureScript.Number.Notation
import FigureScript.Number.Shortest

/-!
# Numbers with a given precision

The decimal text of a finite number whose count of digits is given.

## Main Definitions

* `Precision.fixed` — so many places behind the point
* `Precision.scientific` — so many places behind the leading digit, and an exponent
* `Precision.general` — so many digits in all, with an exponent if there is need for one

## Design Notes

All of them round the exact value once, a half to the even neighbour.  A number whose digits
round up to the next power of ten has the leading digit of that power.
-/

namespace FigureScript.Number.Precision

/-- Digits with a point in front of the last ones. -/
def pointed (places : Nat) (digits : List Char) : List Char :=
  if places = 0 then digits
  else digits.take (digits.length - places) ++ '.' :: digits.drop (digits.length - places)

/-- **The absolute value with so many places.** -/
def fixed (places : Nat) (b : Binary) : List Char :=
  let digits := Nat.toDigits 10 (roundDiv (b.num * Nat.pow 10 places) b.den)
  pointed places (List.replicate (places + 1 - digits.length) '0' ++ digits)

/-- The absolute value as so many places behind its leading digit, and the power of ten of
that digit. -/
def leading (places : Nat) (b : Binary) : Nat × Int :=
  if b.mantissa = 0 then (0, 0)
  else
    let power := leadingExponent b.num b.den
    let shift := (places : Int) - power
    let rounded := roundDiv (b.num * Nat.pow 10 shift.toNat) (b.den * Nat.pow 10 (-shift).toNat)
    if rounded < Nat.pow 10 (places + 1) then (rounded, power) else (rounded / 10, power + 1)

/-- An exponent of at least two digits, always with a sign. -/
def exponentText (exponent : Int) : List Char :=
  let digits := Nat.toDigits 10 exponent.natAbs
  (if exponent < 0 then '-' else '+') :: (List.replicate (2 - digits.length) '0' ++ digits)

/-- **The absolute value with so many places behind its leading digit**, and an exponent
behind a mark. -/
def scientific (mark : Char) (places : Nat) (b : Binary) : List Char :=
  let (significand, exponent) := leading places b
  let digits := Nat.toDigits 10 significand
  pointed places (List.replicate (places + 1 - digits.length) '0' ++ digits) ++
    mark :: exponentText exponent

/-- A text without the zeros behind its point, and without the point if nothing is left
behind it. -/
def withoutZeros (text : List Char) : List Char :=
  if text.contains '.' then
    match text.reverse.dropWhile (· = '0') with
    | '.' :: whole => whole.reverse
    | kept => kept.reverse
  else text

/-- **The absolute value with so many digits.**  It has an exponent if that is below `-4` or
not below the number of digits; zeros at its end are kept only if that is asked for. -/
def general (mark : Char) (keepZeros : Bool) (digits : Nat) (b : Binary) : List Char :=
  let digits := max digits 1
  let exponent := (leading (digits - 1) b).2
  let trimmed (text : List Char) := if keepZeros then text else withoutZeros text
  if -4 ≤ exponent ∧ exponent < digits then
    trimmed (fixed ((digits : Int) - 1 - exponent).toNat b)
  else
    let text := scientific mark (digits - 1) b
    trimmed (text.takeWhile (· ≠ mark)) ++ text.dropWhile (· ≠ mark)

end FigureScript.Number.Precision
