import FigureScript.Number.Binary

/-!
# Shortest decimals

The shortest decimal of a binary number is the one with the fewest digits among
all decimals that are closer to it than to any other number of the format (its
*rounding interval*); among several of that length it is the nearest.

## Main Definitions

* `Decimal` — `coefficient · 10 ^ exponent`
* `Interval` — the rounding interval, on a common scale with a decimal grid
* `shortest` — the shortest decimal of a positive binary number

## Design Notes

For each digit count `n` there is one decimal grid whose points have `n` digits
near the number, and if any point of the grid lies in the interval then so does
one of the two that enclose the number.  Trying 1, 2, … 17 digits and testing
those two points in exact arithmetic therefore finds the answer; 17 digits
always suffice.  An exact tie between the two points is decided by the caller.
-/

namespace FigureScript.Number

/-- **A decimal** `coefficient · 10 ^ exponent`. -/
structure Decimal where
  /-- The digits, read as one natural number. -/
  coefficient : Nat
  /-- The power of ten of the last digit. -/
  exponent : Int
  deriving DecidableEq

/-- Which of two equally near decimals is chosen. -/
inductive Tie where
  /-- The one whose last digit is even. -/
  | toEven
  /-- The one further from zero. -/
  | up
  deriving DecidableEq

namespace Decimal

/-- The decimal digits of the coefficient. -/
def digits (d : Decimal) : List Char :=
  Nat.toDigits 10 d.coefficient

/-- The power of ten of the leading digit. -/
def leadingExponent (d : Decimal) : Int :=
  d.exponent + d.digits.length - 1

end Decimal

/-- The power of ten of the leading digit of the positive fraction `p / q`. -/
def leadingExponent (p q : Nat) : Int :=
  if q ≤ p then
    ((Nat.toDigits 10 (p / q)).length : Int) - 1
  else
    -((Nat.toDigits 10 (q / p)).length : Int)

/-- **The rounding interval** of a number next to the decimal grid of one power of
ten: the grid points are the multiples of `step`, and on the same scale the
number is `centre` and the interval reaches from `low` to `high`. -/
structure Interval where
  step : Nat
  low : Nat
  centre : Nat
  high : Nat
  /-- The two ends round to the number as well. -/
  closed : Bool

namespace Interval

/-- The interval of `b` beside the grid of the multiples of `10 ^ k`.  In
quarters of a mantissa step the number is `4 m`, and the interval reaches two
quarters up and two, or at a power of two one, quarters down. -/
def ofBinary (b : Binary) (k : Int) : Interval :=
  let quarter := b.exponent - 2
  let scale := Nat.pow 10 (-k).toNat * Nat.pow 2 quarter.toNat
  { step := Nat.pow 10 k.toNat * Nat.pow 2 (-quarter).toNat
    low := (4 * b.mantissa - if b.narrowBelow then 1 else 2) * scale
    centre := 4 * b.mantissa * scale
    high := (4 * b.mantissa + 2) * scale
    closed := b.mantissa % 2 = 0 }

/-- The grid point `c` lies in the interval. -/
def contains (i : Interval) (c : Nat) : Bool :=
  if i.closed then
    i.low ≤ c * i.step ∧ c * i.step ≤ i.high
  else
    i.low < c * i.step ∧ c * i.step < i.high

/-- The grid point below the number and the one above it, as far as they lie in
the interval; of both the nearer. -/
def nearest? (tie : Tie) (i : Interval) : Option Nat :=
  let below := i.centre / i.step
  let above := below + 1
  let down := i.centre - below * i.step
  let up := above * i.step - i.centre
  match i.contains below, i.contains above with
  | false, false => none
  | true, false => some below
  | false, true => some above
  | true, true =>
    if down < up then some below
    else if up < down then some above
    else match tie with
      | .up => some above
      | .toEven => some (if below % 2 = 0 then below else above)

end Interval

/-- **The shortest decimal** of a number with a positive mantissa.  `digits` more
digit counts are tried, starting with the grid of `10 ^ k`. -/
def shortestFrom (tie : Tie) (b : Binary) : (digits : Nat) → (k : Int) → Decimal
  | 0, k => ⟨b.num * Nat.pow 10 (-k).toNat / (b.den * Nat.pow 10 k.toNat), k⟩
  | digits + 1, k =>
    match (Interval.ofBinary b k).nearest? tie with
    | some c => ⟨c, k⟩
    | none => shortestFrom tie b digits (k - 1)

/-- The coefficient without its trailing zeros, at most `fuel` of them. -/
def Decimal.trim (d : Decimal) : (fuel : Nat) → Decimal
  | 0 => d
  | fuel + 1 =>
    if d.coefficient % 10 = 0 ∧ d.coefficient ≠ 0 then
      Decimal.trim ⟨d.coefficient / 10, d.exponent + 1⟩ fuel
    else
      d

/-- **The shortest decimal** that reads back as `b`; zero is `0 · 10 ^ 0`. -/
def shortest (tie : Tie) (b : Binary) : Decimal :=
  if b.mantissa = 0 then ⟨0, 0⟩
  else (shortestFrom tie b 17 (leadingExponent b.num b.den)).trim 20

end FigureScript.Number
