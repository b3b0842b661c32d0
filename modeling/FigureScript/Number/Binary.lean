/-!
# Binary numbers as exact fractions

Every finite floating point number is `± m · 2 ^ q` with natural `m`.  This
module takes a `Float` apart into that form and reads it as a fraction of two
natural numbers, so that everything written about a number later on is computed
exactly.

## Main Definitions

* `Binary` — a finite number as sign, mantissa and binary exponent
* `Binary.ofFloat` — the decomposition of a finite `Float`
* `Binary.num`, `Binary.den` — its absolute value as a fraction

## Design Notes

The neighbours of a number are one mantissa step away, except below a power of
two, where the lower neighbour is half as far.  `narrowBelow` records that case;
it is all that a shortest decimal needs to know about the format.

Powers are written `Nat.pow` and `Int.pow` in the definitions.  The operator would stand
for the power of whatever algebraic structure is imported next to them.
-/

namespace FigureScript.Number

/-- **A finite binary number** `± mantissa · 2 ^ exponent`. -/
structure Binary where
  /-- The sign bit; also set for negative zero. -/
  negative : Bool
  /-- The integral significand. -/
  mantissa : Nat
  /-- The power of two it is scaled by. -/
  exponent : Int
  /-- The next smaller number is only half a step away. -/
  narrowBelow : Bool
  deriving DecidableEq

namespace Binary

/-- The parts of a finite number.  Subnormal numbers have no implicit leading
bit and share the exponent of the smallest normal ones. -/
def ofFloat (value : Float) : Binary :=
  let bits : Nat := value.toBits.toNat
  let fraction : Nat := bits % Nat.pow 2 52
  let scale : Nat := bits / Nat.pow 2 52 % Nat.pow 2 11
  let negative := bits / Nat.pow 2 63 % 2 = 1
  if scale = 0 then
    ⟨negative, fraction, -1074, false⟩
  else
    ⟨negative, Nat.pow 2 52 + fraction, (scale : Int) - 1075, fraction = 0 ∧ 1 < scale⟩

/-- Numerator of the absolute value. -/
def num (b : Binary) : Nat :=
  b.mantissa * Nat.pow 2 b.exponent.toNat

/-- Denominator of the absolute value, a power of two. -/
def den (b : Binary) : Nat :=
  Nat.pow 2 (-b.exponent).toNat

/-- The number has no fractional part. -/
def isIntegral (b : Binary) : Bool :=
  b.num % b.den = 0

/-- The absolute value is smaller than the fraction `p / q`. -/
def absLt (b : Binary) (p q : Nat) : Bool :=
  b.num * q < p * b.den

theorem den_pos (b : Binary) : 0 < b.den :=
  Nat.pow_pos (by decide)

end Binary

/-- Neither infinite nor not-a-number. -/
def isFinite (value : Float) : Bool :=
  value.isFinite

end FigureScript.Number
