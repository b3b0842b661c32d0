import FigureScript.Number.Shortest
import FigureScript.Proofs.Number.Scaling

/-!
# The size of shortest decimals

The shortest decimal of a number lies in the rounding interval of the number, so it is at
most half a unit above it.  Hence the shortest decimals of all finite numbers but the
largest stay half a unit below the largest one.

## Main Definitions

* `Decimal.toRat` — a decimal as a rational number
* `Binary.upper` — the upper end of the rounding interval

## Main Results

* `toRat_shortest` — shortest decimals are positive and not above the rounding interval
* `shortest_of_isFinite` — how large the shortest decimal of a finite number is

## Design Notes

Grids and intervals are natural numbers on a scale of their own.  Rational numbers undo the
scaling, once for a grid point and once for the decimal that is taken if no grid has a
point in the interval.
-/

namespace FigureScript.Number

/-! ### Values -/

/-- **The value of a decimal.** -/
def Decimal.toRat (d : Decimal) : ℚ :=
  d.coefficient * 10 ^ d.exponent

/-- **The upper end of the rounding interval** of a number, half a unit above its absolute
value. -/
def Binary.upper (b : Binary) : ℚ :=
  (4 * b.mantissa + 2) * 2 ^ (b.exponent - 2)

/-- A power is split into its integral part and a fraction. -/
theorem pow_toNat {a : ℚ} (ha : a ≠ 0) (k : ℤ) : a ^ k.toNat = a ^ k * a ^ (-k).toNat := by
  rw [← zpow_natCast, ← zpow_natCast, ← zpow_add₀ ha]
  congr 1
  omega

theorem Decimal.toRat_pos {d : Decimal} : 0 < d.toRat ↔ 0 < d.coefficient := by
  have hpow : (0 : ℚ) < 10 ^ d.exponent := by positivity
  rw [toRat, mul_pos_iff_of_pos_right hpow, Nat.cast_pos]

/-- Removing trailing zeros keeps the value. -/
theorem Decimal.toRat_trim (d : Decimal) (fuel : Nat) : (d.trim fuel).toRat = d.toRat := by
  induction fuel generalizing d with
  | zero => rfl
  | succ fuel ih =>
      rw [trim]
      split
      next h =>
        obtain ⟨n, hn⟩ : ∃ n, d.coefficient = 10 * n := ⟨d.coefficient / 10, by omega⟩
        have hdiv : d.coefficient / 10 = n := by omega
        rw [ih, toRat, toRat, hdiv, hn, zpow_add_one₀ (by norm_num)]
        push_cast
        ring
      next => rfl

/-! ### Grid points -/

/-- A grid point of the interval is positive, and not above the upper end. -/
theorem Interval.toRat_of_contains {b : Binary} (hb : 0 < b.mantissa) {k : Int} {c : Nat}
    (h : (ofBinary b k).contains c = true) :
    0 < (⟨c, k⟩ : Decimal).toRat ∧ (⟨c, k⟩ : Decimal).toRat ≤ b.upper := by
  have hten : 0 < Nat.pow 10 (-k).toNat := Nat.pow_pos (by decide)
  have htwo : 0 < Nat.pow 2 (b.exponent - 2).toNat := Nat.pow_pos (by decide)
  have hends : 0 < c * (ofBinary b k).step ∧ c * (ofBinary b k).step ≤ (ofBinary b k).high := by
    have hlow : 0 < (ofBinary b k).low := by
      refine Nat.mul_pos ?_ (Nat.mul_pos hten htwo)
      split <;> omega
    unfold contains at h
    split at h
    next =>
      obtain ⟨hl, hh⟩ := of_decide_eq_true h
      omega
    next =>
      obtain ⟨hl, hh⟩ := of_decide_eq_true h
      omega
  refine ⟨Decimal.toRat_pos.mpr (Nat.pos_of_mul_pos_right hends.1), ?_⟩
  have hle : (c : ℚ) * (10 ^ k.toNat * 2 ^ (-(b.exponent - 2)).toNat) ≤
      (4 * b.mantissa + 2) * (10 ^ (-k).toNat * 2 ^ (b.exponent - 2).toNat) := by
    exact_mod_cast hends.2
  rw [pow_toNat (by norm_num) k, pow_toNat (by norm_num) (b.exponent - 2)] at hle
  have hscale : (0 : ℚ) < 10 ^ (-k).toNat * 2 ^ (-(b.exponent - 2)).toNat := by positivity
  refine le_of_mul_le_mul_right ?_ hscale
  rw [Decimal.toRat, Binary.upper]
  linarith

/-- The nearest grid point is one of the interval. -/
theorem Interval.contains_of_nearest? {tie : Tie} {i : Interval} {c : Nat}
    (h : i.nearest? tie = some c) : i.contains c = true := by
  unfold nearest? at h
  dsimp only at h
  split at h
  next => cases h
  next hbelow _ =>
    cases h
    exact hbelow
  next _ habove =>
    cases h
    exact habove
  next hbelow habove =>
    have hc : c = i.centre / i.step ∨ c = i.centre / i.step + 1 := by
      split at h
      next => exact .inl (Option.some.inj h).symm
      next =>
        split at h
        next => exact .inr (Option.some.inj h).symm
        next =>
          cases tie with
          | up => exact .inr (Option.some.inj h).symm
          | toEven =>
              dsimp only at h
              split at h
              next => exact .inl (Option.some.inj h).symm
              next => exact .inr (Option.some.inj h).symm
    rcases hc with rfl | rfl
    · exact hbelow
    · exact habove

/-! ### Leading digits -/

/-- A positive number has at least as many digits as the power of ten below it. -/
theorem pow_length_toDigits_le {n k : Nat} (hn : 0 < n)
    (h : (Nat.toDigits 10 n).length = k + 1) : 10 ^ k ≤ n := by
  rcases Nat.eq_zero_or_pos k with rfl | hk
  · exact hn
  · refine Nat.le_of_not_lt fun hlt => ?_
    have hle := (Nat.length_toDigits_le_iff (by decide) hk).mpr hlt
    omega

/-- **The leading digit of a fraction** is not above the fraction. -/
theorem pow_leadingExponent_le {p q : Nat} (hp : 0 < p) (hq : 0 < q) :
    (10 : ℚ) ^ leadingExponent p q ≤ p / q := by
  have hp' : (0 : ℚ) < p := Nat.cast_pos.mpr hp
  have hq' : (0 : ℚ) < q := Nat.cast_pos.mpr hq
  rw [le_div_iff₀ hq', leadingExponent]
  split
  next hle =>
    obtain ⟨n, hn⟩ := Nat.exists_eq_succ_of_ne_zero
      (Nat.ne_of_gt (Nat.length_toDigits_pos (b := 10) (n := p / q)))
    have hdigits : 10 ^ n * q ≤ p :=
      (Nat.le_div_iff_mul_le hq).mp (pow_length_toDigits_le (Nat.div_pos hle hq) hn)
    have hexponent : ((Nat.toDigits 10 (p / q)).length : Int) - 1 = n := by omega
    rw [hexponent, zpow_natCast]
    exact_mod_cast hdigits
  next =>
    have hdigits : q / p < 10 ^ (Nat.toDigits 10 (q / p)).length :=
      (Nat.length_toDigits_le_iff (by decide) Nat.length_toDigits_pos).mp (Nat.le_refl _)
    generalize (Nat.toDigits 10 (q / p)).length = n at hdigits
    have hcross : q ≤ p * 10 ^ n := by
      rw [Nat.mul_comm]
      exact Nat.le_of_lt ((Nat.div_lt_iff_lt_mul hp).mp hdigits)
    rw [zpow_neg, zpow_natCast, inv_mul_le_iff₀ (by positivity), mul_comm]
    exact_mod_cast hcross

/-! ### Numbers as fractions -/

namespace Binary

/-- A number is below the upper end of its rounding interval. -/
theorem num_div_den_le (b : Binary) : (b.num : ℚ) / b.den ≤ b.upper := by
  have hvalue : (b.num : ℚ) / b.den = b.mantissa * 2 ^ b.exponent := by
    have hden : ((2 : ℚ) ^ (-b.exponent).toNat) ≠ 0 := by positivity
    have hnum : (b.num : ℚ) = b.mantissa * 2 ^ b.exponent.toNat := by
      rw [num, Nat.pow_eq]
      push_cast
      rfl
    have hden' : (b.den : ℚ) = 2 ^ (-b.exponent).toNat := by
      rw [den, Nat.pow_eq]
      push_cast
      rfl
    rw [hnum, hden', pow_toNat (by norm_num) b.exponent, div_eq_iff hden]
    ring
  have hpow : (0 : ℚ) < 2 ^ (b.exponent - 2) := by positivity
  have hexponent : (2 : ℚ) ^ b.exponent = 2 ^ (b.exponent - 2) * 4 := by
    rw [zpow_sub₀ (by norm_num)]
    norm_num
  rw [hvalue, upper, hexponent]
  linarith

/-- The fraction beside the grid of a power of ten. -/
theorem num_div_den_scaled (b : Binary) (k : ℤ) :
    ((b.num * Nat.pow 10 (-k).toNat : ℕ) / (b.den * Nat.pow 10 k.toNat : ℕ) : ℚ) * 10 ^ k =
      b.num / b.den := by
  have hden : (b.den : ℚ) ≠ 0 := Nat.cast_ne_zero.mpr (Nat.ne_of_gt b.den_pos)
  have hpow : (10 : ℚ) ^ k ≠ 0 := by positivity
  have hscale : (10 : ℚ) ^ (-k).toNat ≠ 0 := by positivity
  rw [Nat.pow_eq, Nat.pow_eq]
  push_cast
  rw [pow_toNat (by norm_num) k]
  field_simp

end Binary

/-! ### The shortest decimal -/

/-- What is tried is positive and not above the upper end of the rounding interval. -/
theorem toRat_shortestFrom (tie : Tie) {b : Binary} (hb : 0 < b.mantissa) (digits : Nat) {k : Int}
    (hk : (10 : ℚ) ^ (k - digits) ≤ b.num / b.den) :
    0 < (shortestFrom tie b digits k).toRat ∧ (shortestFrom tie b digits k).toRat ≤ b.upper := by
  induction digits generalizing k with
  | zero =>
      -- the number itself, cut off at the last grid
      have hpow : (0 : ℚ) < 10 ^ k := by positivity
      rw [shortestFrom]
      have hquotient := b.num_div_den_scaled k
      have hq : 0 < b.den * Nat.pow 10 k.toNat := Nat.mul_pos b.den_pos (Nat.pow_pos (by decide))
      generalize b.num * Nat.pow 10 (-k).toNat = p at hquotient
      generalize b.den * Nat.pow 10 k.toNat = q at hquotient hq
      rw [← hquotient] at hk
      refine ⟨Decimal.toRat_pos.mpr (Nat.div_pos ?_ hq), ?_⟩
      · have hone : (1 : ℚ) ≤ p / q := by
          rw [Nat.cast_zero, sub_zero] at hk
          exact (le_mul_iff_one_le_left hpow).mp hk
        rw [le_div_iff₀ (Nat.cast_pos.mpr hq), one_mul] at hone
        exact Nat.cast_le.mp hone
      · refine le_trans ?_ b.num_div_den_le
        rw [← hquotient, Decimal.toRat]
        exact mul_le_mul_of_nonneg_right Nat.cast_div_le hpow.le
  | succ digits ih =>
      rw [shortestFrom]
      split
      next c hc => exact Interval.toRat_of_contains hb (Interval.contains_of_nearest? hc)
      next =>
        refine ih ?_
        have hexponent : k - 1 - (digits : ℤ) = k - (digits + 1 : ℕ) := by omega
        rwa [hexponent]

/-- **The shortest decimal** is positive and not above the upper end of the rounding
interval. -/
theorem toRat_shortest (tie : Tie) {b : Binary} (hb : 0 < b.mantissa) :
    0 < (shortest tie b).toRat ∧ (shortest tie b).toRat ≤ b.upper := by
  rw [shortest, if_neg (Nat.ne_of_gt hb), Decimal.toRat_trim]
  refine toRat_shortestFrom tie hb 17 ?_
  have hnum : 0 < b.num := Nat.mul_pos hb (Nat.pow_pos (by decide))
  refine le_trans ?_ (pow_leadingExponent_le hnum b.den_pos)
  exact zpow_le_zpow_right₀ (by norm_num) (by omega)

/-! ### Finite numbers -/

open Float.Model Float.Model.UnpackedFloat in
theorem toNat_unpackExponent (bits : BitVec Format.binary64.numBits) :
    (unpackExponent bits).toNat = bits.toNat / Nat.pow 2 52 % Nat.pow 2 11 := by
  rw [unpackExponent, BitVec.toNat_cast, BitVec.extractLsb_toNat, Nat.shiftRight_eq_div_pow]
  rfl

/-- The exponent field of a finite number is not the largest one. -/
theorem scale_lt_of_isFinite {x : Float} (h : isFinite x = true) :
    x.toBits.toNat / Nat.pow 2 52 % Nat.pow 2 11 < 2047 := by
  have hfield := toNat_unpackExponent x.toModel.toBits.toBitVec
  refine Nat.lt_of_le_of_ne (Nat.le_of_lt_succ (Nat.mod_lt _ (by decide))) fun htop => ?_
  have hspecial := BitVec.eq_of_toNat_eq (y := -1#_) (hfield.trans htop)
  rw [isFinite, Float.isFinite, Float.Model.isFinite, Float.Model.unpack,
    Float.Model.UnpackedFloat.unpack] at h
  dsimp only at h
  rw [if_pos hspecial] at h
  split at h <;> cases h

/-- What is taken apart is a number of the format, and its lower neighbour is nearer only
at a power of two. -/
theorem Binary.ofFloat_bounds {x : Float} (h : isFinite x = true) :
    (ofFloat x).mantissa < 2 ^ 53 ∧ (ofFloat x).exponent ≤ 971 ∧
      ((ofFloat x).narrowBelow = true → (ofFloat x).mantissa = 2 ^ 52) := by
  have hscale := scale_lt_of_isFinite h
  have hfraction : x.toBits.toNat % Nat.pow 2 52 < 2 ^ 52 := Nat.mod_lt _ (by decide)
  unfold ofFloat
  dsimp only
  generalize x.toBits.toNat / Nat.pow 2 52 % Nat.pow 2 11 = scale at hscale
  generalize x.toBits.toNat % Nat.pow 2 52 = fraction at hfraction
  split
  next =>
    refine ⟨Nat.lt_trans hfraction (by decide), ?_, ?_⟩
    · change (-1074 : Int) ≤ 971
      decide
    · intro hnarrow
      cases hnarrow
  next =>
    refine ⟨?_, ?_, ?_⟩
    · change 2 ^ 52 + fraction < 2 ^ 53
      omega
    · change (scale : Int) - 1075 ≤ 971
      omega
    · intro hnarrow
      obtain ⟨rfl, -⟩ := of_decide_eq_true hnarrow
      rfl

theorem belowLargest_eq : (belowLargest : ℚ) = (2 ^ 54 - 3) * 4 * 2 ^ (968 : ℤ) := by
  have hunit : (2 : ℚ) ^ (970 : ℕ) = 4 * 2 ^ (968 : ℤ) := by
    have hexponent : ((970 : ℕ) : ℤ) = 968 + 2 := rfl
    rw [← zpow_natCast, hexponent, zpow_add₀ (by norm_num), mul_comm]
    norm_num
  have hdigits : ((2 ^ 54 - 3 : ℕ) : ℚ) = 2 ^ 54 - 3 := by norm_num
  simp only [belowLargest, Nat.cast_mul, Nat.cast_pow, Nat.cast_ofNat, hunit, hdigits, mul_assoc]

/-- Half a unit above a number of the format is below the bound for products, unless it is
the largest number. -/
theorem Binary.upper_le {b : Binary} (hm : b.mantissa < 2 ^ 53) (he : b.exponent ≤ 971)
    (h : b.exponent = 971 → b.mantissa < 2 ^ 53 - 1) : b.upper ≤ (belowLargest : ℚ) := by
  have hunit : (0 : ℚ) < 2 ^ (968 : ℤ) := by positivity
  rw [upper, belowLargest_eq]
  rcases Int.lt_or_eq_of_le he with hlow | htop
  · have hmantissa : (b.mantissa : ℚ) + 1 ≤ 2 ^ 53 := by exact_mod_cast hm
    have hpow : (2 : ℚ) ^ (b.exponent - 2) ≤ 2 ^ (968 : ℤ) :=
      zpow_le_zpow_right₀ (by norm_num) (by omega)
    generalize (2 : ℚ) ^ (968 : ℤ) = unit at hunit hpow
    calc (4 * (b.mantissa : ℚ) + 2) * 2 ^ (b.exponent - 2)
        ≤ (4 * b.mantissa + 2) * unit := mul_le_mul_of_nonneg_left hpow (by positivity)
      _ ≤ (2 ^ 54 - 3) * 4 * unit := mul_le_mul_of_nonneg_right (by linarith) hunit.le
  · have hmantissa : (b.mantissa : ℚ) + 2 ≤ 2 ^ 53 := by
      have hlt := h htop
      have hle : b.mantissa + 2 ≤ 2 ^ 53 := by omega
      exact_mod_cast hle
    have hpow : (2 : ℚ) ^ (b.exponent - 2) = 2 * 2 ^ (968 : ℤ) := by
      have hexponent : b.exponent - 2 = 968 + 1 := by omega
      rw [hexponent, zpow_add_one₀ (by norm_num), mul_comm]
    rw [hpow]
    generalize (2 : ℚ) ^ (968 : ℤ) = unit at hunit
    calc (4 * (b.mantissa : ℚ) + 2) * (2 * unit)
        = (4 * b.mantissa + 2) * 2 * unit := (mul_assoc _ _ _).symm
      _ ≤ (2 ^ 54 - 3) * 4 * unit := mul_le_mul_of_nonneg_right (by linarith) hunit.le

/-- **The shortest decimal of a finite number** is the one of the largest number, or half a
unit below it. -/
theorem shortest_of_isFinite {x : Float} (h : isFinite x = true)
    (hne : (Binary.ofFloat x).mantissa ≠ 0) :
    shortest .toEven (.ofFloat x) = ⟨17976931348623157, 292⟩ ∨
      (shortest .toEven (.ofFloat x)).toRat ≤ belowLargest := by
  obtain ⟨hm, he, hnarrow⟩ := Binary.ofFloat_bounds h
  generalize Binary.ofFloat x = b at hne hm he hnarrow
  by_cases htop : b.exponent = 971 → b.mantissa < 2 ^ 53 - 1
  · exact .inr ((toRat_shortest .toEven (Nat.pos_of_ne_zero hne)).2.trans
      (Binary.upper_le hm he htop))
  · obtain ⟨hexponent, hmantissa⟩ := Classical.not_imp.mp htop
    obtain ⟨negative, mantissa, exponent, narrow⟩ := b
    dsimp only at hm hnarrow hexponent hmantissa
    subst hexponent
    obtain rfl : mantissa = 2 ^ 53 - 1 := by omega
    obtain rfl : narrow = false := by
      rw [← Bool.not_eq_true]
      intro htrue
      exact absurd (hnarrow htrue) (by decide)
    left
    cases negative <;> decide +kernel

end FigureScript.Number
