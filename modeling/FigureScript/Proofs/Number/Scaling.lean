import FigureScript.Number.Numeral
import FigureScript.Proofs.Number.Rounding

/-!
# Scaling by powers of ten

A number of a description file is a natural number of 64 bits that is multiplied with a
power of ten or divided by some of them.  Both factors of the product are rounded, and so
is the product; nevertheless it is finite whenever the exact product stays half a unit
below the largest number.

## Main Definitions

* `nearestNat` — the number nearest to a natural number
* `magnitude` — its size, on a scale where it is a natural number
* `belowLargest` — the bound for exact products

## Main Results

* `magnitude_mono` — larger natural numbers have larger nearest numbers
* `unpack_toFloat`, `unpack_powerOfTen` — conversions and powers of ten are nearest
* `isFinite_mul`, `isFinite_div` — finite products and quotients
* `scale?_of_neg`, `scale?_of_nonneg` — what is scaled to a finite number

## Design Notes

Three roundings may together exceed the half unit, so no bound on their relative errors is
enough.  But rounding is monotone, and for a power of ten there is a largest natural number
whose product with it stays below the bound.  It is enough that this one is scaled to a
finite number, which is computed for the few powers where 64 bits could be too large.
-/

namespace FigureScript.Number

open Float.Model Float.Model.UnpackedFloat

/-! ### The nearest number -/

/-- The leading 53 bits of a positive number, rounded; with a carry they are `2 ^ 53`. -/
def leadingBits (n : Nat) : Nat :=
  roundDiv (n * 2 ^ 52) (2 ^ n.log2)

/-- **The number nearest to a natural number.** -/
def nearestNat (n : Nat) : UnpackedFloat :=
  carried .positive (leadingBits n) (n.log2 - 52)

/-- The size of the number nearest to `n`, times `2 ^ 52`. -/
def magnitude (n : Nat) : Nat :=
  leadingBits n * 2 ^ n.log2

/-- Larger numbers have as many bits or more. -/
theorem log2_mono {n n' : Nat} (h : n ≤ n') : n.log2 ≤ n'.log2 :=
  log2_le_of_lt (Nat.lt_of_le_of_lt h Nat.lt_log2_self)

theorem le_leadingBits {n : Nat} (h : 0 < n) : 2 ^ 52 ≤ leadingBits n := by
  have hlow : 2 ^ 52 * 2 ^ n.log2 ≤ n * 2 ^ 52 := by
    rw [Nat.mul_comm]
    exact Nat.mul_le_mul_right _ (Nat.log2_self_le (Nat.ne_of_gt h))
  have hround := roundDiv_mono hlow (Nat.two_pow_pos n.log2)
  rwa [roundDiv_mul_self _ (Nat.two_pow_pos n.log2)] at hround

theorem leadingBits_le (n : Nat) : leadingBits n ≤ 2 ^ 53 := by
  have hhigh : n * 2 ^ 52 ≤ 2 ^ 53 * 2 ^ n.log2 := by
    have hlt : n < 2 ^ (n.log2 + 1) := Nat.lt_log2_self
    rw [Nat.pow_succ] at hlt
    omega
  have hround := roundDiv_mono hhigh (Nat.two_pow_pos n.log2)
  rwa [roundDiv_mul_self _ (Nat.two_pow_pos n.log2)] at hround

/-- The nearest number is normal, and its size is the one given by the leading bits. -/
theorem nearestNat_eq {n : Nat} (h : 0 < n) :
    ∃ m e hm, nearestNat n = .finite .positive m e hm ∧ 2 ^ 52 ≤ m ∧ m < 2 ^ 53 ∧
      (n.log2 : Int) - 52 ≤ e ∧ m * 2 ^ (e + 52).toNat = magnitude n := by
  have hlow := le_leadingBits h
  have hne : leadingBits n ≠ 0 := by omega
  rcases Nat.lt_or_eq_of_le (leadingBits_le n) with hlt | heq
  · refine ⟨leadingBits n, n.log2 - 52, Nat.pos_of_ne_zero hne, ?_, hlow, hlt, Int.le_refl _, ?_⟩
    · rw [nearestNat, carried, dif_neg hne, if_pos hlt]
    · have hexponent : ((n.log2 : Int) - 52 + 52).toNat = n.log2 := by omega
      rw [hexponent, magnitude]
  · refine ⟨2 ^ 52, n.log2 - 52 + 1, by decide, ?_, Nat.le_refl _, by decide, by omega, ?_⟩
    · rw [nearestNat, carried, dif_neg hne, if_neg (Nat.not_lt_of_le (Nat.le_of_eq heq.symm))]
    · have hexponent : ((n.log2 : Int) - 52 + 1 + 52).toNat = n.log2 + 1 := by omega
      rw [hexponent, magnitude, heq, Nat.pow_succ 2 n.log2]
      omega

/-- **Larger numbers have larger nearest ones.** -/
theorem magnitude_mono {n n' : Nat} (h : n ≤ n') : magnitude n ≤ magnitude n' := by
  rcases Nat.eq_zero_or_pos n with rfl | hpos
  · exact Nat.zero_le _
  have hpos' : 0 < n' := Nat.lt_of_lt_of_le hpos h
  unfold magnitude
  rcases Nat.eq_or_lt_of_le (log2_mono h) with heq | hlt
  · unfold leadingBits
    rw [heq]
    exact Nat.mul_le_mul_right _ (roundDiv_mono (Nat.mul_le_mul_right _ h) (Nat.two_pow_pos _))
  · calc leadingBits n * 2 ^ n.log2
        ≤ 2 ^ 53 * 2 ^ n.log2 := Nat.mul_le_mul_right _ (leadingBits_le n)
      _ = 2 ^ 52 * 2 ^ (n.log2 + 1) := by rw [Nat.pow_succ 2 n.log2]; omega
      _ ≤ leadingBits n' * 2 ^ n'.log2 :=
          Nat.mul_le_mul (le_leadingBits hpos') (Nat.pow_le_pow_right (by decide) hlt)

theorem magnitude_pow_mono {k k' : Nat} (h : k ≤ k') : magnitude (10 ^ k) ≤ magnitude (10 ^ k') :=
  magnitude_mono (Nat.pow_le_pow_right (by decide) h)

/-- Scaling a number by a power of two on both sides does not change what it is rounded
to, as long as there are enough bits to round. -/
theorem roundWithAccuracy_scaled (sign : Sign) {n a : Nat} (h : 0 < n) (ha : 52 ≤ n.log2 + a) :
    roundWithAccuracy Format.binary64 sign (n * 2 ^ a) (-a) .exact =
      carried sign (leadingBits n) (n.log2 - 52) := by
  have hlog : (n * 2 ^ a).log2 = n.log2 + a := by
    rw [Nat.log2_eq_iff (Nat.ne_of_gt (Nat.mul_pos h (Nat.two_pow_pos a)))]
    rw [Nat.pow_add, Nat.add_right_comm, Nat.pow_add]
    exact ⟨Nat.mul_le_mul_right _ (Nat.log2_self_le (Nat.ne_of_gt h)),
      Nat.mul_lt_mul_of_pos_right Nat.lt_log2_self (Nat.two_pow_pos a)⟩
  have hexponent : roundedExponent (n * 2 ^ a) (-a) = n.log2 - 52 := by
    rw [roundedExponent, hlog]
    omega
  have hshift : ((n.log2 : Int) - 52 - -(a : Int)).toNat = n.log2 + a - 52 := by omega
  have hpow : 2 ^ (n.log2 + a - 52) * 2 ^ 52 = 2 ^ n.log2 * 2 ^ a := by
    rw [← Nat.pow_add, ← Nat.pow_add, Nat.sub_add_cancel ha]
  have hround : roundDiv (n * 2 ^ a) (2 ^ (n.log2 + a - 52)) = leadingBits n := by
    rw [leadingBits, ← roundDiv_mul_right (n * 2 ^ a) _ (Nat.two_pow_pos 52), hpow,
      Nat.mul_right_comm, roundDiv_mul_right _ _ (Nat.two_pow_pos a)]
  rw [roundWithAccuracy_exact sign (by omega), hexponent, hshift, hround]

/-- Conversion rounds to the nearest number. -/
theorem ofNat_eq {n : Nat} (h : 0 < n) : UnpackedFloat.ofNat Format.binary64 n = nearestNat n := by
  have hcompare : compare (n : Int) 0 = .gt := Int.compare_eq_gt.mpr (Int.natCast_pos.mpr h)
  have hexponent : roundedExponent n 0 = n.log2 - 52 := by
    rw [roundedExponent]
    omega
  rw [UnpackedFloat.ofNat, UnpackedFloat.ofInt, UnpackedFloat.normalize, hcompare]
  dsimp only
  rw [UnpackedFloat.round, targetExponent_eq, Int.toNat_natCast, hexponent, decreaseExponent]
  dsimp only
  have hamount : (0 : Int) - ((0 - ((n.log2 : Int) - 52)).toNat : Int) =
      -((52 - n.log2 : Nat) : Int) := by
    omega
  have hshift : (0 - ((n.log2 : Int) - 52)).toNat = 52 - n.log2 := by omega
  rw [hamount, hshift, Nat.shiftLeft_eq, roundWithAccuracy_scaled _ h (by omega), nearestNat]

/-- The nearest number is unpacked as it was packed, unless it has too many bits. -/
theorem unpack_nearestNat {n : Nat} (h : 0 < n) (hbound : (magnitude n).log2 < 1076) :
    (Float.Model.pack (nearestNat n)).unpack = nearestNat n := by
  obtain ⟨m, e, hm, heq, hlow, hhigh, hlog, hsize⟩ := nearestNat_eq h
  have hexponent : 52 + (e + 52).toNat ≤ (magnitude n).log2 := by
    have hne := Nat.ne_of_gt (Nat.mul_pos hm (Nat.two_pow_pos (e + 52).toNat))
    rw [← hsize, Nat.le_log2 hne, Nat.pow_add]
    exact Nat.mul_le_mul_right _ hlow
  rw [heq]
  exact unpack_pack .positive hm hlow hhigh (by omega) (by omega)

/-- **A number of 64 bits is converted to the nearest one.** -/
theorem unpack_toFloat {n : Nat} (h : 0 < n) (hlt : n < 2 ^ 64) :
    n.toUInt64.toFloat.toModel.unpack = nearestNat n := by
  have hnat : n.toUInt64.toNat = n := UInt64.toNat_ofNat_of_lt' hlt
  change (Float.Model.pack (UnpackedFloat.ofNat Format.binary64 n.toUInt64.toNat)).unpack = _
  have htop : (magnitude (2 ^ 64)).log2 < 1076 := by decide +kernel
  have hbound := Nat.lt_of_le_of_lt (log2_mono (magnitude_mono (Nat.le_of_lt hlt))) htop
  rw [hnat, ofNat_eq h, unpack_nearestNat h hbound]

theorem powerOfTen_small :
    ∀ k < 23, powerOfTen k = .ofModel (.pack (nearestNat (10 ^ k))) := by
  decide +kernel

theorem powerOfTen_large {k : Nat} (hlow : 22 < k) (hle : k ≤ 308) :
    powerOfTen k = .ofModel (.pack (nearestNat (10 ^ k))) := by
  have hslow : ¬ (1 < 2 ^ 53 ∧ k ≤ 22) := by omega
  have hfinite : ¬ (k : Int) > 2 ^ Format.binary64.exponentBits := by
    have hbits : (2 : Int) ^ Format.binary64.exponentBits = 2048 := rfl
    omega
  have hbits : (-(Format.binary64.mantissaBits : Int)) + 0 = -(53 : Nat) := rfl
  have hmantissa : 1 <<< Format.binary64.mantissaBits * 10 ^ k = 10 ^ k * 2 ^ 53 :=
    Nat.mul_comm _ _
  rw [powerOfTen, Float.ofScientific, dif_neg hslow]
  change Float.ofModel (Float.Model.ofScientific 1 k) = _
  rw [Float.Model.ofScientific, UnpackedFloat.ofScientific, dif_neg (by decide)]
  rw [if_neg hfinite, if_neg (by omega), if_pos (Int.natCast_nonneg k)]
  rw [UnpackedFloat.mul, hbits, Int.toNat_natCast, hmantissa]
  rw [roundWithAccuracy_scaled _ (Nat.pow_pos (by decide)) (by omega)]
  rfl

/-- **A power of ten is the number nearest to it.** -/
theorem unpack_powerOfTen {k : Nat} (hle : k ≤ 308) :
    (powerOfTen k).toModel.unpack = nearestNat (10 ^ k) := by
  have hnearest : powerOfTen k = .ofModel (.pack (nearestNat (10 ^ k))) := by
    rcases Nat.lt_or_ge 22 k with hlow | hsmall
    · exact powerOfTen_large hlow hle
    · exact powerOfTen_small k (by omega)
  have htop : (magnitude (10 ^ 308)).log2 < 1076 := by decide +kernel
  rw [hnearest]
  exact unpack_nearestNat (Nat.pow_pos (by decide))
    (Nat.lt_of_le_of_lt (log2_mono (magnitude_pow_mono hle)) htop)

/-! ### Products -/

/-- **A product below the largest number by more than half a unit is in range.** -/
theorem inRange_mul {m₁ m₂ : Nat} {e₁ e₂ : Int} (sign : Sign) (hm₁ : 2 ^ 52 ≤ m₁)
    (hm₂ : 2 ^ 52 ≤ m₂) (he₁ : -52 ≤ e₁) (he₂ : -52 ≤ e₂)
    (h : m₁ * 2 ^ (e₁ + 52).toNat * (m₂ * 2 ^ (e₂ + 52).toNat) < (2 ^ 54 - 1) * 2 ^ 1074) :
    InRange (roundWithAccuracy Format.binary64 sign (m₁ * m₂) (e₁ + e₂) .exact) := by
  obtain ⟨a, ha⟩ : ∃ a : Nat, a = (e₁ + 52).toNat + (e₂ + 52).toNat := ⟨_, rfl⟩
  have hsum : e₁ + e₂ = a - 104 := by omega
  have hproduct : m₁ * m₂ * 2 ^ a < (2 ^ 54 - 1) * 2 ^ 1074 := by
    rwa [ha, Nat.pow_add, Nat.mul_mul_mul_comm]
  have hm : 2 ^ 104 ≤ m₁ * m₂ := Nat.le_trans (by decide) (Nat.mul_le_mul hm₁ hm₂)
  have hne : m₁ * m₂ ≠ 0 := by omega
  rw [hsum]
  generalize m₁ * m₂ = m at hproduct hm hne
  have hlog : 104 ≤ m.log2 := (Nat.le_log2 hne).mpr hm
  have hexponent : roundedExponent m (a - 104) = m.log2 + a - 156 := by
    rw [roundedExponent]
    omega
  have htop : m.log2 + a < 1128 := by
    refine (Nat.pow_lt_pow_iff_right (a := 2) (by decide)).mp ?_
    rw [Nat.pow_add]
    refine Nat.lt_of_le_of_lt (Nat.mul_le_mul_right _ (Nat.log2_self_le hne)) ?_
    exact Nat.lt_trans hproduct (by decide +kernel)
  rw [roundWithAccuracy_exact sign (by omega), hexponent]
  refine carried_inRange ?_
  rcases Nat.lt_or_ge (m.log2 + a) 1127 with hlt | hge
  · exact .inl (by omega)
  · -- at the largest exponent the mantissa must not carry
    have hshift : ((m.log2 : Int) + a - 156 - (a - 104)).toNat = 1075 - a := by omega
    have hround := roundDiv_le m (Nat.two_pow_pos (1075 - a))
    have hle : a ≤ 1075 := by omega
    have hpow := Nat.pow_sub_mul_pow 2 hle
    rw [hshift]
    refine .inr ⟨by omega, ?_⟩
    generalize roundDiv m (2 ^ (1075 - a)) = r at hround
    have hscaled := Nat.mul_le_mul_right (2 ^ a) hround
    rw [Nat.mul_assoc, Nat.mul_assoc, hpow, Nat.add_mul, hpow, Nat.mul_assoc] at hscaled
    omega

/-! ### Quotients -/

/-- **A quotient by a number of at least two is in range.** -/
theorem inRange_div {m₁ m₂ : Nat} {e₁ e₂ : Int} (sign : Sign) (hm₁ : m₁ < 2 ^ 53) (he₁ : e₁ ≤ 971)
    (hm₂ : 2 ^ 52 ≤ m₂) (he₂ : -51 ≤ e₂) :
    let quotient := divCore Format.binary64 m₁ e₁ m₂ e₂
    InRange (roundWithAccuracy Format.binary64 sign quotient.1 quotient.2.1 quotient.2.2) := by
  have hlog₁ : m₁.log2 ≤ 52 := log2_le_of_lt hm₁
  have hlog₂ : 52 ≤ m₂.log2 := (Nat.le_log2 (by omega)).mpr hm₂
  have htarget : Format.binary64.targetExponent (totalExponent m₁ e₁ - totalExponent m₂ e₂) =
      max (m₁.log2 + e₁ - m₂.log2 - e₂ - 53) (-1074) := by
    have hbits : (Format.binary64.mantissaBits : Int) = 53 := rfl
    have hmin : Format.binary64.minExponent = -1074 := rfl
    rw [Format.targetExponent, totalExponent, totalExponent, hbits, hmin]
    omega
  rw [divCore, htarget]
  dsimp only
  rw [roundWithAccuracy_eq]
  refine carried_inRange (.inl ?_)
  generalize htop : min (e₁ - e₂) (max (m₁.log2 + e₁ - m₂.log2 - e₂ - 53) (-1074)) = e
  have hshift : ((e₁ - e₂ - e).toNat : Int) = e₁ - e₂ - e := by omega
  generalize (e₁ - e₂ - e).toNat = n at hshift
  -- the quotient has no more bits than the numerator was shifted
  have hquotient : (m₁ <<< n / m₂).log2 ≤ n := by
    refine log2_le_of_lt (Nat.div_lt_of_lt_mul ?_)
    calc m₁ <<< n = m₁ * 2 ^ n := Nat.shiftLeft_eq m₁ n
      _ < 2 ^ 53 * 2 ^ n := Nat.mul_lt_mul_of_pos_right hm₁ (Nat.two_pow_pos n)
      _ = 2 ^ 52 * 2 ^ (n + 1) := by rw [Nat.pow_succ 2 n]; omega
      _ ≤ m₂ * 2 ^ (n + 1) := Nat.mul_le_mul_right _ hm₂
  rw [roundedExponent]
  omega

/-! ### Finite numbers -/

/-- **A number is finite if and only if it is in range.** -/
theorem isFinite_iff {x : Float} : isFinite x = true ↔ InRange x.toModel.unpack := by
  constructor
  · exact inRange_unpack
  · intro h
    rw [isFinite, Float.isFinite, Float.Model.isFinite]
    rcases h.eq_zero_or_finite with ⟨s, hx⟩ | ⟨s, m, e, hm, hx, -⟩
    · rw [hx]
      rfl
    · rw [hx]
      rfl

theorem isInf_of_isFinite {x : Float} (h : isFinite x = true) : x.isInf = false := by
  rw [Float.isInf, Float.Model.isInf]
  rcases (isFinite_iff.mp h).eq_zero_or_finite with ⟨s, hx⟩ | ⟨s, m, e, hm, hx, -⟩
  · rw [hx]
    rfl
  · rw [hx]
    rfl

theorem isFinite_neg {x : Float} (h : isFinite x = true) : isFinite (-x) = true := by
  refine isFinite_pack ?_
  rcases (isFinite_iff.mp h).eq_zero_or_finite with ⟨s, hx⟩ | ⟨s, m, e, hm, hx, hbounds⟩
  · rw [hx]
    exact trivial
  · rw [hx]
    exact hbounds

theorem isFinite_toFloat {n : Nat} (hn : n < 2 ^ 64) : isFinite n.toUInt64.toFloat = true := by
  rcases Nat.eq_zero_or_pos n with rfl | hpos
  · decide +kernel
  · have hlog : n.log2 < 64 := (Nat.log2_lt (Nat.ne_of_gt hpos)).mpr hn
    rw [isFinite_iff, unpack_toFloat hpos hn]
    exact carried_inRange (.inl (by omega))

/-- A natural number of 64 bits times a power of ten is finite, if that of the nearest
numbers is. -/
theorem isFinite_mul {n k : Nat} (hn : n < 2 ^ 64) (hk : k ≤ 308)
    (h : magnitude n * magnitude (10 ^ k) < (2 ^ 54 - 1) * 2 ^ 1074) :
    isFinite (n.toUInt64.toFloat * powerOfTen k) = true := by
  have hten : 0 < 10 ^ k := Nat.pow_pos (by decide)
  obtain ⟨m₂, e₂, hm₂, heq₂, hlow₂, -, hlog₂, hsize₂⟩ := nearestNat_eq hten
  refine isFinite_pack ?_
  rw [unpack_powerOfTen hk, heq₂]
  rcases Nat.eq_zero_or_pos n with rfl | hpos
  · exact trivial
  · obtain ⟨m₁, e₁, hm₁, heq₁, hlow₁, -, hlog₁, hsize₁⟩ := nearestNat_eq hpos
    rw [unpack_toFloat hpos hn, heq₁]
    rw [← hsize₁, ← hsize₂] at h
    exact inRange_mul _ hlow₁ hlow₂ (by omega) (by omega) h

/-- **A finite number divided by a positive power of ten is finite.** -/
theorem isFinite_div {x : Float} (h : isFinite x = true) {k : Nat} (hpos : 0 < k) (hk : k ≤ 308) :
    isFinite (x / powerOfTen k) = true := by
  have hten : 0 < 10 ^ k := Nat.pow_pos (by decide)
  obtain ⟨m₂, e₂, hm₂, heq₂, hlow₂, -, hlog₂, -⟩ := nearestNat_eq hten
  have hlog : 1 ≤ (10 ^ k).log2 := by
    refine (Nat.le_log2 (Nat.ne_of_gt hten)).mpr ?_
    exact Nat.le_trans (by decide) (Nat.pow_le_pow_right (n := 10) (by decide) hpos)
  refine isFinite_pack ?_
  rw [unpack_powerOfTen hk, heq₂]
  rcases (isFinite_iff.mp h).eq_zero_or_finite with ⟨s, hx⟩ | ⟨s, m, e, hm, hx, hlt, hle⟩
  · rw [hx]
    exact trivial
  · rw [hx]
    exact inRange_div _ hlt hle hlow₂ (by omega)

/-! ### Scaling -/

/-- Half a unit above the largest number but one. -/
def belowLargest : Nat :=
  (2 ^ 54 - 3) * 2 ^ 970

/-- A product of at most that stays below the largest number after both factors have been
rounded. -/
theorem magnitude_mul_lt {n k : Nat} (hn : n < 2 ^ 64) (hk : k ≤ 308)
    (h : n * 10 ^ k ≤ belowLargest) :
    magnitude n * magnitude (10 ^ k) < (2 ^ 54 - 1) * 2 ^ 1074 := by
  rcases Nat.lt_or_ge 288 k with hlarge | hsmall
  · have htable : ∀ k < 309, 288 < k →
        magnitude (belowLargest / 10 ^ k) * magnitude (10 ^ k) < (2 ^ 54 - 1) * 2 ^ 1074 := by
      decide +kernel
    have hquotient : n ≤ belowLargest / 10 ^ k :=
      (Nat.le_div_iff_mul_le (Nat.pow_pos (by decide))).mpr h
    refine Nat.lt_of_le_of_lt ?_ (htable k (by omega) hlarge)
    exact Nat.mul_le_mul_right _ (magnitude_mono hquotient)
  · -- 64 bits are far below the largest number here
    have htop : magnitude (2 ^ 64) * magnitude (10 ^ 288) < (2 ^ 54 - 1) * 2 ^ 1074 := by
      decide +kernel
    refine Nat.lt_of_le_of_lt ?_ htop
    exact Nat.mul_le_mul (magnitude_mono (Nat.le_of_lt hn)) (magnitude_pow_mono hsmall)

/-- **A finite number scaled by a negative power of ten is finite.** -/
theorem scale?_of_neg {x : Float} (h : isFinite x = true) {k : Int} (hk : k < 0) :
    ∃ y, scale? x k = some y ∧ isFinite y = true := by
  induction x, k using scale?.induct with
  | case1 x k hnonneg _ _ _ => exact absurd hk (Int.not_lt_of_ge hnonneg)
  | case2 x k hnonneg _ _ _ => exact absurd hk (Int.not_lt_of_ge hnonneg)
  | case3 x k hnonneg _ _ => exact absurd hk (Int.not_lt_of_ge hnonneg)
  | case4 x k hnonneg _ _ => exact absurd hk (Int.not_lt_of_ge hnonneg)
  | case5 x k hneg hsmall =>
      refine ⟨x / powerOfTen (-k).toNat, ?_, isFinite_div h (by omega) (by omega)⟩
      rw [scale?, if_neg hneg, if_pos hsmall]
  | case6 x k hneg hlarge hzero =>
      refine ⟨x, ?_, h⟩
      rw [scale?, if_neg hneg, if_neg hlarge, if_pos hzero]
  | case7 x k hneg hlarge hzero ih =>
      obtain ⟨y, hy, hfinite⟩ := ih (isFinite_div h (by decide) (Nat.le_refl 308)) (by omega)
      refine ⟨y, ?_, hfinite⟩
      rw [scale?, if_neg hneg, if_neg hlarge, if_neg hzero, hy]

/-- **A natural number scaled by a power of ten is finite** as long as the exact product
stays below the largest number. -/
theorem scale?_of_nonneg {n : Nat} (hn : n < 2 ^ 64) {k : Nat} (h : n * 10 ^ k ≤ belowLargest) :
    ∃ y, scale? n.toUInt64.toFloat k = some y ∧ isFinite y = true := by
  rcases Nat.lt_or_ge 308 k with hlarge | hk
  · -- only zero is scaled that far
    have hzero : n = 0 := by
      refine Nat.eq_zero_of_not_pos fun hpos => ?_
      have hpow := Nat.pow_le_pow_right (n := 10) (by decide) (Nat.succ_le_of_lt hlarge)
      have hprod : 10 ^ k ≤ n * 10 ^ k := Nat.le_mul_of_pos_left _ hpos
      have hfalse : belowLargest < 10 ^ 309 := by decide +kernel
      omega
    subst hzero
    refine ⟨(0 : Nat).toUInt64.toFloat, ?_, by decide +kernel⟩
    rw [scale?, if_pos (by omega), if_neg (by omega), if_pos (by decide +kernel)]
  · have hfinite : isFinite (n.toUInt64.toFloat * powerOfTen k) = true :=
      isFinite_mul hn hk (magnitude_mul_lt hn hk h)
    refine ⟨n.toUInt64.toFloat * powerOfTen k, ?_, hfinite⟩
    rw [scale?, if_pos (by omega), if_pos (by omega), Int.toNat_natCast]
    simp only [isInf_of_isFinite hfinite, Bool.false_eq_true, if_false]

end FigureScript.Number
