import FigureScript.Number.Notation
import Mathlib

/-!
# Rounding

Arithmetic on floating point numbers rounds an exact result to 53 bits.  It does so by
shifting a mantissa right and keeping two of the bits shifted out, which comes to the
division of natural numbers that rounds to the nearest.  What is rounded is finite unless
its exponent is too large for the format.

## Main Definitions

* `roundedExponent` — the exponent that a number is rounded to
* `carried` — a rounded mantissa, whose last carry may have made it a power of two
* `InRange` — zero, or finite with an exponent of the format

## Main Results

* `roundDiv_mono` — the rounded division is monotone
* `roundWithAccuracy_eq` — what rounding computes, whatever the bits shifted out were
* `roundWithAccuracy_exact` — rounding an exact number is a rounded division
* `isFinite_pack`, `inRange_unpack` — numbers in range are the finite ones
* `unpack_pack` — normal numbers are unpacked as they were packed

## Design Notes

A mantissa has 53 bits after the first shift, or is `2 ^ 53` because the last bits were
rounded up.  Only then does the second shift of the rounding do anything, and it shifts
out a zero; so both shifts together are one rounded division and a carry.
-/

namespace FigureScript.Number

open Float.Model Float.Model.UnpackedFloat

/-! ### Division to the nearest -/

theorem roundDiv_cases (p : Nat) {q : Nat} (hq : 0 < q) :
    ∃ rest, p = p / q * q + rest ∧ rest < q ∧
      ((2 * rest < q ∧ roundDiv p q = p / q) ∨ (q < 2 * rest ∧ roundDiv p q = p / q + 1) ∨
        (2 * rest = q ∧ roundDiv p q = p / q + p / q % 2)) := by
  refine ⟨p % q, ?_, Nat.mod_lt p hq, ?_⟩
  · rw [Nat.mul_comm, Nat.div_add_mod]
  · unfold roundDiv
    dsimp only
    split
    next h => exact .inl ⟨h, rfl⟩
    next h =>
      split
      next h' => exact .inr (.inl ⟨h', rfl⟩)
      next h' => exact .inr (.inr ⟨by omega, rfl⟩)

/-- The rounded quotient is at most half a unit too large. -/
theorem roundDiv_le (p : Nat) {q : Nat} (hq : 0 < q) : 2 * (roundDiv p q * q) ≤ 2 * p + q := by
  obtain ⟨rest, hp, hrest, ⟨h, hr⟩ | ⟨h, hr⟩ | ⟨h, hr⟩⟩ := roundDiv_cases p hq
  · rw [hr]
    omega
  · rw [hr, Nat.add_mul]
    omega
  · have hle : (p / q % 2) * q ≤ 1 * q := Nat.mul_le_mul_right q (by omega)
    rw [hr, Nat.add_mul]
    omega

/-- The rounded quotient is at most half a unit too small. -/
theorem le_roundDiv (p : Nat) {q : Nat} (hq : 0 < q) : 2 * p ≤ 2 * (roundDiv p q * q) + q := by
  obtain ⟨rest, hp, hrest, ⟨h, hr⟩ | ⟨h, hr⟩ | ⟨h, hr⟩⟩ := roundDiv_cases p hq
  · rw [hr]
    omega
  · rw [hr, Nat.add_mul]
    omega
  · rw [hr, Nat.add_mul]
    omega

/-- **The rounded division is monotone.** -/
theorem roundDiv_mono {p p' : Nat} (h : p ≤ p') {q : Nat} (hq : 0 < q) :
    roundDiv p q ≤ roundDiv p' q := by
  rcases Nat.eq_or_lt_of_le h with rfl | h
  · exact Nat.le_refl _
  · refine Nat.le_of_not_lt fun hlt => ?_
    have hmul := Nat.mul_le_mul_right q (Nat.succ_le_of_lt hlt)
    rw [Nat.succ_mul] at hmul
    have hlow := le_roundDiv p' hq
    have hhigh := roundDiv_le p hq
    omega

theorem roundDiv_mul_right (p q : Nat) {c : Nat} (hc : 0 < c) :
    roundDiv (p * c) (q * c) = roundDiv p q := by
  have hdiv : p * c / (q * c) = p / q := Nat.mul_div_mul_right p q hc
  have hmod : 2 * (p * c % (q * c)) = 2 * (p % q) * c := by
    rw [Nat.mul_mod_mul_right, Nat.mul_assoc]
  unfold roundDiv
  simp only [hdiv, hmod, Nat.mul_lt_mul_right hc]

theorem roundDiv_mul_self (p : Nat) {q : Nat} (hq : 0 < q) : roundDiv (p * q) q = p := by
  unfold roundDiv
  simp [hq]

/-! ### Shifting a mantissa -/

theorem mantissa_shiftRight (em : ExtendedMantissa) (n : Nat) :
    (em >>> n).mantissa = em.mantissa / 2 ^ n := by
  induction n with
  | zero => exact (Nat.div_one em.mantissa).symm
  | succ n ih =>
      change (em >>> n).mantissa / 2 = _
      rw [ih, Nat.div_div_eq_div_mul, Nat.pow_succ]

/-- The round bit says that at least half a unit was shifted out, and the sticky bit that
it was neither nothing nor a half. -/
theorem bits_shiftRight (m n : Nat) :
    let em := ExtendedMantissa.ofMantissaAndAccuracy m .exact >>> n
    em.roundBit = decide (2 ^ n ≤ 2 * (m % 2 ^ n)) ∧
      em.stickyBit = decide (2 * (m % 2 ^ n) ≠ 0 ∧ 2 * (m % 2 ^ n) ≠ 2 ^ n) := by
  induction n with
  | zero =>
      rw [Nat.pow_zero, Nat.mod_one]
      exact ⟨rfl, rfl⟩
  | succ n ih =>
      obtain ⟨hround, hsticky⟩ := ih
      have hm := mantissa_shiftRight (ExtendedMantissa.ofMantissaAndAccuracy m .exact) n
      have hmod : m % 2 ^ (n + 1) = m % 2 ^ n + 2 ^ n * (m / 2 ^ n % 2) := Nat.mod_pow_succ
      have hlt : m % 2 ^ n < 2 ^ n := Nat.mod_lt m (Nat.two_pow_pos n)
      change _ = m / 2 ^ n at hm
      refine ⟨?_, ?_⟩
      · change ((ExtendedMantissa.ofMantissaAndAccuracy m .exact >>> n).mantissa % 2 != 0) = _
        rw [hm, hmod, Nat.pow_succ, bne, Bool.eq_iff_iff]
        rcases Nat.mod_two_eq_zero_or_one (m / 2 ^ n) with hbit | hbit
        · simp [hbit]
          omega
        · simp [hbit]
          omega
      · change ((ExtendedMantissa.ofMantissaAndAccuracy m .exact >>> n).roundBit ||
          (ExtendedMantissa.ofMantissaAndAccuracy m .exact >>> n).stickyBit) = _
        rw [hround, hsticky, hmod, Nat.pow_succ, Bool.eq_iff_iff]
        rcases Nat.mod_two_eq_zero_or_one (m / 2 ^ n) with hbit | hbit
        · simp [hbit]
          omega
        · simp [hbit]
          omega

/-- **Shifting an exact mantissa and rounding it is a rounded division.** -/
theorem roundedMantissa_shiftRight (m n : Nat) :
    (ExtendedMantissa.ofMantissaAndAccuracy m .exact >>> n).roundedMantissa =
      roundDiv m (2 ^ n) := by
  obtain ⟨hround, hsticky⟩ := bits_shiftRight m n
  have hm := mantissa_shiftRight (ExtendedMantissa.ofMantissaAndAccuracy m .exact) n
  change _ = m / 2 ^ n at hm
  generalize ExtendedMantissa.ofMantissaAndAccuracy m .exact >>> n = em at hm hround hsticky
  obtain ⟨mantissa, round, sticky⟩ := em
  dsimp only at hm hround hsticky
  subst hm
  unfold roundDiv
  dsimp only
  rcases Nat.lt_trichotomy (2 * (m % 2 ^ n)) (2 ^ n) with h | h | h
  · rw [decide_eq_false (Nat.not_le_of_lt h)] at hround
    subst hround
    rw [if_pos h]
    cases sticky <;> rfl
  · rw [decide_eq_true (Nat.le_of_eq h.symm)] at hround
    rw [decide_eq_false (fun hne => hne.2 h)] at hsticky
    subst hround hsticky
    rw [if_neg (Nat.not_lt_of_le (Nat.le_of_eq h.symm)), if_neg (Nat.not_lt_of_le (Nat.le_of_eq h))]
    rfl
  · rw [decide_eq_true (Nat.le_of_lt h)] at hround
    rw [decide_eq_true ⟨Nat.ne_of_gt (Nat.zero_lt_of_lt h), Nat.ne_of_gt h⟩] at hsticky
    subst hround hsticky
    rw [if_neg (Nat.not_lt_of_lt h), if_pos h]
    rfl

theorem roundedMantissa_le (em : ExtendedMantissa) : em.roundedMantissa ≤ em.mantissa + 1 := by
  obtain ⟨m, round, sticky⟩ := em
  have hodd : m % 2 ≤ 1 := Nat.le_of_lt_succ (Nat.mod_lt m (by decide))
  cases round <;> cases sticky
  · exact Nat.le_succ m
  · exact Nat.le_succ m
  · exact Nat.add_le_add_left hodd m
  · exact Nat.le_refl (m + 1)

/-! ### Rounding -/

/-- The exponent that leaves 53 bits of `m · 2 ^ e`, and fewer where numbers are
subnormal. -/
def roundedExponent (m : Nat) (e : Int) : Int :=
  max (m.log2 + e - 52) (-1074)

theorem targetExponent_eq (m : Nat) (e : Int) :
    Format.binary64.targetExponent (totalExponent m e) = roundedExponent m e := by
  have hbits : (Format.binary64.mantissaBits : Int) = 53 := rfl
  have hmin : Format.binary64.minExponent = -1074 := rfl
  rw [Format.targetExponent, totalExponent, hbits, hmin, roundedExponent]
  omega

/-- **A rounded mantissa**: 53 bits, or the next power of two. -/
def carried (sign : Sign) (m : Nat) (e : Int) : UnpackedFloat :=
  if h : m = 0 then .zero sign
  else if m < 2 ^ 53 then .finite sign m e (Nat.pos_of_ne_zero h)
  else .finite sign (2 ^ 52) (e + 1) (by decide)

theorem log2_le_of_lt {m n : Nat} (h : m < 2 ^ (n + 1)) : m.log2 ≤ n := by
  rcases Nat.eq_zero_or_pos m with rfl | hpos
  · exact Nat.zero_le n
  · exact Nat.le_of_lt_succ ((Nat.log2_lt (Nat.ne_of_gt hpos)).mpr h)

theorem shift_small {m : Nat} {e : Int} (hm : m < 2 ^ 53) (he : -1074 ≤ e) :
    shiftToTargetExponent Format.binary64 m e .exact = (⟨m, false, false⟩, e) := by
  have hlog : m.log2 ≤ 52 := log2_le_of_lt hm
  have hamount : (roundedExponent m e - e).toNat = 0 := by
    rw [roundedExponent]
    omega
  simp only [shiftToTargetExponent, shiftToExponent, targetExponent_eq, hamount]
  rw [Int.natCast_zero, Int.add_zero]
  rfl

theorem shift_carry {e : Int} (he : -1074 ≤ e) :
    shiftToTargetExponent Format.binary64 (2 ^ 53) e .exact =
      (⟨2 ^ 52, false, false⟩, e + 1) := by
  have hamount : (roundedExponent (2 ^ 53) e - e).toNat = 1 := by
    rw [roundedExponent, Nat.log2_two_pow]
    omega
  simp only [shiftToTargetExponent, shiftToExponent, targetExponent_eq, hamount]
  rfl

/-- **What rounding computes**: one shift, after which the mantissa may carry. -/
theorem roundWithAccuracy_eq (sign : Sign) (m : Nat) (e : Int) (accuracy : Accuracy) :
    roundWithAccuracy Format.binary64 sign m e accuracy =
      carried sign
        (ExtendedMantissa.ofMantissaAndAccuracy m accuracy >>>
          (roundedExponent m e - e).toNat).roundedMantissa
        (max e (roundedExponent m e)) := by
  have hexponent : e + ((roundedExponent m e - e).toNat : Int) = max e (roundedExponent m e) := by
    omega
  have hmin : -1074 ≤ max e (roundedExponent m e) := by
    rw [roundedExponent]
    omega
  have hgiven : (ExtendedMantissa.ofMantissaAndAccuracy m accuracy).mantissa = m := by
    rcases accuracy with _ | order
    · rfl
    · cases order <;> rfl
  -- 53 bits are left, or a carry to the next power of two
  have hle : (ExtendedMantissa.ofMantissaAndAccuracy m accuracy >>>
      (roundedExponent m e - e).toNat).roundedMantissa ≤ 2 ^ 53 := by
    refine Nat.le_trans (roundedMantissa_le _) ?_
    rw [mantissa_shiftRight, hgiven]
    refine Nat.div_lt_of_lt_mul (Nat.lt_of_lt_of_le Nat.lt_log2_self ?_)
    rw [← Nat.pow_add]
    refine Nat.pow_le_pow_right (by decide) ?_
    rw [roundedExponent]
    omega
  have hfirst : shiftToTargetExponent Format.binary64 m e accuracy =
      (ExtendedMantissa.ofMantissaAndAccuracy m accuracy >>> (roundedExponent m e - e).toNat,
        max e (roundedExponent m e)) := by
    rw [shiftToTargetExponent, shiftToExponent, targetExponent_eq, hexponent]
  rw [roundWithAccuracy, hfirst]
  dsimp only
  generalize (ExtendedMantissa.ofMantissaAndAccuracy m accuracy >>>
    (roundedExponent m e - e).toNat).roundedMantissa = r at hle
  rcases Nat.lt_or_eq_of_le hle with hlt | rfl
  · rw [shift_small hlt hmin]
    unfold carried
    simp only [hlt, if_true]
  · rw [shift_carry hmin]
    rfl

/-- **Rounding an exact number is a rounded division.** -/
theorem roundWithAccuracy_exact (sign : Sign) {m : Nat} {e : Int} (he : e ≤ roundedExponent m e) :
    roundWithAccuracy Format.binary64 sign m e .exact =
      carried sign (roundDiv m (2 ^ (roundedExponent m e - e).toNat)) (roundedExponent m e) := by
  rw [roundWithAccuracy_eq, roundedMantissa_shiftRight, Int.max_eq_right he]

/-! ### Numbers in range -/

/-- **Zero, or finite with an exponent of the format.** -/
def InRange : UnpackedFloat → Prop
  | .zero _ => True
  | .finite _ m e _ => m < 2 ^ 53 ∧ e ≤ 971
  | _ => False

theorem InRange.eq_zero_or_finite {u : UnpackedFloat} (h : InRange u) :
    (∃ s, u = .zero s) ∨ ∃ s m e hm, u = .finite s m e hm ∧ m < 2 ^ 53 ∧ e ≤ 971 := by
  cases u with
  | infinity s => exact h.elim
  | notANumber => exact h.elim
  | zero s => exact .inl ⟨s, rfl⟩
  | finite s m e hm => exact .inr ⟨s, m, e, hm, rfl, h⟩

theorem carried_inRange {sign : Sign} {m : Nat} {e : Int} (h : e ≤ 970 ∨ e = 971 ∧ m < 2 ^ 53) :
    InRange (carried sign m e) := by
  unfold carried
  split
  next => trivial
  next =>
    split
    next hm => exact ⟨hm, by omega⟩
    next hm => exact ⟨by decide, by omega⟩

theorem isFinite_unpack {bits : BitVec Format.binary64.numBits} (h : unpackExponent bits ≠ -1#_) :
    (UnpackedFloat.unpack Format.binary64 bits).isFinite = true := by
  unfold UnpackedFloat.unpack
  dsimp only
  rw [if_neg h]
  split
  · split
    · rfl
    · rfl
  · rfl

/-- The exponent field of a number in range is not the one of infinity. -/
theorem unpackExponent_pack_ne {u : UnpackedFloat} (h : InRange u) :
    unpackExponent (UnpackedFloat.pack Format.binary64 u) ≠ -1#_ := by
  rcases h.eq_zero_or_finite with ⟨s, rfl⟩ | ⟨s, m, e, hm, rfl, -, he⟩
  · rw [UnpackedFloat.pack, packedZero, unpackExponent_packComponents]
    decide
  · have hbias : (Format.binary64.exponentBias : Int) = 1023 := rfl
    generalize hfield : (e + (Format.binary64.exponentBias : Int) + (52 : Nat)).toNat = field
    have hfits : ¬ 2 ^ 11 ≤ field + 1 := by omega
    rw [UnpackedFloat.pack]
    dsimp only
    rw [hfield, if_neg hfits]
    split
    · rw [unpackExponent_packComponents]
      intro heq
      have hnat := congrArg BitVec.toNat heq
      rw [BitVec.toNat_ofNat, Nat.mod_eq_of_lt (by omega)] at hnat
      change field = 2047 at hnat
      omega
    · rw [unpackExponent_packComponents]
      decide

/-- **Packing a number in range gives a finite one.** -/
theorem isFinite_pack {u : UnpackedFloat} (h : InRange u) :
    (Float.Model.pack u).isFinite = true :=
  isFinite_unpack (unpackExponent_pack_ne h)

/-- **A finite number is unpacked to one in range.** -/
theorem inRange_unpack {bits : BitVec Format.binary64.numBits}
    (h : (UnpackedFloat.unpack Format.binary64 bits).isFinite = true) :
    InRange (UnpackedFloat.unpack Format.binary64 bits) := by
  unfold UnpackedFloat.unpack at h ⊢
  dsimp only at h ⊢
  have hexponent : (unpackExponent bits).toNat < 2048 := (unpackExponent bits).isLt
  have hmantissa : (unpackMantissa bits).toNat < 2 ^ 52 := (unpackMantissa bits).isLt
  have hbias : (Format.binary64.exponentBias : Int) = 1023 := rfl
  split
  next hspecial =>
    rw [if_pos hspecial] at h
    split at h <;> cases h
  next hspecial =>
    have hne : (unpackExponent bits).toNat ≠ 2047 := fun heq =>
      hspecial (BitVec.eq_of_toNat_eq heq)
    split
    next hzero =>
      split
      next => trivial
      next =>
        refine ⟨Nat.lt_trans hmantissa (by decide), ?_⟩
        rw [hzero]
        decide
    next =>
      refine ⟨(1#1 ++ unpackMantissa bits).isLt, ?_⟩
      rw [hbias]
      omega

@[simp]
theorem unpackSign_packComponents {spec : Format} {sign : Sign}
    {exponent : BitVec spec.exponentBits} {mantissa : BitVec spec.mantissaBitsWithoutImplicit} :
    unpackSign (packComponents spec sign exponent mantissa) = sign.toBitVec := by
  apply BitVec.eq_of_getLsbD_eq
  intro i hi
  obtain rfl : i = 0 := by omega
  simp [unpackSign, packComponents, BitVec.getLsbD_append, BitVec.getElem_append]

/-- **Normal numbers are unpacked as they were packed.** -/
theorem unpack_pack (sign : Sign) {m : Nat} {e : Int} (hpos : 0 < m) (hlow : 2 ^ 52 ≤ m)
    (hhigh : m < 2 ^ 53) (hmin : -1074 ≤ e) (hmax : e ≤ 971) :
    (Float.Model.pack (.finite sign m e hpos)).unpack = .finite sign m e hpos := by
  have hbias : (Format.binary64.exponentBias : Int) = 1023 := rfl
  have hlog : m.log2 + 1 = Format.binary64.mantissaBits :=
    congrArg (· + 1) ((Nat.log2_eq_iff (Nat.ne_of_gt hpos)).mpr ⟨hlow, hhigh⟩)
  generalize hfield : (e + (Format.binary64.exponentBias : Int) + (52 : Nat)).toNat = field
  have hexponent : (BitVec.ofNat 11 field).toNat = field := by
    rw [BitVec.toNat_ofNat, Nat.mod_eq_of_lt (by omega)]
  -- the leading bit is not stored, and put in front again
  have hmantissa : (1#1 ++ BitVec.ofNat 52 m).toNat = m := by
    rw [BitVec.toNat_append, ← Nat.shiftLeft_add_eq_or_of_lt (BitVec.ofNat 52 m).isLt,
      BitVec.toNat_ofNat, Nat.shiftLeft_eq, BitVec.toNat_ofNat]
    omega
  have hne {n : Nat} (hn : field ≠ n) (hlt : n < 2048) :
      BitVec.ofNat 11 field ≠ BitVec.ofNat 11 n := by
    intro heq
    have hnat := congrArg BitVec.toNat heq
    rw [hexponent, BitVec.toNat_ofNat, Nat.mod_eq_of_lt hlt] at hnat
    exact hn hnat
  have hfits : ¬ 2 ^ 11 ≤ field + 1 := by omega
  change UnpackedFloat.unpack Format.binary64 (UnpackedFloat.pack Format.binary64 _) = _
  rw [UnpackedFloat.pack]
  dsimp only
  rw [hfield, if_neg hfits, if_pos hlog]
  unfold UnpackedFloat.unpack
  simp only [unpackMantissa_packComponents, unpackExponent_packComponents,
    unpackSign_packComponents]
  have hspecial : BitVec.ofNat 11 field ≠ -1#11 := hne (n := 2047) (by omega) (by decide)
  have hsubnormal : BitVec.ofNat 11 field ≠ 0#11 := hne (n := 0) (by omega) (by decide)
  rw [if_neg hspecial, if_neg hsubnormal]
  congr 1
  · cases sign <;> rfl
  · rw [hexponent, hbias]
    omega

end FigureScript.Number
