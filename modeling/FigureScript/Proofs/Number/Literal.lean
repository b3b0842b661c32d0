import FigureScript.Proofs.Number.Scaling
import FigureScript.Proofs.Number.Shortest
import FigureScript.Proofs.Number.Spelling

/-!
# The literals of finite numbers

A finite number is spelled as a literal that has the value of its shortest decimal.  A
literal is read as a natural number of 64 bits and a power of ten; as many digits are
dropped as do not fit, so what is read is at most what is spelled, and is scaled to a finite
number if that stays below the largest one.

## Main Definitions

* `Literal.toRat` — the absolute value that a literal spells
* `Decimal.literal`, `literalOf` — the literals of a decimal and of a finite number
* `Decimal.Layout` — the four ways in which a decimal is written

## Main Results

* `Literal.parts_le` — what is read off a literal is at most what it spells
* `Decimal.toRat_literal` — a decimal has the value of its literal
* `exists_value?_literalOf` — the literal of a finite number denotes a finite one

## Design Notes

The number that a literal denotes need not be the one it was written for, nor is it always
the nearest.  The largest number is the only one whose literal exceeds the bound for exact
products; that literal is computed.
-/

namespace FigureScript.Number

/-! ### The value of digits -/

theorem digitsValue_append (digits digits' : List Char) :
    digitsValue (digits ++ digits') = Nat.ofDigitChars 10 digits' (digitsValue digits) :=
  Nat.ofDigitChars_append 0

/-- Zeros behind digits scale them. -/
theorem digitsValue_append_zeros (digits : List Char) (n : Nat) :
    digitsValue (digits ++ List.replicate n '0') = digitsValue digits * 10 ^ n := by
  rw [digitsValue_append, Nat.ofDigitChars_replicate_zero, Nat.mul_comm]

/-- Zeros in front of digits do not count. -/
theorem digitsValue_zeros_append (n : Nat) (digits : List Char) :
    digitsValue (List.replicate n '0' ++ digits) = digitsValue digits := by
  have hzeros : digitsValue (List.replicate n '0') = 0 := Nat.ofDigitChars_replicate_zero
  rw [digitsValue_append, hzeros]
  rfl

/-- Digits behind a number at least scale it. -/
theorem le_ofDigitChars (digits : List Char) (s : Nat) :
    s * 10 ^ digits.length ≤ Nat.ofDigitChars 10 digits s := by
  induction digits generalizing s with
  | nil => exact Nat.le_of_eq (Nat.mul_one s)
  | cons d digits ih =>
      rw [Nat.ofDigitChars_cons]
      refine Nat.le_trans ?_ (ih _)
      rw [List.length_cons, Nat.pow_succ', ← Nat.mul_assoc]
      exact Nat.mul_le_mul_right _ (by omega)

/-- Digits behind a number are less than a unit of it. -/
theorem ofDigitChars_lt {digits : List Char} (h : ∀ c ∈ digits, c.isDigit = true) (s : Nat) :
    Nat.ofDigitChars 10 digits s < (s + 1) * 10 ^ digits.length := by
  induction digits generalizing s with
  | nil => exact Nat.lt_of_lt_of_eq (Nat.lt_succ_self s) (Nat.mul_one _).symm
  | cons d digits ih =>
      rw [List.forall_mem_cons] at h
      have hd : d.toNat - '0'.toNat ≤ 9 := by
        have hdigit := h.1
        rw [Char.isDigit, Bool.and_eq_true, decide_eq_true_eq, decide_eq_true_eq] at hdigit
        have hhigh : d.toNat ≤ 57 := hdigit.2
        change d.toNat - 48 ≤ 9
        omega
      rw [Nat.ofDigitChars_cons]
      refine Nat.lt_of_lt_of_le (ih h.2 _) ?_
      rw [List.length_cons, Nat.pow_succ', ← Nat.mul_assoc]
      exact Nat.mul_le_mul_right _ (by omega)

/-- At most 16 digits have a value of 64 bits. -/
theorem digitsValue_lt {digits : List Char} (hdigits : ∀ c ∈ digits, c.isDigit = true)
    (hfew : digits.length ≤ 16) : digitsValue digits < 2 ^ 64 := by
  have hpow : 10 ^ digits.length ≤ 10 ^ 16 := Nat.pow_le_pow_right (by decide) hfew
  have hbound : 10 ^ 16 < 2 ^ 64 := by decide
  refine Nat.lt_trans (ofDigitChars_lt hdigits 0) ?_
  rw [Nat.zero_add, Nat.one_mul]
  exact Nat.lt_of_le_of_lt hpow hbound

theorem digitsValue_zero_lt : digitsValue ['0'] < 2 ^ 64 := by
  have hzero : digitsValue ['0'] = 0 := rfl
  rw [hzero]
  exact Nat.two_pow_pos 64

/-! ### Absorbed digits -/

theorem absorb_cons (d : Char) (digits : List Char) (s : Nat) :
    absorb (d :: digits) s =
      if 10 * s + digitValue d < 2 ^ 64 then absorb digits (10 * s + digitValue d)
      else (s, d :: digits) :=
  rfl

/-- What is absorbed and what is left over stay below the value of all digits. -/
theorem absorb_le (digits : List Char) (s : Nat) :
    (absorb digits s).1 * 10 ^ (absorb digits s).2.length ≤ Nat.ofDigitChars 10 digits s := by
  induction digits generalizing s with
  | nil => exact Nat.le_of_eq (Nat.mul_one s)
  | cons d digits ih =>
      rw [absorb_cons]
      split
      next => exact ih _
      next => exact le_ofDigitChars (d :: digits) s

/-- The significand keeps to 64 bits. -/
theorem absorb_lt (digits : List Char) {s : Nat} (hs : s < 2 ^ 64) :
    (absorb digits s).1 < 2 ^ 64 ∧ (absorb digits s).2.length ≤ digits.length := by
  induction digits generalizing s with
  | nil => exact ⟨hs, Nat.le_refl _⟩
  | cons d digits ih =>
      rw [absorb_cons]
      split
      next hlonger =>
        obtain ⟨hlt, hlength⟩ := ih hlonger
        exact ⟨hlt, Nat.le_succ_of_le hlength⟩
      next => exact ⟨hs, Nat.le_refl _⟩

/-- Digits whose value has 64 bits are absorbed. -/
theorem absorb_of_lt {digits : List Char} {s : Nat} (h : Nat.ofDigitChars 10 digits s < 2 ^ 64) :
    absorb digits s = (Nat.ofDigitChars 10 digits s, []) := by
  induction digits generalizing s with
  | nil => rfl
  | cons d digits ih =>
      rw [Nat.ofDigitChars_cons] at h ⊢
      have hlonger : 10 * s + digitValue d < 2 ^ 64 := by
        refine Nat.lt_of_le_of_lt ?_ h
        refine Nat.le_trans ?_ (le_ofDigitChars digits _)
        exact Nat.le_mul_of_pos_right _ (Nat.pow_pos (by decide))
      rw [absorb_cons, if_pos hlonger]
      exact ih h

/-! ### What a literal spells -/

namespace Literal

/-- The power of ten of the exponent. -/
def power (l : Literal) : Int :=
  match l.exponent with
  | none => 0
  | some (negative, digits) =>
    if negative then -(digitsValue digits : Int) else digitsValue digits

/-- The digits after the point. -/
def places (l : Literal) : List Char :=
  l.fraction.getD []

/-- **The absolute value that a literal spells.** -/
def toRat (l : Literal) : ℚ :=
  digitsValue (l.integer ++ l.places) * 10 ^ (l.power - l.places.length)

/-- The digits after the point are absorbed behind an integer part that fits. -/
theorem parts_eq {l : Literal} (h : digitsValue l.integer < 2 ^ 64) :
    l.parts = ((absorb l.places (digitsValue l.integer)).1,
      (absorb l.places (digitsValue l.integer)).2.length - l.places.length + l.power) := by
  obtain ⟨negative, integer, fraction, exponent⟩ := l
  change digitsValue integer < 2 ^ 64 at h
  have hinteger : absorb integer 0 = (digitsValue integer, []) := absorb_of_lt h
  unfold parts
  dsimp only
  rw [hinteger]
  cases fraction with
  | none => rfl
  | some digits =>
      have hdropped := (absorb_lt digits h).2
      have hplaces :
          (0 : Int) - (digits.length - (absorb digits (digitsValue integer)).2.length : ℕ) =
            (absorb digits (digitsValue integer)).2.length - digits.length := by
        omega
      exact Prod.ext rfl (congrArg (· + power ⟨negative, integer, some digits, exponent⟩) hplaces)

/-- **What is read off a literal** is not above what it spells, if the integer part fits
into 64 bits. -/
theorem parts_le {l : Literal} (h : digitsValue l.integer < 2 ^ 64) :
    l.parts.1 < 2 ^ 64 ∧ (l.parts.1 : ℚ) * 10 ^ l.parts.2 ≤ l.toRat := by
  have habsorbed := absorb_le l.places (digitsValue l.integer)
  rw [← digitsValue_append] at habsorbed
  rw [parts_eq h, toRat]
  refine ⟨(absorb_lt l.places h).1, ?_⟩
  dsimp only
  generalize absorb l.places (digitsValue l.integer) = absorbed at habsorbed
  have hcast : (absorbed.1 : ℚ) * 10 ^ absorbed.2.length ≤
      digitsValue (l.integer ++ l.places) := by
    exact_mod_cast habsorbed
  have hexponent : (absorbed.2.length : Int) - l.places.length + l.power =
      absorbed.2.length + (l.power - l.places.length) := by
    omega
  rw [hexponent, zpow_add₀ (by norm_num), zpow_natCast, ← mul_assoc]
  exact mul_le_mul_of_nonneg_right hcast (by positivity)

end Literal

/-! ### Decimals as literals -/

/-- **The literal that a decimal is spelled as.** -/
def Decimal.literal (negative : Bool) (d : Decimal) : Literal :=
  let places := (-d.exponent).toNat
  let whole := d.digits.length - places
  if -5 ≤ d.leadingExponent ∧ d.leadingExponent ≤ 15 then
    if 0 ≤ d.exponent then
      ⟨negative, d.digits ++ List.replicate d.exponent.toNat '0', some ['0'], none⟩
    else if places < d.digits.length then
      ⟨negative, d.digits.take whole, some (d.digits.drop whole), none⟩
    else
      ⟨negative, ['0'], some (List.replicate (places - d.digits.length) '0' ++ d.digits), none⟩
  else
    ⟨negative, d.digits.take 1, if d.digits.length = 1 then none else some (d.digits.drop 1),
      some (decide (d.leadingExponent < 0), Nat.toDigits 10 d.leadingExponent.natAbs)⟩

/-- **The layouts of a decimal**: zeros behind its digits, a point between them, zeros in
front of them, or an exponent. -/
inductive Decimal.Layout (negative : Bool) (d : Decimal) : Literal → Prop where
  | padded {zeros : Nat} (hexponent : d.exponent = zeros) (hfew : d.digits.length + zeros ≤ 16) :
      Layout negative d ⟨negative, d.digits ++ List.replicate zeros '0', some ['0'], none⟩
  | pointed {whole : Nat} (hexponent : d.exponent = whole - d.digits.length) (hpos : 0 < whole)
      (hlt : whole < d.digits.length) (hfew : whole ≤ 16) :
      Layout negative d ⟨negative, d.digits.take whole, some (d.digits.drop whole), none⟩
  | fractional {zeros : Nat} (hexponent : -d.exponent = zeros + d.digits.length) :
      Layout negative d ⟨negative, ['0'], some (List.replicate zeros '0' ++ d.digits), none⟩
  | scientific {fraction : Option (List Char)} (hrest : fraction.getD [] = d.digits.drop 1)
      (hfraction : ∀ digits ∈ fraction, digits ≠ []) :
      Layout negative d ⟨negative, d.digits.take 1, fraction,
        some (decide (d.leadingExponent < 0), Nat.toDigits 10 d.leadingExponent.natAbs)⟩

namespace Decimal

theorem leadingExponent_eq (d : Decimal) :
    d.leadingExponent = d.exponent + d.digits.length - 1 :=
  rfl

theorem length_digits_pos (d : Decimal) : 0 < d.digits.length :=
  Nat.length_toDigits_pos

theorem digitsValue_digits (d : Decimal) : digitsValue d.digits = d.coefficient :=
  digitsValue_toDigits _

theorem isDigit_of_mem_digits (d : Decimal) : ∀ c ∈ d.digits, c.isDigit = true :=
  fun _ hc => Nat.isDigit_of_mem_toDigits (by decide) (by decide) hc

/-- **A decimal is written in one of the layouts.** -/
theorem layout_literal (negative : Bool) (d : Decimal) :
    d.Layout negative (d.literal negative) := by
  have hleading := d.leadingExponent_eq
  have hlength := d.length_digits_pos
  unfold literal
  dsimp only
  split
  next hrange =>
    split
    next hnonneg => exact .padded (Int.toNat_of_nonneg hnonneg).symm (by omega)
    next hneg =>
      split
      next hplaces => exact .pointed (by omega) (by omega) (by omega) (by omega)
      next hplaces => exact .fractional (by omega)
  next =>
    split
    next hone => exact .scientific (List.drop_eq_nil_of_le (Nat.le_of_eq hone)).symm nofun
    next hseveral =>
      refine .scientific rfl ?_
      rintro _ ⟨⟩
      rw [Ne, List.drop_eq_nil_iff]
      omega

/-- The digits of an exponent give the exponent, with its sign. -/
theorem power_exponent (e : Int) :
    (if decide (e < 0) = true then -(digitsValue (Nat.toDigits 10 e.natAbs) : Int)
      else digitsValue (Nat.toDigits 10 e.natAbs)) = e := by
  rw [digitsValue_toDigits]
  simp only [decide_eq_true_eq]
  split <;> omega

/-- **A decimal has the value of its literal.** -/
theorem toRat_literal (negative : Bool) (d : Decimal) :
    (d.literal negative).toRat = d.toRat := by
  have hlayout := d.layout_literal negative
  have hleading := d.leadingExponent_eq
  have hlength := d.length_digits_pos
  generalize d.literal negative = l at hlayout ⊢
  rw [Literal.toRat, toRat]
  cases hlayout with
  | @padded zeros hexponent hfew =>
      -- the zero behind the point is one digit more, which the exponent takes back
      have hvalue : digitsValue (d.digits ++ List.replicate zeros '0' ++ ['0']) =
          d.coefficient * 10 ^ (zeros + 1) := by
        rw [List.append_assoc, ← List.replicate_succ', digitsValue_append_zeros,
          d.digitsValue_digits]
      have hpower : (zeros : Int) = ((zeros + 1 : ℕ) : Int) + (0 - (['0'].length : ℕ)) := by
        rw [List.length_singleton]
        omega
      dsimp only [Literal.places, Literal.power, Option.getD_some]
      rw [hvalue, hexponent, hpower, zpow_add₀ (by norm_num), zpow_natCast, ← mul_assoc]
      push_cast
      rfl
  | pointed hexponent hpos hlt hfew =>
      dsimp only [Literal.places, Literal.power, Option.getD_some]
      rw [List.take_append_drop, d.digitsValue_digits, List.length_drop]
      congr 2
      omega
  | @fractional zeros hexponent =>
      have hvalue : digitsValue (['0'] ++ (List.replicate zeros '0' ++ d.digits)) =
          d.coefficient := by
        rw [List.singleton_append, ← List.cons_append, ← List.replicate_succ,
          digitsValue_zeros_append, d.digitsValue_digits]
      dsimp only [Literal.places, Literal.power, Option.getD_some]
      rw [hvalue, List.length_append, List.length_replicate]
      congr 2
      omega
  | scientific hrest hfraction =>
      dsimp only [Literal.places, Literal.power]
      rw [hrest, power_exponent, List.take_append_drop, d.digitsValue_digits, List.length_drop]
      congr 2
      omega

/-- The integer part of a literal for a decimal fits into 64 bits. -/
theorem digitsValue_literal_lt (negative : Bool) (d : Decimal) :
    digitsValue (d.literal negative).integer < 2 ^ 64 := by
  have hlayout := d.layout_literal negative
  generalize d.literal negative = l at hlayout ⊢
  have htake (n : Nat) : ∀ c ∈ d.digits.take n, c.isDigit = true :=
    fun c hc => d.isDigit_of_mem_digits c (List.mem_of_mem_take hc)
  cases hlayout with
  | padded hexponent hfew =>
      refine digitsValue_lt (fun c hc => ?_) ?_
      · rcases List.mem_append.mp hc with hc | hc
        · exact d.isDigit_of_mem_digits c hc
        · rw [List.eq_of_mem_replicate hc]
          rfl
      · rw [List.length_append, List.length_replicate]
        exact hfew
  | pointed hexponent hpos hlt hfew =>
      refine digitsValue_lt (htake _) ?_
      rw [List.length_take]
      omega
  | fractional hexponent => exact digitsValue_zero_lt
  | scientific hrest hfraction =>
      refine digitsValue_lt (htake 1) ?_
      rw [List.length_take]
      omega

theorem negative_literal (negative : Bool) (d : Decimal) :
    (d.literal negative).negative = negative := by
  have hlayout := d.layout_literal negative
  generalize d.literal negative = l at hlayout ⊢
  cases hlayout <;> rfl

/-- The literal of a decimal has a point or an exponent. -/
theorem integer?_literal (negative : Bool) (d : Decimal) :
    (d.literal negative).integer? = none := by
  have hlayout := d.layout_literal negative
  generalize d.literal negative = l at hlayout ⊢
  cases hlayout with
  | padded => rfl
  | pointed => rfl
  | fractional => rfl
  | @scientific fraction hrest hfraction => cases fraction <;> rfl

end Decimal

/-! ### Finite numbers -/

/-- A literal denotes a finite number if its parts are scaled to one. -/
theorem Literal.value?_of_scale? {l : Literal} (hreal : l.integer? = none)
    (h : ∃ y, scale? l.parts.1.toUInt64.toFloat l.parts.2 = some y ∧ isFinite y = true) :
    ∃ y, l.value? = some (.real y) ∧ isFinite y = true := by
  obtain ⟨y, hy, hfinite⟩ := h
  refine ⟨if l.negative then -y else y, ?_, ?_⟩
  · rw [value?, hreal]
    dsimp only
    rw [hy]
    rfl
  · split
    next => exact isFinite_neg hfinite
    next => exact hfinite

/-- **A literal that is not too large denotes a finite number.** -/
theorem Literal.exists_value? {l : Literal} (hreal : l.integer? = none)
    (h : digitsValue l.integer < 2 ^ 64) (hle : l.toRat ≤ belowLargest) :
    ∃ y, l.value? = some (.real y) ∧ isFinite y = true := by
  obtain ⟨hlt, hparts⟩ := parts_le h
  refine value?_of_scale? hreal ?_
  rcases Int.lt_or_le l.parts.2 0 with hneg | hnonneg
  · exact scale?_of_neg (isFinite_toFloat hlt) hneg
  · obtain ⟨k, hk⟩ := Int.eq_ofNat_of_zero_le hnonneg
    rw [hk, zpow_natCast] at hparts
    rw [hk]
    refine scale?_of_nonneg hlt ?_
    exact_mod_cast hparts.trans hle

/-- **The literal that a finite number is spelled as.** -/
def literalOf (x : Float) : Literal :=
  if (Binary.ofFloat x).mantissa = 0 then ⟨(Binary.ofFloat x).negative, ['0'], some ['0'], none⟩
  else (shortest .toEven (.ofFloat x)).literal (Binary.ofFloat x).negative

/-- The literal of the largest number denotes a finite one. -/
theorem exists_value?_largest (negative : Bool) :
    ∃ y, (Decimal.literal negative ⟨17976931348623157, 292⟩).value? = some (.real y) ∧
      isFinite y = true := by
  refine Literal.value?_of_scale? (Decimal.integer?_literal negative _) ?_
  have hparts : (Decimal.literal negative ⟨17976931348623157, 292⟩).parts =
      (17976931348623157, 292) := by
    cases negative <;> decide +kernel
  have hfinite : isFinite ((17976931348623157 : Nat).toUInt64.toFloat * powerOfTen 292) = true := by
    decide +kernel
  refine ⟨(17976931348623157 : Nat).toUInt64.toFloat * powerOfTen 292, ?_, hfinite⟩
  rw [hparts, scale?, if_pos (by decide), if_pos (by decide)]
  have hexponent : (292 : Int).toNat = 292 := rfl
  simp only [hexponent, isInf_of_isFinite hfinite, Bool.false_eq_true, if_false]

/-- **The literal of a finite number denotes a finite one.** -/
theorem exists_value?_literalOf {x : Float} (h : isFinite x = true) :
    ∃ y, (literalOf x).value? = some (.real y) ∧ isFinite y = true := by
  unfold literalOf
  split
  next =>
    refine Literal.exists_value? rfl digitsValue_zero_lt ?_
    have hzero : digitsValue (['0'] ++ ['0']) = 0 := rfl
    rw [Literal.toRat]
    dsimp only [Literal.places, Literal.power, Option.getD_some]
    rw [hzero, Nat.cast_zero, zero_mul]
    exact Nat.cast_nonneg belowLargest
  next hne =>
    rcases shortest_of_isFinite h hne with heq | hle
    · rw [heq]
      exact exists_value?_largest _
    · refine Literal.exists_value? (Decimal.integer?_literal _ _)
        (Decimal.digitsValue_literal_lt _ _) ?_
      rwa [Decimal.toRat_literal]

end FigureScript.Number
