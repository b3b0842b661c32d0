import FigureScript.Json.Reader
import FigureScript.Proofs.Number.Spelling
import FigureScript.Proofs.Outcome
import Mathlib.Algebra.Group.Int.Defs
import Mathlib.Algebra.Group.Nat.Defs
import Mathlib.Data.List.TakeWhile

/-!
# Numbers read back

What the number reader takes off the front of a text does not depend on what stands
behind it, as long as the number does not go on there.  So a number is read inside of
lists and objects as it is when it stands alone.

## Main Definitions

* `Stops` — the next character of a text, if there is one, is none of some kind
* `ReadsAs` — what a number is read as, standing alone
* `ReadsBack` — a number survives being written and read again, standing alone

## Main Results

* `readNumber_part` — the reader of numbers is local
* `readsBack_integer` — the integers of a description file read back
* `ReadsAs.readValue` — a number is read in front of any text as it is alone

## Design Notes

For floating point numbers reading back is a condition on the two number notations, which
is asked of each number on its own.
-/

namespace FigureScript.Json

open Number Outcome

/-! ### Where a number ends -/

/-- The next character of a text, if there is one, is none of some kind. -/
def Stops (kind : Char → Bool) (text : List Char) : Prop :=
  ∀ c ∈ text.head?, kind c = false

theorem Stops.nil {kind : Char → Bool} : Stops kind [] := by
  simp [Stops]

theorem stops_cons {kind : Char → Bool} {c : Char} {rest : List Char} :
    Stops kind (c :: rest) ↔ kind c = false := by
  simp [Stops]

/-- The digits of an integer or of a fraction go on, or its point follows. -/
def isFractionChar (c : Char) : Bool :=
  c.isDigit || c = '.'

/-- A number goes on. -/
def isNumeralChar (c : Char) : Bool :=
  isFractionChar c || c = 'e' || c = 'E'

theorem Stops.isDigit {text : List Char} (h : Stops isFractionChar text) :
    Stops Char.isDigit text := by
  intro c hc
  have hc := h c hc
  simp only [isFractionChar, Bool.or_eq_false_iff] at hc
  exact hc.1

theorem Stops.isFractionChar {text : List Char} (h : Stops isNumeralChar text) :
    Stops isFractionChar text := by
  intro c hc
  have hc := h c hc
  simp only [isNumeralChar, Bool.or_eq_false_iff] at hc
  exact hc.1.1

theorem Stops.isMark {text : List Char} (h : Stops isNumeralChar text) :
    Stops (fun c => c = 'e' || c = 'E') text := by
  intro c hc
  have hc := h c hc
  rw [isNumeralChar, Bool.or_assoc, Bool.or_eq_false_iff] at hc
  exact hc.2

/-! ### Parts of a number -/

/-- Digits are read up to the first character that is none. -/
theorem readDigits_append {digits rest : List Char} (hne : digits ≠ [])
    (hdigits : ∀ c ∈ digits, c.isDigit = true) (hrest : Stops Char.isDigit rest) :
    readDigits (digits ++ rest) = .ok (digits, rest) := by
  cases digits with
  | nil => exact absurd rfl hne
  | cons d digits =>
      rw [List.forall_mem_cons] at hdigits
      have htake : rest.takeWhile Char.isDigit = [] ∧ rest.dropWhile Char.isDigit = rest := by
        cases rest with
        | nil => exact ⟨rfl, rfl⟩
        | cons c rest =>
            rw [stops_cons] at hrest
            rw [List.takeWhile_cons, List.dropWhile_cons, hrest]
            exact ⟨rfl, rfl⟩
      rw [List.cons_append, readDigits, if_pos hdigits.1,
        List.takeWhile_append_of_pos hdigits.2, List.dropWhile_append_of_pos hdigits.2,
        htake.1, htake.2, List.append_nil]

theorem readDigits_eq_ok {text digits rest : List Char}
    (h : readDigits text = .ok (digits, rest)) :
    digits ≠ [] ∧ (∀ c ∈ digits, c.isDigit = true) ∧ text = digits ++ rest := by
  cases text with
  | nil => cases h
  | cons c text =>
      rw [readDigits] at h
      split at h
      next hc =>
        obtain ⟨rfl, rfl⟩ := Prod.mk.inj (Except.ok.inj h)
        refine ⟨List.cons_ne_nil _ _, ?_, ?_⟩
        · rw [List.forall_mem_cons]
          exact ⟨hc, List.all_eq_true.mp List.all_takeWhile⟩
        · rw [List.cons_append, List.takeWhile_append_dropWhile]
      next => cases h

/-- Digits that do not start with a zero are an integer. -/
theorem readInteger_append {digits rest : List Char} (hne : digits ≠ [])
    (hdigits : ∀ c ∈ digits, c.isDigit = true) (hzero : digits.head? ≠ some '0')
    (hrest : Stops Char.isDigit rest) :
    readInteger (digits ++ rest) = .ok (digits, rest) := by
  unfold readInteger
  split
  next c rest' heq =>
    cases digits with
    | nil => exact absurd rfl hne
    | cons d digits =>
        rw [List.cons_append, List.cons.injEq] at heq
        exact absurd (congrArg some heq.1) hzero
  next => exact readDigits_append hne hdigits hrest

/-- A zero is an integer if no digit follows. -/
theorem readInteger_zero {rest : List Char} (hrest : Stops Char.isDigit rest) :
    readInteger ('0' :: rest) = .ok (['0'], rest) := by
  cases rest with
  | nil => rfl
  | cons c rest =>
      rw [stops_cons] at hrest
      rw [readInteger, hrest]
      rfl

theorem readInteger_part {text digits rest : List Char}
    (h : readInteger text = .ok (digits, rest)) :
    text = digits ++ rest ∧
      ∀ rest', Stops Char.isDigit rest' → readInteger (digits ++ rest') = .ok (digits, rest') := by
  unfold readInteger at h
  split at h
  next c text =>
    split at h
    next => cases h
    next =>
      obtain ⟨rfl, rfl⟩ := Prod.mk.inj (Except.ok.inj h)
      exact ⟨rfl, fun rest' => readInteger_zero⟩
  next hsingle =>
    obtain ⟨hne, hall, rfl⟩ := readDigits_eq_ok h
    refine ⟨rfl, fun rest' hrest' => ?_⟩
    by_cases hzero : digits.head? = some '0'
    · -- a zero stands alone, or the text would begin with a zero and another digit
      obtain ⟨digits, rfl⟩ := List.head?_eq_some_iff.mp hzero
      cases digits with
      | nil => exact readInteger_zero hrest'
      | cons d digits => exact absurd rfl (hsingle d (digits ++ rest))
    · exact readInteger_append hne hall hzero hrest'

/-- Without a point there is no fraction. -/
theorem readFraction_absent {text : List Char} (h : Stops isFractionChar text) :
    readFraction text = .ok (none, text) := by
  unfold readFraction
  split
  next =>
    rw [stops_cons] at h
    cases h
  next => rfl

theorem readFraction_part {text rest : List Char} {fraction : Option (List Char)}
    (h : readFraction text = .ok (fraction, rest)) :
    ∃ part, text = part ++ rest ∧
      (∀ rest', Stops Char.isDigit rest' → Stops Char.isDigit (part ++ rest')) ∧
      ∀ rest', Stops isFractionChar rest' →
        readFraction (part ++ rest') = .ok (fraction, rest') := by
  unfold readFraction at h
  split at h
  next text =>
    obtain ⟨⟨digits, rest⟩, hdigits, h⟩ := bind_eq_ok.mp h
    obtain ⟨rfl, rfl⟩ := Prod.mk.inj (Except.ok.inj h)
    obtain ⟨hne, hall, rfl⟩ := readDigits_eq_ok hdigits
    refine ⟨'.' :: digits, rfl, fun rest' _ => stops_cons.mpr (by decide), fun rest' hrest' => ?_⟩
    rw [List.cons_append, readFraction, readDigits_append hne hall hrest'.isDigit]
    rfl
  next hpoint =>
    obtain ⟨rfl, rfl⟩ := Prod.mk.inj (Except.ok.inj h)
    refine ⟨[], rfl, fun rest' h => h, fun rest' hrest' => ?_⟩
    exact readFraction_absent hrest'

/-- The sign of an exponent and what follows it. -/
def exponentSign : List Char → Bool × List Char
  | '+' :: rest => (false, rest)
  | '-' :: rest => (true, rest)
  | rest => (false, rest)

theorem readExponent_mark {c : Char} (hc : c = 'e' ∨ c = 'E') (rest : List Char) :
    readExponent (c :: rest) = do
      let (digits, rest') ← readDigits (exponentSign rest).2
      return (some ((exponentSign rest).1, digits), rest') := by
  have hmark : (c = 'e' || c = 'E') = true := by
    rcases hc with rfl | rfl <;> rfl
  have hbranch : readExponent (c :: rest) =
      if (c = 'e' || c = 'E') = true then do
        let (digits, rest') ← readDigits (exponentSign rest).2
        return (some ((exponentSign rest).1, digits), rest')
      else .ok (none, c :: rest) :=
    rfl
  rw [hbranch, if_pos hmark]

/-- Without a mark there is no exponent. -/
theorem readExponent_absent {text : List Char} (h : Stops (fun c => c = 'e' || c = 'E') text) :
    readExponent text = .ok (none, text) := by
  cases text with
  | nil => rfl
  | cons c text =>
      rw [stops_cons] at h
      unfold readExponent
      simp only [h, Bool.false_eq_true, if_false]

/-- A sign is taken off the front of the digits, whatever these are. -/
theorem exponentSign_part {text digits rest : List Char}
    (h : readDigits (exponentSign text).2 = .ok (digits, rest)) :
    ∃ part, text = part ++ rest ∧ ∀ rest', Stops Char.isDigit rest' →
      (exponentSign (part ++ rest')).1 = (exponentSign text).1 ∧
        readDigits (exponentSign (part ++ rest')).2 = .ok (digits, rest') := by
  obtain ⟨hne, hall, htext⟩ := readDigits_eq_ok h
  unfold exponentSign at htext ⊢
  split at htext
  next text =>
    refine ⟨'+' :: digits, congrArg _ htext, fun rest' hrest' => ⟨rfl, ?_⟩⟩
    exact readDigits_append hne hall hrest'
  next text =>
    refine ⟨'-' :: digits, congrArg _ htext, fun rest' hrest' => ⟨rfl, ?_⟩⟩
    exact readDigits_append hne hall hrest'
  next hplus hminus =>
    refine ⟨digits, htext, fun rest' hrest' => ?_⟩
    -- the first digit is no sign
    cases digits with
    | nil => exact absurd rfl hne
    | cons d digits =>
        have hd := hall d List.mem_cons_self
        rw [List.cons_append]
        split
        next heq =>
          cases heq
          cases hd
        next heq =>
          cases heq
          cases hd
        next => exact ⟨rfl, readDigits_append hne hall hrest'⟩

theorem readExponent_part {text rest : List Char} {exponent : Option (Bool × List Char)}
    (h : readExponent text = .ok (exponent, rest)) :
    ∃ part, text = part ++ rest ∧
      (∀ rest', Stops isFractionChar rest' → Stops isFractionChar (part ++ rest')) ∧
      ∀ rest', Stops isNumeralChar rest' →
        readExponent (part ++ rest') = .ok (exponent, rest') := by
  by_cases hmark : Stops (fun c => c = 'e' || c = 'E') text
  · rw [readExponent_absent hmark] at h
    obtain ⟨rfl, rfl⟩ := Prod.mk.inj (Except.ok.inj h)
    exact ⟨[], rfl, fun _ h => h, fun rest' hrest' => readExponent_absent hrest'.isMark⟩
  · cases text with
    | nil => exact absurd Stops.nil hmark
    | cons c text =>
        have hc : c = 'e' ∨ c = 'E' := or_iff_not_imp_left.mpr (by simpa [stops_cons] using hmark)
        rw [readExponent_mark hc, bind_eq_ok] at h
        obtain ⟨⟨digits, rest⟩, hdigits, h⟩ := h
        obtain ⟨rfl, rfl⟩ := Prod.mk.inj (Except.ok.inj h)
        obtain ⟨part, rfl, hpart⟩ := exponentSign_part hdigits
        refine ⟨c :: part, rfl, fun rest' _ => stops_cons.mpr ?_, fun rest' hrest' => ?_⟩
        · rcases hc with rfl | rfl <;> rfl
        · obtain ⟨hsign, hread⟩ := hpart rest' hrest'.isFractionChar.isDigit
          rw [List.cons_append, readExponent_mark hc, hread, hsign]
          rfl

/-! ### Whole numbers -/

/-- **The reader of literals is local**: what it reads off a text, it reads in front of
any other one into which the literal does not go on. -/
theorem readLiteral_part {negative : Bool} {text rest : List Char} {literal : Literal}
    (h : readLiteral negative text = .ok (literal, rest)) :
    ∃ part, text = part ++ rest ∧ ∀ rest', Stops isNumeralChar rest' →
      readLiteral negative (part ++ rest') = .ok (literal, rest') := by
  unfold readLiteral at h
  obtain ⟨⟨integer, afterInteger⟩, hi, h⟩ := bind_eq_ok.mp h
  obtain ⟨⟨fraction, afterFraction⟩, hf, h⟩ := bind_eq_ok.mp h
  obtain ⟨⟨exponent, afterExponent⟩, he, h⟩ := bind_eq_ok.mp h
  obtain ⟨rfl, rfl⟩ := Prod.mk.inj (Except.ok.inj h)
  obtain ⟨rfl, hinteger⟩ := readInteger_part hi
  obtain ⟨point, rfl, hpoint, hfraction⟩ := readFraction_part hf
  obtain ⟨mark, rfl, hmark, hexponent⟩ := readExponent_part he
  refine ⟨integer ++ (point ++ mark), by simp only [List.append_assoc], fun rest' hrest' => ?_⟩
  -- each part is read in front of the next one, from the last part backwards
  have hafter := hmark rest' hrest'.isFractionChar
  have hi' := hinteger _ (hpoint _ hafter.isDigit)
  have hf' := hfraction _ hafter
  have he' := hexponent _ hrest'
  unfold readLiteral
  simp only [List.append_assoc, hi', hf', he', bind, Except.bind, pure, Except.pure]

/-- **The reader of numbers is local.** -/
theorem readNumber_part {negative : Bool} {text rest : List Char} {n : Numeral}
    (h : readNumber negative text = .ok (n, rest)) :
    ∃ part, text = part ++ rest ∧ ∀ rest', Stops isNumeralChar rest' →
      readNumber negative (part ++ rest') = .ok (n, rest') := by
  unfold readNumber at h
  obtain ⟨⟨literal, rest⟩, hliteral, h⟩ := bind_eq_ok.mp h
  dsimp only at h
  split at h
  next value hvalue =>
    obtain ⟨rfl, rfl⟩ := Prod.mk.inj (Except.ok.inj h)
    obtain ⟨part, rfl, hpart⟩ := readLiteral_part hliteral
    refine ⟨part, rfl, fun rest' hrest' => ?_⟩
    unfold readNumber
    simp only [hpart rest' hrest', bind, Except.bind, pure, Except.pure, hvalue]
  next => cases h

/-! ### Numbers as values -/

theorem skipBlank_cons {c : Char} (hc : isBlank c = false) (text : List Char) :
    skipBlank (c :: text) = c :: text := by
  rw [skipBlank, List.dropWhile_cons_of_neg (by simp [hc])]

/-- A digit is no blank. -/
theorem isBlank_of_isDigit {c : Char} (hc : c.isDigit = true) : isBlank c = false := by
  rw [← Bool.not_eq_true]
  intro hblank
  simp only [isBlank, Bool.or_eq_true, decide_eq_true_eq] at hblank
  rcases hblank with ((rfl | rfl) | rfl) | rfl <;> cases hc

theorem isBlank_of_isNumberChar {c : Char} (hc : IsNumberChar c) : isBlank c = false := by
  rcases hc with hc | hc
  · exact isBlank_of_isDigit hc
  · simp only [List.mem_cons, List.not_mem_nil, or_false] at hc
    rcases hc with rfl | rfl | rfl | rfl <;> rfl

/-- At a digit a number begins. -/
theorem readValue_digit {c : Char} (hc : c.isDigit = true) (depth : Nat) (text : List Char) :
    readValue depth (c :: text) = do
      let (n, rest) ← readNumber false (c :: text)
      return (.number n, rest) := by
  have hne {d : Char} (hd : d.isDigit = false) : c ≠ d := by
    rintro rfl
    rw [hc] at hd
    cases hd
  unfold readValue
  rw [skipBlank_cons (isBlank_of_isDigit hc)]
  dsimp only
  rw [if_neg (hne (by decide)), if_neg (hne (by decide)), if_neg (hne (by decide)),
    if_neg (hne (by decide)), if_neg (hne (by decide)), if_pos hc]

/-- At a minus sign a number begins. -/
theorem readValue_minus (depth : Nat) (text : List Char) :
    readValue depth ('-' :: text) = do
      let (n, rest) ← readNumber true text
      return (.number n, rest) := by
  unfold readValue
  rw [skipBlank_cons (by decide)]
  rfl

/-- **A number is read as another one** when its notation stands alone. -/
def ReadsAs (n m : Numeral) : Prop :=
  parse n.text.toList = .ok (.number m)

/-- **A number survives being written and read again**, standing alone. -/
def ReadsBack (n : Numeral) : Prop :=
  parse n.text.toList = .ok (.number n)

theorem ReadsBack.readsAs {n : Numeral} (h : ReadsBack n) : ReadsAs n n :=
  h

theorem expectEnd_eq_ok {text : List Char} (h : expectEnd text = .ok ()) :
    ∀ c ∈ text, isBlank c = true := by
  unfold expectEnd at h
  split at h
  next hskip => exact List.dropWhile_eq_nil_iff.mp hskip
  next => cases h

/-- Characters of a number that nothing but blanks is left of are all taken. -/
theorem eq_nil_of_expectEnd {part rest : List Char} (hchars : NumberChars (part ++ rest))
    (hend : expectEnd rest = .ok ()) : rest = [] := by
  cases rest with
  | nil => rfl
  | cons c rest =>
      have hblank := expectEnd_eq_ok hend c List.mem_cons_self
      have hnumber := hchars c (List.mem_append_right part List.mem_cons_self)
      rw [isBlank_of_isNumberChar hnumber] at hblank
      cases hblank

/-- A text of number characters that is read as a value starts with a digit or a minus
sign. -/
theorem isDigit_or_minus_of_parse {c : Char} {text : List Char} {value : Value}
    (hc : IsNumberChar c) (h : parse (c :: text) = .ok value) : c.isDigit = true ∨ c = '-' := by
  rcases hc with hc | hc
  · exact .inl hc
  · simp only [List.mem_cons, List.not_mem_nil, or_false] at hc
    rcases hc with rfl | rfl | rfl | rfl
    · cases h
    · exact .inr rfl
    · cases h
    · cases h

theorem ReadsAs.startsNumber {n m : Numeral} (h : ReadsAs n m) :
    ∃ c rest, n.text.toList = c :: rest ∧ IsNumberChar c := by
  cases htext : n.text.toList with
  | nil =>
      rw [ReadsAs, htext] at h
      cases h
  | cons c rest => exact ⟨c, rest, rfl, n.text_chars c (htext ▸ List.mem_cons_self)⟩

/-- **A number is read in front of any text** into which it does not go on as it is when
it stands alone. -/
theorem ReadsAs.readValue {n m : Numeral} (h : ReadsAs n m) (depth : Nat) {rest : List Char}
    (hrest : Stops isNumeralChar rest) :
    readValue depth (n.text.toList ++ rest) = .ok (.number m, rest) := by
  have hchars := n.text_chars
  unfold ReadsAs at h
  generalize n.text.toList = text at h hchars
  cases text with
  | nil => cases h
  | cons c text =>
      rcases isDigit_or_minus_of_parse (hchars c List.mem_cons_self) h with hc | rfl
      · rw [parse, readValue_digit hc] at h
        obtain ⟨⟨value, left⟩, hvalue, h⟩ := bind_eq_ok.mp h
        obtain ⟨⟨n', left'⟩, hnumber, hvalue⟩ := bind_eq_ok.mp hvalue
        obtain ⟨rfl, rfl⟩ := Prod.mk.inj (Except.ok.inj hvalue)
        obtain ⟨⟨⟩, hend, h⟩ := bind_eq_ok.mp h
        cases h
        obtain ⟨part, htext, hpart⟩ := readNumber_part hnumber
        rw [htext] at hchars
        rw [eq_nil_of_expectEnd hchars hend, List.append_nil] at htext
        have hread := hpart rest hrest
        rw [← htext, List.cons_append] at hread
        rw [List.cons_append, readValue_digit hc, hread]
        rfl
      · rw [parse, readValue_minus] at h
        obtain ⟨⟨value, left⟩, hvalue, h⟩ := bind_eq_ok.mp h
        obtain ⟨⟨n', left'⟩, hnumber, hvalue⟩ := bind_eq_ok.mp hvalue
        obtain ⟨rfl, rfl⟩ := Prod.mk.inj (Except.ok.inj hvalue)
        obtain ⟨⟨⟩, hend, h⟩ := bind_eq_ok.mp h
        cases h
        obtain ⟨part, rfl, hpart⟩ := readNumber_part hnumber
        rw [← List.cons_append] at hchars
        rw [eq_nil_of_expectEnd hchars hend, List.append_nil, List.cons_append,
          readValue_minus, hpart rest hrest]
        rfl

/-! ### Integers -/

/-- Only zero starts with a zero. -/
theorem head?_toDigits {n : Nat} (h : 0 < n) : (Nat.toDigits 10 n).head? ≠ some '0' := by
  induction n using Nat.strongRecOn with
  | ind n ih =>
      by_cases hsmall : n < 10
      · rw [Nat.toDigits_of_lt_base hsmall]
        have hall : ∀ n < 10, 0 < n → [n.digitChar].head? ≠ some '0' := by decide
        exact hall n hsmall h
      · have hdiv : 0 < n / 10 := by omega
        have hhead := ih (n / 10) (by omega) hdiv
        rw [Nat.toDigits_of_base_le (by decide) (by omega), List.head?_append]
        cases hdigits : (Nat.toDigits 10 (n / 10)).head? with
        | none =>
            rw [List.head?_eq_none_iff] at hdigits
            exact absurd hdigits Nat.toDigits_ne_nil
        | some c =>
            rw [hdigits] at hhead
            exact hhead

/-- The digits of a natural number are the integer part of a literal. -/
theorem readInteger_toDigits (n : Nat) :
    readInteger (Nat.toDigits 10 n) = .ok (Nat.toDigits 10 n, []) := by
  rcases Nat.eq_zero_or_pos n with rfl | hpos
  · rfl
  · have hdigits : ∀ c ∈ Nat.toDigits 10 n, c.isDigit = true := fun c hc =>
      Nat.isDigit_of_mem_toDigits (by decide) (by decide) hc
    have hread := readInteger_append Nat.toDigits_ne_nil hdigits (head?_toDigits hpos) Stops.nil
    rwa [List.append_nil] at hread

/-- The literal of a natural number behind a sign. -/
def digitLiteral (negative : Bool) (n : Nat) : Literal :=
  ⟨negative, Nat.toDigits 10 n, none, none⟩

theorem readNumber_toDigits {negative : Bool} {n : Nat} {value : Numeral}
    (hvalue : (digitLiteral negative n).value? = some value) :
    readNumber negative (Nat.toDigits 10 n) = .ok (value, []) := by
  have hliteral : readLiteral negative (Nat.toDigits 10 n) = .ok (digitLiteral negative n, []) := by
    unfold readLiteral
    rw [readInteger_toDigits]
    rfl
  unfold readNumber
  simp only [hliteral, hvalue, bind, Except.bind, pure, Except.pure]

/-- Natural numbers of 64 bits read back. -/
theorem readsBack_nat {n : Nat} (h : n < 2 ^ 64) : ReadsBack (.integer n) := by
  have htext : (Numeral.integer n).text.toList = Nat.toDigits 10 n := Nat.toList_repr
  have hvalue : (digitLiteral false n).value? = some (.integer n) := by
    have hinteger : (digitLiteral false n).integer? = some (n : Int) := by
      change (if digitsValue (Nat.toDigits 10 n) < Nat.pow 2 64 then
        some (digitsValue (Nat.toDigits 10 n) : Int) else none) = _
      rw [digitsValue_toDigits]
      exact if_pos h
    rw [Literal.value?, hinteger]
  have hnumber := readNumber_toDigits hvalue
  rw [ReadsBack, htext]
  cases hdigits : Nat.toDigits 10 n with
  | nil => exact absurd hdigits Nat.toDigits_ne_nil
  | cons c digits =>
      have hc : c.isDigit = true :=
        Nat.isDigit_of_mem_toDigits (by decide) (by decide) (hdigits ▸ List.mem_cons_self)
      rw [parse, readValue_digit hc, ← hdigits, hnumber]
      rfl

/-- Negative numbers of 64 bits read back. -/
theorem readsBack_negSucc {n : Nat} (h : n < 2 ^ 63) : ReadsBack (.integer (.negSucc n)) := by
  have htext : (Numeral.integer (.negSucc n)).text.toList = '-' :: Nat.toDigits 10 (n + 1) := by
    change ("-" ++ (n + 1).repr).toList = _
    rw [String.toList_append, Nat.toList_repr]
    rfl
  have hvalue : (digitLiteral true (n + 1)).value? = some (.integer (.negSucc n)) := by
    have hinteger : (digitLiteral true (n + 1)).integer? = some (.negSucc n) := by
      change (if 0 < digitsValue (Nat.toDigits 10 (n + 1)) ∧
          digitsValue (Nat.toDigits 10 (n + 1)) ≤ Nat.pow 2 63 then
        some (-(digitsValue (Nat.toDigits 10 (n + 1)) : Int)) else none) = _
      rw [digitsValue_toDigits]
      exact if_pos ⟨n.succ_pos, h⟩
    rw [Literal.value?, hinteger]
  rw [ReadsBack, htext, parse, readValue_minus, readNumber_toDigits hvalue]
  rfl

/-- **Signed integers of 64 bits read back.** -/
theorem readsBack_integer {n : Int} (hlow : -2 ^ 63 ≤ n) (hhigh : n < 2 ^ 63) :
    ReadsBack (.integer n) := by
  cases n with
  | ofNat n =>
      have hn : n < 2 ^ 64 := by
        have hn : (n : Int) < 2 ^ 63 := hhigh
        omega
      exact readsBack_nat hn
  | negSucc n => exact readsBack_negSucc (by omega)

end FigureScript.Json
