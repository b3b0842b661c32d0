import FigureScript.Proofs.Json.Numbers
import FigureScript.Proofs.Number.Literal

/-!
# Real numbers read again

A finite number is spelled as its literal, and the reader takes that literal off the text.
So every finite number that is written is read again as a finite number, though not always
as the same one.

## Main Definitions

* `Literal.spelling` — the characters of a literal
* `reread` — what a number is read as once it has been written

## Main Results

* `readLiteral_spelling` — a literal is read off its spelling
* `jsonText_eq` — a finite number is spelled as its literal
* `exists_readsAs`, `isFinite_reread` — finite numbers are read again as finite ones
-/

namespace FigureScript.Number

/-- The spelling of an exponent. -/
def exponentText (negative : Bool) (digits : List Char) : List Char :=
  'e' :: (if negative then '-' else '+') :: digits

/-- **The spelling of a literal**, without its sign. -/
def Literal.spelling (l : Literal) : List Char :=
  l.integer ++ (l.fraction.elim [] ('.' :: ·) ++ l.exponent.elim [] fun e => exponentText e.1 e.2)

end FigureScript.Number

namespace FigureScript.Json

open Number Outcome

/-! ### Digits -/

/-- Decimal digits, at least one. -/
def IsDigits (text : List Char) : Prop :=
  text ≠ [] ∧ ∀ c ∈ text, c.isDigit = true

theorem IsDigits.read {digits rest : List Char} (h : IsDigits digits)
    (hrest : Stops Char.isDigit rest) : readDigits (digits ++ rest) = .ok (digits, rest) :=
  readDigits_append h.1 h.2 hrest

theorem isDigits_toDigits (n : Nat) : IsDigits (Nat.toDigits 10 n) :=
  ⟨Nat.toDigits_ne_nil, fun _ hc => Nat.isDigit_of_mem_toDigits (by decide) (by decide) hc⟩

theorem IsDigits.append {digits digits' : List Char} (h : ∀ c ∈ digits, c.isDigit = true)
    (h' : IsDigits digits') : IsDigits (digits ++ digits') := by
  refine ⟨List.append_ne_nil_of_right_ne_nil _ h'.1, fun c hc => ?_⟩
  rcases List.mem_append.mp hc with hc | hc
  · exact h c hc
  · exact h'.2 c hc

/-- Digits of an integer: a zero, or digits that do not start with one. -/
def IsInteger (text : List Char) : Prop :=
  text = ['0'] ∨ IsDigits text ∧ text.head? ≠ some '0'

theorem IsInteger.read {digits rest : List Char} (h : IsInteger digits)
    (hrest : Stops Char.isDigit rest) : readInteger (digits ++ rest) = .ok (digits, rest) := by
  rcases h with rfl | ⟨⟨hne, hdigits⟩, hzero⟩
  · exact readInteger_zero hrest
  · exact readInteger_append hne hdigits hzero hrest

/-! ### Spelled literals -/

/-- An exponent is read off its spelling. -/
theorem readExponent_exponentText {negative : Bool} {digits : List Char} (h : IsDigits digits) :
    readExponent (exponentText negative digits) = .ok (some (negative, digits), []) := by
  have hread := h.read Stops.nil
  rw [List.append_nil] at hread
  rw [exponentText, readExponent_mark (.inl rfl)]
  cases negative with
  | false =>
      change (readDigits digits >>= fun read => pure (some (false, read.1), read.2)) = _
      rw [hread]
      rfl
  | true =>
      change (readDigits digits >>= fun read => pure (some (true, read.1), read.2)) = _
      rw [hread]
      rfl

/-- The parts of a literal are digits. -/
structure WellFormed (l : Literal) : Prop where
  integer : IsInteger l.integer
  fraction : ∀ digits ∈ l.fraction, IsDigits digits
  exponent : ∀ e ∈ l.exponent, IsDigits e.2

/-- **A literal is read off its spelling.** -/
theorem readLiteral_spelling {l : Literal} (h : WellFormed l) :
    readLiteral l.negative l.spelling = .ok (l, []) := by
  obtain ⟨negative, integer, fraction, exponent⟩ := l
  obtain ⟨hi, hf, he⟩ := h
  have hexponent : readExponent (exponent.elim [] fun e => exponentText e.1 e.2) =
      .ok (exponent, []) := by
    cases exponent with
    | none => rfl
    | some e => exact readExponent_exponentText (he e rfl)
  have hmark : Stops isFractionChar (exponent.elim [] fun e => exponentText e.1 e.2) := by
    cases exponent with
    | none => exact Stops.nil
    | some e => exact stops_cons.mpr (by decide)
  change readLiteral negative (integer ++ (fraction.elim [] ('.' :: ·) ++
    exponent.elim [] fun e => exponentText e.1 e.2)) = _
  generalize (exponent.elim [] fun e => exponentText e.1 e.2) = mark at hexponent hmark ⊢
  have hfraction : readFraction (fraction.elim [] ('.' :: ·) ++ mark) = .ok (fraction, mark) := by
    cases fraction with
    | none => exact readFraction_absent hmark
    | some digits =>
        rw [Option.elim_some, List.cons_append, readFraction, (hf digits rfl).read hmark.isDigit]
        rfl
  have hpoint : Stops Char.isDigit (fraction.elim [] ('.' :: ·) ++ mark) := by
    cases fraction with
    | none => exact hmark.isDigit
    | some digits => exact stops_cons.mpr (by decide)
  unfold readLiteral
  simp only [hi.read hpoint, hfraction, hexponent, bind, Except.bind, pure, Except.pure]

/-! ### The literal of a decimal -/

section Decimals

variable {d : Decimal}

/-- Digits in front of others keep the first one. -/
theorem isInteger_append {digits digits' : List Char} (h : IsDigits digits)
    (hzero : digits.head? ≠ some '0') (h' : ∀ c ∈ digits', c.isDigit = true) :
    IsInteger (digits ++ digits') := by
  refine .inr ⟨⟨List.append_ne_nil_of_left_ne_nil h.1 _, fun c hc => ?_⟩, ?_⟩
  · rcases List.mem_append.mp hc with hc | hc
    · exact h.2 c hc
    · exact h' c hc
  · cases digits with
    | nil => exact absurd rfl h.1
    | cons d digits => exact hzero

/-- The first digits are an integer, as they do not start with a zero. -/
theorem isInteger_take (h : 0 < d.coefficient) {n : Nat} (hn : 0 < n) :
    IsInteger (d.digits.take n) := by
  have hdigits : IsDigits d.digits := isDigits_toDigits _
  have hhead : d.digits.head? ≠ some '0' := head?_toDigits h
  refine .inr ⟨⟨?_, fun c hc => hdigits.2 c (List.mem_of_mem_take hc)⟩, ?_⟩
  · rw [Ne, List.take_eq_nil_iff]
    rintro (hzero | hnil)
    · exact absurd hzero (Nat.ne_of_gt hn)
    · exact hdigits.1 hnil
  · rwa [List.head?_take, if_neg (Nat.ne_of_gt hn)]

theorem isDigits_drop {n : Nat} (hn : n < d.digits.length) : IsDigits (d.digits.drop n) := by
  refine ⟨?_, fun c hc => (isDigits_toDigits _).2 c (List.mem_of_mem_drop hc)⟩
  rw [Ne, List.drop_eq_nil_iff]
  exact Nat.not_le_of_lt hn

theorem isDigit_of_mem_replicate {n : Nat} : ∀ c ∈ List.replicate n '0', c.isDigit = true := by
  intro c hc
  rw [List.eq_of_mem_replicate hc]
  rfl

/-- The literal of a positive decimal can be read. -/
theorem wellFormed_literal (negative : Bool) (h : 0 < d.coefficient) :
    WellFormed (d.literal negative) := by
  have hlayout := d.layout_literal negative
  have hdigits : IsDigits d.digits := isDigits_toDigits _
  generalize d.literal negative = l at hlayout ⊢
  cases hlayout with
  | padded hexponent hfew =>
      refine ⟨isInteger_append hdigits (head?_toDigits h) isDigit_of_mem_replicate, ?_, nofun⟩
      rintro _ ⟨⟩
      exact isDigits_toDigits 0
  | pointed hexponent hpos hlt hfew =>
      refine ⟨isInteger_take h hpos, ?_, nofun⟩
      rintro _ ⟨⟩
      exact isDigits_drop hlt
  | fractional hexponent =>
      refine ⟨.inl rfl, ?_, nofun⟩
      rintro _ ⟨⟩
      exact IsDigits.append isDigit_of_mem_replicate hdigits
  | scientific hrest hfraction =>
      refine ⟨isInteger_take h Nat.one_pos, ?_, ?_⟩
      · rintro digits rfl
        have hne : digits ≠ [] := hfraction digits rfl
        change digits = d.digits.drop 1 at hrest
        exact ⟨hne, fun c hc => hdigits.2 c (List.mem_of_mem_drop (hrest ▸ hc))⟩
      · rintro _ ⟨⟩
        exact isDigits_toDigits _

/-- **A decimal is spelled as its literal.** -/
theorem spelling_literal (negative : Bool) :
    (d.literal negative).spelling =
      if -5 ≤ d.leadingExponent ∧ d.leadingExponent ≤ 15 then
        positional d.digits d.exponent ++ (if 0 ≤ d.exponent then ['.', '0'] else [])
      else scientific true d.digits d.leadingExponent := by
  unfold Decimal.literal
  dsimp only
  split
  next =>
    unfold positional
    split
    next => simp [Literal.spelling]
    next =>
      dsimp only
      split
      next => simp [Literal.spelling]
      next => simp [Literal.spelling]
  next =>
    have hmark : exponentText (decide (d.leadingExponent < 0))
        (Nat.toDigits 10 d.leadingExponent.natAbs) =
          'e' :: ((if d.leadingExponent < 0 then ['-'] else if true then ['+'] else []) ++
            Nat.toDigits 10 d.leadingExponent.natAbs) := by
      unfold exponentText
      split
      next hneg =>
        rw [if_pos (of_decide_eq_true hneg)]
        rfl
      next hneg =>
        rw [if_neg (mt decide_eq_true hneg)]
        rfl
    have hdigits : d.digits ≠ [] := Nat.toDigits_ne_nil
    unfold scientific Literal.spelling
    dsimp only
    rw [Option.elim_some, hmark]
    generalize d.digits = digits at hdigits
    rcases digits with _ | ⟨c, _ | ⟨c', rest⟩⟩
    · exact absurd rfl hdigits
    · rfl
    · rfl

end Decimals

/-! ### Numbers -/

theorem wellFormed_literalOf {x : Float} : WellFormed (literalOf x) := by
  unfold literalOf
  split
  next =>
    refine ⟨.inl rfl, ?_, nofun⟩
    intro digits hfraction
    obtain rfl := Option.some.inj hfraction
    exact isDigits_toDigits 0
  next hne =>
    exact wellFormed_literal _
      (Decimal.toRat_pos.mp (toRat_shortest .toEven (Nat.pos_of_ne_zero hne)).1)

/-- **A number is spelled as its literal**, behind its sign. -/
theorem jsonText_eq (x : Float) :
    (jsonText x).toList = signText (literalOf x).negative ++ (literalOf x).spelling := by
  rw [jsonText, String.toList_ofList, literalOf]
  split
  next => rfl
  next => rw [Decimal.negative_literal, spelling_literal]

/-- A literal starts with a digit. -/
theorem spelling_eq_cons {l : Literal} (h : WellFormed l) :
    ∃ c rest, l.spelling = c :: rest ∧ c.isDigit = true := by
  have hinteger : ∃ c rest, l.integer = c :: rest ∧ c.isDigit = true := by
    rcases h.integer with hzero | ⟨⟨hne, hdigits⟩, -⟩
    · exact ⟨'0', [], hzero, rfl⟩
    · obtain ⟨c, rest, heq⟩ := List.exists_cons_of_ne_nil hne
      exact ⟨c, rest, heq, hdigits c (heq ▸ List.mem_cons_self)⟩
  obtain ⟨c, rest, heq, hc⟩ := hinteger
  exact ⟨c, _, by rw [Literal.spelling, heq, List.cons_append], hc⟩

/-- **A finite number is read as a finite one** once it has been written. -/
theorem exists_readsAs {x : Float} (h : isFinite x = true) :
    ∃ y, ReadsAs (.real x) (.real y) ∧ isFinite y = true := by
  obtain ⟨y, hy, hfinite⟩ := exists_value?_literalOf h
  have hnumber : readNumber (literalOf x).negative (literalOf x).spelling = .ok (.real y, []) := by
    unfold readNumber
    simp only [readLiteral_spelling wellFormed_literalOf, hy, bind, Except.bind, pure, Except.pure]
  refine ⟨y, ?_, hfinite⟩
  change parse (jsonText x).toList = _
  rw [jsonText_eq]
  cases hsign : (literalOf x).negative with
  | false =>
      obtain ⟨c, rest, heq, hc⟩ := spelling_eq_cons (l := literalOf x) wellFormed_literalOf
      rw [hsign, heq] at hnumber
      change parse (literalOf x).spelling = _
      rw [heq, parse, readValue_digit hc, hnumber]
      rfl
  | true =>
      rw [hsign] at hnumber
      change parse ('-' :: (literalOf x).spelling) = _
      rw [parse, readValue_minus, hnumber]
      rfl

/-- **What a number is read as** once it has been written. -/
def reread (x : Float) : Float :=
  if isFinite x then
    match parse (jsonText x).toList with
    | .ok (.number (.real y)) => y
    | _ => x
  else x

/-- A finite number is read as what rereading gives. -/
theorem reread_of_isFinite {x : Float} (h : isFinite x = true) :
    ReadsAs (.real x) (.real (reread x)) ∧ isFinite (reread x) = true := by
  obtain ⟨y, hy, hfinite⟩ := exists_readsAs h
  have hreread : reread x = y := by
    have hparse : parse (jsonText x).toList = .ok (.number (.real y)) := hy
    unfold reread
    rw [if_pos h, hparse]
  rw [hreread]
  exact ⟨hy, hfinite⟩

/-- **Rereading keeps numbers finite**, and leaves the other ones alone. -/
theorem isFinite_reread (x : Float) : isFinite (reread x) = isFinite x := by
  cases h : isFinite x with
  | false =>
      unfold reread
      rw [if_neg (by rw [h]; decide), h]
  | true => exact (reread_of_isFinite h).2

end FigureScript.Json
