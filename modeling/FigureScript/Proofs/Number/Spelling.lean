import FigureScript.Number.Numeral

/-!
# The characters of numbers

Every notation of a finite number is spelled with digits, a point, a sign and the mark
of an exponent.

## Main Definitions

* `IsNumberChar` — a character of a finite number

## Main Results

* `finiteScriptText_chars`, `finiteFixedText_chars` — the notations of scripts
* `jsonText_chars`, `Numeral.text_chars` — the notation of description files
-/

namespace FigureScript.Number

/-- **A character of a finite number.** -/
def IsNumberChar (c : Char) : Prop :=
  c.isDigit = true ∨ c ∈ ['.', '-', '+', 'e']

/-- Nothing but characters of finite numbers. -/
def NumberChars (text : List Char) : Prop :=
  ∀ c ∈ text, IsNumberChar c

namespace NumberChars

variable {text text' : List Char} {c : Char}

theorem nil : NumberChars [] := by
  simp [NumberChars]

theorem append (h : NumberChars text) (h' : NumberChars text') : NumberChars (text ++ text') := by
  intro c hc
  rcases List.mem_append.mp hc with hc | hc
  · exact h c hc
  · exact h' c hc

theorem cons (hc : IsNumberChar c) (h : NumberChars text) : NumberChars (c :: text) := by
  intro c' hc'
  rcases List.mem_cons.mp hc' with rfl | hc'
  · exact hc
  · exact h c' hc'

theorem replicate (n : Nat) (hc : IsNumberChar c) : NumberChars (List.replicate n c) := by
  intro c' hc'
  rw [List.eq_of_mem_replicate hc']
  exact hc

theorem take (n : Nat) (h : NumberChars text) : NumberChars (text.take n) :=
  fun c hc => h c (List.mem_of_mem_take hc)

theorem drop (n : Nat) (h : NumberChars text) : NumberChars (text.drop n) :=
  fun c hc => h c (List.mem_of_mem_drop hc)

/-- The decimal digits of a natural number. -/
theorem toDigits (n : Nat) : NumberChars (Nat.toDigits 10 n) :=
  fun _ hc => .inl (Nat.isDigit_of_mem_toDigits (by decide) (by decide) hc)

end NumberChars

open NumberChars

private theorem isNumberChar_point : IsNumberChar '.' := .inr (by decide)

private theorem isNumberChar_zero : IsNumberChar '0' := .inl (by decide)

theorem signText_chars (negative : Bool) : NumberChars (signText negative) := by
  cases negative with
  | false => exact nil
  | true => exact cons (.inr (by decide)) nil

theorem positional_chars {digits : List Char} (h : NumberChars digits) (exponent : Int) :
    NumberChars (positional digits exponent) := by
  unfold positional
  split
  · exact append h (replicate _ isNumberChar_zero)
  · dsimp only
    split
    · exact append (take _ h) (cons isNumberChar_point (drop _ h))
    · exact cons isNumberChar_zero
        (cons isNumberChar_point (append (replicate _ isNumberChar_zero) h))

theorem scientific_chars {digits : List Char} (h : NumberChars digits) (signPositive : Bool)
    (leading : Int) : NumberChars (scientific signPositive digits leading) := by
  unfold scientific
  refine append ?_ (cons (.inr (by decide)) (append ?_ (toDigits _)))
  · match digits, h with
    | [], _ => exact nil
    | [d], h => exact h
    | d :: e :: rest, h =>
        rw [NumberChars, List.forall_mem_cons] at h
        exact cons h.1 (cons isNumberChar_point h.2)
  · split
    · exact cons (.inr (by decide)) nil
    · cases signPositive with
      | false => exact nil
      | true => exact cons (.inr (by decide)) nil

/-- **A finite number in a script** is spelled with characters of numbers. -/
theorem finiteScriptText_chars (b : Binary) : NumberChars (finiteScriptText b) := by
  unfold finiteScriptText
  refine append (signText_chars _) ?_
  split
  · exact append (toDigits _) (cons isNumberChar_point (cons isNumberChar_zero nil))
  · dsimp only
    split
    · exact scientific_chars (toDigits _) _ _
    · exact positional_chars (toDigits _) _

/-- **A number with six places** is spelled with characters of numbers. -/
theorem finiteFixedText_chars (b : Binary) : NumberChars (finiteFixedText b) := by
  unfold finiteFixedText
  dsimp only
  refine append (append (signText_chars _) (toDigits _)) (cons isNumberChar_point ?_)
  exact append (replicate _ isNumberChar_zero) (toDigits _)

/-- **A number in a description file** is spelled with characters of numbers. -/
theorem jsonText_chars (value : Float) : NumberChars (jsonText value).toList := by
  rw [jsonText, String.toList_ofList]
  refine append (signText_chars _) ?_
  split
  · exact cons isNumberChar_zero (cons isNumberChar_point (cons isNumberChar_zero nil))
  · split
    · refine append (positional_chars (toDigits _) _) ?_
      split
      · exact cons isNumberChar_point (cons isNumberChar_zero nil)
      · exact nil
    · exact scientific_chars (toDigits _) _ _

theorem Numeral.text_chars (n : Numeral) : NumberChars n.text.toList := by
  match n with
  | .integer (.ofNat n) =>
      have htext : (Numeral.integer (.ofNat n)).text.toList = Nat.toDigits 10 n := Nat.toList_repr
      rw [htext]
      exact toDigits n
  | .integer (.negSucc n) =>
      have htext : (Numeral.integer (.negSucc n)).text = "-" ++ (n + 1).repr := rfl
      rw [htext, String.toList_append, Nat.toList_repr]
      exact append (cons (.inr (by decide)) nil) (toDigits (n + 1))
  | .real x => exact jsonText_chars x

/-- The digits of a natural number have it as their value. -/
theorem digitsValue_toDigits (n : Nat) : digitsValue (Nat.toDigits 10 n) = n :=
  Nat.ofDigitChars_ten_toDigits

/-- No quote is a character of a number. -/
theorem NumberChars.quote_notMem {text : List Char} (h : NumberChars text) : '"' ∉ text := by
  intro hmem
  have hquote := h '"' hmem
  revert hquote
  simp only [IsNumberChar]
  decide

end FigureScript.Number
