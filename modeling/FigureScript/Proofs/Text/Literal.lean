import FigureScript.Proofs.Text.Outline

/-!
# Literals read back

A reader of a script finds the end of a literal before it resolves its escapes: the closing
quote is the first one that no backslash protects.  So the literal of a text is read back when
its body has no other quote on its own, and when resolving the escapes of the body gives back
the text.

## Main Definitions

* `Quoted.Body` — what may stand between the quotes of a literal
* `Quoted.splitBody` — a body, and the code behind its closing quote
* `Quoted.read?` — the text of a literal that some code begins with

## Main Results

* `hexValue?_hexDigit` — a hexadecimal digit has its value
* `Quoted.decode_encode` — resolving the escapes of a text gives back the text
* `Quoted.Body.splitBody_append` — the end of a body is found
* `Quoted.literal_reads_back` — a literal is one visible line and is read as its text
-/

namespace FigureScript.Text

/-! ### Characters -/

theorem hexValue?_hexDigit {n : Nat} (h : n < 16) : hexValue? (hexDigit n) = some n := by
  have hall : ∀ n < 16, hexValue? (hexDigit n) = some n := by decide
  exact hall n h

/-- A hexadecimal digit is no control character. -/
theorem isControl_hexDigit {n : Nat} (h : n < 16) : isControl (hexDigit n) = false := by
  have hall : ∀ n < 16, isControl (hexDigit n) = false := by decide
  exact hall n h

namespace Quoted

/-! ### Bodies -/

/-- **What may stand between the quotes of a literal**: a quote and a backslash only behind a
backslash, and no backslash without a character that it protects. -/
inductive Body : List Char → Prop where
  | nil : Body []
  | plain {c : Char} {rest : List Char} (hslash : c ≠ '\\') (hquote : c ≠ '"')
      (hrest : Body rest) : Body (c :: rest)
  | escape {c : Char} {rest : List Char} (hrest : Body rest) : Body ('\\' :: c :: rest)

/-- A character is escaped wherever a body needs it. -/
theorem Body.escape_append (c : Char) {rest : List Char} (h : Body rest) :
    Body (Quoted.escape c ++ rest) := by
  unfold Quoted.escape
  split_ifs with hslash hquote hline hreturn htab hcontrol
  · exact .escape h
  · exact .escape h
  · exact .escape h
  · exact .escape h
  · exact .escape h
  · have hcode := code_lt_of_isControl hcontrol
    have hhigh := hexDigit_ne (n := c.toNat / 16) (by omega)
    have hlow := hexDigit_ne (n := c.toNat % 16) (by omega)
    exact .escape (.plain hhigh.2 hhigh.1 (.plain hlow.2 hlow.1 h))
  · exact .plain hslash hquote h

/-- The encoding of a text is a body. -/
theorem Body.encode (text : List Char) : Body (Quoted.encode text) := by
  induction text with
  | nil => exact .nil
  | cons c text ih =>
      show Body (Quoted.escape c ++ Quoted.encode text)
      exact ih.escape_append c

/-- No control character is left where a character was escaped. -/
theorem isControl_escape (c : Char) : ∀ c' ∈ escape c, isControl c' = false := by
  unfold escape
  split_ifs with hslash hquote hline hreturn htab hcontrol
  · simp [isControl]
  · simp [isControl]
  · simp [isControl]
  · simp [isControl]
  · simp [isControl]
  · have hcode := code_lt_of_isControl hcontrol
    have hhigh := isControl_hexDigit (n := c.toNat / 16) (by omega)
    have hlow := isControl_hexDigit (n := c.toNat % 16) (by omega)
    have hmark : isControl '\\' = false ∧ isControl 'x' = false := ⟨rfl, rfl⟩
    simp [hhigh, hlow, hmark]
  · simpa using hcontrol

/-! ### Escapes resolved -/

theorem decode_plain {c : Char} (hslash : c ≠ '\\') (hquote : c ≠ '"') (rest : List Char) :
    decode (c :: rest) = (decode rest).map (c :: ·) := by
  rw [decode]
  all_goals simp_all

/-- A character that is not printed is read from its two hexadecimal digits. -/
theorem decode_control {c : Char} (h : isControl c = true) (rest : List Char) :
    decode ('\\' :: 'x' :: hexDigit (c.toNat / 16) :: hexDigit (c.toNat % 16) :: rest) =
      (decode rest).map (c :: ·) := by
  have hcode := code_lt_of_isControl h
  have hhigh := hexValue?_hexDigit (n := c.toNat / 16) (by omega)
  have hlow := hexValue?_hexDigit (n := c.toNat % 16) (by omega)
  have hchar : Char.ofNat (16 * (c.toNat / 16) + c.toNat % 16) = c := by
    rw [Nat.div_add_mod, Char.ofNat_toNat]
  simp only [decode, hhigh, hlow]
  cases decode rest with
  | none => rfl
  | some text => simp [hchar]

/-- **An escaped character** is read as itself, whatever stands behind it. -/
theorem decode_escape (c : Char) (rest : List Char) :
    decode (escape c ++ rest) = (decode rest).map (c :: ·) := by
  unfold escape
  split_ifs with hslash hquote hline hreturn htab hcontrol
  · rw [hslash]
    rfl
  · rw [hquote]
    rfl
  · rw [hline]
    rfl
  · rw [hreturn]
    rfl
  · rw [htab]
    rfl
  · exact decode_control hcontrol rest
  · exact decode_plain hslash hquote rest

/-- **Resolving the escapes of a text gives back the text.** -/
theorem decode_encode (text : List Char) : decode (encode text) = some text := by
  induction text with
  | nil => rfl
  | cons c text ih =>
      show decode (escape c ++ encode text) = some (c :: text)
      rw [decode_escape, ih]
      rfl

/-! ### Literals in code -/

/-- The body of a literal and the code behind it, for a reader behind the opening quote: the
first quote that no backslash protects closes the literal. -/
def splitBody : List Char → Option (List Char × List Char)
  | [] => none
  | '"' :: rest => some ([], rest)
  | '\\' :: c :: rest => (splitBody rest).map fun (body, rest) => ('\\' :: c :: body, rest)
  | c :: rest => (splitBody rest).map fun (body, rest) => (c :: body, rest)

/-- **The text of a literal** that some code begins with, and the code behind it. -/
def read? : List Char → Option (String × List Char)
  | '"' :: code => do
    let (body, rest) ← splitBody code
    let text ← decode body
    return (String.ofList text, rest)
  | _ => none

/-- **The end of a body is found** at the quote behind it. -/
theorem Body.splitBody_append {body : List Char} (h : Body body) (rest : List Char) :
    splitBody (body ++ '"' :: rest) = some (body, rest) := by
  induction h with
  | nil => rfl
  | @plain c body hslash hquote hbody ih =>
      have hcons : splitBody (c :: (body ++ '"' :: rest)) =
          (splitBody (body ++ '"' :: rest)).map fun (body, rest) => (c :: body, rest) := by
        rw [splitBody]
        all_goals simp_all
      rw [List.cons_append, hcons, ih]
      rfl
  | @escape c body hbody ih =>
      show (splitBody (body ++ '"' :: rest)).map _ = _
      rw [ih]
      rfl

/-- A literal is read as its text, in front of any code. -/
theorem read?_literal (text : String) (rest : List Char) :
    read? ((literal text).toList ++ rest) = some (text, rest) := by
  have hbody : splitBody (encode text.toList ++ '"' :: rest) = some (encode text.toList, rest) :=
    (Body.encode text.toList).splitBody_append rest
  rw [literal, String.toList_ofList, List.cons_append, List.append_assoc, List.singleton_append,
    read?, hbody]
  simp [decode_encode]

/-- **Literals are read back.**  The literal of a text is a body between two quotes.  The body
has a quote only in an escape and no control character, and resolving its escapes gives back the
text.  So a reader finds the end of the literal in front of any code and reads the text, and
different texts have different literals. -/
theorem literal_reads_back :
    (∀ text : String, ∃ body, (literal text).toList = '"' :: (body ++ ['"']) ∧ Body body ∧
        (∀ c ∈ body, isControl c = false) ∧ decode body = some text.toList ∧
        ∀ code, read? ((literal text).toList ++ code) = some (text, code)) ∧
      Function.Injective literal := by
  constructor
  · intro text
    refine ⟨encode text.toList, ?_, Body.encode _, ?_, decode_encode _, read?_literal text⟩
    · rw [literal, String.toList_ofList]
    · intro c hc
      obtain ⟨given, -, hc⟩ := List.mem_flatMap.mp hc
      exact isControl_escape given c hc
  · intro text text' heq
    have hread := read?_literal text []
    rw [heq, read?_literal] at hread
    simpa using hread.symm

example : read? ("\"a\\x9f\\\"\\\\\" + 1").toList = some ("a\u009f\"\\", [' ', '+', ' ', '1']) := by
  decide

end Quoted

end FigureScript.Text
