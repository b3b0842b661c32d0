import FigureScript.Json.Reader
import FigureScript.Json.Writer
import FigureScript.Proofs.Text.Literal

/-!
# Strings read back

A text that is written as a JSON string is read as that text, whatever its characters
are and whatever stands behind the string.

## Main Results

* `readChars_escapeChar` — one character, escaped or not, is read as itself
* `readString_quoted` — a whole string
-/

namespace FigureScript.Json

/-- A control character is read from its four hexadecimal digits. -/
theorem readEscape_control {c : Char} (h : c.toNat < 0x20) (rest : List Char) :
    readEscape ('u' :: '0' :: '0' :: Text.hexDigit (c.toNat / 16) ::
      Text.hexDigit (c.toNat % 16) :: rest) = .ok (c, rest) := by
  have hzero : Text.hexValue? '0' = some 0 := by decide
  have hhigh : Text.hexValue? (Text.hexDigit (c.toNat / 16)) = some (c.toNat / 16) :=
    Text.hexValue?_hexDigit (by omega)
  have hlow : Text.hexValue? (Text.hexDigit (c.toNat % 16)) = some (c.toNat % 16) :=
    Text.hexValue?_hexDigit (by omega)
  have hcode : ((0 * 16 + 0) * 16 + c.toNat / 16) * 16 + c.toNat % 16 = c.toNat := by omega
  have hread : readHex4 ('0' :: '0' :: Text.hexDigit (c.toNat / 16) ::
      Text.hexDigit (c.toNat % 16) :: rest) = .ok (c.toNat, rest) := by
    simp only [readHex4, hzero, hhigh, hlow, hcode]
  have hlone : ¬(0xDC00 ≤ c.toNat ∧ c.toNat ≤ 0xDFFF) := by omega
  have hsmall : c.toNat < 0xD800 ∨ 0xDFFF < c.toNat := by omega
  change readUnicode _ = _
  unfold readUnicode
  rw [hread]
  change (if _ then _ else if _ then _ else _) = _
  rw [if_neg hlone, if_pos hsmall, Char.ofNat_toNat]
  rfl

/-- **A character that is written inside a string** is read as itself. -/
theorem readChars_escapeChar (c : Char) (fuel : Nat) (collected rest : List Char) :
    readChars (fuel + 1) collected (escapeChar c ++ rest) =
      readChars fuel (c :: collected) rest := by
  unfold escapeChar
  split_ifs with hquote hslash hline hreturn htab hback hfeed hcontrol
  · rw [hquote]
    rfl
  · rw [hslash]
    rfl
  · rw [hline]
    rfl
  · rw [hreturn]
    rfl
  · rw [htab]
    rfl
  · rw [hback]
    rfl
  · rw [hfeed]
    rfl
  · change (readEscape ('u' :: '0' :: '0' :: Text.hexDigit (c.toNat / 16) ::
      Text.hexDigit (c.toNat % 16) :: rest) >>= fun next =>
        readChars fuel (next.1 :: collected) next.2) = _
    rw [readEscape_control hcontrol]
    rfl
  · rw [List.singleton_append, readChars, if_neg hquote, if_neg hslash, if_neg hcontrol]

/-- The characters of a string are read up to its closing quote. -/
theorem readChars_escaped (text : List Char) {fuel : Nat} (h : text.length < fuel)
    (collected rest : List Char) :
    readChars fuel collected (text.flatMap escapeChar ++ '"' :: rest) =
      .ok (collected.reverse ++ text, rest) := by
  induction text generalizing fuel collected with
  | nil =>
      obtain ⟨fuel, rfl⟩ := Nat.exists_eq_succ_of_ne_zero (Nat.ne_of_gt h)
      rw [List.append_nil]
      rfl
  | cons c text ih =>
      obtain ⟨fuel, rfl⟩ := Nat.exists_eq_succ_of_ne_zero (Nat.ne_of_gt (Nat.zero_lt_of_lt h))
      rw [List.flatMap_cons, List.append_assoc, Nat.succ_eq_add_one, readChars_escapeChar,
        ih (Nat.lt_of_succ_lt_succ h), List.reverse_cons, List.append_assoc,
        List.singleton_append]

/-- Every character of a text takes up some space in its string. -/
theorem length_le_length_escaped (text : List Char) :
    text.length ≤ (text.flatMap escapeChar).length := by
  induction text with
  | nil => exact Nat.le_refl 0
  | cons c text ih =>
      have hone : 1 ≤ (escapeChar c).length := by
        unfold escapeChar
        split_ifs <;> simp
      rw [List.flatMap_cons, List.length_append, List.length_cons]
      omega

theorem quoted_append (text : String) (rest : List Char) :
    quoted text ++ rest = '"' :: (text.toList.flatMap escapeChar ++ '"' :: rest) := by
  rw [quoted, List.cons_append, List.append_assoc, List.singleton_append]

/-- **A string is read as the text that was written**, behind its opening quote. -/
theorem readString_quoted (text : String) (rest : List Char) :
    readString (text.toList.flatMap escapeChar ++ '"' :: rest) = .ok (text, rest) := by
  have hlength := length_le_length_escaped text.toList
  have hfuel : text.toList.length <
      (text.toList.flatMap escapeChar ++ '"' :: rest).length + 1 := by
    rw [List.length_append]
    omega
  unfold readString
  rw [readChars_escaped text.toList hfuel [] rest]
  change Except.ok (String.ofList text.toList, rest) = _
  rw [String.ofList_toList]

end FigureScript.Json
