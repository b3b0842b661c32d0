/-!
# String literals

The double-quoted string literal of the generated scripts.  Backslash and double
quote are escaped by a backslash, line feed, carriage return and tab have their
letters, and every other control character is written as `\x` with two
hexadecimal digits.  All other characters stand for themselves, so a literal is
always one line and ends at the first quote that is not escaped.

## Main Definitions

* `Quoted.encode` — the body of the literal of a text
* `Quoted.literal` — the literal with its quotes
* `Quoted.decode` — the text that a body stands for
-/

namespace FigureScript.Text

/-- A control character: `U+0000` to `U+001F` and `U+007F` to `U+009F`. -/
def isControl (c : Char) : Bool :=
  c.toNat < 0x20 || (0x7F ≤ c.toNat && c.toNat ≤ 0x9F)

/-- A hexadecimal digit in lower case. -/
def hexDigit (n : Nat) : Char :=
  if n < 10 then Char.ofNat ('0'.toNat + n) else Char.ofNat ('a'.toNat + (n - 10))

/-- The value of a hexadecimal digit, in either case. -/
def hexValue? (c : Char) : Option Nat :=
  if '0' ≤ c ∧ c ≤ '9' then some (c.toNat - '0'.toNat)
  else if 'a' ≤ c ∧ c ≤ 'f' then some (c.toNat - 'a'.toNat + 10)
  else if 'A' ≤ c ∧ c ≤ 'F' then some (c.toNat - 'A'.toNat + 10)
  else none

namespace Quoted

/-- How one character is written inside a literal. -/
def escape (c : Char) : List Char :=
  if c = '\\' then ['\\', '\\']
  else if c = '"' then ['\\', '"']
  else if c = '\n' then ['\\', 'n']
  else if c = '\r' then ['\\', 'r']
  else if c = '\t' then ['\\', 't']
  else if isControl c then ['\\', 'x', hexDigit (c.toNat / 16), hexDigit (c.toNat % 16)]
  else [c]

/-- **The body of the literal** of a text. -/
def encode (text : List Char) : List Char :=
  text.flatMap escape

/-- **The text that a body stands for.**  Refuses an unescaped quote, an unknown
escape and an escape that is cut short. -/
def decode : List Char → Option (List Char)
  | [] => some []
  | '\\' :: 'x' :: high :: low :: rest => do
    let h ← hexValue? high
    let l ← hexValue? low
    let text ← decode rest
    return Char.ofNat (16 * h + l) :: text
  | '\\' :: '\\' :: rest => (decode rest).map ('\\' :: ·)
  | '\\' :: '"' :: rest => (decode rest).map ('"' :: ·)
  | '\\' :: 'n' :: rest => (decode rest).map ('\n' :: ·)
  | '\\' :: 'r' :: rest => (decode rest).map ('\r' :: ·)
  | '\\' :: 't' :: rest => (decode rest).map ('\t' :: ·)
  | '\\' :: _ => none
  | '"' :: _ => none
  | c :: rest => (decode rest).map (c :: ·)

/-- **The string literal** of a text. -/
def literal (text : String) : String :=
  String.ofList ('"' :: (encode text.toList ++ ['"']))

end Quoted

end FigureScript.Text
