import FigureScript.Json.Fault
import FigureScript.Json.Value
import FigureScript.Text.Quoted

/-!
# Reading JSON

A reader takes characters off the front of a text and returns what it read with
the rest, or the fault that stopped it.

## Main Definitions

* `Reader` — a reader of one kind of item
* `readString`, `readLiteral`, `readValue` — strings, numbers, values
* `parse` — a text that is one value and nothing else

## Design Notes

Values recurse on the number of containers that may still be opened, so the
nesting limit of the format is also what makes reading terminate.  Lists of items
are read with one unit of fuel for every character left, of which each item uses
at least one.
-/

namespace FigureScript.Json

open Number

/-- **A reader**: takes an item off the front of a text. -/
abbrev Reader (α : Type) := List Char → Except Fault (α × List Char)

/-- Containers may be nested this deep. -/
def maxDepth : Nat := 127

/-- A blank between tokens. -/
def isBlank (c : Char) : Bool :=
  c = ' ' || c = '\n' || c = '\t' || c = '\r'

/-- The text from its first character that is not blank. -/
def skipBlank (text : List Char) : List Char :=
  text.dropWhile isBlank

/-! ### Strings -/

/-- Four hexadecimal digits. -/
def readHex4 : Reader Nat
  | a :: b :: c :: d :: rest =>
    match Text.hexValue? a, Text.hexValue? b, Text.hexValue? c, Text.hexValue? d with
    | some a, some b, some c, some d => .ok (((a * 16 + b) * 16 + c) * 16 + d, rest)
    | _, _, _, _ => .error ⟨.invalidEscape, a :: b :: c :: d :: rest, 4⟩
  | text =>
    if 4 ≤ byteLength text then .error ⟨.invalidEscape, text, 4⟩
    else .error (.here .endInString [])

/-- The character of a `\u` escape, whose four digits come next.  Characters
beyond `U+FFFF` are written as a pair of surrogates. -/
def readUnicode : Reader Char := fun text => do
  let (n, rest) ← readHex4 text
  if 0xDC00 ≤ n ∧ n ≤ 0xDFFF then
    .error (.here .loneSurrogate rest)
  else if n < 0xD800 ∨ 0xDFFF < n then
    return (Char.ofNat n, rest)
  else match rest with
    | [] => .error (.here .endInString [])
    | '\\' :: [] => .error (.here .endInString [])
    | '\\' :: 'u' :: rest => do
      let (low, rest) ← readHex4 rest
      if low < 0xDC00 ∨ 0xDFFF < low then
        .error (.here .loneSurrogate rest)
      else
        return (Char.ofNat (0x10000 + (n - 0xD800) * 0x400 + (low - 0xDC00)), rest)
    | '\\' :: rest => .error (.next .brokenSurrogatePair rest)
    | rest => .error (.next .brokenSurrogatePair rest)

/-- The character of an escape, after its backslash. -/
def readEscape : Reader Char
  | [] => .error (.here .endInString [])
  | '"' :: rest => .ok ('"', rest)
  | '\\' :: rest => .ok ('\\', rest)
  | '/' :: rest => .ok ('/', rest)
  | 'b' :: rest => .ok ('\x08', rest)
  | 'f' :: rest => .ok ('\x0c', rest)
  | 'n' :: rest => .ok ('\n', rest)
  | 'r' :: rest => .ok ('\r', rest)
  | 't' :: rest => .ok ('\t', rest)
  | 'u' :: rest => readUnicode rest
  | text => .error (.next .invalidEscape text)

/-- The characters of a string up to its closing quote; those read so far are
collected in reverse. -/
def readChars : (fuel : Nat) → (collected : List Char) → Reader (List Char)
  | 0, _, _ => .error (.here .endInString [])
  | _ + 1, _, [] => .error (.here .endInString [])
  | fuel + 1, collected, c :: rest =>
    if c = '"' then .ok (collected.reverse, rest)
    else if c = '\\' then do
      let (e, rest) ← readEscape rest
      readChars fuel (e :: collected) rest
    else if c.toNat < 0x20 then .error (.next .controlCharacter (c :: rest))
    else readChars fuel (c :: collected) rest

/-- **A string**, after its opening quote. -/
def readString : Reader String := fun text => do
  let (chars, rest) ← readChars (text.length + 1) [] text
  return (String.ofList chars, rest)

/-! ### Numbers -/

/-- The digits at the front of a text, at least one. -/
def readDigits : Reader (List Char)
  | c :: rest =>
    if c.isDigit then .ok (c :: rest.takeWhile Char.isDigit, rest.dropWhile Char.isDigit)
    else .error (.next .invalidNumber (c :: rest))
  | [] => .error (.here .endInValue [])

/-- The integer digits of a literal, which start with a zero only if there is no
other digit. -/
def readInteger : Reader (List Char)
  | '0' :: c :: rest =>
    if c.isDigit then .error (.next .invalidNumber (c :: rest)) else .ok (['0'], c :: rest)
  | text => readDigits text

/-- The digits after a point, if there is one. -/
def readFraction : Reader (Option (List Char))
  | '.' :: rest => do
    let (digits, rest) ← readDigits rest
    return (some digits, rest)
  | text => .ok (none, text)

/-- The sign and the digits of an exponent, if there is one. -/
def readExponent : Reader (Option (Bool × List Char))
  | c :: rest =>
    if c = 'e' || c = 'E' then
      let (negative, rest) := match rest with
        | '+' :: rest => (false, rest)
        | '-' :: rest => (true, rest)
        | rest => (false, rest)
      do
        let (digits, rest) ← readDigits rest
        return (some (negative, digits), rest)
    else .ok (none, c :: rest)
  | [] => .ok (none, [])

/-- The parts of a number literal, after its sign. -/
def readLiteral (negative : Bool) : Reader Literal := fun text => do
  let (integer, rest) ← readInteger text
  let (fraction, rest) ← readFraction rest
  let (exponent, rest) ← readExponent rest
  return (⟨negative, integer, fraction, exponent⟩, rest)

/-- Where reading stops in a literal that is out of range: inside its exponent if
that is too long, and otherwise behind it. -/
def rangeFault (l : Literal) (rest : List Char) : Fault :=
  let unread := match l.exponent with
    | some (_, digits) =>
      match Literal.exponentCut? digits with
      | some n => digits.drop n
      | none => []
    | none => []
  .here .numberOutOfRange (unread ++ rest)

/-- **A number**, after its sign. -/
def readNumber (negative : Bool) : Reader Numeral := fun text => do
  let (literal, rest) ← readLiteral negative text
  match literal.value? with
  | some value => return (value, rest)
  | none => .error (rangeFault literal rest)

/-! ### Values -/

/-- The remaining characters of a keyword. -/
def readWord (word : List Char) : Reader Unit := fun text =>
  match word, text with
  | [], text => .ok ((), text)
  | _ :: _, [] => .error (.here .endInValue [])
  | w :: word, c :: rest =>
    if c = w then readWord word rest else .error (.next .expectedIdent (c :: rest))

/-- The next item of a list, or the end of the list; `first` until an item was read.
Returns the text of the item. -/
def nextItem (first : Bool) (text : List Char) : Except Fault (Option (List Char) × List Char) :=
  match skipBlank text with
  | [] => .error (.here .endInList [])
  | ']' :: rest => .ok (none, rest)
  | c :: rest =>
    if first then .ok (some (c :: rest), [])
    else if c = ',' then
      match skipBlank rest with
      | [] => .error (.here .endInValue [])
      | ']' :: rest => .error (.next .trailingComma (']' :: rest))
      | item => .ok (some item, [])
    else .error (.next .expectedListEnd (c :: rest))

/-- The items of a list, after its opening bracket. -/
def readItems (item : Reader Value) : (fuel : Nat) → (first : Bool) → Reader (List Value)
  | 0, _, _ => .error (.here .endInList [])
  | fuel + 1, first, text => do
    match ← nextItem first text with
    | (none, rest) => return ([], rest)
    | (some text, _) =>
      let (value, rest) ← item text
      let (values, rest) ← readItems item fuel false rest
      return (value :: values, rest)

/-- The next key of an object, or the end of the object; `first` until an entry was
read.  Stops behind the closing quote of the key. -/
def nextKey (first : Bool) (text : List Char) : Except Fault (Option String × List Char) :=
  match skipBlank text with
  | [] => .error (.here .endInObject [])
  | '\x7d' :: rest => .ok (none, rest)
  | c :: rest =>
    if first then
      if c = '"' then do
        let (key, rest) ← readString rest
        return (some key, rest)
      else .error (.next .keyNotString (c :: rest))
    else if c = ',' then
      match skipBlank rest with
      | [] => .error (.here .endInValue [])
      | '"' :: rest => do
        let (key, rest) ← readString rest
        return (some key, rest)
      | '\x7d' :: rest => .error (.next .trailingComma ('\x7d' :: rest))
      | text => .error (.next .keyNotString text)
    else .error (.next .expectedObjectEnd (c :: rest))

/-- The colon behind a key. -/
def readColon (text : List Char) : Except Fault (List Char) :=
  match skipBlank text with
  | [] => .error (.here .endInObject [])
  | ':' :: rest => .ok rest
  | text => .error (.next .expectedColon text)

/-- The entries of an object, after its opening brace. -/
def readEntries (item : Reader Value) : (fuel : Nat) → (first : Bool) → Reader Entries
  | 0, _, _ => .error (.here .endInObject [])
  | fuel + 1, first, text => do
    match ← nextKey first text with
    | (none, rest) => return ([], rest)
    | (some key, rest) =>
      let rest ← readColon rest
      let (value, rest) ← item rest
      let (entries, rest) ← readEntries item fuel false rest
      return ((key, value) :: entries, rest)

/-- **A value**, inside which `depth` more containers may be opened. -/
def readValue (depth : Nat) : Reader Value := fun text =>
  match skipBlank text with
  | [] => .error (.here .endInValue [])
  | c :: rest =>
    if c = 'n' then do
      let (_, rest) ← readWord ['u', 'l', 'l'] rest
      return (.null, rest)
    else if c = 't' then do
      let (_, rest) ← readWord ['r', 'u', 'e'] rest
      return (.bool true, rest)
    else if c = 'f' then do
      let (_, rest) ← readWord ['a', 'l', 's', 'e'] rest
      return (.bool false, rest)
    else if c = '"' then do
      let (s, rest) ← readString rest
      return (.string s, rest)
    else if c = '-' then do
      let (n, rest) ← readNumber true rest
      return (.number n, rest)
    else if c.isDigit then do
      let (n, rest) ← readNumber false (c :: rest)
      return (.number n, rest)
    else if c = '[' then
      match depth with
      | 0 => .error (.next .recursionLimit (c :: rest))
      | depth + 1 => do
        let (items, rest) ← readItems (readValue depth) (rest.length + 1) true rest
        return (.array items, rest)
    else if c = '\x7b' then
      match depth with
      | 0 => .error (.next .recursionLimit (c :: rest))
      | depth + 1 => do
        let (entries, rest) ← readEntries (readValue depth) (rest.length + 1) true rest
        return (.object entries, rest)
    else .error (.next .expectedValue (c :: rest))

/-- Nothing but blanks may follow. -/
def expectEnd (text : List Char) : Except Fault Unit :=
  match skipBlank text with
  | [] => .ok ()
  | text => .error (.next .trailingCharacters text)

/-- **Reads a text that is one JSON value**, or tells what is wrong with it. -/
def parse (text : List Char) : Except Fault Value := do
  let (value, rest) ← readValue maxDepth text
  expectEnd rest
  return value

end FigureScript.Json
