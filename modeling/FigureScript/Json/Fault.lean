/-!
# Faults in a JSON text

What can be wrong with a JSON text, where it went wrong, and the wording of both.

## Main Definitions

* `Flaw` — what is wrong
* `Fault` — a flaw with the place where reading stopped
* `Position` — a line and a column, as messages state them

## Design Notes

A reader that works on the characters left over knows its place as the rest of
the text, so a fault carries that rest.  Columns count the bytes since the last
line break; some faults lie a few bytes behind the rest, inside what was being
read, and carry that distance as well.
-/

namespace FigureScript.Json

/-- **What is wrong with a text.** -/
inductive Flaw where
  | endInList
  | endInObject
  | endInString
  | endInValue
  | expectedColon
  | expectedListEnd
  | expectedObjectEnd
  | expectedIdent
  | expectedValue
  | invalidEscape
  | invalidNumber
  | numberOutOfRange
  | controlCharacter
  | keyNotString
  | loneSurrogate
  | brokenSurrogatePair
  | trailingComma
  | trailingCharacters
  | recursionLimit
  deriving DecidableEq

namespace Flaw

/-- The wording of a flaw. -/
def message : Flaw → String
  | endInList => "EOF while parsing a list"
  | endInObject => "EOF while parsing an object"
  | endInString => "EOF while parsing a string"
  | endInValue => "EOF while parsing a value"
  | expectedColon => "expected `:`"
  | expectedListEnd => "expected `,` or `]`"
  | expectedObjectEnd => "expected `,` or `\x7d`"
  | expectedIdent => "expected ident"
  | expectedValue => "expected value"
  | invalidEscape => "invalid escape"
  | invalidNumber => "invalid number"
  | numberOutOfRange => "number out of range"
  | controlCharacter => "control character (\\u0000-\\u001F) found while parsing a string"
  | keyNotString => "key must be a string"
  | loneSurrogate => "lone leading surrogate in hex escape"
  | brokenSurrogatePair => "unexpected end of hex escape"
  | trailingComma => "trailing comma"
  | trailingCharacters => "trailing characters"
  | recursionLimit => "recursion limit exceeded"

end Flaw

/-- The number of bytes of a text in UTF-8. -/
def byteLength (text : List Char) : Nat :=
  (text.map Char.utf8Size).foldl (· + ·) 0

/-- **A place in a text**: a line counted from one, and the bytes since the last
line break. -/
structure Position where
  line : Nat
  column : Nat
  deriving DecidableEq

namespace Position

/-- The position `bytes` bytes behind another one. -/
def advance : List Char → (bytes : Nat) → Position → Position
  | [], _, p => p
  | c :: rest, bytes, p =>
    if bytes = 0 then p
    else if c = '\n' then advance rest (bytes - 1) ⟨p.line + 1, 0⟩
    else
      let step := min bytes c.utf8Size
      advance rest (bytes - step) ⟨p.line, p.column + step⟩

/-- The position of a byte offset in a text. -/
def ofOffset (text : List Char) (offset : Nat) : Position :=
  advance text offset ⟨1, 0⟩

/-- The wording of a position, as it follows a message. -/
def suffix (p : Position) : String :=
  s!" at line {p.line} column {p.column}"

end Position

/-- **A flaw and its place**: `skipped` bytes behind the start of `rest`. -/
structure Fault where
  flaw : Flaw
  rest : List Char
  skipped : Nat
  deriving DecidableEq

namespace Fault

/-- A fault exactly where reading stopped. -/
def here (flaw : Flaw) (rest : List Char) : Fault :=
  ⟨flaw, rest, 0⟩

/-- A fault in the next byte, or at the end of the text. -/
def next (flaw : Flaw) (rest : List Char) : Fault :=
  ⟨flaw, rest, if rest.isEmpty then 0 else 1⟩

/-- The position of a fault in the text that was read. -/
def position (fault : Fault) (text : List Char) : Position :=
  .ofOffset text (byteLength text - byteLength fault.rest + fault.skipped)

/-- The full wording of a fault in a text. -/
def message (fault : Fault) (text : List Char) : String :=
  fault.flaw.message ++ (fault.position text).suffix

end Fault

end FigureScript.Json
