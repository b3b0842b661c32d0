/-!
# Bytes and texts

Texts are stored in UTF-8.  Bytes are read one by one; where they stop being the
encoding of a character, a fault is noted for the longest part that could have become
one, and reading goes on behind it.

## Main Definitions

* `Utf8.decode` — the characters and the faults of a list of bytes
* `Utf8.text?` — the text, if there is no fault
* `Utf8.lossyText` — the text with a replacement character for each fault
* `Utf8.encode` — the bytes of a text
-/

namespace FigureScript.Utf8

/-- The part of a character that was read so far: how many bytes are owed, the bounds of
the next one, and the code so far. -/
structure Partial where
  owed : Nat
  low : Nat
  high : Nat
  code : Nat
  deriving DecidableEq

/-- What a byte is at the start of a character. -/
inductive Lead where
  | complete (c : Char)
  | starts (p : Partial)
  | fault
  deriving DecidableEq

/-- The meaning of a byte between characters. -/
def lead (b : Nat) : Lead :=
  if b < 0x80 then .complete (Char.ofNat b)
  else if b < 0xC2 then .fault
  else if b < 0xE0 then .starts ⟨1, 0x80, 0xBF, b - 0xC0⟩
  else if b = 0xE0 then .starts ⟨2, 0xA0, 0xBF, 0⟩
  else if b = 0xED then .starts ⟨2, 0x80, 0x9F, 0xD⟩
  else if b < 0xF0 then .starts ⟨2, 0x80, 0xBF, b - 0xE0⟩
  else if b = 0xF0 then .starts ⟨3, 0x90, 0xBF, 0⟩
  else if b < 0xF4 then .starts ⟨3, 0x80, 0xBF, b - 0xF0⟩
  else if b = 0xF4 then .starts ⟨3, 0x80, 0x8F, 4⟩
  else .fault

/-- The characters of bytes behind a part of a character; `none` is a fault. -/
def decodeFrom : Option Partial → List UInt8 → List (Option Char)
  | none, [] => []
  | some _, [] => [none]
  | none, b :: rest =>
    match lead b.toNat with
    | .complete c => some c :: decodeFrom none rest
    | .starts p => decodeFrom (some p) rest
    | .fault => none :: decodeFrom none rest
  | some p, b :: rest =>
    if p.low ≤ b.toNat ∧ b.toNat ≤ p.high then
      let code := p.code * 64 + (b.toNat - 0x80)
      if p.owed = 1 then some (Char.ofNat code) :: decodeFrom none rest
      else decodeFrom (some ⟨p.owed - 1, 0x80, 0xBF, code⟩) rest
    else
      none :: match lead b.toNat with
        | .complete c => some c :: decodeFrom none rest
        | .starts p => decodeFrom (some p) rest
        | .fault => none :: decodeFrom none rest

/-- **The characters and the faults** of a list of bytes. -/
def decode (bytes : List UInt8) : List (Option Char) :=
  decodeFrom none bytes

/-- The text of a list of bytes, if they are the encoding of one. -/
def text? (bytes : List UInt8) : Option String :=
  ((decode bytes).mapM id).map String.ofList

/-- The text of a list of bytes, with a replacement character for each fault. -/
def lossyText (bytes : List UInt8) : String :=
  String.ofList ((decode bytes).map (·.getD '\uFFFD'))

/-- The bytes of a text. -/
def encode (text : String) : List UInt8 :=
  text.toUTF8.toList

end FigureScript.Utf8
