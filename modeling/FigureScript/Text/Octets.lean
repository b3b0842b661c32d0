import FigureScript.Text.Utf8

/-!
# Texts by their bytes

Programs that know nothing of characters treat a text byte by byte.  For them a text has one
character below 256 for each byte of its encoding.

## Main Definitions

* `Octets.ofText`, `Octets.toText?` — a text byte by byte, and back
* `Octets.ofBytes`, `Octets.toBytes` — the bytes themselves
-/

namespace FigureScript.Octets

/-- The characters that stand for bytes. -/
def ofBytes (bytes : List UInt8) : List Char :=
  bytes.map fun b => Char.ofNat b.toNat

/-- The bytes that characters stand for. -/
def toBytes (octets : List Char) : List UInt8 :=
  octets.map fun c => c.toNat.toUInt8

/-- **A text byte by byte.** -/
def ofText (text : String) : List Char :=
  ofBytes (Utf8.encode text)

/-- **The text that bytes encode**, if they do. -/
def toText? (octets : List Char) : Option String :=
  Utf8.text? (toBytes octets)

end FigureScript.Octets
