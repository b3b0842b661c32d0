import FigureScript.Files.Store
import FigureScript.Text.Octets

/-!
# Contents of files as bytes

## Main Definitions

* `FileContent.ofBytes`, `FileContent.bytes` — the bytes of a content
* `FileContent.ofOctets`, `FileContent.octets` — the same as a text of bytes

## Design Notes

Bytes that encode a text are the content that this text is, so that a file has one content
however it was written.
-/

namespace FigureScript.FileContent

/-- **The content that some bytes are.** -/
def ofBytes (bytes : List UInt8) : FileContent :=
  match Utf8.text? bytes with
  | some read => .text read
  | none => .binary bytes

/-- **The bytes of a content**; a workbook shows none. -/
def bytes : FileContent → List UInt8
  | .text read => Utf8.encode read
  | .binary bytes => bytes
  | .workbook _ => []

/-- The content that a text of bytes is. -/
def ofOctets (octets : List Char) : FileContent :=
  ofBytes (Octets.toBytes octets)

/-- The bytes of a content as a text. -/
def octets (content : FileContent) : List Char :=
  Octets.ofBytes content.bytes

end FigureScript.FileContent
