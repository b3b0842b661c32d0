import FigureScript.Text.Utf8
import FigureScript.Yaml.Scalar

/-!
# Tokens of a YAML text

## Main Definitions

* `TokenKind`, `Token` — the tokens
* `Token.readAnchor`, `Token.readTag`, `Token.readDirective` — the tokens that are made of
  names
-/

namespace FigureScript.Yaml

/-- **The kinds of tokens.** -/
inductive TokenKind where
  | streamStart
  | streamEnd
  | versionDirective (major minor : Nat)
  | tagDirective (handle lead : String)
  | documentStart
  | documentEnd
  | blockSequenceStart
  | blockMappingStart
  | blockEnd
  | flowSequenceStart
  | flowSequenceEnd
  | flowMappingStart
  | flowMappingEnd
  | blockEntry
  | flowEntry
  | key
  | value
  | reference (name : String)
  | anchor (name : String)
  | tag (handle suffix : String)
  | scalar (text : String) (style : ScalarStyle)
  deriving DecidableEq

/-- **A token**, from its first character to behind its last one. -/
structure Token where
  kind : TokenKind
  start : Mark
  behind : Mark
  deriving DecidableEq

namespace Token

/-- A token with the cursor behind it. -/
def upTo (kind : TokenKind) (start behind : Cursor) : Token × Cursor :=
  (⟨kind, start.mark, behind.mark⟩, behind)

/-! ### Anchors -/

/-- A name ends here. -/
def endsName (text : List Char) : Bool :=
  endsWord text || match text with
    | [] => true
    | c :: _ =>
      c = '?' || c = ':' || c = ',' || c = ']' || c = '\x7d' || c = '%' || c = '@' || c = '\x60'

/-- **Reads an anchor or a reference to one**, whose sign is the next character. -/
def readAnchor (activity : Activity) (kind : String → TokenKind) (cursor : Cursor) :
    Except Problem (Token × Cursor) :=
  let (name, behind) := (cursor.advance 1).span isNameChar
  if name.isEmpty || !endsName behind.rest then
    fault .noName behind.mark activity cursor.mark
  else .ok (upTo (kind (String.ofList name)) cursor behind)

/-! ### Tags -/

/-- A character of a tag that stands for itself or starts an escape. -/
def isTagChar (inAngles : Bool) (c : Char) : Bool :=
  isNameChar c || c = ';' || c = '/' || c = '?' || c = ':' || c = '@' || c = '&' || c = '=' ||
    c = '+' || c = '$' || c = '.' || c = '%' || c = '!' || c = '~' || c = '*' || c = '\'' ||
    c = '(' || c = ')' || (inAngles && (c = ',' || c = '[' || c = ']'))

/-- How many bytes a character has whose first byte is given. -/
def width? (first : Nat) : Option Nat :=
  if first < 0x80 then some 1
  else if first < 0xC0 then none
  else if first < 0xE0 then some 2
  else if first < 0xF0 then some 3
  else if first < 0xF8 then some 4
  else none

/-- The byte that an escape stands for. -/
def octet? : List Char → Option Nat
  | '%' :: a :: b :: _ => do
    let high ← Text.hexValue? a
    let low ← Text.hexValue? b
    return 16 * high + low
  | _ => none

/-- The further bytes of an escaped character. -/
def readTrailing (activity : Activity) (start : Mark) :
    (count : Nat) → Cursor → Except Problem (List UInt8 × Cursor)
  | 0, cursor => .ok ([], cursor)
  | count + 1, cursor => do
    match octet? cursor.rest with
    | none => fault .badEscapedOctet cursor.mark activity start
    | some octet =>
      if octet < 0x80 || 0xC0 ≤ octet then fault .badTrailingOctet cursor.mark activity start
      else
        let (bytes, behind) ← readTrailing activity start count (cursor.advance 3)
        return (octet.toUInt8 :: bytes, behind)

/-- The bytes of an escaped character. -/
def readOctets (activity : Activity) (start : Mark) (cursor : Cursor) :
    Except Problem (List UInt8 × Cursor) := do
  match octet? cursor.rest with
  | none => fault .badEscapedOctet cursor.mark activity start
  | some octet =>
    match width? octet with
    | none => fault .badLeadingOctet cursor.mark activity start
    | some width =>
      let (bytes, behind) ← readTrailing activity start (width - 1) (cursor.advance 3)
      return (octet.toUInt8 :: bytes, behind)

/-- The bytes of the text of a tag. -/
def readTagBytes (inAngles : Bool) (activity : Activity) (start : Mark) :
    (fuel : Nat) → Cursor → Except Problem (List UInt8 × Cursor)
  | 0, cursor => .ok ([], cursor)
  | fuel + 1, cursor => do
    match cursor.rest with
    | [] => return ([], cursor)
    | c :: _ =>
      if !isTagChar inAngles c then return ([], cursor)
      let (bytes, behind) ←
        if c = '%' then readOctets activity start cursor
        else pure (Utf8.encode (String.ofList [c]), cursor.advance 1)
      let (more, behind) ← readTagBytes inAngles activity start fuel behind
      return (bytes ++ more, behind)

/-- The text of a tag, which must not be empty unless something came before it. -/
def readTagText (inAngles mayBeEmpty : Bool) (activity : Activity) (start : Mark)
    (cursor : Cursor) : Except Problem (String × Cursor) := do
  let (bytes, behind) ← readTagBytes inAngles activity start (cursor.rest.length + 1) cursor
  if bytes.isEmpty && !mayBeEmpty then fault .noTagText behind.mark activity start
  return (Utf8.lossyText bytes, behind)

/-- A handle: exclamation marks around a name, of which the second one may be missing. -/
def readHandle (cursor : Cursor) : String × Cursor :=
  let (name, behind) := (cursor.advance 1).span isNameChar
  if behind.startsWith '!' then (String.ofList ('!' :: name ++ ['!']), behind.advance 1)
  else (String.ofList ('!' :: name), behind)

/-- The handle and the text of a tag without angle brackets. -/
def readShortTag (cursor : Cursor) : Except Problem (TokenKind × Cursor) := do
  let (handle, behind) := readHandle cursor
  if 1 < handle.length && handle.toList.getLast? = some '!' then
    let (text, behind) ← readTagText false false .tagText cursor.mark behind
    return (.tag handle text, behind)
  else
    let (text, behind) ← readTagText false true .tagText cursor.mark behind
    let text := String.ofList (handle.toList.drop 1) ++ text
    return (if text = "" then .tag "" "!" else .tag "!" text, behind)

/-- The text of a tag in angle brackets. -/
def readLongTag (cursor : Cursor) : Except Problem (TokenKind × Cursor) := do
  let (text, behind) ← readTagText true false .tagText cursor.mark (cursor.advance 2)
  if behind.startsWith '>' then return (.tag "" text, behind.advance 1)
  else fault .noClosingAngle behind.mark .tag cursor.mark

/-- **Reads a tag.** -/
def readTag (inFlow : Bool) (cursor : Cursor) : Except Problem (Token × Cursor) := do
  let (kind, behind) ←
    if (cursor.advance 1).startsWith '<' then readLongTag cursor else readShortTag cursor
  if endsWord behind.rest || (inFlow && behind.startsWith ',') then
    return upTo kind cursor behind
  else fault .noWordEnd behind.mark .tag cursor.mark

/-! ### Directives -/

/-- The number of digits that a version may have. -/
def maxVersionLength : Nat := 9

/-- A number of a version. -/
def readVersionNumber (start : Mark) (cursor : Cursor) : Except Problem (Nat × Cursor) :=
  let (digits, behind) := cursor.span Char.isDigit
  if digits.isEmpty then fault .noVersion cursor.mark .versionDirective start
  else if maxVersionLength < digits.length then
    fault .longVersion (cursor.advance maxVersionLength).mark .versionDirective start
  else .ok (digits.foldl (fun n d => 10 * n + (d.toNat - '0'.toNat)) 0, behind)

/-- The version of a directive. -/
def readVersion (start : Mark) (cursor : Cursor) : Except Problem (TokenKind × Cursor) := do
  let (major, behind) ← readVersionNumber start (cursor.skipWhile isSpacing)
  if behind.startsWith '.' then
    let (minor, behind) ← readVersionNumber start (behind.advance 1)
    return (.versionDirective major minor, behind)
  else fault .noVersionPoint behind.mark .versionDirective start

/-- The handle of a directive and what it stands for. -/
def readHandleMeaning (start : Mark) (cursor : Cursor) :
    Except Problem (TokenKind × Cursor) := do
  let cursor := cursor.skipWhile isSpacing
  if !cursor.startsWith '!' then fault .noExclamation cursor.mark .tagDirectiveHandle start
  let (handle, behind) := readHandle cursor
  if handle ≠ "!" && (handle.length = 1 || handle.toList.getLast? ≠ some '!') then
    fault .noExclamation behind.mark .tagDirectiveName start
  match behind.rest with
  | c :: _ =>
    if !isSpacing c then fault .noBlank behind.mark .tagDirective start
  | [] => fault .noBlank behind.mark .tagDirective start
  let (lead, behind) ←
    readTagText true false .tagDirectiveText start (behind.skipWhile isSpacing)
  if endsWord behind.rest then return (.tagDirective handle lead, behind)
  else fault .noWordEnd behind.mark .tagDirective start

/-- **Reads a directive** to the end of its line. -/
def readDirective (cursor : Cursor) : Except Problem (Token × Cursor) := do
  let start := cursor.mark
  let (name, behind) := (cursor.advance 1).span isNameChar
  if name.isEmpty then fault .noDirectiveName behind.mark .directive start
  if !endsWord behind.rest then fault .badDirectiveName behind.mark .directive start
  let (kind, behind) ←
    if name = ['Y', 'A', 'M', 'L'] then readVersion start behind
    else if name = ['T', 'A', 'G'] then readHandleMeaning start behind
    else fault .unknownDirective behind.mark .directive start
  let next ← Scalar.skipLine start behind .directive
  return (⟨kind, start, behind.mark⟩, next)

end Token

end FigureScript.Yaml
