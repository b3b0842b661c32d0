/-!
# Places in a YAML text

A text is read from its front.  The cursor holds what is left of it, and the place where
that begins.

## Main Definitions

* `Mark` — a place: its index, line and column
* `Cursor` — the rest of a text with its place
* `Gap` — the blanks and line breaks between two words of a scalar

## Design Notes

Lines, columns and the index are counted from zero in characters.  A carriage return
with the line feed behind it is one line break.
-/

namespace FigureScript.Yaml

/-! ### Characters -/

/-- A line break. -/
def isBreak (c : Char) : Bool :=
  c = '\n' || c = '\r' || c = '\u0085' || c = '\u2028' || c = '\u2029'

/-- A space or a tab. -/
def isSpacing (c : Char) : Bool :=
  c = ' ' || c = '\t'

/-- A character of a name. -/
def isNameChar (c : Char) : Bool :=
  c.isAlphanum || c = '_' || c = '-'

/-- The text ends here, or goes on with a blank or a line break. -/
def endsWord : List Char → Bool
  | [] => true
  | c :: _ => isSpacing c || isBreak c

/-- The text ends here, or goes on with a line break. -/
def endsLine : List Char → Bool
  | [] => true
  | c :: _ => isBreak c

/-- The characters that a text may hold. -/
def isAllowed (c : Char) : Bool :=
  let n := c.toNat
  n = 0x09 || n = 0x0A || n = 0x0D || (0x20 ≤ n && n ≤ 0x7E) || n = 0x85 ||
    (0xA0 ≤ n && n ≤ 0xD7FF) || (0xE000 ≤ n && n ≤ 0xFFFD) || 0x10000 ≤ n

/-- What a line break stands for: the separators of lines and paragraphs for themselves,
and any other one for a line feed. -/
def breakText (c : Char) : Char :=
  if c = '\u2028' || c = '\u2029' then c else '\n'

/-! ### Marks -/

/-- **A place in a text.** -/
structure Mark where
  index : Nat := 0
  line : Nat := 0
  column : Nat := 0
  deriving DecidableEq

namespace Mark

/-- The place some characters further on in its line. -/
def advance (m : Mark) (count : Nat) : Mark :=
  ⟨m.index + count, m.line, m.column + count⟩

/-- The start of the next line, behind a break of some characters. -/
def nextLine (m : Mark) (count : Nat) : Mark :=
  ⟨m.index + count, m.line + 1, 0⟩

/-- The place is the start of the first line. -/
def isOrigin (m : Mark) : Bool :=
  m.line = 0 && m.column = 0

/-- Two places in one line and column. -/
def sameSpot (a b : Mark) : Bool :=
  a.line = b.line && a.column = b.column

/-- The wording of a place, as it follows a message. -/
def suffix (m : Mark) : String :=
  s!" at line {m.line + 1} column {m.column + 1}"

end Mark

/-! ### Cursors -/

/-- **The rest of a text**, and its place. -/
structure Cursor where
  rest : List Char
  mark : Mark := {}
  deriving DecidableEq

namespace Cursor

/-- Behind some characters of the line. -/
def advance (c : Cursor) (count : Nat) : Cursor :=
  ⟨c.rest.drop count, c.mark.advance count⟩

/-- Behind the characters of the line that have a property, with these characters. -/
def span (c : Cursor) (p : Char → Bool) : List Char × Cursor :=
  let taken := c.rest.takeWhile p
  (taken, c.advance taken.length)

/-- Behind the characters of the line that have a property. -/
def skipWhile (c : Cursor) (p : Char → Bool) : Cursor :=
  (c.span p).2

/-- A line break, with what it stands for. -/
def readBreak (c : Cursor) : List Char × Cursor :=
  match c.rest with
  | '\r' :: '\n' :: rest => (['\n'], ⟨rest, c.mark.nextLine 2⟩)
  | first :: rest =>
    if isBreak first then ([breakText first], ⟨rest, c.mark.nextLine 1⟩) else ([], c)
  | [] => ([], c)

/-- The next character is this one. -/
def startsWith (c : Cursor) (expected : Char) : Bool :=
  c.rest.head? = some expected

/-- Behind a comment. -/
def skipComment (c : Cursor) : Cursor :=
  if c.startsWith '#' then c.skipWhile (!isBreak ·) else c

/-- Three hyphens or three points as a word of their own at the start of a line. -/
def atDocumentMarker (c : Cursor) : Bool :=
  c.mark.column = 0 && match c.rest with
    | '-' :: '-' :: '-' :: rest => endsWord rest
    | '.' :: '.' :: '.' :: rest => endsWord rest
    | _ => false

end Cursor

/-! ### Gaps -/

/-- **The blanks and line breaks between two words of a scalar.** -/
structure Gap where
  /-- There is a line break in it. -/
  broken : Bool := false
  spaces : List Char := []
  firstBreak : List Char := []
  moreBreaks : List Char := []

namespace Gap

/-- What a gap stands for: a single line break for a space, and further ones for
themselves. -/
def text (g : Gap) : List Char :=
  if !g.broken then g.spaces
  else if g.firstBreak = ['\n'] then (if g.moreBreaks.isEmpty then [' '] else g.moreBreaks)
  else g.firstBreak ++ g.moreBreaks

/-- A gap with one more blank; blanks behind a break do not count. -/
def addSpace (g : Gap) (c : Char) : Gap :=
  if g.broken then g else { g with spaces := g.spaces ++ [c] }

/-- A gap with one more line break. -/
def addBreak (g : Gap) (text : Char) : Gap :=
  if g.broken then { g with moreBreaks := g.moreBreaks ++ [text] }
  else { g with broken := true, spaces := [], firstBreak := [text] }

/-- Reads a gap to its end.  A tab at the start of a line left of a column is an error at
its place. -/
def read (column : Nat) : List Char → Mark → Gap → Except Mark (Gap × Cursor)
  | '\r' :: '\n' :: rest, mark, gap => read column rest (mark.nextLine 2) (gap.addBreak '\n')
  | c :: rest, mark, gap =>
    if isBreak c then read column rest (mark.nextLine 1) (gap.addBreak (breakText c))
    else if isSpacing c then
      if gap.broken && mark.column < column && c = '\t' then .error mark
      else read column rest (mark.advance 1) (gap.addSpace c)
    else .ok (gap, ⟨c :: rest, mark⟩)
  | [], mark, gap => .ok (gap, ⟨[], mark⟩)

end Gap

end FigureScript.Yaml
