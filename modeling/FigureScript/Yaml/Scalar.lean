import FigureScript.Text.Quoted
import FigureScript.Yaml.Problem

/-!
# Scalars of a YAML text

Scalars are written plainly, in quotes or as blocks of lines.

## Main Definitions

* `ScalarStyle` — how a scalar is written
* `Scalar.readPlain`, `Scalar.readQuoted`, `Scalar.readBlock` — the text of a scalar, and
  the cursor behind it

## Design Notes

A plain scalar is a sequence of words with gaps between them, and goes on for as long as
its lines are indented.  The gap behind its last word is not part of it, but a line break
in that gap allows a key to follow.
-/

namespace FigureScript.Yaml

/-- **How a scalar is written.** -/
inductive ScalarStyle where
  | plain
  | singleQuoted
  | doubleQuoted
  | literal
  | folded
  deriving DecidableEq

namespace Scalar

/-! ### Plain scalars -/

/-- A character that ends or structures a collection in brackets. -/
def isFlowMark (c : Char) : Bool :=
  c = ',' || c = '[' || c = ']' || c = '\x7b' || c = '\x7d'

/-- A colon that cannot be part of a plain scalar in brackets. -/
def isBadColon (inFlow : Bool) (text : List Char) : Bool :=
  inFlow && match text with
    | ':' :: c :: _ => isFlowMark c || c = '?'
    | _ => false

/-- A word of a plain scalar ends here. -/
def endsPlainWord (inFlow : Bool) : List Char → Bool
  | [] => true
  | c :: rest =>
    isSpacing c || isBreak c || (c = ':' && endsWord rest) || (inFlow && isFlowMark c)

/-- The next word of a plain scalar; it is empty if the scalar ends here. -/
def plainWord (inFlow : Bool) (start : Mark) :
    List Char → Mark → Except Problem (List Char × Cursor)
  | [], mark => .ok ([], ⟨[], mark⟩)
  | c :: rest, mark =>
    if isBadColon inFlow (c :: rest) then fault .unexpectedColon mark .plainScalar start
    else if endsPlainWord inFlow (c :: rest) then .ok ([], ⟨c :: rest, mark⟩)
    else do
      let (word, cursor) ← plainWord inFlow start rest (mark.advance 1)
      return (c :: word, cursor)

/-- The words behind a gap, with the gap in front of them.  The flag tells that the gap
behind the last word has a line break. -/
def plainRest (inFlow : Bool) (column : Nat) (start : Mark) :
    (fuel : Nat) → Gap → Cursor → Except Problem (List Char × Bool × Cursor)
  | 0, gap, cursor => .ok ([], gap.broken, cursor)
  | fuel + 1, gap, cursor => do
    if cursor.atDocumentMarker || cursor.startsWith '#' then return ([], gap.broken, cursor)
    let (word, behind) ← plainWord inFlow start cursor.rest cursor.mark
    if word.isEmpty then return ([], gap.broken, cursor)
    match Gap.read column behind.rest behind.mark {} with
    | .error mark => fault .tabInIndentation mark .plainScalar start
    | .ok (next, further) =>
      if behind.mark = further.mark || (!inFlow && further.mark.column < column) then
        return (gap.text ++ word, next.broken, further)
      else
        let (text, broken, cursor) ← plainRest inFlow column start fuel next further
        return (gap.text ++ word ++ text, broken, cursor)

/-- **Reads a plain scalar** whose lines start at a column or right of it. -/
def readPlain (inFlow : Bool) (column : Nat) (cursor : Cursor) :
    Except Problem (String × Bool × Cursor) := do
  let (text, broken, behind) ←
    plainRest inFlow column cursor.mark (cursor.rest.length + 1) {} cursor
  return (String.ofList text, broken, behind)

/-! ### Quoted scalars -/

/-- What a letter behind a backslash stands for. -/
def escape? (c : Char) : Option Char :=
  match c with
  | '0' => some '\x00'
  | 'a' => some '\x07'
  | 'b' => some '\x08'
  | 't' => some '\t'
  | '\t' => some '\t'
  | 'n' => some '\n'
  | 'v' => some '\x0b'
  | 'f' => some '\x0c'
  | 'r' => some '\r'
  | 'e' => some '\x1b'
  | ' ' => some ' '
  | '"' => some '"'
  | '/' => some '/'
  | '\\' => some '\\'
  | 'N' => some '\u0085'
  | '_' => some '\u00a0'
  | 'L' => some '\u2028'
  | 'P' => some '\u2029'
  | _ => none

/-- How many hexadecimal digits follow a letter behind a backslash. -/
def codeLength? (c : Char) : Option Nat :=
  match c with
  | 'x' => some 2
  | 'u' => some 4
  | 'U' => some 8
  | _ => none

/-- The number that hexadecimal digits stand for. -/
def hexadecimal? (digits : List Char) : Option Nat :=
  digits.foldlM (fun n d => (Text.hexValue? d).map (16 * n + ·)) 0

/-- The character with a code, if there is one. -/
def character? (code : Nat) : Option Char :=
  if h : code.isValidChar then some (Char.ofNatAux code h) else none

/-- The character that an escape stands for; the cursor is at the backslash. -/
def readEscape (start : Mark) (cursor : Cursor) : Except Problem (Char × Cursor) := do
  match cursor.rest.drop 1 with
  | [] => fault .unknownEscape cursor.mark .quotedEscape start
  | c :: rest =>
    let behind := cursor.advance 2
    match escape? c, codeLength? c with
    | some meaning, _ => return (meaning, behind)
    | none, none => fault .unknownEscape cursor.mark .quotedEscape start
    | none, some length =>
      let digits := rest.take length
      match if digits.length = length then hexadecimal? digits else none with
      | none => fault .badHexadecimal behind.mark .quotedEscape start
      | some code =>
        match character? code with
        | none => fault .badCodePoint behind.mark .quotedEscape start
        | some meaning => return (meaning, behind.advance length)

/-- The next word of a quoted scalar; the flag tells that it ends at an escaped line
break. -/
def quotedWord (quote : Char) (start : Mark) :
    (fuel : Nat) → Cursor → Except Problem (List Char × Bool × Cursor)
  | 0, cursor => .ok ([], false, cursor)
  | fuel + 1, cursor => do
    let goOn (meaning : Char) (behind : Cursor) := do
      let (word, broken, cursor) ← quotedWord quote start fuel behind
      return (meaning :: word, broken, cursor)
    match cursor.rest with
    | [] => return ([], false, cursor)
    | c :: rest =>
      if endsWord cursor.rest then return ([], false, cursor)
      else if c = quote then
        if quote = '\'' && rest.head? = some '\'' then goOn '\'' (cursor.advance 2)
        else return ([], false, cursor)
      else if quote = '"' && c = '\\' then
        if !rest.isEmpty && endsLine rest then
          return ([], true, (cursor.advance 1).readBreak.2)
        else
          let (meaning, behind) ← readEscape start cursor
          goOn meaning behind
      else goOn c (cursor.advance 1)

/-- A quoted scalar from behind its opening quote. -/
def quotedRest (quote : Char) (start : Mark) :
    (fuel : Nat) → Cursor → Except Problem (List Char × Cursor)
  | 0, cursor => .ok ([], cursor)
  | fuel + 1, cursor => do
    if cursor.atDocumentMarker then fault .documentMarker cursor.mark .quotedScalar start
    else if cursor.rest.isEmpty then fault .endInQuotes cursor.mark .quotedScalar start
    else
      let (word, broken, behind) ← quotedWord quote start (cursor.rest.length + 1) cursor
      if behind.startsWith quote then return (word, behind.advance 1)
      match Gap.read 0 behind.rest behind.mark { broken } with
      | .error mark => fault .tabInIndentation mark .quotedScalar start
      | .ok (gap, further) =>
        let (text, cursor) ← quotedRest quote start fuel further
        return (word ++ gap.text ++ text, cursor)

/-- **Reads a scalar in quotes.** -/
def readQuoted (quote : Char) (cursor : Cursor) : Except Problem (String × Cursor) := do
  let (text, behind) ←
    quotedRest quote cursor.mark (cursor.rest.length + 1) (cursor.advance 1)
  return (String.ofList text, behind)

/-! ### Blocks of lines -/

/-- Which line breaks at the end of a block are kept. -/
inductive Chomping where
  | strip
  | clip
  | keep
  deriving DecidableEq

/-- The first line of a block: its chomping and its indentation, if that is given. -/
def readChomping? (cursor : Cursor) : Option (Chomping × Cursor) :=
  if cursor.startsWith '+' then some (.keep, cursor.advance 1)
  else if cursor.startsWith '-' then some (.strip, cursor.advance 1)
  else none

/-- An indentation, if one is given. -/
def readIncrement (start : Mark) (cursor : Cursor) : Except Problem (Nat × Cursor) :=
  match cursor.rest with
  | c :: _ =>
    if c = '0' then fault .zeroIndentation cursor.mark .blockScalar start
    else if c.isDigit then .ok (c.toNat - '0'.toNat, cursor.advance 1)
    else .ok (0, cursor)
  | [] => .ok (0, cursor)

/-- The chomping and the indentation of a block, in either order; zero stands for no
indentation. -/
def readHeader (start : Mark) (cursor : Cursor) :
    Except Problem (Chomping × Nat × Cursor) := do
  match readChomping? cursor with
  | some (chomping, cursor) =>
    let (increment, cursor) ← readIncrement start cursor
    return (chomping, increment, cursor)
  | none =>
    let (increment, cursor) ← readIncrement start cursor
    if increment = 0 then return (.clip, 0, cursor)
    else match readChomping? cursor with
      | some (chomping, cursor) => return (chomping, increment, cursor)
      | none => return (.clip, increment, cursor)

/-- Behind the rest of a line, which holds at most a comment. -/
def skipLine (start : Mark) (cursor : Cursor) (activity : Activity) : Except Problem Cursor :=
  let cursor := (cursor.skipWhile isSpacing).skipComment
  if endsLine cursor.rest then .ok cursor.readBreak.2
  else fault .noLineEnd cursor.mark activity start

/-- Blank lines in front of a line of a block, with the column at which that begins and the
greatest column that was reached.  Without an indentation all spaces are skipped. -/
def readBlankLines (start : Mark) (indent widest : Nat) :
    (fuel : Nat) → Cursor → Except Problem (List Char × Nat × Cursor)
  | 0, cursor => .ok ([], widest, cursor)
  | fuel + 1, cursor => do
    let spaces := (cursor.rest.takeWhile (· = ' ')).length
    let here := cursor.advance
      (if indent = 0 then spaces else min spaces (indent - cursor.mark.column))
    let widest := max widest here.mark.column
    if (indent = 0 || here.mark.column < indent) && here.startsWith '\t' then
      fault .tabForSpace here.mark .blockScalar start
    match here.readBreak with
    | ([], _) => return ([], widest, here)
    | (text, next) =>
      let (breaks, widest, cursor) ← readBlankLines start indent widest fuel next
      return (text ++ breaks, widest, cursor)

/-- The breaks between two lines of a block: the one that ends a line is a space if both
lines are folded and no blank line is between them. -/
def joinLines (fold : Bool) (lineBreak blankLines : List Char) : List Char :=
  if fold && lineBreak = ['\n'] then (if blankLines.isEmpty then [' '] else blankLines)
  else lineBreak ++ blankLines

/-- The line starts with a blank. -/
def startsBlank : List Char → Bool
  | [] => false
  | c :: _ => isSpacing c

/-- The lines of a block from a line with its indentation on.  `lineBreak`, `blankLines` and
`wasBlank` tell what came before it. -/
def blockLines (literal : Bool) (chomping : Chomping) (start : Mark) (indent : Nat) :
    (fuel : Nat) → (lineBreak blankLines : List Char) → (wasBlank : Bool) → Cursor →
      Except Problem (List Char × Cursor)
  | 0, _, _, _, cursor => .ok ([], cursor)
  | fuel + 1, lineBreak, blankLines, wasBlank, cursor => do
    if cursor.mark.column ≠ indent || cursor.rest.isEmpty then
      return (match chomping with
        | .strip => []
        | .clip => lineBreak
        | .keep => lineBreak ++ blankLines, cursor)
    let isBlank := startsBlank cursor.rest
    let joint := joinLines (!literal && !wasBlank && !isBlank) lineBreak blankLines
    let (line, behind) := cursor.span (!isBreak ·)
    let (lineBreak, next) := behind.readBreak
    let (blankLines, _, next) ← readBlankLines start indent 0 (next.rest.length + 1) next
    let (text, cursor) ←
      blockLines literal chomping start indent fuel lineBreak blankLines isBlank next
    return (joint ++ line ++ text, cursor)

/-- **Reads a block of lines** inside something that is indented to a column, if at
all. -/
def readBlock (literal : Bool) (parent : Option Nat) (cursor : Cursor) :
    Except Problem (String × Cursor) := do
  let start := cursor.mark
  let (chomping, increment, behind) ← readHeader start (cursor.advance 1)
  let first ← skipLine start behind .blockScalar
  let given := if increment = 0 then 0 else parent.getD 0 + increment
  let (blankLines, widest, first) ←
    readBlankLines start given 0 (first.rest.length + 1) first
  let least := (parent.map (· + 1)).getD 0
  let indent := if given = 0 then max 1 (max least widest) else given
  let (text, cursor) ←
    blockLines literal chomping start indent (first.rest.length + 1) [] blankLines false first
  return (String.ofList text, cursor)

end Scalar

end FigureScript.Yaml
