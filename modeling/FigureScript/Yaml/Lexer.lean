import FigureScript.Yaml.Token

/-!
# Lexing a YAML text

Tokens are read on demand.  A word turns out to be a key only at the colon behind it, and
then a key token goes in front of it; until that is decided, its token waits in a queue.

## Main Definitions

* `KeyCandidate` — a word that may turn out to be a key
* `Lexer` — how far a text has been read
* `Lexer.fetch` — reads one more token into the queue
* `Lexer.peek` — the next token, once nothing can go in front of it any more

## Design Notes

A key ends in the line it starts in, and within 1024 characters.  Indentation opens and
closes collections by tokens of their own, except in brackets.  A flaw shows only when the
token that it belongs to, or one that waits for it, is asked for.
-/

namespace FigureScript.Yaml

/-- **A word that may turn out to be a key.** -/
structure KeyCandidate where
  mark : Mark
  /-- The number of its token. -/
  number : Nat
  /-- Nothing but a key can stand there. -/
  required : Bool
  deriving DecidableEq

/-- **How far a text has been read.** -/
structure Lexer where
  cursor : Cursor
  started : Bool := false
  /-- The candidates of the brackets that are open, from the innermost one on, and that
  outside of all brackets. -/
  candidates : List (Option KeyCandidate) := [none]
  /-- A key may start here. -/
  keyAllowed : Bool := true
  /-- The columns of the open collections outside of brackets, from the innermost one
  on. -/
  indents : List Nat := []
  /-- The tokens that wait. -/
  queue : List Token := []
  /-- How many tokens have been taken. -/
  taken : Nat := 0

namespace Lexer

/-- The longest key. -/
def maxKeyLength : Nat := 1024

/-- The place that has been reached. -/
def mark (l : Lexer) : Mark :=
  l.cursor.mark

/-- The lexer is inside of brackets. -/
def inFlow (l : Lexer) : Bool :=
  1 < l.candidates.length

/-- Adds a token. -/
def push (l : Lexer) (token : Token) : Lexer :=
  { l with queue := l.queue ++ [token] }

/-- Puts a token in front of the one with a number. -/
def insert (l : Lexer) (number : Nat) (token : Token) : Lexer :=
  let (before, after) := l.queue.splitAt (number - l.taken)
  { l with queue := before ++ token :: after }

/-- A token without characters. -/
def marker (kind : TokenKind) (mark : Mark) : Token :=
  ⟨kind, mark, mark⟩

/-- Adds a token and goes on behind it. -/
def pushRead (l : Lexer) (read : Token × Cursor) : Lexer :=
  { l.push read.1 with cursor := read.2 }

/-- Adds a token of some characters. -/
def pushChars (l : Lexer) (kind : TokenKind) (count : Nat) : Lexer :=
  l.pushRead (Token.upTo kind l.cursor (l.cursor.advance count))

/-! ### Keys -/

/-- A candidate that has become too old for a key. -/
def isStale (here : Mark) (k : KeyCandidate) : Bool :=
  k.mark.line < here.line || k.mark.index + maxKeyLength < here.index

/-- Gives up a candidate, which must not be one that is required. -/
def giveUp (here : Mark) : Option KeyCandidate → Except Problem (Option KeyCandidate)
  | none => .ok none
  | some k => if k.required then fault .noKeyEnd here .simpleKey k.mark else .ok none

/-- Gives up the candidates that are too old, from the outermost one on. -/
def dropStale (l : Lexer) : Except Problem Lexer := do
  let candidates ← l.candidates.reverse.mapM fun
    | some k => if isStale l.mark k then giveUp l.mark (some k) else .ok (some k)
    | none => .ok none
  return { l with candidates := candidates.reverse }

/-- Sets the candidate of the innermost brackets. -/
def setCandidate (l : Lexer) (k : Option KeyCandidate) : Lexer :=
  { l with candidates := k :: l.candidates.tail }

/-- Gives up the candidate of the innermost brackets. -/
def dropCandidate (l : Lexer) : Except Problem Lexer := do
  return l.setCandidate (← giveUp l.mark (l.candidates.head?.getD none))

/-- Notes that a key may start here. -/
def noteCandidate (l : Lexer) : Except Problem Lexer := do
  if !l.keyAllowed then return l
  let required := !l.inFlow && l.indents.head? = some l.mark.column
  let l ← l.dropCandidate
  return l.setCandidate (some ⟨l.mark, l.taken + l.queue.length, required⟩)

/-! ### Indentation -/

/-- A column is right of the innermost collection. -/
def isDeeper (l : Lexer) (column : Nat) : Bool :=
  l.indents.head?.all (· < column)

/-- Opens a collection at a column that is right of the innermost one. -/
def openAt (l : Lexer) (column : Nat) (place : Lexer → Lexer) : Lexer :=
  if l.inFlow || !l.isDeeper column then l
  else place { l with indents := column :: l.indents }

/-- The collections that a column leaves open, and how many it closes. -/
def leave (column : Option Nat) : List Nat → List Nat × Nat
  | [] => ([], 0)
  | indent :: rest =>
    if column.all (· < indent) then
      let (left, closed) := leave column rest
      (left, closed + 1)
    else (indent :: rest, 0)

/-- Closes the collections right of a column, or all of them. -/
def closeTo (l : Lexer) (column : Option Nat) : Lexer :=
  if l.inFlow then l
  else
    let (indents, closed) := leave column l.indents
    { l with indents, queue := l.queue ++ List.replicate closed (marker .blockEnd l.mark) }

/-! ### Blanks and comments -/

/-- Behind blanks, comments and line breaks.  A line outside of brackets may start with a
key. -/
def skipBlanks (inFlow : Bool) : (fuel : Nat) → (keyAllowed : Bool) → Cursor → Bool × Cursor
  | 0, keyAllowed, cursor => (keyAllowed, cursor)
  | fuel + 1, keyAllowed, cursor =>
    let cursor :=
      if cursor.mark.index = 0 && cursor.startsWith '\ufeff' then cursor.advance 1 else cursor
    let cursor := cursor.skipWhile fun c => c = ' ' || ((inFlow || !keyAllowed) && c = '\t')
    match cursor.skipComment.readBreak with
    | ([], cursor) => (keyAllowed, cursor)
    | (_, cursor) => skipBlanks inFlow fuel (keyAllowed || !inFlow) cursor

/-- Goes on to the next token. -/
def toNextToken (l : Lexer) : Lexer :=
  let (keyAllowed, cursor) :=
    skipBlanks l.inFlow (l.cursor.rest.length + 1) l.keyAllowed l.cursor
  { l with keyAllowed, cursor }

/-! ### Tokens -/

/-- A key is possible behind the tokens that follow, or not. -/
def allowKey (l : Lexer) (keyAllowed : Bool) : Lexer :=
  { l with keyAllowed }

/-- Fails unless a key may start here. -/
def requireKeyAllowed (l : Lexer) (flaw : Flaw) : Except Problem Unit :=
  if l.keyAllowed then .ok () else .error { flaw, mark := l.mark }

/-- The end of the text, which is the start of a line. -/
def fetchEnd (l : Lexer) : Except Problem Lexer := do
  let mark := if l.mark.column = 0 then l.mark else { l.mark.nextLine 0 with column := 0 }
  let l := { l with cursor := { l.cursor with mark } }
  let l ← (l.closeTo none).dropCandidate
  return (l.allowKey false).push (marker .streamEnd mark)

/-- A directive. -/
def fetchDirective (l : Lexer) : Except Problem Lexer := do
  let l ← (l.closeTo none).dropCandidate
  return (l.allowKey false).pushRead (← Token.readDirective l.cursor)

/-- A document marker. -/
def fetchMarker (l : Lexer) (kind : TokenKind) : Except Problem Lexer := do
  let l ← (l.closeTo none).dropCandidate
  return (l.allowKey false).pushChars kind 3

/-- An opening bracket. -/
def fetchOpening (l : Lexer) (kind : TokenKind) : Except Problem Lexer := do
  let l ← l.noteCandidate
  return ({ l with candidates := none :: l.candidates }.allowKey true).pushChars kind 1

/-- A closing bracket. -/
def fetchClosing (l : Lexer) (kind : TokenKind) : Except Problem Lexer := do
  let l ← l.dropCandidate
  let candidates := if l.inFlow then l.candidates.tail else l.candidates
  return ({ l with candidates }.allowKey false).pushChars kind 1

/-- A comma in brackets. -/
def fetchFlowEntry (l : Lexer) : Except Problem Lexer := do
  let l ← l.dropCandidate
  return (l.allowKey true).pushChars .flowEntry 1

/-- Opens a collection for a token at the current place. -/
def openHere (l : Lexer) (kind : TokenKind) : Lexer :=
  l.openAt l.mark.column (·.push (marker kind l.mark))

/-- The hyphen of an entry. -/
def fetchBlockEntry (l : Lexer) : Except Problem Lexer := do
  if !l.inFlow then l.requireKeyAllowed .entryNotAllowed
  let l ← (l.openHere .blockSequenceStart).dropCandidate
  return (l.allowKey true).pushChars .blockEntry 1

/-- The question mark of a key. -/
def fetchKey (l : Lexer) : Except Problem Lexer := do
  if !l.inFlow then l.requireKeyAllowed .keyNotAllowed
  let l ← (l.openHere .blockMappingStart).dropCandidate
  return (l.allowKey !l.inFlow).pushChars .key 1

/-- The colon of a value, which makes the candidate a key. -/
def fetchValue (l : Lexer) : Except Problem Lexer := do
  match l.candidates.head?.getD none with
  | some k =>
    let l := l.insert k.number (marker .key k.mark)
    let l := l.openAt k.mark.column (·.insert k.number (marker .blockMappingStart k.mark))
    return ((l.setCandidate none).allowKey false).pushChars .value 1
  | none =>
    if !l.inFlow then l.requireKeyAllowed .valueNotAllowed
    let l := l.openHere .blockMappingStart
    return (l.allowKey !l.inFlow).pushChars .value 1

/-- Something that may be a key or a part of one. -/
def fetchWord (l : Lexer) (read : Cursor → Except Problem (Token × Cursor)) :
    Except Problem Lexer := do
  let l ← l.noteCandidate
  return (l.allowKey false).pushRead (← read l.cursor)

/-- A scalar in quotes. -/
def fetchQuoted (l : Lexer) (quote : Char) (style : ScalarStyle) : Except Problem Lexer :=
  l.fetchWord fun cursor => do
    let (text, behind) ← Scalar.readQuoted quote cursor
    return Token.upTo (.scalar text style) cursor behind

/-- A plain scalar. -/
def fetchPlain (l : Lexer) : Except Problem Lexer := do
  let l ← l.noteCandidate
  let column := (l.indents.head?.map (· + 1)).getD 0
  let (text, broken, behind) ← Scalar.readPlain l.inFlow column l.cursor
  return (l.allowKey broken).pushRead (Token.upTo (.scalar text .plain) l.cursor behind)

/-- A block of lines. -/
def fetchBlock (l : Lexer) (literal : Bool) : Except Problem Lexer := do
  let l ← l.dropCandidate
  let (text, behind) ← Scalar.readBlock literal l.indents.head? l.cursor
  let style := if literal then ScalarStyle.literal else .folded
  return (l.allowKey true).pushRead (Token.upTo (.scalar text style) l.cursor behind)

/-- A character with which no plain scalar starts, whatever follows. -/
def isIndicator (c : Char) : Bool :=
  ['-', '?', ':', ',', '[', ']', '\x7b', '\x7d', '#', '&', '*', '!', '|', '>', '\'', '"', '%',
    '@', '\x60'].contains c

/-- A plain scalar starts with this character. -/
def startsPlain (inFlow : Bool) (c : Char) (rest : List Char) : Bool :=
  !(isSpacing c || isBreak c || isIndicator c) ||
    (c = '-' && !(rest.head?.any isSpacing)) ||
    (!inFlow && (c = '?' || c = ':') && !endsWord rest)

/-- **Reads one more token**, with those that indentation opens or closes. -/
def fetch (l : Lexer) : Except Problem Lexer := do
  if !l.started then return { l with started := true }.push (marker .streamStart l.mark)
  let l ← l.toNextToken.dropStale
  let l := l.closeTo (some l.mark.column)
  match l.cursor.rest with
  | [] => l.fetchEnd
  | c :: rest =>
    if l.mark.column = 0 && c = '%' then l.fetchDirective
    else if l.cursor.atDocumentMarker then
      l.fetchMarker (if c = '-' then .documentStart else .documentEnd)
    else if c = '[' then l.fetchOpening .flowSequenceStart
    else if c = '\x7b' then l.fetchOpening .flowMappingStart
    else if c = ']' then l.fetchClosing .flowSequenceEnd
    else if c = '\x7d' then l.fetchClosing .flowMappingEnd
    else if c = ',' then l.fetchFlowEntry
    else if c = '-' && endsWord rest then l.fetchBlockEntry
    else if c = '?' && (l.inFlow || endsWord rest) then l.fetchKey
    else if c = ':' && (l.inFlow || endsWord rest) then l.fetchValue
    else if c = '*' then l.fetchWord (Token.readAnchor .reference .reference)
    else if c = '&' then l.fetchWord (Token.readAnchor .anchor .anchor)
    else if c = '!' then l.fetchWord (Token.readTag l.inFlow)
    else if c = '|' && !l.inFlow then l.fetchBlock true
    else if c = '>' && !l.inFlow then l.fetchBlock false
    else if c = '\'' then l.fetchQuoted '\'' .singleQuoted
    else if c = '"' then l.fetchQuoted '"' .doubleQuoted
    else if startsPlain l.inFlow c rest then l.fetchPlain
    else fault .unknownStart l.mark .nextToken l.mark

/-- Something may still go in front of the first token. -/
def isOpen (l : Lexer) : Bool :=
  l.queue.isEmpty || l.candidates.any fun k => k.any (·.number = l.taken)

/-- Reads tokens until the first one is decided. -/
def decideFirst : (fuel : Nat) → Lexer → Except Problem Lexer
  | 0, l => .ok l
  | fuel + 1, l => do
    let l ← if l.queue.isEmpty then pure l else l.dropStale
    if l.isOpen then decideFirst fuel (← l.fetch) else return l

/-- **The next token.**  Each step reads a character or ends the text. -/
def peek (l : Lexer) : Except Problem (Token × Lexer) := do
  let l ← decideFirst (l.cursor.rest.length + 4) l
  match l.queue with
  | token :: _ => return (token, l)
  | [] => return (marker .streamEnd l.mark, l)

/-- Takes the next token away. -/
def take (l : Lexer) : Lexer :=
  { l with queue := l.queue.tail, taken := l.taken + 1 }

/-- **The lexer at the start of a text**, which must hold no characters that are not
allowed. -/
def ofText (text : String) : Except Problem Lexer :=
  let chars := text.toList
  let allowed := chars.takeWhile isAllowed
  if allowed.length < chars.length then
    .error ⟨.controlCharacter ((allowed.map Char.utf8Size).foldl (· + ·) 0), {}, none⟩
  else .ok { cursor := ⟨chars, {}⟩ }

end Lexer

end FigureScript.Yaml
