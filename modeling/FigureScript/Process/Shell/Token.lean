import FigureScript.Process.Shell.Word

/-!
# Tokens of a shell script

A script is cut into words and operators.

## Main Definitions

* `ShellToken` — a token and the line on which it ends
* `ShellToken.ofText` — the tokens of a script
* `ShellToken.ofInner` — the tokens of a script that is closed by a parenthesis

## Design Notes

A text that an operator `<<` announces stands in the lines behind that of the operator.  It
is read there, and then moved to its operator.  What cannot be read becomes a token as well,
so that the commands in front of it can still be run.
-/

namespace FigureScript

/-- What a token is.  A line break is the operator of its own name. -/
inductive TokenKind where
  | word (word : Word)
  | operator (text : String)
  /-- The number of a stream in front of the operator that redirects it. -/
  | stream (number : Nat)
  /-- The text that an operator `<<` announces. -/
  | document (word : Word)
  | flaw (flaw : ScriptFlaw)
  | finish

/-- **A token**, the line on which it ends, and the text behind it. -/
structure ShellToken where
  line : Nat
  kind : TokenKind
  behind : List Char := []

/-- What has been opened in a script that is closed by a parenthesis. -/
inductive Opened where
  | group
  /-- The arms of a choice, whose patterns end with parentheses. -/
  | choice
  deriving DecidableEq

namespace ShellToken

/-- The operators, longer ones first. -/
def operators : List String :=
  ["<<-", ";;", "&&", "||", ">>", ">&", ">|", "<<", "<&", "<>", "<", ">", ";", "&", "|", "(", ")",
    "\n"]

/-- The operator at the front of a text. -/
def operatorAt? (text : List Char) : Option String :=
  operators.find? fun op => op.toList.isPrefixOf text

/-- A text that has been announced: the line that ends it, whether it is taken as it is, and
whether tabs at the front of its lines do not count. -/
structure Announced where
  mark : List Char
  verbatim : Bool
  indented : Bool

/-- The lines in front of the one that ends an announced text, and the text behind it. -/
def documentLines (announced : Announced) : (fuel : Nat) → List Char → List Char × List Char
  | 0, rest => ([], rest)
  | _, [] => ([], [])
  | fuel + 1, text =>
    let line := text.takeWhile (· ≠ '\n')
    let rest := (text.drop line.length).drop 1
    let shown := if announced.indented then line.dropWhile (· = '\t') else line
    if shown = announced.mark then ([], rest)
    else
      let (lines, behind) := documentLines announced fuel rest
      (shown ++ '\n' :: lines, behind)

variable (inner : Word.InnerReader)

/-- The texts that have been announced, as tokens, and the text behind them. -/
def readDocuments : List Announced → (line : Nat) → List Char →
    List ShellToken × Nat × List Char
  | [], line, text => ([], line, text)
  | announced :: others, line, text =>
    let (document, rest) := documentLines announced (text.length + 1) text
    let reached := line + Word.lineBreaks (text.take (text.length - rest.length))
    let token : TokenKind :=
      if announced.verbatim then .document (Word.quoted document)
      else match Word.read inner .document line document with
        | .ok read => .document read.value
        | .error fault => .flaw fault.flaw
    let (tokens, reached, rest) := readDocuments others reached rest
    ({ line := reached, kind := token } :: tokens, reached, rest)

/-- What is known where a token starts. -/
structure Position where
  line : Nat
  /-- The texts that the line announces, the last one first. -/
  announced : List Announced := []
  /-- The next word ends a text; tabs at the front of its lines may not count. -/
  expects : Option Bool := none
  /-- What is open in a script that is closed by a parenthesis, the innermost first. -/
  opened : Option (List Opened) := none
  /-- A command can start. -/
  isFresh : Bool := true

namespace Position

/-- The words behind which a command can start. -/
def openers : List String :=
  ["if", "then", "elif", "else", "while", "until", "do", "in", "!", "\x7b"]

/-- The position behind an operator. -/
def behindOperator (p : Position) (op : String) : Position :=
  let opened := match op, p.opened with
    | "(", some opened => some (.group :: opened)
    | ")", some (.group :: opened) => some opened
    | _, opened => opened
  let isRedirection := op.toList.head?.any fun c => c = '<' || c = '>'
  { p with
    opened
    isFresh := !isRedirection
    expects := if op = "<<" then some false else if op = "<<-" then some true else none }

/-- The position behind a word. -/
def behindWord (p : Position) (word : Word) (line : Nat) : Position :=
  let text := ((Word.plain? word).map String.ofList).getD ""
  let opened :=
    if !p.isFresh then p.opened
    else match text, p.opened with
      | "case", some opened => some (.choice :: opened)
      | "esac", some (.choice :: opened) => some opened
      | _, opened => opened
  let announced := match p.expects with
    | some indented => ⟨Word.unquoted word, Word.hasQuotes word, indented⟩ :: p.announced
    | none => p.announced
  { p with line, announced, opened, expects := none, isFresh := openers.contains text }

end Position

/-- The tokens of a text, up to the parenthesis that closes it if there is one. -/
def tokens : (fuel : Nat) → Position → List Char → List ShellToken
  | 0, p, _ | _, p, [] => [{ line := p.line, kind := .finish }]
  | fuel + 1, p, c :: rest =>
    if c = ' ' || c = '\t' then tokens fuel p rest
    else if c = '#' then tokens fuel p (rest.dropWhile (· ≠ '\n'))
    else if c = '\\' && rest.head? = some '\n' then
      tokens fuel { p with line := p.line + 1 } rest.tail
    else if c = '\n' then
      let (documents, line, rest) := readDocuments inner p.announced.reverse (p.line + 1) rest
      { line, kind := .operator "\n", behind := rest } :: documents ++
        tokens fuel { p with line, announced := [], expects := none, isFresh := true } rest
    else match operatorAt? (c :: rest) with
      | some op =>
        let behind := (c :: rest).drop op.length
        let token : ShellToken := { line := p.line, kind := .operator op, behind }
        if op = ")" && p.opened = some [] then [token]
        else token :: tokens fuel (p.behindOperator op) behind
      | none =>
        if c.isDigit && (rest.head? = some '<' || rest.head? = some '>') then
          { line := p.line, kind := .stream (c.toNat - '0'.toNat) } ::
            tokens fuel { p with expects := none } rest
        else match Word.read inner .bare p.line (c :: rest) with
          | .error fault => [{ line := fault.line, kind := .flaw fault.flaw }]
          | .ok read =>
            { line := read.line, kind := .word read.value } ::
              tokens fuel (p.behindWord read.value read.line) read.rest

/-- The texts that have been announced, in their order. -/
def documents (tokens : List ShellToken) : List Word :=
  tokens.filterMap fun token =>
    match token.kind with
    | .document word => some word
    | _ => none

/-- Puts announced texts behind their operators, in place of the words that end them. -/
def placeDocuments : List Word → List ShellToken → List ShellToken
  | _, [] => []
  | texts, token :: rest =>
    match token.kind, rest with
    | .document _, rest => placeDocuments texts rest
    | .operator op, mark :: behind =>
      if op = "<<" || op = "<<-" then
        match mark.kind with
        | .word _ =>
          token :: { line := mark.line, kind := .document (texts.headD []) } ::
            placeDocuments texts.tail behind
        | _ => token :: placeDocuments texts (mark :: behind)
      else token :: placeDocuments texts (mark :: behind)
    | _, rest => token :: placeDocuments texts rest

/-- Tokens with the announced texts behind their operators. -/
def placed (tokens : List ShellToken) : List ShellToken :=
  placeDocuments (documents tokens) tokens

/-- **The tokens of a script** that starts on a line. -/
def ofText (line : Nat) (text : List Char) : List ShellToken :=
  placed (tokens inner (text.length + 1) { line } text)

/-- **The tokens of a script that is closed by a parenthesis**, with that parenthesis. -/
def ofInner (line : Nat) (text : List Char) : List ShellToken :=
  placed (tokens inner (text.length + 1) { line, opened := some [] } text)

end ShellToken

end FigureScript
