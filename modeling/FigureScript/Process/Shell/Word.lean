/-!
# Words of a shell script

A word is made of pieces: characters, quoted or not, and parts that are replaced when the
word is expanded.

## Main Definitions

* `Piece`, `Word` — the parts of a word
* `Word.read` — the word at the front of a text
* `ScriptFlaw` — what keeps a script from being read

## Design Notes

A text is given by one character for each of its bytes, and so are its words.  Where a word
ends depends on what is around it: a blank ends a bare word, but not one inside of braces
or quotes.
-/

namespace FigureScript

/-- What becomes of a parameter that is not set, or of one that is. -/
inductive Substitute where
  /-- `-`: the word in place of no value. -/
  | value
  /-- `=`: the same, and the parameter gets it as its value. -/
  | assign
  /-- `?`: the script fails with the word as its message. -/
  | fail
  /-- `+`: the word in place of a value. -/
  | other
  deriving DecidableEq

/-- **A piece of a word.** -/
inductive Piece where
  | char (c : Char) (quoted : Bool)
  /-- Quotes, which make a word even if there is nothing between them. -/
  | quotes
  /-- `$name`, `$1`, `$@` and the like. -/
  | value (name : String) (quoted : Bool)
  /-- The number of bytes of a value. -/
  | length (name : String) (quoted : Bool)
  /-- A value or a word in its place; with `orEmpty` an empty value counts as none. -/
  | substitute (name : String) (kind : Substitute) (orEmpty : Bool) (word : List Piece)
    (quoted : Bool)
  /-- A value without what fits a pattern at its end or at its start. -/
  | trim (name : String) (atEnd longest : Bool) (pattern : List Piece) (quoted : Bool)
  /-- The output of a script that starts on a line. -/
  | output (script : List Char) (line : Nat) (quoted : Bool)
  /-- The value of an arithmetic expression. -/
  | number (expression : List Piece) (quoted : Bool)
  /-- Braces that hold nothing of these. -/
  | unknown

/-- **A word**, piece by piece. -/
abbrev Word := List Piece

/-- **What keeps a script from being read.** -/
inductive ScriptFlaw where
  | openQuotes
  | openBraces
  | openBackquotes
  | openNumber
  | loopVariable
  | functionName
  | unexpected (found : String) (expected : Option String)
  deriving DecidableEq

/-- The wording of a flaw. -/
def ScriptFlaw.message : ScriptFlaw → String
  | openQuotes => "Unterminated quoted string"
  | openBraces => "Missing '\x7d'"
  | openBackquotes => "EOF in backquote substitution"
  | openNumber => "Missing '))'"
  | loopVariable => "Bad for loop variable"
  | functionName => "Bad function name"
  | unexpected found none => found ++ " unexpected"
  | unexpected found (some expected) => found ++ " unexpected (expecting " ++ expected ++ ")"

/-- A flaw and the line on which it shows. -/
structure ScriptFault where
  line : Nat
  flaw : ScriptFlaw
  deriving DecidableEq

/-- What was read, the line that was reached, and the text behind it. -/
structure Reading (α : Type) where
  value : α
  line : Nat
  rest : List Char

namespace Word

/-- The word as it is written, if nothing in it is quoted or replaced. -/
def plain? : Word → Option (List Char)
  | [] => some []
  | .char c false :: rest => (plain? rest).map (c :: ·)
  | _ :: _ => none

/-- All of a text, quoted. -/
def quoted (text : List Char) : Word :=
  text.map fun c => .char c true

/-- The characters of a word that has nothing to be replaced, without its quotes. -/
def unquoted (word : Word) : List Char :=
  word.filterMap fun
    | .char c _ => some c
    | _ => none

/-- Something in the word is quoted. -/
def hasQuotes (word : Word) : Bool :=
  word.any fun
    | .char _ quoted => quoted
    | .quotes => true
    | _ => false

/-! ### Names -/

/-- A letter or an underscore. -/
def isNameStart (c : Char) : Bool :=
  c.isAlpha || c = '_'

/-- A character of a name behind its first one. -/
def isNameChar (c : Char) : Bool :=
  c.isAlphanum || c = '_'

/-- The text is the name of a variable. -/
def isName (text : List Char) : Bool :=
  text.head?.any isNameStart && text.all isNameChar

/-- A parameter whose name is one sign. -/
def isSpecial (c : Char) : Bool :=
  c = '@' || c = '*' || c = '#' || c = '?' || c = '-' || c = '$' || c = '!'

/-- The name of a parameter between braces, and what follows it. -/
def bracedName? : List Char → Option (String × List Char)
  | [] => none
  | c :: rest =>
    if isNameStart c then
      let name := (c :: rest).takeWhile isNameChar
      some (String.ofList name, (c :: rest).drop name.length)
    else if c.isDigit then
      let name := (c :: rest).takeWhile Char.isDigit
      some (String.ofList name, (c :: rest).drop name.length)
    else if isSpecial c then some (String.ofList [c], rest)
    else none

/-- The name of a parameter behind a dollar sign, and what follows it. -/
def shortName? (text : List Char) : Option (String × List Char) :=
  match text with
  | c :: rest => if c.isDigit then some (String.ofList [c], rest) else bracedName? text
  | [] => none

/-! ### Inner scripts -/

/-- **How scripts within words are read.** -/
structure InnerReader where
  /-- The script at the front of a text, up to the parenthesis that closes it, and what follows
  that. -/
  closed : (line : Nat) → List Char → Except ScriptFault (Reading (List Char))
  /-- The script that a text is as a whole; what cannot be a part of it at its end does not
  matter. -/
  whole : List Char → Except ScriptFault Unit

/-- The number of line breaks in a text. -/
def lineBreaks (text : List Char) : Nat :=
  text.count '\n'

/-- The script between backquotes, and the text behind them.  A backslash protects a
backquote, a dollar sign, a backslash and, inside quotes, a quote. -/
def backquoted? (quoted : Bool) : List Char → Option (List Char × List Char)
  | [] => none
  | '\x60' :: rest => some ([], rest)
  | '\\' :: c :: rest =>
    let isProtected := c = '\x60' || c = '$' || c = '\\' || (quoted && c = '"')
    (backquoted? quoted rest).map fun (inside, rest) =>
      (if isProtected then c :: inside else '\\' :: c :: inside, rest)
  | c :: rest => (backquoted? quoted rest).map fun (inside, rest) => (c :: inside, rest)

/-! ### Reading -/

/-- **What is around the pieces** that are read, and with it what ends them. -/
inductive Surrounding where
  | bare
  | quotes
  | braces
  /-- Braces inside of quotes. -/
  | quotedBraces
  /-- A text that is given in the lines below a command. -/
  | document
  /-- An arithmetic expression with so many parentheses open. -/
  | number (depth : Nat)
  deriving DecidableEq

/-- A character that ends a bare word. -/
def isBoundary (c : Char) : Bool :=
  c = ' ' || c = '\t' || c = '\n' || c = ';' || c = '&' || c = '|' || c = '<' || c = '>' ||
    c = '(' || c = ')'

namespace Surrounding

/-- What is read there is quoted. -/
def isQuoted : Surrounding → Bool
  | bare | braces => false
  | _ => true

/-- A character that a backslash protects. -/
def protects (s : Surrounding) (c : Char) : Bool :=
  match s with
  | bare | braces => true
  | quotes | number _ => c = '$' || c = '\x60' || c = '"' || c = '\\'
  | quotedBraces => c = '$' || c = '\x60' || c = '"' || c = '\\' || c = '\x7d'
  | document => c = '$' || c = '\x60' || c = '\\'

/-- The flaw of a text that ends there. -/
def flawAtEnd? : Surrounding → Option ScriptFlaw
  | bare | document => none
  | quotes | quotedBraces => some .openQuotes
  | braces => some .openBraces
  | number _ => some .openNumber

end Surrounding

/-- The substitute that a sign asks for. -/
def substitute? : Char → Option Substitute
  | '-' => some .value
  | '=' => some .assign
  | '?' => some .fail
  | '+' => some .other
  | _ => none

variable (inner : InnerReader)

mutual

/-- Reads pieces up to the end that their surrounding has. -/
def readPieces : (fuel : Nat) → Surrounding → (line : Nat) → List Char →
    Except ScriptFault (Reading Word)
  | 0, _, line, rest => .ok ⟨[], line, rest⟩
  | fuel + 1, around, line, text =>
    let more (pieces : Word) (around : Surrounding) (line : Nat) (rest : List Char) := do
      let read ← readPieces fuel around line rest
      Except.ok { read with value := pieces ++ read.value }
    match text with
    | [] =>
      match around.flawAtEnd? with
      | some flaw => .error ⟨line, flaw⟩
      | none => .ok ⟨[], line, []⟩
    | '\\' :: c :: rest =>
      if c = '\n' then more [] around (line + 1) rest
      else if around.protects c then more [.char c true] around line rest
      else more [.char '\\' true] around line (c :: rest)
    | '$' :: rest => do
      match ← readReplaced? fuel around.isQuoted line rest with
      | some read => more [read.value] around read.line read.rest
      | none => more [.char '$' around.isQuoted] around line rest
    | '\x60' :: rest =>
      match backquoted? around.isQuoted rest with
      | some (script, behind) =>
        match inner.whole script with
        | .error fault => .error fault
        | .ok () =>
          more [.output script 1 around.isQuoted] around
            (line + lineBreaks (rest.take (rest.length - behind.length))) behind
      | none => .error ⟨line + lineBreaks rest, .openBackquotes⟩
    | c :: rest =>
      match around with
      | .bare | .braces =>
        if c = '\'' then
          let inside := rest.takeWhile (· ≠ '\'')
          let line := line + lineBreaks inside
          match rest.drop inside.length with
          | [] => .error ⟨line, .openQuotes⟩
          | _ :: rest => more (.quotes :: quoted inside) around line rest
        else if c = '"' then do
          let read ← readPieces fuel .quotes line rest
          more (.quotes :: read.value) around read.line read.rest
        else if around = .bare then
          if isBoundary c then .ok ⟨[], line, c :: rest⟩
          else more [.char c false] around line rest
        else if c = '\x7d' then .ok ⟨[], line, rest⟩
        else more [.char c false] around (if c = '\n' then line + 1 else line) rest
      | .quotes =>
        if c = '"' then .ok ⟨[], line, rest⟩
        else more [.char c true] around (if c = '\n' then line + 1 else line) rest
      | .quotedBraces =>
        if c = '\x7d' then .ok ⟨[], line, rest⟩
        else if c = '"' then do
          let read ← readPieces fuel .quotes line rest
          more read.value around read.line read.rest
        else more [.char c true] around (if c = '\n' then line + 1 else line) rest
      | .document => more [.char c true] around (if c = '\n' then line + 1 else line) rest
      | .number depth =>
        if c = ')' then
          match depth, rest with
          | 0, ')' :: rest => .ok ⟨[], line, rest⟩
          | depth, rest => more [.char c true] (.number (depth - 1)) line rest
        else if c = '"' then more [] around line rest
        else
          more [.char c true] (if c = '(' then .number (depth + 1) else around)
            (if c = '\n' then line + 1 else line) rest

/-- Reads what is replaced, behind a dollar sign, if there is anything. -/
def readReplaced? : (fuel : Nat) → (quoted : Bool) → (line : Nat) → List Char →
    Except ScriptFault (Option (Reading Piece))
  | 0, _, _, _ => .ok none
  | fuel + 1, quoted, line, text =>
    match text with
    | '(' :: '(' :: rest => do
      let read ← readPieces fuel (.number 0) line rest
      return some ⟨.number read.value quoted, read.line, read.rest⟩
    | '(' :: rest => do
      let read ← inner.closed line rest
      return some ⟨.output read.value line quoted, read.line, read.rest⟩
    | '\x7b' :: '#' :: '\x7d' :: rest => .ok (some ⟨.value "#" quoted, line, rest⟩)
    | '\x7b' :: '#' :: rest =>
      match bracedName? rest with
      | some (name, '\x7d' :: rest) => .ok (some ⟨.length name quoted, line, rest⟩)
      | _ => some <$> readChange fuel quoted line "#" rest
    | '\x7b' :: rest =>
      match bracedName? rest with
      | some (name, rest) => some <$> readChange fuel quoted line name rest
      | none => do
        let read ← readPieces fuel (if quoted then .quotedBraces else .braces) line rest
        return some ⟨.unknown, read.line, read.rest⟩
    | text =>
      match shortName? text with
      | some (name, rest) => .ok (some ⟨.value name quoted, line, rest⟩)
      | none => .ok none

/-- Reads the rest of a parameter between braces, behind its name. -/
def readChange : (fuel : Nat) → (quoted : Bool) → (line : Nat) → (name : String) →
    List Char → Except ScriptFault (Reading Piece)
  | 0, _, line, _, rest => .ok ⟨.unknown, line, rest⟩
  | fuel + 1, quoted, line, name, text =>
    let inside : Surrounding := if quoted then .quotedBraces else .braces
    let trim (atEnd longest : Bool) (rest : List Char) := do
      let read ← readPieces fuel .braces line rest
      Except.ok ⟨.trim name atEnd longest read.value quoted, read.line, read.rest⟩
    let substitute (kind : Substitute) (orEmpty : Bool) (rest : List Char) := do
      let read ← readPieces fuel inside line rest
      Except.ok ⟨.substitute name kind orEmpty read.value quoted, read.line, read.rest⟩
    let unknown (rest : List Char) := do
      let read ← readPieces fuel inside line rest
      Except.ok ⟨.unknown, read.line, read.rest⟩
    match text with
    | '\x7d' :: rest => .ok ⟨.value name quoted, line, rest⟩
    | '%' :: '%' :: rest => trim true true rest
    | '%' :: rest => trim true false rest
    | '#' :: '#' :: rest => trim false true rest
    | '#' :: rest => trim false false rest
    | ':' :: c :: rest =>
      match substitute? c with
      | some kind => substitute kind true rest
      | none => unknown rest
    | c :: rest =>
      match substitute? c with
      | some kind => substitute kind false rest
      | none => unknown rest
    | [] => unknown []

end

/-- **Reads a word** that starts on a line. -/
def read (around : Surrounding) (line : Nat) (text : List Char) :
    Except ScriptFault (Reading Word) :=
  readPieces inner (4 * text.length + 4) around line text

end Word

end FigureScript
