import FigureScript.Process.Shell.Token

/-!
# Shell scripts

A script is read line by line: each line is a list of commands, which may go on over the
lines that follow.

## Main Definitions

* `ShellCommand` — a command of a script
* `Redirect` — where a stream of a command goes
* `ShellCommand.next` — the first line of a script, and the tokens behind it

## Design Notes

A word is a keyword only where a command can start, or where one is expected.  Reading
line by line means that a flaw in a script does not keep the lines before it from being
run.
-/

namespace FigureScript

/-- What a redirection does. -/
inductive RedirectKind where
  | input
  | output
  | append
  /-- Reading and writing. -/
  | both
  /-- The stream goes where another one goes, or is closed. -/
  | duplicate
  /-- The stream reads the word. -/
  | document
  deriving DecidableEq

/-- **Where a stream of a command goes.** -/
structure Redirect where
  stream : Nat
  kind : RedirectKind
  target : Word

/-- A value for a variable. -/
structure Assignment where
  name : String
  value : Word

/-- **A command.**  Those that can fail by themselves know their line. -/
inductive ShellCommand where
  | simple (line : Nat) (assignments : List Assignment) (words : List Word)
    (redirects : List Redirect)
  | pipeline (commands : List ShellCommand)
  | negate (command : ShellCommand)
  /-- The second command if the first one succeeds. -/
  | both (first second : ShellCommand)
  /-- The second command if the first one fails. -/
  | either (first second : ShellCommand)
  | background (command : ShellCommand)
  | sequence (commands : List ShellCommand)
  | redirected (line : Nat) (command : ShellCommand) (redirects : List Redirect)
  | subshell (command : ShellCommand)
  | branch (condition body : ShellCommand) (otherwise : Option ShellCommand)
  /-- Repeats while the condition succeeds, or fails if that is inverted. -/
  | loop (inverted : Bool) (condition body : ShellCommand)
  /-- Repeats for each word, or for each argument. -/
  | each (line : Nat) (name : String) (words : Option (List Word)) (body : ShellCommand)
  | choose (line : Nat) (subject : Word) (arms : List (List Word × Option ShellCommand))
  | define (name : String) (body : ShellCommand)

/-- Reads tokens. -/
abbrev TokenReader := StateT (List ShellToken) (Except ScriptFault)

namespace TokenReader

/-- The words that shape commands. -/
def keywords : List String :=
  ["!", "case", "do", "done", "elif", "else", "esac", "fi", "for", "if", "in", "then", "until",
    "while", "\x7b", "\x7d"]

/-- The next token. -/
def peek : TokenReader ShellToken := do
  return (← get).headD { line := 0, kind := .finish }

/-- Passes over a token. -/
def skip : TokenReader Unit :=
  modify List.tail

/-- The keyword that a token is, where one can stand. -/
def keyword? (token : ShellToken) : Option String :=
  match token.kind with
  | .word word =>
    ((Word.plain? word).map String.ofList).filter keywords.contains
  | _ => none

/-- The operator that a token is. -/
def operator? (token : ShellToken) : Option String :=
  match token.kind with
  | .operator op => some op
  | _ => none

/-- The token redirects a stream. -/
def isRedirect (token : ShellToken) : Bool :=
  match token.kind with
  | .stream _ => true
  | .operator op => op.toList.head?.any fun c => c = '<' || c = '>'
  | _ => false

/-- A word between quotes. -/
def named (word : String) : String :=
  "\"" ++ word ++ "\""

/-- What a token is called. -/
def describe (keywords : Bool) (token : ShellToken) : String :=
  match token.kind with
  | .finish => "end of file"
  | .operator "\n" => "newline"
  | .operator op => if isRedirect token then "redirection" else named op
  | .stream _ => "redirection"
  | .word _ =>
    match keyword? token with
    | some word => if keywords then named word else "word"
    | none => "word"
  | .document _ | .flaw _ => "word"

/-- Fails at the next token. -/
def refuse {α : Type} (expected : Option String) (keywords : Bool) : TokenReader α := do
  let token ← peek
  match token.kind with
  | .flaw flaw => throw ⟨token.line, flaw⟩
  | _ => throw ⟨token.line, .unexpected (describe keywords token) expected⟩

/-- Fails with a flaw at the next token. -/
def fail {α : Type} (flaw : ScriptFlaw) : TokenReader α := do
  throw ⟨(← peek).line, flaw⟩

/-- Passes over line breaks. -/
def skipBreaks : TokenReader Unit :=
  modify fun tokens => tokens.dropWhile fun token => operator? token = some "\n"

/-- Passes over a keyword that must come next. -/
def expect (word : String) : TokenReader Unit := do
  if keyword? (← peek) = some word then skip else refuse (some (named word)) true

/-- The next word. -/
def word (expected : Option String) : TokenReader Word := do
  match (← peek).kind with
  | .word word =>
    skip
    return word
  | _ => refuse expected false

/-! ### Redirections -/

/-- What an operator does to a stream, and which one it is by itself. -/
def redirection? (op : String) : Option (RedirectKind × Nat) :=
  match op with
  | "<" => some (.input, 0)
  | ">" | ">|" => some (.output, 1)
  | ">>" => some (.append, 1)
  | "<>" => some (.both, 0)
  | "<&" => some (.duplicate, 0)
  | ">&" => some (.duplicate, 1)
  | "<<" | "<<-" => some (.document, 0)
  | _ => none

/-- Reads a redirection. -/
def redirect : TokenReader Redirect := do
  let number ← match (← peek).kind with
    | .stream number =>
      skip
      pure (some number)
    | _ => pure none
  match (operator? (← peek)).bind redirection? with
  | none => refuse none false
  | some (kind, usual) =>
    skip
    let target ← match (← peek).kind with
      | .document word =>
        skip
        pure word
      | _ => word none
    return ⟨number.getD usual, kind, target⟩

/-- Reads redirections. -/
def redirects : (fuel : Nat) → TokenReader (List Redirect)
  | 0 => return []
  | fuel + 1 => do
    if isRedirect (← peek) then
      let first ← redirect
      return first :: (← redirects fuel)
    else return []

/-! ### Simple commands -/

/-- The assignment that a word is. -/
def assignment? (word : Word) : Option Assignment :=
  let name := word.takeWhile fun
    | .char c false => c ≠ '='
    | _ => false
  match Word.plain? name, word.drop name.length with
  | some letters, .char '=' false :: value =>
    if Word.isName letters then some ⟨String.ofList letters, value⟩ else none
  | _, _ => none

/-- The parts of a simple command. -/
structure SimpleParts where
  assignments : List Assignment := []
  words : List Word := []
  redirects : List Redirect := []

/-- Reads the parts of a simple command, behind those that are known. -/
def simpleParts : (fuel : Nat) → SimpleParts → TokenReader SimpleParts
  | 0, parts => return parts
  | fuel + 1, parts => do
    let token ← peek
    if isRedirect token then
      let redirect ← redirect
      simpleParts fuel { parts with redirects := parts.redirects ++ [redirect] }
    else match token.kind with
      | .word word =>
        skip
        match if parts.words.isEmpty then assignment? word else none with
        | some assignment =>
          simpleParts fuel { parts with assignments := parts.assignments ++ [assignment] }
        | none => simpleParts fuel { parts with words := parts.words ++ [word] }
      | .flaw _ => refuse none false
      | _ => return parts

/-- The names that no function can have. -/
def reservedNames : List String :=
  [".", ":", "break", "continue", "eval", "exec", "exit", "export", "readonly", "return", "set",
    "shift", "times", "trap", "unset"]

/-- The name of the function that a command starts to define: it is a single word with a
parenthesis behind it. -/
def functionName (parts : SimpleParts) : TokenReader (Option String) := do
  match parts with
  | ⟨[], [word], []⟩ =>
    if operator? (← peek) = some "(" then
      skip
      if operator? (← peek) = some ")" then
        match (Word.plain? word).filter Word.isName with
        | some name =>
          let name := String.ofList name
          if reservedNames.contains name || name = "local" then fail .functionName
          else
            skip
            return some name
        | none => fail .functionName
      else refuse (some (named ")")) false
    else return none
  | _ => return none

/-! ### Commands -/

/-- A token that ends a list of commands. -/
def endsList (token : ShellToken) : Bool :=
  match token.kind with
  | .finish => true
  | .operator op => op = ")" || op = ";;"
  | _ => (keyword? token).any
      ["do", "done", "elif", "else", "esac", "fi", "then", "\x7d"].contains

/-- Several commands as one. -/
def joined : List ShellCommand → ShellCommand
  | [command] => command
  | commands => .sequence commands

/-- The words of a loop, up to the end of its line. -/
def loopWords : (fuel : Nat) → TokenReader (List Word)
  | 0 => return []
  | fuel + 1 => do
    let token ← peek
    match token.kind with
    | .word word =>
      skip
      return word :: (← loopWords fuel)
    | .operator op =>
      if op = "\n" || op = ";" then
        skip
        return []
      else refuse none false
    | _ => refuse none false

/-- The patterns of an arm, up to the parenthesis behind them. -/
def patterns : (fuel : Nat) → TokenReader (List Word)
  | 0 => return []
  | fuel + 1 => do
    let token ← peek
    let first ← match token.kind with
      | .word word =>
        skip
        pure word
      | .finish => refuse (some (named ")")) true
      | .flaw _ => refuse none true
      | _ =>
        skip
        refuse (some (named ")")) false
    match operator? (← peek) with
    | some "|" =>
      skip
      return first :: (← patterns fuel)
    | some ")" =>
      skip
      return [first]
    | _ => refuse (some (named ")")) false

/-- Takes the meaning of a keyword from a word that comes next. -/
def unmarkWord : TokenReader Unit :=
  modify fun
    | token :: rest =>
      match token.kind with
      | .word word => { token with kind := .word (.quotes :: word) } :: rest
      | _ => token :: rest
    | [] => []

/-- Reads the redirections behind a command that is known.  Behind them there is no keyword. -/
def finishCompound (fuel line : Nat) (inner : ShellCommand) : TokenReader ShellCommand := do
  let redirects ← redirects fuel
  if redirects.isEmpty then return inner
  else
    unmarkWord
    return .redirected line inner redirects

mutual

/-- Reads the commands of a list inside of another command, up to a token that ends
it. -/
def list : (fuel : Nat) → (mayBeEmpty : Bool) → TokenReader (List ShellCommand)
  | 0, _ => return []
  | fuel + 1, mayBeEmpty => do
    skipBreaks
    let token ← peek
    if mayBeEmpty && endsList token then return []
    else match token.kind with
      | .finish => return []
      | _ =>
        let command ← chain fuel
        match operator? (← peek) with
        | some "&" =>
          skip
          return .background command :: (← list fuel true)
        | some ";" =>
          skip
          return command :: (← list fuel true)
        | some "\n" => return command :: (← list fuel true)
        | _ => return [command]

/-- Reads commands joined by `&&` and `||`. -/
def chain : (fuel : Nat) → TokenReader ShellCommand
  | 0 => refuse none true
  | fuel + 1 => do
    let command ← pipeline fuel
    chainMore fuel command

/-- Joins further commands to one. -/
def chainMore : (fuel : Nat) → ShellCommand → TokenReader ShellCommand
  | 0, command => return command
  | fuel + 1, command => do
    match operator? (← peek) with
    | some "&&" =>
      skip
      skipBreaks
      chainMore fuel (.both command (← pipeline fuel))
    | some "||" =>
      skip
      skipBreaks
      chainMore fuel (.either command (← pipeline fuel))
    | _ => return command

/-- Reads commands joined by `|`. -/
def pipeline : (fuel : Nat) → TokenReader ShellCommand
  | 0 => refuse none true
  | fuel + 1 => do
    let negated := keyword? (← peek) = some "!"
    if negated then skip
    let first ← command fuel none
    let others ← pipelineMore fuel
    let all := if others.isEmpty then first else .pipeline (first :: others)
    return if negated then .negate all else all

/-- Reads the commands behind the first one of a pipeline. -/
def pipelineMore : (fuel : Nat) → TokenReader (List ShellCommand)
  | 0 => return []
  | fuel + 1 => do
    let token ← peek
    if operator? token = some "|" then
      skip
      skipBreaks
      let next ← command fuel (some token.line)
      return next :: (← pipelineMore fuel)
    else return []

/-- Reads one command, whose line may be given by what is in front of it. -/
def command : (fuel : Nat) → (line : Option Nat) → TokenReader ShellCommand
  | 0, _ => refuse none true
  | fuel + 1, line => do
    let token ← peek
    let line := line.getD token.line
    match keyword? token with
    | some "if" =>
      skip
      let inner ← branch fuel
      finishCompound fuel line inner
    | some "while" =>
      skip
      let inner ← loop fuel false
      finishCompound fuel line inner
    | some "until" =>
      skip
      let inner ← loop fuel true
      finishCompound fuel line inner
    | some "for" =>
      skip
      let inner ← each fuel line
      finishCompound fuel line inner
    | some "case" =>
      skip
      let inner ← choose fuel line
      finishCompound fuel line inner
    | some "\x7b" =>
      skip
      let body ← list fuel false
      expect "\x7d"
      finishCompound fuel line (joined body)
    | some _ => refuse none true
    | none =>
      match token.kind with
      | .operator "(" =>
        skip
        let body ← list fuel false
        if operator? (← peek) = some ")" then skip else refuse (some (named ")")) true
        finishCompound fuel line (.subshell (joined body))
      | .word _ | .stream _ | .operator _ =>
        if isRedirect token || (operator? token).isNone then
          let parts ← simpleParts fuel {}
          match ← functionName parts with
          | some name =>
            skipBreaks
            return .define name (← command fuel none)
          | none => return .simple line parts.assignments parts.words parts.redirects
        else refuse none true
      | _ => refuse none true

/-- Reads a branch, behind `if` or `elif`. -/
def branch : (fuel : Nat) → TokenReader ShellCommand
  | 0 => refuse none true
  | fuel + 1 => do
    let condition ← list fuel false
    expect "then"
    let body ← list fuel false
    match keyword? (← peek) with
    | some "elif" =>
      skip
      let otherwise ← branch fuel
      return .branch (joined condition) (joined body) (some otherwise)
    | some "else" =>
      skip
      let otherwise ← list fuel false
      expect "fi"
      return .branch (joined condition) (joined body) (some (joined otherwise))
    | _ =>
      expect "fi"
      return .branch (joined condition) (joined body) none

/-- Reads a loop, behind `while` or `until`. -/
def loop : (fuel : Nat) → (inverted : Bool) → TokenReader ShellCommand
  | 0, _ => refuse none true
  | fuel + 1, inverted => do
    let condition ← list fuel false
    expect "do"
    let body ← list fuel false
    expect "done"
    return .loop inverted (joined condition) (joined body)

/-- Reads a loop over words, behind `for`. -/
def each : (fuel : Nat) → (line : Nat) → TokenReader ShellCommand
  | 0, _ => refuse none true
  | fuel + 1, line => do
    let token ← peek
    let name ← match token.kind with
      | .word word =>
        match (Word.plain? word).filter Word.isName with
        | some name => pure (String.ofList name)
        | none => fail .loopVariable
      | .flaw _ => refuse none false
      | _ => fail .loopVariable
    skip
    skipBreaks
    let words ←
      if keyword? (← peek) = some "in" then
        skip
        some <$> loopWords fuel
      else
        if operator? (← peek) = some ";" then skip
        pure none
    skipBreaks
    expect "do"
    let body ← list fuel false
    expect "done"
    return .each line name words (joined body)

/-- Reads a choice, behind `case`. -/
def choose : (fuel : Nat) → (line : Nat) → TokenReader ShellCommand
  | 0, _ => refuse none true
  | fuel + 1, line => do
    let subject ← word (some "word")
    skipBreaks
    expect "in"
    return .choose line subject (← arms fuel)

/-- Reads the arms of a choice and the keyword behind them. -/
def arms : (fuel : Nat) → TokenReader (List (List Word × Option ShellCommand))
  | 0 => return []
  | fuel + 1 => do
    skipBreaks
    if keyword? (← peek) = some "esac" then
      skip
      return []
    else
      if operator? (← peek) = some "(" then skip
      let fitting ← patterns fuel
      let body ← list fuel true
      let arm := (fitting, if body.isEmpty then none else some (joined body))
      skipBreaks
      if keyword? (← peek) = some "esac" then
        skip
        return [arm]
      else if operator? (← peek) = some ";;" then
        skip
        return arm :: (← arms fuel)
      else refuse (some (named ";;")) true

end

/-- Reads the commands of a line, up to its end. -/
def line : (fuel : Nat) → TokenReader (List ShellCommand)
  | 0 => refuse none true
  | fuel + 1 => do
    let command ← chain fuel
    let more (command : ShellCommand) : TokenReader (List ShellCommand) := do
      skip
      let token ← peek
      match token.kind with
      | .finish => return [command]
      | .operator "\n" =>
        skip
        return [command]
      | _ => return command :: (← line fuel)
    let token ← peek
    match token.kind with
    | .finish => return [command]
    | .operator "&" => more (.background command)
    | .operator ";" => more command
    | .operator "\n" =>
      skip
      return [command]
    | _ => refuse none true

end TokenReader

namespace ShellCommand

/-- The commands of a whole script, and the tokens behind them. -/
def all (tokens : List ShellToken) : Except ScriptFault (List ShellCommand × List ShellToken) :=
  (TokenReader.list (8 * tokens.length + 16) true).run tokens

mutual

/-- Reads a script up to the parenthesis that closes it. -/
def readClosed : (depth : Nat) → (line : Nat) → List Char →
    Except ScriptFault (Reading (List Char))
  | 0, line, _ => .error ⟨line, .openBackquotes⟩
  | depth + 1, line, text => do
    let inner : Word.InnerReader := ⟨readClosed depth, readWhole depth⟩
    let (_, rest) ← all (ShellToken.ofInner inner line text)
    match rest with
    | token :: _ =>
      if TokenReader.operator? token = some ")" then
        return ⟨text.take (text.length - token.behind.length - 1), token.line, token.behind⟩
      else do
        let (read, _) ← (TokenReader.refuse (some (TokenReader.named ")")) true).run rest
        return read
    | [] => return ⟨text, line, []⟩

/-- Reads a script as a whole. -/
def readWhole : (depth : Nat) → List Char → Except ScriptFault Unit
  | 0, _ => .ok ()
  | depth + 1, text => do
    let inner : Word.InnerReader := ⟨readClosed depth, readWhole depth⟩
    let _ ← all (ShellToken.ofText inner 1 text)

end

/-- How scripts within the words of a text are read. -/
def innerReader (text : List Char) : Word.InnerReader :=
  ⟨readClosed text.length, readWhole text.length⟩

/-- **The tokens of a script** that starts on a line. -/
def tokens (line : Nat) (text : List Char) : List ShellToken :=
  ShellToken.ofText (innerReader text) line text

/-- **The commands of a script within a word**, as far as they can be a part of it. -/
def ofInner (line : Nat) (text : List Char) : Except ScriptFault (List ShellCommand) := do
  return (← all (tokens line text)).1

/-- **The first line of a script** with a command in it, and the tokens behind it, if there
is one. -/
def next (tokens : List ShellToken) :
    Except ScriptFault (Option (ShellCommand × List ShellToken)) :=
  match tokens.dropWhile fun token => TokenReader.operator? token = some "\n" with
  | [] => .ok none
  | token :: rest =>
    match token.kind with
    | .finish => .ok none
    | _ => do
      let (commands, rest) ← (TokenReader.line (8 * rest.length + 16)).run (token :: rest)
      return some (TokenReader.joined commands, rest)

end ShellCommand

end FigureScript
