import FigureScript.Process.Tool.Lines
import FigureScript.Process.Tool.Regular

/-!
# Editing line by line

## Main Definitions

* `EditCommand`, `EditCommand.ofText` — the commands of an edit, and how they are written
* `EditState.run` — what commands do with a line
* `Tool.edit` — edits files

## Design Notes

A block of commands is one command that skips those inside unless its lines are selected.
The line that the last command leaves is shown, unless that is not wanted.
-/

namespace FigureScript

/-- A line, or the lines that are like it. -/
inductive EditAddress where
  | line (number : Nat)
  | last
  | fitting (r : Regular)
  /-- So many lines behind the first one. -/
  | after (count : Nat)

/-- The lines that a command is for. -/
structure EditSelector where
  first : Option EditAddress := none
  final : Option EditAddress := none
  inverted : Bool := false

/-- A part of what is put in place of a text. -/
inductive ReplacementPart where
  | char (c : Char)
  | group (number : Nat)

/-- What a command does. -/
inductive EditAction where
  | substitute (r : Regular) (replacement : List ReplacementPart) (nth : Nat) (all prints : Bool)
  | translate (pairs : List (Char × Char))
  | print
  | showNumber
  | delete
  | quit (silently : Bool) (status : Nat)
  | append (text : List Char)
  | insert (text : List Char)
  | change (text : List Char)
  /-- The next commands are for these lines only. -/
  | block (length : Nat)

/-- **A command of an edit.** -/
structure EditCommand where
  selector : EditSelector
  action : EditAction

namespace EditCommand

/-- Why a text means no commands, and how many characters are left behind the place. -/
structure Fault where
  message : String
  left : Nat

/-- The text up to a delimiter, and what follows it.  Behind a backslash the delimiter stands
for itself, and so it does in a class of characters; `inside` counts the characters of a class
that has begun. -/
def delimited? (delimiter : Char) (hasClasses : Bool) : (inside : Option Nat) → List Char →
    Option (List Char × List Char)
  | _, [] => none
  | none, '\\' :: c :: rest =>
    (delimited? delimiter hasClasses none rest).map fun (text, rest) =>
      (if c = delimiter then c :: text
        else if c = 'n' then '\n' :: text else '\\' :: c :: text, rest)
  | none, c :: rest =>
    if c = delimiter then some ([], rest)
    else
      let inside := if c = '[' && hasClasses then some 0 else none
      (delimited? delimiter hasClasses inside rest).map fun (text, rest) => (c :: text, rest)
  | some count, ':' :: ']' :: rest =>
    (delimited? delimiter hasClasses (some (count + 2)) rest).map fun (text, rest) =>
      (':' :: ']' :: text, rest)
  | some count, c :: rest =>
    let inside :=
      if c = ']' && 0 < count then none
      else if c = '^' && count = 0 then some 0 else some (count + 1)
    (delimited? delimiter hasClasses inside rest).map fun (text, rest) => (c :: text, rest)

/-- The parts of a replacement. -/
def replacement : List Char → List ReplacementPart
  | [] => []
  | '\\' :: c :: rest =>
    (if c.isDigit then .group (c.toNat - '0'.toNat) else .char c) :: replacement rest
  | '&' :: rest => .group 0 :: replacement rest
  | c :: rest => .char c :: replacement rest

/-- A pattern of an edit. -/
def pattern (extended : Bool) (text rest : List Char) : Except Fault Regular :=
  match Regular.ofText extended text with
  | .ok r => .ok r
  | .error flaw => .error ⟨flaw.message, rest.length⟩

/-- The address at the front of a text, if there is one. -/
def address? (extended : Bool) (text : List Char) :
    Except Fault (Option EditAddress × List Char) := do
  let fitting (delimiter : Char) (rest : List Char) := do
    match delimited? delimiter true none rest with
    | none => throw ⟨"unterminated address regex", 0⟩
    | some (text, rest) =>
      let r ← pattern extended text rest
      match rest with
      | 'I' :: rest => return (some (EditAddress.fitting r.ignoringCase), rest)
      | rest => return (some (EditAddress.fitting r), rest)
  match text with
  | '$' :: rest => return (some .last, rest)
  | '/' :: rest => fitting '/' rest
  | '\\' :: c :: rest => fitting c rest
  | '+' :: rest =>
    let digits := rest.takeWhile Char.isDigit
    return (some (.after (Format.decimal digits)), rest.drop digits.length)
  | text =>
    let digits := text.takeWhile Char.isDigit
    return (if digits.isEmpty then none else some (.line (Format.decimal digits)),
      text.drop digits.length)

/-- The flags behind a substitution: which one, all of them, whether to show the line, and
whether the case of letters counts. -/
structure Flags where
  nth : Nat := 1
  all : Bool := false
  prints : Bool := false
  ignoresCase : Bool := false

/-- The flags at the front of a text. -/
def flags : (fuel : Nat) → Flags → List Char → Except Fault (Flags × List Char)
  | 0, read, text => .ok (read, text)
  | fuel + 1, read, text =>
    match text with
    | 'g' :: rest => flags fuel { read with all := true } rest
    | 'p' :: rest => flags fuel { read with prints := true } rest
    | 'i' :: rest | 'I' :: rest => flags fuel { read with ignoresCase := true } rest
    | c :: rest =>
      if c.isDigit then
        let digits := text.takeWhile Char.isDigit
        flags fuel { read with nth := Format.decimal digits } (text.drop digits.length)
      else if "; \n\x7d#".toList.contains c then .ok (read, text)
      else .error ⟨"unknown option to \x60s'", rest.length⟩
    | [] => .ok (read, [])

/-- What an action with a text of its own adds: up to the end of the line, or of the lines
that end with a backslash. -/
def addedText : List Char → List Char × List Char
  | [] => (['\n'], [])
  | '\\' :: c :: rest =>
    let (text, rest) := addedText rest
    (c :: text, rest)
  | '\n' :: rest => (['\n'], rest)
  | c :: rest =>
    let (text, rest) := addedText rest
    (c :: text, rest)

/-- The action at the front of a text that is not empty, and what follows it. -/
def readAction (extended : Bool) (c : Char) (rest : List Char) :
    Except Fault (EditAction × List Char) := do
  let withText (make : List Char → EditAction) : Except Fault (EditAction × List Char) := do
    let behind := rest.dropWhile fun c => c = ' ' || c = '\t'
    match behind with
    | [] => throw ⟨"expected \\ after \x60a', \x60c' or \x60i'", 0⟩
    | '\\' :: '\n' :: behind =>
      let (text, rest) := addedText behind
      return (make text, rest)
    | '\\' :: behind | behind =>
      let (text, rest) := addedText behind
      return (make text, rest)
  match c with
  | 's' =>
    let unterminated : Fault := ⟨"unterminated \x60s' command", 0⟩
    match rest with
    | [] => throw unterminated
    | delimiter :: rest =>
      match delimited? delimiter true none rest with
      | none => throw unterminated
      | some (old, rest) =>
        match delimited? delimiter false none rest with
        | none => throw unterminated
        | some (new, rest) =>
          let (given, rest) ← flags (rest.length + 1) {} rest
          let r ← pattern extended old rest
          let r := if given.ignoresCase then r.ignoringCase else r
          return (.substitute r (replacement new) given.nth given.all given.prints, rest)
  | 'y' =>
    let unterminated : Fault := ⟨"unterminated \x60y' command", 0⟩
    match rest with
    | [] => throw unterminated
    | delimiter :: rest =>
      match delimited? delimiter false none rest with
      | none => throw unterminated
      | some (old, rest) =>
        match delimited? delimiter false none rest with
        | none => throw unterminated
        | some (new, rest) =>
          if old.length ≠ new.length then
            throw ⟨"strings for \x60y' command are different lengths", rest.length⟩
          return (.translate (old.zip new), rest)
  | 'p' => return (.print, rest)
  | '=' => return (.showNumber, rest)
  | 'd' => return (.delete, rest)
  | 'q' | 'Q' =>
    let digits := (rest.dropWhile (· = ' ')).takeWhile Char.isDigit
    return (.quit (c = 'Q') (Format.decimal digits),
      (rest.dropWhile (· = ' ')).drop digits.length)
  | 'a' => withText .append
  | 'i' => withText .insert
  | 'c' => withText .change
  | c => throw ⟨"unknown command: \x60" ++ String.ofList [c] ++ "'", rest.length⟩

/-- What may stand between commands. -/
def isBetween (c : Char) : Bool :=
  c = ';' || Arithmetic.isSpace c

/-- The commands of a text up to the end of a block, or of the text. -/
def commands (extended : Bool) : (fuel : Nat) → (inside : Bool) → List Char →
    Except Fault (List EditCommand × List Char)
  | 0, _, text => .ok ([], text)
  | fuel + 1, inside, text => do
    let text := text.dropWhile isBetween
    match text with
    | [] => if inside then throw ⟨"unmatched \x60\x7b'", 0⟩ else return ([], [])
    | '#' :: rest => commands extended fuel inside (rest.dropWhile (· ≠ '\n'))
    | '}' :: rest =>
      if inside then return ([], rest) else throw ⟨"unexpected \x60\x7d'", rest.length⟩
    | text =>
      let (first, rest) ← address? extended text
      let (final, rest) ← match first, rest with
        | some _, ',' :: rest => do
          let (final, behind) ← address? extended (rest.dropWhile (· = ' '))
          if final.isNone then throw ⟨"unexpected \x60,'", behind.length - 1⟩
          pure (final, behind)
        | _, rest => pure (none, rest)
      let rest := rest.dropWhile (· = ' ')
      let (inverted, rest) := match rest with
        | '!' :: rest => (true, rest.dropWhile fun c => c = ' ' || c = '!')
        | rest => (false, rest)
      let selector : EditSelector := { first, final, inverted }
      match rest with
      | [] => throw ⟨"missing command", 0⟩
      | '{' :: rest =>
        let (inner, rest) ← commands extended fuel true rest
        let (others, rest) ← commands extended fuel inside rest
        return (⟨selector, .block inner.length⟩ :: (inner ++ others), rest)
      | c :: rest =>
        let (action, behind) ← readAction extended c rest
        let isTexted := c = 'a' || c = 'i' || c = 'c'
        match behind.dropWhile (· = ' ') with
        | d :: left =>
          if !isTexted && d ≠ ';' && d ≠ '\n' && d ≠ '}' && d ≠ '#' then
            throw ⟨"extra characters after command", left.length⟩
        | [] => pure ()
        let (others, rest) ← commands extended fuel inside behind
        return (⟨selector, action⟩ :: others, rest)

/-- **The commands that a text means.** -/
def ofText (extended : Bool) (text : List Char) : Except Fault (List EditCommand) := do
  return (← commands extended (2 * text.length + 2) false text).1

end EditCommand

/-- What is known while lines are edited. -/
structure EditState where
  /-- The line as it is now. -/
  text : List Char
  number : Nat
  isLast : Bool
  /-- What is shown, the last line first, and whether it is the line itself. -/
  shown : List (List Char × Bool) := []
  /-- What is shown behind the line. -/
  appended : List (List Char) := []
  /-- The line is gone. -/
  deleted : Bool := false
  /-- The status with which the edit ends. -/
  ended : Option Nat := none
  /-- The selectors, by the commands left behind them, whose lines have begun, and with which
  line these end if that is known. -/
  begun : List (Nat × Option Nat) := []

namespace EditState

/-- The line is one of those of an address. -/
def isAt (s : EditState) : EditAddress → Bool
  | .line number => s.number = number
  | .last => s.isLast
  | .fitting r => (r.find? none s.text).isSome
  | .after _ => false

/-- Whether the line is selected, for the selector with so many commands behind it. -/
def selects (s : EditState) (left : Nat) (selector : EditSelector) : Bool × EditState :=
  let begun := s.begun.filter (·.1 ≠ left)
  let begin? : Option (Option Nat) := match selector.final with
    | some (.line number) => if number ≤ s.number then none else some (some number)
    | some (.after count) => if count = 0 then none else some (some (s.number + count))
    | _ => some none
  let (selected, s) := match selector.first, selector.final with
    | none, _ => (true, s)
    | some first, none => (s.isAt first, s)
    | some first, some final =>
      match s.begun.lookup left with
      | some (some number) =>
        (s.number ≤ number, if number ≤ s.number then { s with begun } else s)
      | some none => (true, if s.isAt final then { s with begun } else s)
      | none =>
        if s.isAt first then
          (true, match begin? with
            | some line => { s with begun := (left, line) :: begun }
            | none => s)
        else (false, s)
  (selected != selector.inverted, s)

/-- The text of a replacement. -/
def filled (found : Regular.Found) (parts : List ReplacementPart) : List Char :=
  parts.flatMap fun
    | .char c => [c]
    | .group 0 => found.text
    | .group number => (found.behind.groups.lookup number).getD []

/-- A line in which the parts that fit are replaced, from the one with a number on, and whether
there was any.  An empty part right behind another one does not count. -/
def substituted (r : Regular) (parts : List ReplacementPart) (all : Bool) : (fuel : Nat) →
    (nth : Nat) → (behindPart : Bool) → (before : Option Char) → List Char → List Char × Bool
  | 0, _, _, _, text => (text, false)
  | fuel + 1, nth, behindPart, before, text =>
    match r.find? before text with
    | none => (text, false)
    | some found =>
      let step (nth : Nat) (rest : List Char) (p : LinePosition) : List Char × Bool :=
        if found.text.isEmpty then
          match rest with
          | [] => ([], false)
          | c :: rest =>
            let (text, any) := substituted r parts all fuel nth false (some c) rest
            (c :: text, any)
        else substituted r parts all fuel nth true p.before rest
      if behindPart && found.text.isEmpty && found.skipped.isEmpty then
        step nth found.behind.rest found.behind
      else if 1 < nth then
        let (text, any) := step (nth - 1) found.behind.rest found.behind
        (found.skipped ++ found.text ++ text, any)
      else
        let new := found.skipped ++ filled found parts
        if all then (new ++ (step 1 found.behind.rest found.behind).1, true)
        else (new ++ found.behind.rest, true)

/-- Shows a line. -/
def present (s : EditState) (text : List Char) (isLine : Bool) : EditState :=
  { s with shown := (text, isLine) :: s.shown }

/-- What an action does with a line. -/
def act (s : EditState) : EditAction → EditState
  | .substitute r parts nth all prints =>
    let (text, any) := substituted r parts all (s.text.length + 2) nth false none s.text
    let s := { s with text }
    if any && prints then s.present text true else s
  | .translate pairs => { s with text := s.text.map fun c => (pairs.lookup c).getD c }
  | .print => s.present s.text true
  | .showNumber => s.present (toString s.number).toList false
  | .delete => { s with deleted := true }
  | .quit silently status => { s with ended := some status, deleted := s.deleted || silently }
  | .append text => { s with appended := text.dropLast :: s.appended }
  | .insert text => s.present text.dropLast false
  | .change text => { s.present text.dropLast false with deleted := true }
  | .block _ => s

/-- **What commands do with a line.** -/
def run : (fuel : Nat) → List EditCommand → EditState → EditState
  | 0, _, s => s
  | _, [], s => s
  | fuel + 1, command :: rest, s =>
    if s.deleted || s.ended.isSome then s
    else
      let (selected, s) := s.selects rest.length command.selector
      match command.action, selected with
      | .block length, false => run fuel (rest.drop length) s
      | .change text, true =>
        let isInside := command.selector.final.isSome && !command.selector.inverted &&
          (s.begun.lookup rest.length).isSome && !s.isLast
        if isInside then { s with deleted := true } else s.act (.change text)
      | action, true => run fuel rest (s.act action)
      | _, false => run fuel rest s

end EditState

namespace Tool

/-- Edits lines.  The answer is what is shown, with a mark at what ends only if all of the text
does, and the status if the edit was ended. -/
def editLines (commands : List EditCommand) (silent : Bool) : EditState → List (List Char) →
    List (List Char × Bool) × Option Nat
  | _, [] => ([], none)
  | s, line :: rest =>
    let s := { s with
      text := line, number := s.number + 1, isLast := rest.isEmpty, shown := [], appended := []
      deleted := false }
    let after := s.run (commands.length + 1) commands
    let after := if silent || after.deleted then after else after.present after.text true
    let lines := after.shown.reverse.map fun (text, isLine) => (text, isLine && s.isLast)
    let lines := lines ++ after.appended.reverse.map fun text => (text, false)
    match after.ended with
    | some status => (lines, some status)
    | none =>
      let (others, ended) := editLines commands silent after rest
      (lines ++ others, ended)

/-- The text of lines.  The last one has no end if it is marked and the text before had none. -/
def editedText (isClosed : Bool) (lines : List (List Char × Bool)) : List Char :=
  let text := lines.flatMap (·.1 ++ ['\n'])
  if isClosed || !(lines.getLast?.any (·.2)) then text else text.dropLast

/-- The known options of an edit. -/
def editOptions : KnownOptions :=
  { flags := "nrEsuzi".toList
    valued := "efl".toList
    long := [("quiet", 'n'), ("silent", 'n'), ("regexp-extended", 'E'), ("expression", 'e'),
      ("file", 'f'), ("in-place", 'i'), ("separate", 's')] }

/-- **Edits files line by line.** -/
def edit (arguments : List (List Char)) : Tool Unit := do
  match readOptions editOptions (arguments.length + 1) {} arguments with
  | .error problem => complain 1 problem
  | .ok o =>
    let given := (o.given.filter (·.1 = 'e')).map (·.2)
    let (script, files) := match given, o.operands with
      | [], [] => (none, [])
      | [], text :: files => (some text, files)
      | given, files => (some (List.intercalate ['\n'] given), files)
    match script with
    | none => complain 1 "no script specified"
    | some script =>
      match EditCommand.ofText (o.has 'E' || o.has 'r') script with
      | .error fault =>
        let place := if fault.message.startsWith "unmatched" then 0 else script.length - fault.left
        complain 1 s!"-e expression #1, char {place}: {fault.message}"
      | .ok commands =>
        let start : EditState := { text := [], number := 0, isLast := false }
        let edited (content : List Char) : List Char × Option Nat :=
          let (lines, ended) := editLines commands (o.has 'n') start (linesOf content)
          (editedText (content.getLast? = some '\n') lines, ended)
        let cannot (path : List Char) (e : OsError) : Tool Unit :=
          if e = .isDirectory then
            if o.has 'i' then
              complain 4 ("couldn't edit " ++ String.ofList path ++ ": not a regular file")
            else complain 4 ("read error on " ++ String.ofList path ++ ": " ++ e.reason)
          else complain 2 ("can't read " ++ String.ofList path ++ ": " ++ e.reason)
        if o.has 'i' then
          if files.isEmpty then complain 4 "no input files"
          files.forM fun path => do
            match ← readFile path with
            | .error e => cannot path e
            | .ok content =>
              match ← writeFile path (edited content).1 with
              | .ok () => return
              | .error e =>
                complain 4 ("couldn't open file " ++ String.ofList path ++ ": " ++ e.reason)
        else
          let contents ← (if files.isEmpty then [['-']] else files).filterMapM fun path => do
            match ← readFile path with
            | .ok content => return some content
            | .error e =>
              cannot path e
              return none
          let (text, ended) := edited contents.flatten
          say text
          if let some status := ended then setStatus status

end Tool

end FigureScript
