import FigureScript.Process.Shell.Arithmetic
import FigureScript.Process.Shell.State

/-!
# Expanding words

What a word of a script stands for: its parameters are replaced by their values, inner
scripts by their outputs, and the result is split into fields.

## Main Definitions

* `Shell.expandFields` — the fields that a word stands for
* `Shell.expandText` — the one text that it stands for
* `Shell.expandPattern` — the pattern that it stands for

## Design Notes

A word is first turned into items that remember where they come from: only what replaces
something is split, and only what is not quoted can be a wildcard.  How an inner script
is run is given from outside.
-/

namespace FigureScript

/-- Where a character of a word comes from. -/
inductive Origin where
  | written
  | quoted
  | replaced
  deriving DecidableEq

/-- **An item of a word.** -/
inductive WordItem where
  | char (c : Char) (origin : Origin)
  /-- The field ends here. -/
  | fieldEnd
  /-- There is a field, even if nothing is in it. -/
  | solid
  deriving DecidableEq

namespace WordItem

/-- A text as items. -/
def ofText (quoted : Bool) (text : List Char) : List WordItem :=
  text.map fun c => .char c (if quoted then .quoted else .replaced)

/-- The characters among some items. -/
def text (items : List WordItem) : List Char :=
  items.filterMap fun
    | .char c _ => some c
    | _ => none

/-- The characters among some items, marked if they are not quoted. -/
def marked (items : List WordItem) : List (Char × Bool) :=
  items.filterMap fun
    | .char c origin => some (c, origin != .quoted)
    | _ => none

/-- The fields that have been found, in reverse, and the one that goes on. -/
structure Splitting where
  fields : List (List (Char × Bool)) := []
  /-- The field that goes on, in reverse. -/
  field : List (Char × Bool) := []
  /-- There is a field that goes on. -/
  isOpen : Bool := false
  /-- The last field ended at white space. -/
  endedBlank : Bool := false

namespace Splitting

/-- Ends the field that goes on. -/
def close (s : Splitting) (endedBlank : Bool) : Splitting :=
  if s.isOpen then { fields := s.field.reverse :: s.fields, endedBlank }
  else { s with endedBlank := s.endedBlank && endedBlank }

/-- Goes on with an item. -/
def step (separators : List Char) (s : Splitting) (item : WordItem) : Splitting :=
  match item with
  | .solid => { s with isOpen := true }
  | .fieldEnd => s.close false
  | .char c origin =>
    if origin = .replaced && separators.contains c then
      if c = ' ' || c = '\t' || c = '\n' then
        if s.isOpen then s.close true else s
      else if s.isOpen then s.close false
      else if s.endedBlank then { s with endedBlank := false }
      else { s with fields := [] :: s.fields }
    else { s with field := (c, origin != .quoted) :: s.field, isOpen := true, endedBlank := false }

end Splitting

/-- The fields of a word, whose characters are marked if they are not quoted. -/
def fields (separators : List Char) (items : List WordItem) : List (List (Char × Bool)) :=
  ((items.foldl (Splitting.step separators) {}).close false).fields.reverse

end WordItem

namespace Shell

/-! ### Parameters -/

/-- The characters at which fields are split. -/
def separators : Shell (List Char) := do
  return (← lookup "IFS").getD [' ', '\t', '\n']

/-- The value of a parameter, if it has one. -/
def parameter? (name : String) : Shell (Option (List Char)) := do
  let s ← get
  match name with
  | "#" => return some (toString s.arguments.length).toList
  | "?" => return some (toString s.status).toList
  | "$" => return some (toString s.process).toList
  | "!" => return some ((s.lastJob.map toString).getD "").toList
  | "-" => return some s.options
  | "0" => return some s.name.toList
  | "@" | "*" =>
    if s.arguments.isEmpty then return none
    else
      let between ← separators
      return some (List.intercalate (if name = "*" then between.take 1 else [' ']) s.arguments)
  | name =>
    match name.toNat? with
    | some n => return s.arguments[n - 1]?
    | none => lookup name

/-- The items of a parameter without any change.  All arguments together are several fields,
if fields are asked for. -/
def valueItems (split : Bool) (name : String) (quoted : Bool) : Shell (List WordItem) := do
  let s ← get
  if name = "@" && (quoted && split) then
    return [WordItem.fieldEnd].intercalate
      (s.arguments.map fun argument => .solid :: WordItem.ofText true argument)
  else if (name = "@" || name = "*") && !quoted && split then
    return [WordItem.fieldEnd].intercalate (s.arguments.map (WordItem.ofText false))
  else
    match ← parameter? name with
    | some text => return WordItem.ofText quoted text
    | none =>
      if (← hasOption 'u') && name ≠ "@" && name ≠ "*" then
        fail (name ++ ": parameter not set")
      return []

/-! ### Pieces -/

/-- How the output of an inner script is found. -/
abbrev InnerScript := List Char → Nat → Shell (List Char)

/-- The items of an arithmetic expression. -/
def numberItems (expression : List Char) (quoted : Bool) : Shell (List WordItem) := do
  let s ← get
  match Arithmetic.value (fun name => (s.bindings.lookup name).bind (·.value)) expression with
  | .error flaw =>
    fail (flaw.message (String.ofList expression))
    return []
  | .ok (value, assigned) =>
    assigned.reverse.forM fun (name, value) => assign name (toString value).toList false
    return WordItem.ofText quoted (toString value).toList

/-- The items of a parameter with a substitute. -/
def substituteItems (inner : Word → Shell (List WordItem)) (split : Bool) (name : String)
    (kind : Substitute) (orEmpty : Bool) (word : Word) (quoted : Bool) :
    Shell (List WordItem) := do
  let value ← parameter? name
  let isThere := value.any fun text => !(orEmpty && text.isEmpty)
  match kind with
  | .value => if isThere then valueItems split name quoted else inner word
  | .other => if isThere then inner word else return []
  | .assign =>
    if isThere then valueItems split name quoted
    else if Word.isName name.toList then
      let text := WordItem.text (← inner word)
      if ← isRunning then assign name text false
      return WordItem.ofText quoted text
    else
      fail (name ++ ": bad variable name")
      return []
  | .fail =>
    if isThere then valueItems split name quoted
    else
      let text := WordItem.text (← inner word)
      let usual := if orEmpty then "parameter not set or null" else "parameter not set"
      if ← isRunning then
        fail (name ++ ": " ++ if word.isEmpty then usual else String.ofList text)
      return []

/-- What a substitute that is not quoted stands for can be split like a value. -/
def asReplaced (items : List WordItem) : List WordItem :=
  items.map fun
    | .char c .written => .char c .replaced
    | item => item

/-- The items of a piece, whose neighbour to the right is given. -/
def pieceItems (script : InnerScript) (inner : Word → Shell (List WordItem)) (split : Bool)
    (piece : Piece) (next : Option Piece) : Shell (List WordItem) := do
  if !(← isRunning) then return []
  match piece with
  | .char c quoted => return [.char c (if quoted then .quoted else .written)]
  | .quotes =>
    match next with
    | some (.value "@" true) => return if (← get).arguments.isEmpty then [] else [.solid]
    | _ => return [.solid]
  | .value name quoted => valueItems split name quoted
  | .length name quoted =>
    if name = "@" || name = "*" then
      return WordItem.ofText quoted (toString (← get).arguments.length).toList
    else
      let text := WordItem.text (← valueItems false name true)
      return WordItem.ofText quoted (toString text.length).toList
  | .substitute name kind orEmpty word quoted =>
    return asReplaced (← substituteItems inner split name kind orEmpty word quoted)
  | .trim name atEnd longest pattern quoted =>
    let text := WordItem.text (← valueItems false name true)
    let elements := Wildcard.ofMarked (WordItem.marked (← inner pattern))
    return WordItem.ofText quoted (Wildcard.trimmed elements atEnd longest text)
  | .output text line quoted =>
    let shown := (← script text line).filter (· ≠ Char.ofNat 0)
    return WordItem.ofText quoted (shown.reverse.dropWhile (· = '\n')).reverse
  | .number expression quoted =>
    let text := WordItem.text (← inner expression)
    if ← isRunning then numberItems text quoted else return []
  | .unknown =>
    fail "Bad substitution"
    return []

/-- The items of a word, whose pieces are nested to some depth. -/
def wordItems (script : InnerScript) : (depth : Nat) → (split : Bool) → Word →
    Shell (List WordItem)
  | 0, _, _ => return []
  | depth + 1, split, word => do
    let items ← (word.zip (word.tail.map some ++ [none])).mapM fun (piece, next) =>
      pieceItems script (wordItems script depth split) split piece next
    return items.flatten

/-- Words are nested to this depth. -/
def maxDepth : Nat := 100

/-- A tilde at the start of a word stands for the home directory. -/
def withHome (word : Word) : Shell Word := do
  match word with
  | .char '~' false :: rest =>
    let isAlone := match rest with
      | [] => true
      | .char '/' false :: _ => true
      | _ => false
    match ← lookup "HOME" with
    | some home => return if isAlone then Word.quoted home ++ rest else word
    | none => return word
  | word => return word

variable (script : InnerScript)

/-! ### Words -/

/-- **The fields that a word stands for**, with the files that fit its wildcards. -/
def expandFields (word : Word) : Shell (List (List Char)) := do
  let items ← wordItems script maxDepth true (← withHome word)
  let fields := WordItem.fields (← separators) items
  let s ← get
  return fields.flatMap fun field =>
    let paths := if s.options.contains 'f' then [] else s.store.paths field
    if paths.isEmpty then [field.map (·.1)] else paths

/-- **The one text that a word stands for.** -/
def expandText (word : Word) : Shell (List Char) := do
  return WordItem.text (← wordItems script maxDepth false (← withHome word))

/-- **The pattern that a word stands for.** -/
def expandPattern (word : Word) : Shell (List Wildcard) := do
  return Wildcard.ofMarked (WordItem.marked (← wordItems script maxDepth false (← withHome word)))

end Shell

end FigureScript
