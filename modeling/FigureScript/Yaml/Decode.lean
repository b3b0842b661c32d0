import FigureScript.Yaml.ScalarValue

/-!
# Typed reading of YAML documents

Decoders read the node at the front of some events, or say why it does not fit.

## Main Definitions

* `Failure` — why a text cannot be read
* `Decoder` — a reading of nodes as a type
* `Decoder.record` — a mapping with known keys
* `Decoder.parse` — a text that is one document

## Design Notes

A misfit belongs to the innermost node that contains it, and is worded with the path to
that node and the place where it starts.  Entries with unknown keys are skipped, and an
empty value is an empty list or an empty record.  A problem of the text shows when
the events in front of it have been used up.
-/

namespace FigureScript.Yaml

/-- Events with the places where they start. -/
abbrev Events := List (Event × Mark)

/-- **Why a text cannot be read.** -/
inductive Failure where
  | problem (problem : Problem)
  /-- A node does not fit; the place and the path are those of the node around it. -/
  | misfit (misfit : Misfit) (place : Option (Mark × String))
  /-- The text goes on behind its document. -/
  | manyDocuments
  /-- The events end too early. -/
  | unfinished
  deriving DecidableEq

namespace Failure

/-- The wording of a failure. -/
def message : Failure → String
  | problem p => p.message
  | misfit m none => m.message
  | misfit m (some (mark, path)) =>
    (if path = "" then "" else path ++ ": ") ++ m.message ++
      if mark.isOrigin then "" else mark.suffix
  | manyDocuments =>
    "deserializing from YAML containing more than one document is not supported"
  | unfinished => "EOF while parsing a value"

/-- The line of a failure, counted from one; zero stands for none. -/
def line : Failure → Nat
  | problem p => p.mark.line + 1
  | misfit _ (some (mark, _)) => mark.line + 1
  | _ => 0

end Failure

/-- Attributes a misfit to a node, unless it belongs to one inside. -/
def locate {α : Type} (mark : Mark) (path : String) (result : Except Failure α) :
    Except Failure α :=
  result.mapError fun
    | .misfit m none => .misfit m (some (mark, path))
    | failure => failure

/-- Fails with a misfit that is not attributed yet. -/
def misfit {α : Type} (m : Misfit) : Except Failure α :=
  .error (.misfit m none)

namespace Document

/-- The next event, and those behind it. -/
def next (d : Document) : Events → Except Failure (Event × Mark × Events)
  | (event, mark) :: rest => .ok (event, mark, rest)
  | [] => .error (match d.problem with
    | some problem => .problem problem
    | none => .unfinished)

/-- The events from a numbered node on. -/
def eventsAt (d : Document) (number : Nat) : Events :=
  match d.anchored.find? (·.1 = number) with
  | some (_, index) => d.events.drop index
  | none => []

/-- The events behind a node, `depth` collections of which are open. -/
def skipNode (d : Document) (depth : Nat) : Events → Except Failure Events
  | [] => do
    let (_, _, rest) ← d.next []
    return rest
  | (event, _) :: rest =>
    match event with
    | .sequenceStart | .mappingStart => skipNode d (depth + 1) rest
    | .sequenceEnd | .mappingEnd =>
      if depth ≤ 1 then .ok rest else skipNode d (depth - 1) rest
    | _ => if depth = 0 then .ok rest else skipNode d depth rest

end Document

/-- **A reading of the node at the front of some events**, which is reached by a path. -/
abbrev Decoder (α : Type) := Document → (path : String) → Events → Except Failure (α × Events)

namespace Decoder

/-- The path to an entry. -/
def entryPath (path : String) (key : Option String) : String :=
  let parent := if path = "" then "" else path ++ "."
  parent ++ key.getD "?"

/-- The path to an item. -/
def itemPath (path : String) (index : Nat) : String :=
  path ++ s!"[{index}]"

/-- The event stands where something else is expected. -/
def unexpected {α : Type} (event : Event) (expected : String) : Except Failure α :=
  match event with
  | .scalar text tag style => misfit (misfitOfScalar text tag style expected)
  | .sequenceStart | .sequenceEnd => misfit (.invalidType .sequence expected)
  | .mappingStart | .mappingEnd => misfit (.invalidType .map expected)
  | .nothing | .reference _ => .error .unfinished

/-- A decoder that decides by the first event of the node, or of the node that stands here
again. -/
def ofFirst {α : Type}
    (read : Document → String → Event → Events → Except Failure (α × Events)) : Decoder α :=
  fun d path events => do
    let (event, mark, rest) ← d.next events
    locate mark path <| match event with
      | .reference number => do
        let (event, mark, again) ← d.next (d.eventsAt number)
        let (a, _) ← locate mark path (read d path event again)
        return (a, rest)
      | event => read d path event rest

/-! ### Scalars -/

/-- A scalar that can be read as a truth value or a number: a plain one, or a literal one
whose tag asks for it. -/
def isReadable (kind : String) (tag : Option String) (style : ScalarStyle) : Bool :=
  style = .plain || (style = .literal && tag = some (standardTag kind))

/-- A value of some scalars. -/
def ofScalar {α : Type} (kind expected : String) (value? : String → Option α) : Decoder α :=
  ofFirst fun _ _ event rest =>
    match event with
    | .scalar text tag style =>
      match if isReadable kind tag style then value? text else none with
      | some value => .ok (value, rest)
      | none => unexpected event expected
    | event => unexpected event expected

/-- A truth value. -/
def bool : Decoder Bool :=
  ofScalar "bool" "a boolean" bool?

/-- A natural number of 64 bits. -/
def nat64 : Decoder Nat :=
  ofScalar "int" "u64" fun text => natural? (Nat.pow 2 64) text.toList

/-- A natural number of 32 bits; a greater one has the right type but not the right
value. -/
def nat32 : Decoder Nat :=
  ofFirst fun _ _ event rest =>
    match event with
    | .scalar text tag style =>
      match if isReadable "int" tag style then natural? (Nat.pow 2 64) text.toList else none with
      | some n =>
        if n < Nat.pow 2 32 then .ok (n, rest)
        else misfit (.invalidValue (.value (.integer n)) "u32")
      | none => unexpected event "u32"
    | event => unexpected event "u32"

/-- The text of a scalar, however that is written. -/
def text (expected : String) : Decoder String :=
  ofFirst fun _ _ event rest =>
    match event with
    | .scalar text _ _ => .ok (text, rest)
    | event => unexpected event expected

/-- A text. -/
def string : Decoder String :=
  text "a string"

/-! ### Collections -/

/-- The event is that of an empty value. -/
def isEmptyValue : Event → Bool
  | .nothing => true
  | .scalar text _ style => text = "" && style = .plain
  | _ => false

/-- The items of a list from one with an index on. -/
def items {α : Type} (item : Decoder α) (d : Document) (path : String) :
    (fuel : Nat) → (index : Nat) → Events → Except Failure (List α × Events)
  | 0, _, events => .ok ([], events)
  | fuel + 1, index, events => do
    match ← d.next events with
    | (.sequenceEnd, _, rest) => return ([], rest)
    | _ =>
      let (a, rest) ← item d (itemPath path index) events
      let (as, rest) ← items item d path fuel (index + 1) rest
      return (a :: as, rest)

/-- **A list.** -/
def list {α : Type} (item : Decoder α) : Decoder (List α) :=
  ofFirst fun d path event rest =>
    if event = .sequenceStart then items item d path (rest.length + 1) 0 rest
    else if isEmptyValue event then .ok ([], rest)
    else unexpected event "a sequence"

/-- A node that is something, or why it cannot be told. -/
def isSomething (event : Event) : Except Failure Bool :=
  match event with
  | .scalar text tag style =>
    if style ≠ .plain then .ok true
    else match tag with
      | none => .ok (text ≠ "" && !isNull text)
      | some tag =>
        if tag ≠ standardTag "null" then .ok true
        else if isNull text then .ok false
        else misfit (.invalidValue (.value (.text text)) "null")
  | .nothing => .ok false
  | _ => .ok true

/-- **Something, or nothing.** -/
def optional {α : Type} (decode : Decoder α) : Decoder (Option α) := fun d path events => do
  let (event, _, rest) ← d.next events
  let (node, behind) := match event with
    | .reference number => (d.eventsAt number, some rest)
    | _ => (events, none)
  let (first, _, afterFirst) ← d.next node
  if ← isSomething first then
    let (a, after) ← decode d path node
    return (some a, behind.getD after)
  else return (none, behind.getD afterFirst)

/-! ### Records -/

/-- **A field of a record**: its key, and how its value changes the record. -/
structure RecordField (ρ : Type) where
  name : String
  read : Decoder (ρ → ρ)

/-- A field with a value of a type. -/
def field {ρ α : Type} (name : String) (decode : Decoder α) (set : α → ρ → ρ) : RecordField ρ where
  name
  read d path events := do
    let (a, rest) ← decode d path events
    return (set a, rest)

/-- The key of an entry that starts with an event, as far as paths show it. -/
def shownKey : Event → Option String
  | .scalar text _ _ => some text
  | _ => none

/-- The entries of a record behind those that have been `seen`. -/
def entries {ρ : Type} (fields : List (RecordField ρ)) (d : Document) (path : String) :
    (fuel : Nat) → (seen : List String) → ρ → Events → Except Failure (ρ × Events)
  | 0, _, record, events => .ok (record, events)
  | fuel + 1, seen, record, events => do
    match ← d.next events with
    | (.mappingEnd, _, rest) => return (record, rest)
    | (event, _, _) =>
      let (key, rest) ← text "field identifier" d path events
      match fields.find? (·.name = key) with
      | none => entries fields d path fuel seen record (← d.skipNode 0 rest)
      | some f =>
        if seen.contains key then misfit (.duplicateField key)
        let (change, rest) ← f.read d (entryPath path (shownKey event)) rest
        entries fields d path fuel (key :: seen) (change record) rest

/-- **A record** whose missing fields have the values of `start`. -/
def record {ρ : Type} (name : String) (start : ρ) (fields : List (RecordField ρ)) : Decoder ρ :=
  ofFirst fun d path event rest =>
    if event = .mappingStart then entries fields d path (rest.length + 1) [] start rest
    else if isEmptyValue event then .ok (start, rest)
    else unexpected event ("struct " ++ name)

/-! ### Texts -/

/-- **Reads a text that is one document.** -/
def parse {α : Type} (decode : Decoder α) (text : String) : Except Failure α := do
  let d := Document.ofText text
  let (a, _) ← decode d "" d.events
  match d.problem with
  | some problem => throw (.problem problem)
  | none => if d.continues then throw .manyDocuments else return a

end Decoder

end FigureScript.Yaml
