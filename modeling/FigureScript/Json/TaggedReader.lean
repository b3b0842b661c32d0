import FigureScript.Json.Decode
import FigureScript.Json.Reader

/-!
# Tagged choices straight from a text

A text can be read as a tagged choice while it is being scanned.  Its tag is then
checked where it stands, so that a wrong tag is reported before a flaw behind it,
and with its position; the other entries are collected and read afterwards, without
positions.

## Main Definitions

* `Failure` — why a text cannot be read, with the position where there is one
* `Tagged.read` — the choice and the collected content of a text
* `Tagged.parse` — a text that is one tagged choice and nothing else
-/

namespace FigureScript.Json

/-- **Why a text cannot be read.** -/
inductive Failure where
  | flaw (flaw : Flaw) (position : Position)
  | misfit (error : DecodeError) (position : Option Position)
  deriving DecidableEq

/-- The wording of a failure. -/
def Failure.message : Failure → String
  | flaw f position => f.message ++ position.suffix
  | misfit e (some position) => e.message ++ position.suffix
  | misfit e none => e.message

/-- A fault in a text, with its position. -/
def Fault.toFailure (fault : Fault) (text : List Char) : Failure :=
  .flaw fault.flaw (fault.position text)

/-- What stops the reading of a tagged choice: a flaw, or an unfit value with the rest
of the text at its position. -/
inductive Stop where
  | fault (fault : Fault)
  | misfit (error : DecodeError) (rest : List Char)

/-- The failure that a stop is in a text. -/
def Stop.toFailure (text : List Char) : Stop → Failure
  | fault f => f.toFailure text
  | misfit e rest => .misfit e (some (Fault.position (.here .expectedValue rest) text))

/-- A reader's fault as a stop. -/
def orStop {α : Type} (result : Except Fault α) : Except Stop α :=
  result.mapError .fault

namespace Tagged

variable {α : Type} (t : Tagged α)

/-- The tag, whose value comes next.  Of a list or an object only the opening bracket
is looked at. -/
def readTag (text : List Char) : Except Stop (Decoder α × List Char) :=
  let text := skipBlank text
  let decide (value : Value) (rest : List Char) : Except Stop (Decoder α × List Char) :=
    match t.tag .direct value with
    | .ok decode => .ok (decode, rest)
    | .error e => .error (.misfit e rest)
  match text with
  | '[' :: _ => decide (.array []) text
  | '\x7b' :: _ => decide (.object []) text
  | text => do
    let (value, rest) ← orStop (readValue 0 text)
    decide value rest

/-- The items behind the first one of an array. -/
def readRest (depth : Nat) (text : List Char) : Except Stop (List Value × List Char) :=
  orStop (readItems (readValue depth) (text.length + 1) false text)

/-- The text behind blanks and a closing brace. -/
def skipClosing (text : List Char) : List Char :=
  match skipBlank text with
  | '\x7d' :: rest => rest
  | rest => rest

/-- The entries of an object until its end: the decoder that the tag names, as soon as
it was met, and the other entries. -/
def readEntries (depth : Nat) : (fuel : Nat) → (first : Bool) → (tag : Option (Decoder α)) →
    List Char → Except Stop ((Decoder α × Entries) × List Char)
  | 0, _, _, text => .error (.fault (.here .endInObject text))
  | fuel + 1, first, tag, text => do
    match ← orStop (nextKey first text) with
    | (none, rest) =>
      match tag with
      | some decode => return ((decode, []), rest)
      | none => .error (.misfit (.missingField "type") rest)
    | (some key, rest) =>
      if key = "type" then
        if tag.isSome then
          .error (.misfit (.duplicateField "type") (skipClosing rest))
        else
          let rest ← orStop (readColon rest)
          let (decode, rest) ← t.readTag rest
          readEntries depth fuel false (some decode) rest
      else
        let rest ← orStop (readColon rest)
        let (value, rest) ← orStop (readValue depth rest)
        let ((decode, entries), rest) ← readEntries depth fuel false tag rest
        return ((decode, (key, value) :: entries), rest)

/-- **The decoder that the tag of a text names, and the content it is to read.** -/
def read (text : List Char) : Except Stop ((Decoder α × Value) × List Char) :=
  let depth := maxDepth - 1
  match skipBlank text with
  | '[' :: rest => do
    match ← orStop (nextItem true rest) with
    | (none, rest) => .error (.misfit (.missingField "type") rest)
    | (some item, _) =>
      let (decode, rest) ← t.readTag item
      let (items, rest) ← readRest depth rest
      return ((decode, .array items), rest)
  | '\x7b' :: rest => do
    let ((decode, entries), rest) ← t.readEntries depth (rest.length + 1) true none rest
    return ((decode, .object entries), rest)
  | text => do
    let (value, rest) ← orStop (readValue 0 text)
    .error (.misfit (.invalidType value.found t.expected) rest)

/-- **Reads a text that is one tagged choice**, or tells why it cannot be read. -/
def parse (text : List Char) : Except Failure α := do
  let ((decode, content), rest) ← (t.read text).mapError (Stop.toFailure text)
  let a ← (decode .collected content).mapError fun e => .misfit e none
  (expectEnd rest).mapError (Fault.toFailure · text)
  return a

end Tagged

end FigureScript.Json
