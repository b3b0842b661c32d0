import FigureScript.Json.Value
import FigureScript.Text.Displayed

/-!
# Typed reading of JSON values

Decoders turn a value into a typed one or say why it does not fit.

## Main Definitions

* `DecodeError` — why a value does not fit
* `Decoder` — a reading of values as a type
* `Record` — the fields of a record, read from an object or from an array
* `Tagged` — a choice by the `type` entry of an object

## Design Notes

A record is described once, field by field, and that description reads both of
its forms: an object with the fields in any order, and an array with the fields in
the order of the description.  Of several unfit fields of an object the one that
stands first in the text is reported, and a missing one only if no present one is
unfit.  Unknown entries are skipped.

A tagged choice collects the rest of its entries before they are read.  Values that
have been collected in this way word one fault differently, an array with too many
items, which is why a decoder is told the `Origin` of its value.
-/

namespace FigureScript.Json

open Number

/-! ### What was found -/

/-- What stands where something else was expected. -/
inductive Found where
  | null
  | bool (value : Bool)
  | integer (value : Int)
  | real (value : Float)
  | string (value : String)
  | sequence
  | map
  deriving DecidableEq

/-- The wording of what was found. -/
def Found.message : Found → String
  | null => "null"
  | bool b => s!"boolean `{b}`"
  | integer n => s!"integer `{n}`"
  | real x => "floating point `" ++ jsonText x ++ "`"
  | string s => "string " ++ Text.displayed s
  | sequence => "sequence"
  | map => "map"

/-- What a value is found to be. -/
def Value.found : Value → Found
  | .null => .null
  | .bool b => .bool b
  | .number (.integer n) => .integer n
  | .number (.real x) => .real x
  | .string s => .string s
  | .array _ => .sequence
  | .object _ => .map

/-- **Why a value does not fit.** -/
inductive DecodeError where
  | invalidType (found : Found) (expected : String)
  | invalidValue (found : Found) (expected : String)
  | invalidLength (length : Nat) (expected : String)
  | missingField (name : String)
  | duplicateField (name : String)
  | unknownVariant (name : String) (known : List String)
  /-- None of the forms of a type fits. -/
  | noVariant (type : String)
  deriving DecidableEq

namespace DecodeError

/-- Names in the form in which messages offer them. -/
def choices : List String → String
  | [one] => "`" ++ one ++ "`"
  | [one, two] => "`" ++ one ++ "` or `" ++ two ++ "`"
  | many => "one of " ++ ", ".intercalate (many.map fun name => "`" ++ name ++ "`")

/-- The wording of an error. -/
def message : DecodeError → String
  | invalidType found expected => "invalid type: " ++ found.message ++ ", expected " ++ expected
  | invalidValue found expected => "invalid value: " ++ found.message ++ ", expected " ++ expected
  | invalidLength length expected => s!"invalid length {length}, expected " ++ expected
  | missingField name => "missing field `" ++ name ++ "`"
  | duplicateField name => "duplicate field `" ++ name ++ "`"
  | unknownVariant name known => "unknown variant `" ++ name ++ "`, expected " ++ choices known
  | noVariant type => "data did not match any variant of untagged enum " ++ type

end DecodeError

/-! ### Decoders -/

/-- Where a value comes from. -/
inductive Origin where
  /-- Straight from the text. -/
  | direct
  /-- Collected while a tagged choice looked for its tag. -/
  | collected
  deriving DecidableEq

/-- How an array with more items than the `wanted` ones is worded. -/
def Origin.tooMany (origin : Origin) (wanted : Nat) : String :=
  match origin with
  | .direct => "fewer elements in array"
  | .collected =>
    if wanted = 1 then "1 element in sequence" else s!"{wanted} elements in sequence"

/-- **A reading of values as a type.** -/
abbrev Decoder (α : Type) := Origin → Value → Except DecodeError α

namespace Decoder

/-- The value does not have the expected type. -/
def mismatch {α : Type} (value : Value) (expected : String) : Except DecodeError α :=
  .error (.invalidType value.found expected)

/-- A number, integers included. -/
def float : Decoder Float := fun _ value =>
  match value with
  | .number n => .ok n.toFloat
  | value => mismatch value "f64"

/-- An integer between two bounds, both included. -/
def integer (low high : Int) (type : String) : Decoder Int := fun _ value =>
  match value with
  | .number (.integer n) =>
    if low ≤ n ∧ n ≤ high then .ok n else .error (.invalidValue (.integer n) type)
  | value => mismatch value type

/-- A signed integer of 64 bits. -/
def int64 : Decoder Int :=
  integer (-Int.pow 2 63) (Int.pow 2 63 - 1) "i64"

/-- A natural number of 32 bits. -/
def nat32 : Decoder Nat := fun origin value =>
  (integer 0 (Int.pow 2 32 - 1) "u32" origin value).map Int.toNat

/-- A truth value. -/
def bool : Decoder Bool := fun _ value =>
  match value with
  | .bool b => .ok b
  | value => mismatch value "a boolean"

/-- A text. -/
def string : Decoder String := fun _ value =>
  match value with
  | .string s => .ok s
  | value => mismatch value "a string"

/-- A list of items of one type. -/
def list {α : Type} (item : Decoder α) : Decoder (List α) := fun origin value =>
  match value with
  | .array items => items.mapM (item origin)
  | value => mismatch value "a sequence"

/-- Exactly two items of one type. -/
def pair {α : Type} (item : Decoder α) : Decoder (α × α) := fun origin value =>
  let whole := "an array of length 2"
  match value with
  | .array [] => .error (.invalidLength 0 whole)
  | .array [a] => do
    let _ ← item origin a
    .error (.invalidLength 1 whole)
  | .array (a :: b :: rest) => do
    let a ← item origin a
    let b ← item origin b
    if rest.isEmpty then
      return (a, b)
    else
      .error (.invalidLength (rest.length + 2) (origin.tooMany 2))
  | value => mismatch value whole

/-- A value that may be `null`. -/
def nullable {α : Type} (item : Decoder α) : Decoder (Option α) := fun origin value =>
  match value with
  | .null => .ok none
  | value => (item origin value).map some

/-- The decoded value put into another form. -/
def map {α β : Type} (f : α → β) (item : Decoder α) : Decoder β := fun origin value =>
  (item origin value).map f

/-- The name of a case without data: a text, or an object with that one key and
`null`. -/
def keyword {α : Type} (known : List (String × α)) : Decoder α := fun origin value =>
  let named (name : String) : Except DecodeError α :=
    match known.find? (·.1 = name) with
    | some (_, a) => .ok a
    | none => .error (.unknownVariant name (known.map (·.1)))
  match value with
  | .string name => named name
  | .object [(name, content)] => do
    let a ← named name
    match content, origin with
    | .null, _ => return a
    | .object [], .collected => return a
    | content, _ => mismatch content "unit"
  | .object _ => .error (.invalidValue .map "map with a single key")
  | value => mismatch value "string or map"

end Decoder

/-! ### Records -/

/-- An unfit field of an object and its place among the entries. -/
structure Misfit where
  place : Nat
  error : DecodeError
  deriving DecidableEq

/-- Of two misfits the one that stands first in the object. -/
def Misfit.first (a b : Misfit) : Misfit :=
  if b.place < a.place then b else a

namespace Entries

/-- The values of a key with their places, the first entry having place `start`. -/
def occurrences (key : String) : (start : Nat) → Entries → List (Nat × Value)
  | _, [] => []
  | start, (k, value) :: rest =>
    if k = key then (start, value) :: occurrences key (start + 1) rest
    else occurrences key (start + 1) rest

end Entries

/-- **The fields of a record**, read from the entries of an object or, in the order
of the fields, from the items of an array. -/
structure Record (α : Type) where
  /-- The number of fields. -/
  size : Nat
  ofEntries : Origin → Entries → Except Misfit α
  /-- Reads the items from the field number `index` on and returns those left over;
  `whole` words the record in a message about missing items. -/
  ofItems : Origin → (whole : String) → (index : Nat) → List Value →
    Except DecodeError (α × List Value)

namespace Record

/-- No field at all. -/
def pure {α : Type} (a : α) : Record α where
  size := 0
  ofEntries _ _ := .ok a
  ofItems _ _ _ items := .ok (a, items)

/-- The fields of two records, one behind the other. -/
def seq {α β : Type} (f : Record (α → β)) (r : Record α) : Record β where
  size := f.size + r.size
  ofEntries origin entries :=
    match f.ofEntries origin entries, r.ofEntries origin entries with
    | .ok g, .ok a => .ok (g a)
    | .error e, .ok _ => .error e
    | .ok _, .error e => .error e
    | .error e, .error e' => .error (e.first e')
  ofItems origin whole index items := do
    let (g, items) ← f.ofItems origin whole index items
    let (a, items) ← r.ofItems origin whole (index + f.size) items
    return (g a, items)

instance : Pure Record := ⟨pure⟩
instance : Seq Record := ⟨fun f r => seq f (r ())⟩
instance : Functor Record := ⟨fun f r => seq (pure f) r, fun a r => seq (pure fun _ => a) r⟩

/-- One field.  `absent` is its value when it is missing, unless it is required. -/
def field {α : Type} (name : String) (absent : Option α) (decode : Decoder α) : Record α where
  size := 1
  ofEntries origin entries :=
    match Entries.occurrences name 0 entries with
    | [] =>
      match absent with
      | some a => .ok a
      | none => .error ⟨entries.length, .missingField name⟩
    | (place, value) :: others =>
      match decode origin value, others with
      | .error e, _ => .error ⟨place, e⟩
      | .ok a, [] => .ok a
      | .ok _, (again, _) :: _ => .error ⟨again, .duplicateField name⟩
  ofItems origin whole index items :=
    match items, absent with
    | [], some a => .ok (a, [])
    | [], none => .error (.invalidLength index whole)
    | value :: rest, _ => (decode origin value).map (·, rest)

/-- A field that must be present. -/
def required {α : Type} (name : String) (decode : Decoder α) : Record α :=
  field name none decode

/-- A field that may be missing or `null`. -/
def optional {α : Type} (name : String) (decode : Decoder α) : Record (Option α) :=
  field name (some none) (.nullable decode)

/-- A field with a default, which may be missing but not `null`. -/
def defaulted {α : Type} (name : String) (value : α) (decode : Decoder α) : Record α :=
  field name (some value) decode

/-- **The decoder of a record** that messages call `type`. -/
def decoder {α : Type} (type : String) (record : Record α) : Decoder α := fun origin value =>
  match value with
  | .object entries => (record.ofEntries origin entries).mapError Misfit.error
  | .array items => do
    let whole := type ++ s!" with {record.size} elements"
    let (a, rest) ← record.ofItems origin whole 0 items
    if rest.isEmpty then
      return a
    else
      .error (.invalidLength items.length (origin.tooMany record.size))
  | value => Decoder.mismatch value type

end Record

/-! ### Tagged choices -/

/-- **A choice by the `type` entry** of an object, or by the first item of an array. -/
structure Tagged (α : Type) where
  /-- What messages call the choice. -/
  type : String
  /-- The cases by the names of their tags, each with the decoder of its content. -/
  cases : List (String × Decoder α)

namespace Tagged

/-- The names of the tags. -/
def names {α : Type} (t : Tagged α) : List String :=
  t.cases.map (·.1)

/-- What messages call the choice as a whole. -/
def expected {α : Type} (t : Tagged α) : String :=
  "internally tagged enum " ++ t.type

/-- The case of a tag. -/
def named {α : Type} (t : Tagged α) (name : String) : Except DecodeError (Decoder α) :=
  match t.cases.find? (·.1 = name) with
  | some (_, decode) => .ok decode
  | none => .error (.unknownVariant name t.names)

/-- The case that a value names.  Where values have been collected, a case may also be
named by its number. -/
def tag {α : Type} (t : Tagged α) : Decoder (Decoder α) := fun origin value =>
  match value, origin with
  | .string name, _ => t.named name
  | .number (.integer (.ofNat n)), .collected =>
    match t.cases[n]? with
    | some (_, decode) => .ok decode
    | none => .error
        (.invalidValue (.integer n) s!"variant index 0 <= i < {t.cases.length}")
  | value, _ => Decoder.mismatch value "variant identifier"

/-- **The decoder of a tagged choice.** -/
def decoder {α : Type} (t : Tagged α) : Decoder α := fun origin value =>
  match value with
  | .object entries => do
    let decode ← ((Record.required "type" t.tag).ofEntries origin entries).mapError Misfit.error
    decode .collected (.object (entries.filter (·.1 ≠ "type")))
  | .array [] => .error (.missingField "type")
  | .array (first :: rest) => do
    let decode ← t.tag origin first
    decode .collected (.array rest)
  | value => Decoder.mismatch value t.expected

end Tagged

end FigureScript.Json
