import FigureScript.Number.Nearest
import FigureScript.Text.Displayed
import FigureScript.Yaml.Event

/-!
# Values of scalars

A plain scalar is nothing, a truth value or a number if it has the form of one, and a
text otherwise.  A tag may ask for one of them.

## Main Definitions

* `ScalarValue` — what a scalar stands for
* `ScalarValue.ofPlain` — the value of a plain scalar
* `Found` — what stands where something else was expected
* `ScalarValue.ofScalar` — the value of a scalar with a tag and a style

## Design Notes

Integers may be hexadecimal, octal or binary.  Digits behind a zero are a text, and so is
a number that is too large.
-/

namespace FigureScript.Yaml

open Number

/-- **What a scalar stands for.** -/
inductive ScalarValue where
  | null
  | bool (value : Bool)
  | integer (value : Int)
  | real (value : Float)
  | text (value : String)
  deriving DecidableEq

/-! ### Plain scalars -/

/-- The scalar stands for nothing. -/
def isNull (scalar : String) : Bool :=
  ["null", "Null", "NULL", "~"].contains scalar

/-- The truth value that a scalar stands for. -/
def bool? (scalar : String) : Option Bool :=
  if ["true", "True", "TRUE"].contains scalar then some true
  else if ["false", "False", "FALSE"].contains scalar then some false
  else none

/-- The value of a digit in a base up to sixteen. -/
def digit? (base : Nat) (c : Char) : Option Nat :=
  (Text.hexValue? c).filter (· < base)

/-- The number that digits stand for, all of them. -/
def digits? (base : Nat) (digits : List Char) : Option Nat :=
  if digits.isEmpty then none
  else digits.foldlM (fun n d => (digit? base d).map (base * n + ·)) 0

/-- A sign and the rest of a text. -/
def hasSign (text : List Char) : Bool :=
  text.head? = some '+' || text.head? = some '-'

/-- Two or more digits the first of which is zero, possibly with a sign. -/
def isPaddedDigits (text : List Char) : Bool :=
  match if hasSign text then text.tail else text with
  | '0' :: c :: rest => (c :: rest).all Char.isDigit
  | _ => false

/-- The number of a text with the mark of a base in front. -/
def basedDigits? : List Char → Option Nat
  | '0' :: 'x' :: rest => digits? 16 rest
  | '0' :: 'o' :: rest => digits? 8 rest
  | '0' :: 'b' :: rest => digits? 2 rest
  | _ => none

/-- The natural number below a limit that a text stands for. -/
def natural? (limit : Nat) (text : List Char) : Option Nat :=
  let unsigned := if text.head? = some '+' then text.tail else text
  ((basedDigits? unsigned).filter (· < limit)).or <|
    if isPaddedDigits text then none
    else (digits? 10 unsigned).filter (· < limit)

/-- The size of the negative integer that a text stands for, up to a limit. -/
def negative? (limit : Nat) (text : List Char) : Option Nat :=
  match text with
  | '-' :: rest =>
    ((basedDigits? rest).filter (· ≤ limit)).or <|
      if isPaddedDigits text then none
      else (digits? 10 rest).filter (· ≤ limit)
  | _ => none

/-- The integer of at most 128 bits that a text stands for. -/
def integer? (text : List Char) : Option Int :=
  ((natural? (Nat.pow 2 128) text).map Int.ofNat).or
    ((negative? (Nat.pow 2 127) text).map fun n => -(n : Int))

/-- The floating point number that a text stands for. -/
def real? (scalar : String) : Option Float :=
  let text := scalar.toList
  let unsigned := if text.head? = some '+' then text.tail else text
  if text.head? = some '+' && hasSign text.tail then none
  else if [".inf", ".Inf", ".INF"].contains (String.ofList unsigned) then some (1.0 / 0.0)
  else if ["-.inf", "-.Inf", "-.INF"].contains scalar then some (-1.0 / 0.0)
  else if [".nan", ".NaN", ".NAN"].contains scalar then some (0.0 / 0.0)
  else (Decimal.read? unsigned).filter isFinite

namespace ScalarValue

/-- **The value of a plain scalar.** -/
def ofPlain (scalar : String) : ScalarValue :=
  if scalar = "" || isNull scalar then null
  else match bool? scalar with
    | some b => bool b
    | none =>
      match integer? scalar.toList with
      | some n => integer n
      | none =>
        match if isPaddedDigits scalar.toList then none else real? scalar with
        | some x => real x
        | none => text scalar

end ScalarValue

/-! ### What was found -/

/-- **What stands where something else was expected.** -/
inductive Found where
  | value (value : ScalarValue)
  | sequence
  | map
  deriving DecidableEq

/-- The wording of an integer; one of more than 64 bits says so. -/
def integerText (n : Int) : String :=
  s!"integer \x60{n}\x60" ++
    if Int.pow 2 64 ≤ n then " as u128" else if n < -Int.pow 2 63 then " as i128" else ""

/-- The wording of what was found. -/
def Found.message : Found → String
  | value .null => "unit value"
  | value (.bool b) => s!"boolean \x60{b}\x60"
  | value (.integer n) => integerText n
  | value (.real x) => "floating point \x60" ++ plainText x ++ "\x60"
  | value (.text s) => "string " ++ Text.displayed s
  | sequence => "sequence"
  | map => "map"

/-- **Why a node does not fit.** -/
inductive Misfit where
  | invalidType (found : Found) (expected : String)
  | invalidValue (found : Found) (expected : String)
  | duplicateField (name : String)
  deriving DecidableEq

/-- The wording of a misfit. -/
def Misfit.message : Misfit → String
  | invalidType found expected => "invalid type: " ++ found.message ++ ", expected " ++ expected
  | invalidValue found expected => "invalid value: " ++ found.message ++ ", expected " ++ expected
  | duplicateField name => "duplicate field \x60" ++ name ++ "\x60"

/-- The standard tag of a kind of scalar. -/
def standardTag (kind : String) : String :=
  "tag:yaml.org,2002:" ++ kind

/-- The tag is not a standard one. -/
def isLocalTag (tag : String) : Bool :=
  tag.toList.head? = some '!'

namespace ScalarValue

/-- The value of a scalar, or why it is not the one that its tag asks for. -/
def ofScalar (scalar : String) (tag : Option String) (style : ScalarStyle) :
    Except Misfit ScalarValue :=
  let orFail (value : Option ScalarValue) (expected : String) : Except Misfit ScalarValue :=
    match value with
    | some value => .ok value
    | none => .error (.invalidValue (.value (.text scalar)) expected)
  match tag with
  | none => .ok (if style = .plain then ofPlain scalar else text scalar)
  | some tag =>
    if tag = standardTag "bool" then orFail ((bool? scalar).map bool) "a boolean"
    else if tag = standardTag "int" then
      orFail ((integer? scalar.toList).map integer) "an integer"
    else if tag = standardTag "float" then orFail ((real? scalar).map real) "a float"
    else if tag = standardTag "null" then
      orFail (if isNull scalar then some null else none) "null"
    else .ok (if isLocalTag tag && style = .plain then ofPlain scalar else text scalar)

end ScalarValue

/-- A scalar where something else is expected. -/
def misfitOfScalar (scalar : String) (tag : Option String) (style : ScalarStyle)
    (expected : String) : Misfit :=
  match ScalarValue.ofScalar scalar tag style with
  | .ok value => .invalidType (.value value) expected
  | .error misfit => misfit

end FigureScript.Yaml
