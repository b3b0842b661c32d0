import FigureScript.Number.Numeral

/-!
# JSON values

A JSON value keeps the entries of its objects in the order of the text, repeated
keys included.  A value is *canonical* when the keys of each object are distinct
and sorted; `Value.canonical` is the canonical form, in which the last entry of a
key wins.

## Main Definitions

* `Value` — a JSON value
* `Entries` — the entries of an object, with look-up by key
* `Value.canonical` — sorted keys, the last of equal keys kept
-/

namespace FigureScript.Json

open Number

/-- **A JSON value.** -/
inductive Value where
  | null
  | bool (value : Bool)
  | number (value : Numeral)
  | string (value : String)
  | array (items : List Value)
  | object (entries : List (String × Value))
  deriving Inhabited

/-- The entries of an object, in order. -/
abbrev Entries := List (String × Value)

namespace Entries

/-- The first value of a key. -/
def get? (entries : Entries) (key : String) : Option Value :=
  (entries.find? (·.1 = key)).map (·.2)

/-- Adds an entry to sorted entries, replacing one of the same key. -/
def insert (key : String) (value : Value) : Entries → Entries
  | [] => [(key, value)]
  | (k, v) :: rest =>
    if key < k then (key, value) :: (k, v) :: rest
    else if key = k then (key, value) :: rest
    else (k, v) :: insert key value rest

/-- Sorted by key, the last entry of a key kept. -/
def sorted (entries : Entries) : Entries :=
  entries.foldl (fun sorted entry => insert entry.1 entry.2 sorted) []

end Entries

namespace Value

/-- An integer. -/
def int (n : Int) : Value :=
  number (.integer n)

/-- A floating point number; one that is not finite has no JSON form and becomes
`null`. -/
def float (x : Float) : Value :=
  if isFinite x then number (.real x) else null

/-- A list of numbers. -/
def floats (xs : List Float) : Value :=
  array (xs.map float)

/-- A list of texts. -/
def strings (texts : List String) : Value :=
  array (texts.map string)

/-- An object of those entries that have a value. -/
def ofPresent (entries : List (String × Option Value)) : Value :=
  object (entries.filterMap fun (key, value) => value.map (key, ·))

/-- The value is a number. -/
def isNumber : Value → Bool
  | number _ => true
  | _ => false

mutual

/-- **The canonical form**: each object sorted by key, the last of equal keys kept. -/
def canonical : Value → Value
  | .array items => .array (canonicalItems items)
  | .object entries => .object (Entries.sorted (canonicalEntries entries))
  | leaf => leaf

/-- The canonical forms of the items of an array. -/
def canonicalItems : List Value → List Value
  | [] => []
  | item :: rest => canonical item :: canonicalItems rest

/-- The entries of an object with canonical values, in their order. -/
def canonicalEntries : List (String × Value) → List (String × Value)
  | [] => []
  | (key, value) :: rest => (key, canonical value) :: canonicalEntries rest

end

end Value

end FigureScript.Json
