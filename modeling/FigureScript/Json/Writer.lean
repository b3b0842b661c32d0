import FigureScript.Json.Value
import FigureScript.Text.Quoted

/-!
# Writing JSON

Two layouts of the same tokens.

## Main Definitions

* `Value.compact` — no blanks at all
* `Value.pretty` — one entry or item a line, indented by four spaces; an array of
  numbers stays on one line
-/

namespace FigureScript.Json

/-- How one character is written inside a JSON string. -/
def escapeChar (c : Char) : List Char :=
  if c = '"' then ['\\', '"']
  else if c = '\\' then ['\\', '\\']
  else if c = '\n' then ['\\', 'n']
  else if c = '\r' then ['\\', 'r']
  else if c = '\t' then ['\\', 't']
  else if c = '\x08' then ['\\', 'b']
  else if c = '\x0c' then ['\\', 'f']
  else if c.toNat < 0x20 then
    ['\\', 'u', '0', '0', Text.hexDigit (c.toNat / 16), Text.hexDigit (c.toNat % 16)]
  else [c]

/-- A JSON string with its quotes. -/
def quoted (text : String) : List Char :=
  '"' :: (text.toList.flatMap escapeChar ++ ['"'])

namespace Value

mutual

/-- **The compact layout**: no blanks between tokens. -/
def compact : Value → List Char
  | .null => ['n', 'u', 'l', 'l']
  | .bool true => ['t', 'r', 'u', 'e']
  | .bool false => ['f', 'a', 'l', 's', 'e']
  | .number n => n.text.toList
  | .string s => quoted s
  | .array items => '[' :: (compactItems items ++ [']'])
  | .object entries => '\x7b' :: (compactEntries entries ++ ['\x7d'])

/-- Items separated by commas. -/
def compactItems : List Value → List Char
  | [] => []
  | [item] => compact item
  | item :: rest => compact item ++ ',' :: compactItems rest

/-- Entries separated by commas. -/
def compactEntries : List (String × Value) → List Char
  | [] => []
  | [(key, value)] => quoted key ++ ':' :: compact value
  | (key, value) :: rest => quoted key ++ ':' :: (compact value ++ ',' :: compactEntries rest)

end

/-- Four spaces for each level. -/
def indent (depth : Nat) : List Char :=
  List.replicate (4 * depth) ' '

mutual

/-- The pretty layout of a value that starts at a level of indentation. -/
def prettyAt (depth : Nat) : Value → List Char
  | .array items =>
    if items.all isNumber then '[' :: (compactItems items ++ [']'])
    else '[' :: '\n' :: (prettyItems (depth + 1) items ++ indent depth ++ [']'])
  | .object [] => ['\x7b', '\x7d']
  | .object entries =>
    '\x7b' :: '\n' :: (prettyEntries (depth + 1) entries ++ indent depth ++ ['\x7d'])
  | leaf => compact leaf

/-- Items, each on lines of its own. -/
def prettyItems (depth : Nat) : List Value → List Char
  | [] => []
  | [item] => indent depth ++ prettyAt depth item ++ ['\n']
  | item :: rest => indent depth ++ prettyAt depth item ++ ',' :: '\n' :: prettyItems depth rest

/-- Entries, each on lines of its own. -/
def prettyEntries (depth : Nat) : List (String × Value) → List Char
  | [] => []
  | [(key, value)] =>
    indent depth ++ quoted key ++ ':' :: ' ' :: (prettyAt depth value ++ ['\n'])
  | (key, value) :: rest =>
    indent depth ++ quoted key ++ ':' :: ' ' ::
      (prettyAt depth value ++ ',' :: '\n' :: prettyEntries depth rest)

end

/-- **The pretty layout**: one entry or item a line, arrays of numbers on one line. -/
def pretty (value : Value) : List Char :=
  prettyAt 0 value

end Value

end FigureScript.Json
