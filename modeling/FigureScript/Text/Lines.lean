/-!
# Blanks and lines

## Main Definitions

* `Text.isBlank` — the white space of all scripts
* `Text.lines` — the lines of a text
-/

namespace FigureScript.Text

/-- **White space**: the characters with the property `White_Space`. -/
def isBlank (c : Char) : Bool :=
  let n := c.toNat
  (0x09 ≤ n && n ≤ 0x0D) || n = 0x20 || n = 0x85 || n = 0xA0 || n = 0x1680 ||
    (0x2000 ≤ n && n ≤ 0x200A) || n = 0x2028 || n = 0x2029 || n = 0x202F || n = 0x205F ||
    n = 0x3000

/-- Nothing but white space. -/
def isAllBlank (text : List Char) : Bool :=
  text.all isBlank

/-- The text up to each line feed, and what follows the last one. -/
def splitLines : List Char → List (List Char)
  | [] => [[]]
  | c :: rest =>
    if c = '\n' then [] :: splitLines rest
    else match splitLines rest with
      | [] => [[c]]
      | line :: lines => (c :: line) :: lines

/-- A line without the carriage return in front of its line feed. -/
def dropReturn (line : List Char) : List Char :=
  if line.getLast? = some '\r' then line.dropLast else line

/-- **The lines of a text.**  A line feed at the end starts no further line. -/
def lines (text : List Char) : List (List Char) :=
  let split := splitLines text
  let last := split.getLast?.getD []
  split.dropLast.map dropReturn ++ if last.isEmpty then [] else [last]

end FigureScript.Text
