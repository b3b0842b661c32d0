import FigureScript.Text.Visible

/-!
# Displayed texts

Messages show a text between double quotes so that one can tell where it ends and
what it holds: quotes and backslashes are escaped, line feed, carriage return, tab
and NUL have their letters, and every character that cannot be shown is written as
`\u` with its code point in braces.
-/

namespace FigureScript.Text

/-- One character inside a displayed text. -/
def displayChar (c : Char) : List Char :=
  if c = '"' then ['\\', '"']
  else if c = '\\' then ['\\', '\\']
  else if c = '\n' then ['\\', 'n']
  else if c = '\r' then ['\\', 'r']
  else if c = '\t' then ['\\', 't']
  else if c = '\x00' then ['\\', '0']
  else if isVisible c then [c]
  else '\\' :: 'u' :: '\x7b' :: (Nat.toDigits 16 c.toNat ++ ['\x7d'])

/-- **A text as messages show it**, with its quotes. -/
def displayed (text : String) : String :=
  String.ofList ('"' :: (text.toList.flatMap displayChar ++ ['"']))

end FigureScript.Text
