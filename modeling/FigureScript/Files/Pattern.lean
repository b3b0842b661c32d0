import FigureScript.Files.Path

/-!
# File name patterns

Patterns of names: `?` for any character, `*` for any text, `[a-z]` and `[!a-z]` for
one character of a class or outside of it, and `**` as a whole part of a path for
any depth of directories.

## Main Definitions

* `PatternToken` — one element of a pattern
* `Pattern.parse` — the tokens of a pattern, or what is wrong with it
* `Pattern.matchesName` — whether a name fits
-/

namespace FigureScript

/-- One item of a character class. -/
inductive ClassItem where
  | single (c : Char)
  | range (first last : Char)
  deriving DecidableEq

/-- The character belongs to the item. -/
def ClassItem.contains (c : Char) : ClassItem → Bool
  | single d => c = d
  | range first last => first ≤ c && c ≤ last

/-- **One element of a pattern.** -/
inductive PatternToken where
  | literal (c : Char)
  | anyChar
  | anyText
  /-- Any depth of directories. -/
  | anyDepth
  | within (items : List ClassItem)
  | outside (items : List ClassItem)
  deriving DecidableEq

/-- What is wrong with a pattern. -/
inductive PatternFlaw where
  | badRange
  | wildcards
  | recursiveWildcards
  deriving DecidableEq

/-- The wording of a flaw. -/
def PatternFlaw.message : PatternFlaw → String
  | badRange => "invalid range pattern"
  | wildcards => "wildcards are either regular `*` or recursive `**`"
  | recursiveWildcards => "recursive wildcards must form a single path component"

/-- **What is wrong with a pattern, and where**, in characters from its start. -/
structure PatternProblem where
  position : Nat
  flaw : PatternFlaw
  deriving DecidableEq

/-- The wording of a problem. -/
def PatternProblem.message (p : PatternProblem) : String :=
  s!"Pattern syntax error near position {p.position}: " ++ p.flaw.message

namespace Pattern

/-- The items of a character class. -/
def classItems : List Char → List ClassItem
  | a :: '-' :: b :: rest => .range a b :: classItems rest
  | a :: rest => .single a :: classItems rest
  | [] => []

/-- A character class, after its opening bracket: its token and the text behind it.  A
closing bracket that comes first belongs to the class. -/
def readClass? : List Char → Option (PatternToken × List Char)
  | '!' :: first :: rest => close? .outside first rest
  | first :: rest => if first = '!' then none else close? .within first rest
  | [] => none
where
  /-- The class up to its closing bracket. -/
  close? (token : List ClassItem → PatternToken) (first : Char) (rest : List Char) :
      Option (PatternToken × List Char) :=
    let inside := rest.takeWhile (· ≠ ']')
    match rest.drop inside.length with
    | _ :: behind => some (token (classItems (first :: inside)), behind)
    | [] => none

/-- One or more asterisks: their token, if they have one, and the text behind them.
`before` is the character in front of them, and `position` their own. -/
def readStars (before : Option Char) (position count : Nat) (rest : List Char) :
    Except PatternProblem (PatternToken × List Char) :=
  if 2 < count then .error ⟨position + 2, .wildcards⟩
  else if count < 2 then .ok (.anyText, rest)
  else if before.all (· = '/') then
    match rest with
    | [] => .ok (.anyDepth, [])
    | '/' :: rest => .ok (.anyDepth, rest)
    | _ => .error ⟨position + 2, .recursiveWildcards⟩
  else .error ⟨position - 1, .recursiveWildcards⟩

/-- The tokens of a text that starts at a position, behind the character `before`. -/
def parseFrom : (fuel : Nat) → (before : Option Char) → (position : Nat) → List Char →
    Except PatternProblem (List PatternToken)
  | 0, _, _, _ => .ok []
  | _, _, _, [] => .ok []
  | fuel + 1, before, position, c :: rest =>
    if c = '?' then (PatternToken.anyChar :: ·) <$> parseFrom fuel (some c) (position + 1) rest
    else if c = '*' then do
      let more := (rest.takeWhile (· = '*')).length
      let (token, behind) ← readStars before position (more + 1) (rest.drop more)
      let read := rest.length + 1 - behind.length
      let last := if token = .anyDepth && !behind.isEmpty then '/' else '*'
      (token :: ·) <$> parseFrom fuel (some last) (position + read) behind
    else if c = '[' then
      match readClass? rest with
      | some (token, behind) =>
        let read := rest.length + 1 - behind.length
        (token :: ·) <$> parseFrom fuel (some ']') (position + read) behind
      | none => .error ⟨position, .badRange⟩
    else (PatternToken.literal c :: ·) <$> parseFrom fuel (some c) (position + 1) rest

/-- **The tokens of a pattern.** -/
def parse (pattern : List Char) : Except PatternProblem (List PatternToken) :=
  parseFrom pattern.length none 0 pattern

/-- The name that a pattern without wildcards stands for. -/
def literal? : List PatternToken → Option String
  | [] => some ""
  | .literal c :: tokens => (literal? tokens).map fun rest => String.ofList (c :: rest.toList)
  | _ :: _ => none

/-- The token fits one character. -/
def fits (token : PatternToken) (c : Char) : Bool :=
  match token with
  | .literal d => c = d
  | .anyChar => true
  | .anyText | .anyDepth => false
  | .within items => items.any (·.contains c)
  | .outside items => !items.any (·.contains c)

/-- **The tokens fit a name as a whole.** -/
def matchesName : List PatternToken → List Char → Bool
  | [], name => name.isEmpty
  | .anyText :: tokens, name => matchesTail tokens name
  | .anyDepth :: tokens, name => matchesTail tokens name
  | token :: tokens, c :: rest => fits token c && matchesName tokens rest
  | _ :: _, [] => false
where
  /-- The tokens fit some end of a name. -/
  matchesTail (tokens : List PatternToken) : List Char → Bool
    | [] => matchesName tokens []
    | c :: rest => matchesName tokens (c :: rest) || matchesTail tokens rest

end Pattern

end FigureScript
