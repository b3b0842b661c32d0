import FigureScript.Process.Shell.Wildcard

/-!
# Regular expressions

The patterns by which tools find and change parts of lines.

## Main Definitions

* `Regular` — a pattern
* `Regular.ofText` — the pattern that a text means, in either of the two spellings
* `Regular.ends` — where a pattern that starts at a position may end
* `Regular.find?` — the leftmost and longest part of a line that fits

## Design Notes

All ends are kept, at most one for each position in the line, so that looking for the longest
one takes no time worth speaking of.  Of two ways to the same end the one counts whose
repetitions take more.

The basic spelling writes a backslash in front of groups, counts, `+`, `?` and `|`, and the
extended one writes it in front of them where they stand for themselves.
-/

namespace FigureScript

/-- A condition on the place between two characters. -/
inductive TextEdge where
  | lineStart
  | lineEnd
  | wordStart
  | wordEnd
  /-- A word starts or ends. -/
  | word
  | noWord
  /-- No word reaches to the place from the left. -/
  | noWordBefore
  /-- No word starts at the place. -/
  | noWordAfter
  deriving DecidableEq

/-- **A pattern.** -/
inductive Regular where
  | empty
  | one (accepts : Char → Bool)
  | follow (first second : Regular)
  | either (first second : Regular)
  | repeated (inner : Regular) (least : Nat) (most : Option Nat)
  | group (number : Nat) (inner : Regular)
  /-- What fitted a group, once more. -/
  | again (number : Nat)
  | edge (place : TextEdge)

/-- A position in a line, and what fitted the groups so far. -/
structure LinePosition where
  before : Option Char
  rest : List Char
  groups : List (Nat × List Char) := []

/-- A character that belongs to a word. -/
def isWordChar (c : Char) : Bool :=
  c.isAlphanum || c = '_'

namespace TextEdge

/-- The condition holds at a position. -/
def holds (edge : TextEdge) (p : LinePosition) : Bool :=
  let left := p.before.any isWordChar
  let right := p.rest.head?.any isWordChar
  match edge with
  | lineStart => p.before.isNone
  | lineEnd => p.rest.isEmpty
  | wordStart => !left && right
  | wordEnd => left && !right
  | word => left != right
  | noWord => left == right
  | noWordBefore => !left
  | noWordAfter => !right

end TextEdge

namespace LinePosition

/-- The position behind a part of what is left. -/
def skip (p : LinePosition) (count : Nat) : LinePosition :=
  { p with
    before := if count = 0 then p.before else p.rest[count - 1]?
    rest := p.rest.drop count }

/-- What stands between two positions. -/
def textTo (p q : LinePosition) : List Char :=
  p.rest.take (p.rest.length - q.rest.length)

/-- Positions without those that have been there before. -/
def distinct (positions : List LinePosition) : List LinePosition :=
  (positions.foldl (fun kept p =>
    if kept.any (·.rest.length = p.rest.length) then kept else p :: kept) []).reverse

end LinePosition

namespace Regular

/-- The positions after as many steps as possible, starting with those after fewer ones. -/
def reach (step : LinePosition → List LinePosition) : (rounds : Nat) → (found : List LinePosition) →
    (latest : List LinePosition) → List LinePosition
  | 0, found, _ => found
  | rounds + 1, found, latest =>
    let next := (LinePosition.distinct (latest.flatMap step)).filter fun p =>
      !found.any (·.rest.length = p.rest.length)
    if next.isEmpty then found else reach step rounds (found ++ next) next

/-- The positions after a number of steps. -/
def steps (step : LinePosition → List LinePosition) : (count : Nat) → List LinePosition →
    List LinePosition
  | 0, positions => positions
  | count + 1, positions =>
    steps step count (LinePosition.distinct (positions.flatMap step))

/-- **Where a pattern may end** that starts at a position. -/
def ends : Regular → LinePosition → List LinePosition
  | empty, p => [p]
  | one accepts, p => if p.rest.head?.any accepts then [p.skip 1] else []
  | follow first second, p => LinePosition.distinct ((ends first p).flatMap (ends second))
  | either first second, p => LinePosition.distinct (ends first p ++ ends second p)
  | repeated inner least most, p =>
    let start := steps (ends inner) least [p]
    let rounds := match most with
      | some most => most - least
      | none => p.rest.length + 1
    (reach (ends inner) rounds start start).mergeSort fun p q => p.rest.length ≤ q.rest.length
  | group number inner, p =>
    (ends inner p).map fun q =>
      { q with groups := (number, p.textTo q) :: q.groups.filter (·.1 ≠ number) }
  | again number, p =>
    match p.groups.lookup number with
    | some text => if text.isPrefixOf p.rest then [p.skip text.length] else []
    | none => []
  | edge place, p => if place.holds p then [p] else []

/-- A part of a line that fits a pattern. -/
structure Found where
  /-- What stands in front of it. -/
  skipped : List Char
  text : List Char
  /-- The position behind it. -/
  behind : LinePosition

/-- The longest part that fits at a position. -/
def findAt? (r : Regular) (p : LinePosition) : Option Found :=
  match (ends r p).mergeSort fun p q => p.rest.length ≤ q.rest.length with
  | [] => none
  | q :: _ => some ⟨[], p.textTo q, q⟩

/-- **The leftmost part of the rest of a line that fits**, and of those the longest one. -/
def find? (r : Regular) (before : Option Char) (text : List Char) : Option Found :=
  match findAt? r { before, rest := text } with
  | some found => some found
  | none =>
    match text with
    | [] => none
    | c :: rest => (find? r (some c) rest).map fun found =>
      { found with skipped := c :: found.skipped }

/-! ### Spelling -/

/-- An element of the spelling of a pattern. -/
inductive Mark where
  | one (accepts : Char → Bool)
  | again (number : Nat)
  | edge (place : TextEdge)
  | count (least : Nat) (most : Option Nat)
  | bar
  | opening
  | closing

/-- Why a text means no pattern. -/
inductive Flaw where
  | openBracket
  /-- It ends with the bracket that opens a class. -/
  | lastBracket
  | openGroup
  | closedGroup
  | openCount
  | badCount
  | badRange
  | badGroup
  | backslash
  deriving DecidableEq

/-- The wording of a flaw. -/
def Flaw.message : Flaw → String
  | openBracket => "Unmatched [, [^, [:, [., or [="
  | lastBracket => "Invalid regular expression"
  | openGroup => "Unmatched ( or \\("
  | closedGroup => "Unmatched ) or \\)"
  | openCount => "Unmatched \\\x7b"
  | badCount => "Invalid content of \\\x7b\\\x7d"
  | badRange => "Invalid range end"
  | badGroup => "Invalid back reference"
  | backslash => "Trailing backslash"

/-- The items of a class up to its closing bracket, and what follows it. -/
def items : (fuel : Nat) → (isFirst : Bool) → List Char →
    Except Flaw (List WildcardItem × List Char)
  | 0, _, _ | _, _, [] => .error .openBracket
  | fuel + 1, isFirst, text => do
    let more (item : WildcardItem) (rest : List Char) := do
      let (others, rest) ← items fuel false rest
      return (item :: others, rest)
    match text with
    | ']' :: rest => if isFirst then more (.range ']' ']') rest else return ([], rest)
    | '[' :: ':' :: rest =>
      let name := rest.takeWhile Char.isLower
      match rest.drop name.length with
      | ':' :: ']' :: rest => more (.named (String.ofList name)) rest
      | _ => .error .openBracket
    | first :: '-' :: last :: rest =>
      if last = ']' then more (.range first first) ('-' :: last :: rest)
      else if last < first then .error .badRange
      else more (.range first last) rest
    | c :: rest => more (.range c c) rest
    | [] => .error .openBracket

/-- A class of characters behind its opening bracket, and what follows it. -/
def bracket (text : List Char) : Except Flaw (Mark × List Char) := do
  let inverted := text.head? = some '^'
  if text.isEmpty then throw Flaw.lastBracket
  let (items, rest) ← items (text.length + 1) true (if inverted then text.tail else text)
  return (.one fun c => items.any (·.contains c) != inverted, rest)

/-- The count behind an opening brace up to the closing one, and what follows that. -/
def count? (extended : Bool) (text : List Char) : Except Flaw (Mark × List Char) :=
  let number (digits : List Char) : Nat :=
    digits.foldl (fun n d => 10 * n + (d.toNat - '0'.toNat)) 0
  let least := text.takeWhile Char.isDigit
  let (most, rest) := match text.drop least.length with
    | ',' :: rest =>
      let most := rest.takeWhile Char.isDigit
      (if most.isEmpty then none else some (number most), rest.drop most.length)
    | rest => (some (number least), rest)
  match extended, rest with
  | true, '}' :: rest | false, '\\' :: '}' :: rest =>
    if most.any (· < number least) then .error .badCount
    else .ok (.count (number least) most, rest)
  | _, rest => .error (if !least.isEmpty && !rest.isEmpty then .badCount else .openCount)

/-- The mark of a character behind a backslash that has the same meaning in both spellings. -/
def escaped? (c : Char) : Option Mark :=
  let isSpace (c : Char) : Bool := c = ' ' || 9 ≤ c.toNat && c.toNat ≤ 13
  match c with
  | 'w' => some (.one isWordChar)
  | 'W' => some (.one (!isWordChar ·))
  | 's' => some (.one isSpace)
  | 'S' => some (.one (!isSpace ·))
  | '<' => some (.edge .wordStart)
  | '>' => some (.edge .wordEnd)
  | 'b' => some (.edge .word)
  | 'B' => some (.edge .noWord)
  | '\x60' => some (.edge .lineStart)
  | '\'' => some (.edge .lineEnd)
  | c => if '1' ≤ c && c ≤ '9' then some (.again (c.toNat - '0'.toNat)) else none

/-- The mark of a character that has a meaning by itself in the extended spelling, and behind
a backslash in the basic one. -/
def special? (c : Char) : Option Mark :=
  match c with
  | '(' => some .opening
  | ')' => some .closing
  | '|' => some .bar
  | '+' => some (.count 1 none)
  | '?' => some (.count 0 (some 1))
  | _ => none

/-- Nothing that can be repeated stands in front, if these marks do, the last one first. -/
def isStart : List Mark → Bool
  | [] | .opening :: _ | .bar :: _ => true
  | _ => false

/-- A line anchor stands in front. -/
def isAnchored : List Mark → Bool
  | .edge .lineStart :: _ => true
  | _ => false

/-- How many groups are open. -/
def openGroups (read : List Mark) : Nat :=
  let opened := read.countP fun mark => match mark with
    | .opening => true
    | _ => false
  let closed := read.countP fun mark => match mark with
    | .closing => true
    | _ => false
  opened - closed

/-- The marks of a text, the last one first. -/
def marks (extended : Bool) : (fuel : Nat) → List Mark → List Char → Except Flaw (List Mark)
  | 0, read, _ | _, read, [] => .ok read
  | fuel + 1, read, c :: rest =>
    let literal (c : Char) := marks extended fuel (.one (· = c) :: read) rest
    let endsHere : Bool := match extended, rest with
      | _, [] => true
      | true, '|' :: _ | true, ')' :: _ | false, '\\' :: '|' :: _ | false, '\\' :: ')' :: _ => true
      | _, _ => extended
    match c with
    | '\\' =>
      match rest with
      | [] => .error .backslash
      | d :: behind =>
        match if extended then none else special? d with
        | some (.count least most) =>
          if isStart read then marks extended fuel (.one (· = d) :: read) behind
          else marks extended fuel (.count least most :: read) behind
        | some mark => marks extended fuel (mark :: read) behind
        | none =>
          if d = '{' && !extended then do
            let (mark, behind) ← count? false behind
            marks extended fuel (mark :: read) behind
          else
            marks extended fuel (((escaped? d).getD (.one (· = d))) :: read) behind
    | '.' => marks extended fuel (.one (fun _ => true) :: read) rest
    | '[' => do
      let (mark, behind) ← bracket rest
      marks extended fuel (mark :: read) behind
    | '*' =>
      if isStart read || (isAnchored read && !extended) then
        if extended then marks extended fuel read rest else literal c
      else marks extended fuel (.count 0 none :: read) rest
    | '^' =>
      if extended || isStart read then marks extended fuel (.edge .lineStart :: read) rest
      else literal c
    | '$' => if endsHere then marks extended fuel (.edge .lineEnd :: read) rest else literal c
    | '{' =>
      if extended && !isStart read then
        match count? true rest with
        | .ok (mark, behind) => marks extended fuel (mark :: read) behind
        | .error flaw => if rest.contains '}' && flaw = .badCount then .error flaw else literal c
      else literal c
    | c =>
      match if extended then special? c else none with
      | some (.count least most) =>
        if isStart read then marks extended fuel read rest
        else marks extended fuel (.count least most :: read) rest
      | some .closing =>
        if openGroups read = 0 then literal c else marks extended fuel (.closing :: read) rest
      | some mark => marks extended fuel (mark :: read) rest
      | none => literal c

/-- The marks still to be read, and how many groups there were. -/
structure Reading where
  marks : List Mark
  groups : Nat := 0

/-- Reads a pattern up to the end of its group: alternatives, of which each is a sequence. -/
def alternatives : (fuel : Nat) → (done : Regular) → (last : Option Regular) → Reading →
    Except Flaw (Regular × Reading)
  | 0, done, last, r => .ok (.follow done (last.getD .empty), r)
  | fuel + 1, done, last, r => do
    let whole := match last with
      | some last => Regular.follow done last
      | none => done
    match r.marks with
    | [] | .closing :: _ => return (whole, r)
    | .bar :: rest =>
      let (others, r) ← alternatives fuel .empty none { r with marks := rest }
      return (.either whole others, r)
    | .opening :: rest =>
      let number := r.groups + 1
      let (inner, r) ← alternatives fuel .empty none { marks := rest, groups := number }
      match r.marks with
      | .closing :: rest =>
        alternatives fuel whole (some (.group number inner)) { r with marks := rest }
      | _ => .error .openGroup
    | .count least most :: rest =>
      let inner := last.getD .empty
      alternatives fuel done (some (.repeated inner least most)) { r with marks := rest }
    | .one accepts :: rest => alternatives fuel whole (some (.one accepts)) { r with marks := rest }
    | .edge place :: rest => alternatives fuel whole (some (.edge place)) { r with marks := rest }
    | .again number :: rest =>
      if r.groups < number then .error .badGroup
      else alternatives fuel whole (some (.again number)) { r with marks := rest }

/-- **The pattern that a text means.** -/
def ofText (extended : Bool) (text : List Char) : Except Flaw Regular := do
  let marks := (← marks extended (text.length + 1) [] text).reverse
  let (r, left) ← alternatives (2 * marks.length + 2) .empty none { marks }
  if left.marks.isEmpty then return r else .error .closedGroup

/-- The pattern that fits a text and nothing else. -/
def ofLiteral (text : List Char) : Regular :=
  text.foldl (fun r c => .follow r (.one (· = c))) .empty

/-- The pattern without regard to small and capital letters. -/
def ignoringCase : Regular → Regular
  | one accepts => one fun c => accepts c || accepts c.toLower || accepts c.toUpper
  | follow first second => follow first.ignoringCase second.ignoringCase
  | either first second => either first.ignoringCase second.ignoringCase
  | repeated inner least most => repeated inner.ignoringCase least most
  | group number inner => group number inner.ignoringCase
  | r => r

end Regular

end FigureScript
