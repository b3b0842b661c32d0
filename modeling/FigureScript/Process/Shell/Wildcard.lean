import FigureScript.Files.Store
import FigureScript.Text.Octets

/-!
# Wildcards of the shell

Patterns of texts: `*` for any text, `?` for one character and `[a-z]` for one of a class.

## Main Definitions

* `Wildcard`, `Wildcard.ofMarked` — the elements of a pattern
* `Wildcard.fits` — whether a text fits
* `Wildcard.trimmed` — a text without what fits at one of its ends
* `Store.paths` — the paths that fit a pattern

## Design Notes

A character of a pattern only has a meaning of its own where it is not quoted, so that a
pattern is given by characters with a mark.  A name that starts with a dot fits only if the
dot is given.
-/

namespace FigureScript

/-- One item of a class of characters. -/
inductive WildcardItem where
  | range (first last : Char)
  | named (name : String)
  deriving DecidableEq

/-- **One element of a pattern.** -/
inductive Wildcard where
  | char (c : Char)
  | anyChar
  | anyText
  /-- A character that is in a class, or that is not if that is inverted. -/
  | oneOf (inverted : Bool) (items : List WildcardItem)
  deriving DecidableEq

namespace WildcardItem

/-- The named classes. -/
def isNamed (name : String) (c : Char) : Bool :=
  match name with
  | "alpha" => c.isAlpha
  | "digit" => c.isDigit
  | "alnum" => c.isAlphanum
  | "upper" => c.isUpper
  | "lower" => c.isLower
  | "space" => c = ' ' || 9 ≤ c.toNat && c.toNat ≤ 13
  | "blank" => c = ' ' || c = '\t'
  | "punct" => 33 ≤ c.toNat && c.toNat ≤ 126 && !c.isAlphanum
  | "print" => 32 ≤ c.toNat && c.toNat ≤ 126
  | "graph" => 33 ≤ c.toNat && c.toNat ≤ 126
  | "cntrl" => c.toNat < 32 || c.toNat = 127
  | "xdigit" => c.isDigit || ('a' ≤ c && c ≤ 'f') || ('A' ≤ c && c ≤ 'F')
  | _ => false

/-- The character belongs to the item. -/
def contains (c : Char) : WildcardItem → Bool
  | range first last => first ≤ c && c ≤ last
  | named name => isNamed name c

end WildcardItem

namespace Wildcard

/-- The items of a class up to its closing bracket, which does not count as the first
character, and what follows it. -/
def items? : (fuel : Nat) → (isFirst : Bool) → List (Char × Bool) →
    Option (List WildcardItem × List (Char × Bool))
  | 0, _, _ => none
  | _, _, [] => none
  | fuel + 1, isFirst, (c, marked) :: rest =>
    if c = ']' && marked && !isFirst then some ([], rest)
    else
      let more (item : WildcardItem) (rest : List (Char × Bool)) :=
        (items? fuel false rest).map fun (items, rest) => (item :: items, rest)
      match c, rest with
      | '[', (':', _) :: behind =>
        let name := (behind.map (·.1)).takeWhile Char.isLower
        match behind.drop name.length with
        | (':', _) :: (']', _) :: behind => more (.named (String.ofList name)) behind
        | _ => more (.range c c) rest
      | c, ('-', true) :: (last, lastMarked) :: behind =>
        if last = ']' && lastMarked then more (.range c c) rest
        else more (.range c last) behind
      | c, rest => more (.range c c) rest

/-- The elements of a pattern; a bracket that is not closed stands for itself. -/
def elements : (fuel : Nat) → List (Char × Bool) → List Wildcard
  | 0, _ => []
  | _, [] => []
  | fuel + 1, (c, marked) :: rest =>
    if !marked then .char c :: elements fuel rest
    else if c = '*' then .anyText :: elements fuel rest
    else if c = '?' then .anyChar :: elements fuel rest
    else if c = '[' then
      let inverted := match rest with
        | (d, true) :: _ => d = '!' || d = '^'
        | _ => false
      match items? (rest.length + 1) true (if inverted then rest.tail else rest) with
      | some (items, behind) => .oneOf inverted items :: elements fuel behind
      | none => .char c :: elements fuel rest
    else .char c :: elements fuel rest

/-- **The elements of a pattern** of characters, which are marked if they are not quoted. -/
def ofMarked (pattern : List (Char × Bool)) : List Wildcard :=
  elements pattern.length pattern

/-- The element fits one character. -/
def fitsChar (element : Wildcard) (c : Char) : Bool :=
  match element with
  | char d => c = d
  | anyChar => true
  | anyText => false
  | oneOf inverted items => items.any (·.contains c) != inverted

/-- **The elements fit a text as a whole.** -/
def fits : List Wildcard → List Char → Bool
  | [], text => text.isEmpty
  | .anyText :: elements, text => fitsEnd elements text
  | element :: elements, c :: rest => fitsChar element c && fits elements rest
  | _ :: _, [] => false
where
  /-- The elements fit some end of a text. -/
  fitsEnd (elements : List Wildcard) : List Char → Bool
    | [] => fits elements []
    | c :: rest => fits elements (c :: rest) || fitsEnd elements rest

/-- **The text without what fits at one of its ends**, of which the shortest or the longest
part is taken. -/
def trimmed (elements : List Wildcard) (atEnd longest : Bool) (text : List Char) : List Char :=
  let lengths := List.range (text.length + 1)
  let cut := (if longest then lengths.reverse else lengths).find? fun n =>
    fits elements (if atEnd then text.drop (text.length - n) else text.take n)
  match cut with
  | some n => if atEnd then text.take (text.length - n) else text.drop n
  | none => text

/-- The element has a meaning of its own. -/
def isWild : Wildcard → Bool
  | char _ => false
  | _ => true

/-- The text of an element that has none. -/
def literal? : Wildcard → Option Char
  | char c => some c
  | _ => none

end Wildcard

namespace Store

/-- The parts of a pattern between its slashes. -/
def splitPattern : List (Char × Bool) → List (List (Char × Bool))
  | [] => [[]]
  | (c, marked) :: rest =>
    if c = '/' then [] :: splitPattern rest
    else match splitPattern rest with
      | [] => [[(c, marked)]]
      | part :: parts => ((c, marked) :: part) :: parts

/-- The bytes of a path, as far as they are a text. -/
def pathOfOctets (octets : List Char) : String :=
  (Octets.toText? octets).getD (Utf8.lossyText (Octets.toBytes octets))

/-- The names in a directory, byte by byte and in the order of their bytes. -/
def octetNames (s : Store) (directory : List Char) : List (List Char) :=
  let directory := if directory.isEmpty then "." else pathOfOctets directory
  let names := if s.isDirectory directory then s.list directory else []
  ([['.'], ['.', '.']] ++ names.map Octets.ofText).mergeSort fun a b =>
    String.ofList a ≤ String.ofList b

/-- The paths below a directory that fit the parts of a pattern.  A part without a meaning
of its own is only looked up. -/
def pathsBelow (s : Store) : (directory : List Char) → List (List (Char × Bool)) →
    List (List Char)
  | directory, [] => [directory]
  | directory, part :: parts =>
    let elements := Wildcard.ofMarked part
    let separator : List Char := if parts.isEmpty then [] else ['/']
    let further (name : List Char) : List (List Char) :=
      let path := directory ++ name
      if s.hasEntry (pathOfOctets (if path.isEmpty then ['/'] else path)) then
        if parts.isEmpty then [path]
        else if s.isDirectory (pathOfOctets (path ++ ['/'])) || name.isEmpty then
          pathsBelow s (path ++ separator) parts
        else []
      else []
    if elements.any Wildcard.isWild then
      ((octetNames s directory).filter fun name =>
          (name.head? ≠ some '.' || elements.head? = some (.char '.')) &&
            Wildcard.fits elements name).flatMap further
    else if part.isEmpty then
      if parts.isEmpty then
        if s.isDirectory (pathOfOctets directory) then [directory] else []
      else pathsBelow s (directory ++ separator) parts
    else further (elements.filterMap Wildcard.literal?)
termination_by _ parts => parts.length

/-- **The paths that fit a pattern**, unless it has no meaning of its own. -/
def paths (s : Store) (pattern : List (Char × Bool)) : List (List Char) :=
  if pattern.any fun (c, marked) => marked && (c = '*' || c = '?' || c = '[') then
    pathsBelow s [] (splitPattern pattern)
  else []

end Store

end FigureScript
