import FigureScript.Yaml.Cursor

/-!
# Problems of a YAML text

What can be wrong with a YAML text, and the wording of it.

## Main Definitions

* `Flaw` — what is wrong
* `Activity` — what was being read
* `Problem` — a flaw, its place, and what was being read there

## Design Notes

A place at the very start of a text is not worded, and neither is the place of an activity
that is the place of the flaw.
-/

namespace FigureScript.Yaml

/-- **What is wrong with a text.** -/
inductive Flaw where
  /-- A character that no text may hold, `offset` bytes behind its start. -/
  | controlCharacter (offset : Nat)
  | unknownStart
  | noKeyEnd
  | entryNotAllowed
  | keyNotAllowed
  | valueNotAllowed
  | unknownDirective
  | noLineEnd
  | noDirectiveName
  | badDirectiveName
  | noVersionPoint
  | longVersion
  | noVersion
  | noBlank
  | noWordEnd
  | noName
  | noClosingAngle
  | noExclamation
  | noTagText
  | badEscapedOctet
  | badLeadingOctet
  | badTrailingOctet
  | zeroIndentation
  | tabForSpace
  | documentMarker
  | endInQuotes
  | unknownEscape
  | badHexadecimal
  | badCodePoint
  | unexpectedColon
  | tabInIndentation
  | noDocumentStart
  | undefinedHandle
  | noContent
  | noEntry
  | noKey
  | noSequenceEnd
  | noMappingEnd
  | duplicateVersion
  | wrongVersion
  | duplicateHandle
  | unknownAnchor
  deriving DecidableEq

/-- The wording of a flaw. -/
def Flaw.message : Flaw → String
  | controlCharacter _ => "control characters are not allowed"
  | unknownStart => "found character that cannot start any token"
  | noKeyEnd => "could not find expected ':'"
  | entryNotAllowed => "block sequence entries are not allowed in this context"
  | keyNotAllowed => "mapping keys are not allowed in this context"
  | valueNotAllowed => "mapping values are not allowed in this context"
  | unknownDirective => "found unknown directive name"
  | noLineEnd => "did not find expected comment or line break"
  | noDirectiveName => "could not find expected directive name"
  | badDirectiveName => "found unexpected non-alphabetical character"
  | noVersionPoint => "did not find expected digit or '.' character"
  | longVersion => "found extremely long version number"
  | noVersion => "did not find expected version number"
  | noBlank => "did not find expected whitespace"
  | noWordEnd => "did not find expected whitespace or line break"
  | noName => "did not find expected alphabetic or numeric character"
  | noClosingAngle => "did not find the expected '>'"
  | noExclamation => "did not find expected '!'"
  | noTagText => "did not find expected tag URI"
  | badEscapedOctet => "did not find URI escaped octet"
  | badLeadingOctet => "found an incorrect leading UTF-8 octet"
  | badTrailingOctet => "found an incorrect trailing UTF-8 octet"
  | zeroIndentation => "found an indentation indicator equal to 0"
  | tabForSpace => "found a tab character where an indentation space is expected"
  | documentMarker => "found unexpected document indicator"
  | endInQuotes => "found unexpected end of stream"
  | unknownEscape => "found unknown escape character"
  | badHexadecimal => "did not find expected hexadecimal number"
  | badCodePoint => "found invalid Unicode character escape code"
  | unexpectedColon => "found unexpected ':'"
  | tabInIndentation => "found a tab character that violates indentation"
  | noDocumentStart => "did not find expected <document start>"
  | undefinedHandle => "found undefined tag handle"
  | noContent => "did not find expected node content"
  | noEntry => "did not find expected '-' indicator"
  | noKey => "did not find expected key"
  | noSequenceEnd => "did not find expected ',' or ']'"
  | noMappingEnd => "did not find expected ',' or '\x7d'"
  | duplicateVersion => "found duplicate %YAML directive"
  | wrongVersion => "found incompatible YAML document"
  | duplicateHandle => "found duplicate %TAG directive"
  | unknownAnchor => "unknown anchor"

/-- **What was being read.** -/
inductive Activity where
  | nextToken
  | simpleKey
  | directive
  | versionDirective
  | tagDirective
  | tagDirectiveHandle
  | tagDirectiveName
  | tagDirectiveText
  | anchor
  | reference
  | tag
  | tagText
  | blockScalar
  | quotedScalar
  | quotedEscape
  | plainScalar
  | node
  | blockNode
  | flowNode
  | blockSequence
  | blockMapping
  | flowSequence
  | flowMapping
  deriving DecidableEq

/-- The wording of an activity. -/
def Activity.message : Activity → String
  | nextToken => "while scanning for the next token"
  | simpleKey => "while scanning a simple key"
  | directive => "while scanning a directive"
  | versionDirective => "while scanning a %YAML directive"
  | tagDirective => "while scanning a %TAG directive"
  | tagDirectiveHandle => "while scanning a tag directive"
  | tagDirectiveName => "while parsing a tag directive"
  | tagDirectiveText => "while parsing a %TAG directive"
  | anchor => "while scanning an anchor"
  | reference => "while scanning an alias"
  | tag => "while scanning a tag"
  | tagText => "while parsing a tag"
  | blockScalar => "while scanning a block scalar"
  | quotedScalar => "while scanning a quoted scalar"
  | quotedEscape => "while parsing a quoted scalar"
  | plainScalar => "while scanning a plain scalar"
  | node => "while parsing a node"
  | blockNode => "while parsing a block node"
  | flowNode => "while parsing a flow node"
  | blockSequence => "while parsing a block collection"
  | blockMapping => "while parsing a block mapping"
  | flowSequence => "while parsing a flow sequence"
  | flowMapping => "while parsing a flow mapping"

/-- **A flaw, its place, and what was being read there** since which place. -/
structure Problem where
  flaw : Flaw
  mark : Mark
  context : Option (Activity × Mark) := none
  deriving DecidableEq

namespace Problem

/-- The wording of the place of a flaw. -/
def place (p : Problem) : String :=
  if !p.mark.isOrigin then p.mark.suffix
  else match p.flaw with
    | .controlCharacter offset => if offset = 0 then "" else s!" at position {offset}"
    | _ => ""

/-- The wording of what was being read. -/
def background (p : Problem) : String :=
  match p.context with
  | none => ""
  | some (activity, since) =>
    ", " ++ activity.message ++
      if since.isOrigin || since.sameSpot p.mark then "" else since.suffix

/-- **The wording of a problem.** -/
def message (p : Problem) : String :=
  p.flaw.message ++ p.place ++ p.background

end Problem

/-- Fails with a flaw found at a place while something was being read. -/
def fault {α : Type} (flaw : Flaw) (mark : Mark) (activity : Activity) (since : Mark) :
    Except Problem α :=
  .error ⟨flaw, mark, some (activity, since)⟩

end FigureScript.Yaml
