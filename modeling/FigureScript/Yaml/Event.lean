import FigureScript.Yaml.Lexer

/-!
# Documents as events

A document is a list of events: its scalars, and the starts and ends of its collections.

## Main Definitions

* `Event` — a part of a document
* `Document` — the events of the first document of a text
* `Document.ofText` — the document of a text

## Design Notes

A text with a problem has the events in front of it, so that what these say is judged
first.  Anchored nodes are numbered by the names known before, and a number stands for
the last node that got it.
-/

namespace FigureScript.Yaml

/-- **A part of a document.** -/
inductive Event where
  /-- The document has no content. -/
  | nothing
  | scalar (text : String) (tag : Option String) (style : ScalarStyle)
  | sequenceStart
  | sequenceEnd
  | mappingStart
  | mappingEnd
  /-- The node with a number stands here again. -/
  | reference (number : Nat)
  deriving DecidableEq

/-- **The first document of a text.** -/
structure Document where
  /-- The events with the places where they start. -/
  events : List (Event × Mark)
  /-- What is wrong behind these events. -/
  problem : Option Problem := none
  /-- The text goes on behind the document. -/
  continues : Bool := false
  /-- The index of the event at which a numbered node starts, the last one first. -/
  anchored : List (Nat × Nat) := []

/-- How far the events of a text have been read. -/
structure EventState where
  lexer : Lexer
  events : Array (Event × Mark) := #[]
  /-- The meanings of the handles of tags. -/
  handles : List (String × String) := []
  /-- The numbers of the names of anchors. -/
  names : List (String × Nat) := []
  anchored : List (Nat × Nat) := []

/-- **A reading of events**, which remain if it fails. -/
abbrev EventReader := ExceptT Problem (StateM EventState)

namespace EventReader

/-- The next token. -/
def peek : EventReader Token := do
  match (← get).lexer.peek with
  | .error problem => throw problem
  | .ok (token, lexer) =>
    modify fun s => { s with lexer }
    return token

/-- Takes the next token away. -/
def skip : EventReader Unit :=
  modify fun s => { s with lexer := s.lexer.take }

/-- Takes the next token away; the answer is the one behind it. -/
def following : EventReader Token := do
  skip
  peek

/-- Adds an event. -/
def emit (event : Event) (mark : Mark) : EventReader Unit :=
  modify fun s => { s with events := s.events.push (event, mark) }

/-- Adds an empty scalar. -/
def emitEmpty (mark : Mark) : EventReader Unit :=
  emit (.scalar "" none .plain) mark

/-- Fails with a flaw at a place. -/
def fail {α : Type} (flaw : Flaw) (mark : Mark) (activity : Activity) (since : Mark) :
    EventReader α :=
  throw ⟨flaw, mark, some (activity, since)⟩

/-- Notes the anchor of a node whose event comes next. -/
def noteAnchor (name : Option String) : EventReader Unit := do
  if let some name := name then
    modify fun s =>
      let number := s.names.length
      { s with
        names := (name, number) :: s.names.filter (·.1 ≠ name)
        anchored := (number, s.events.size) :: s.anchored }

/-- A node that stands again. -/
def emitReference (name : String) (mark : Mark) : EventReader Unit := do
  match (← get).names.find? (·.1 = name) with
  | some (_, number) => emit (.reference number) mark
  | none => throw { flaw := .unknownAnchor, mark }

/-! ### Nodes -/

/-- **What may stand in front of a node.** -/
structure Properties where
  anchor : Option String := none
  tag : Option String := none

namespace Properties

/-- There is something. -/
def isSome (p : Properties) : Bool :=
  p.anchor.isSome || p.tag.isSome

end Properties

/-- The tag that a handle and a text stand for, of a node that starts at a place. -/
def resolveTag (start mark : Mark) (handle suffix : String) : EventReader String := do
  if handle = "" then return suffix
  match (← get).handles.find? (·.1 = handle) with
  | some (_, lead) => return lead ++ suffix
  | none => fail .undefinedHandle mark .node start

/-- Reads an anchor and a tag, in either order, each at most once. -/
def readProperties : EventReader Properties := do
  let token ← peek
  match token.kind with
  | .anchor name =>
    let next ← following
    match next.kind with
    | .tag handle suffix =>
      skip
      let _ ← peek
      return ⟨name, ← resolveTag token.start next.start handle suffix⟩
    | _ => return { anchor := name }
  | .tag handle suffix =>
    let next ← following
    match next.kind with
    | .anchor name =>
      skip
      let _ ← peek
      return ⟨name, ← resolveTag token.start token.start handle suffix⟩
    | _ => return { tag := ← resolveTag token.start token.start handle suffix }
  | _ => return {}

/-- The tag of a scalar; the sign of tags alone is none. -/
def scalarTag (tag : Option String) : Option String :=
  tag.filter (· ≠ "!")

mutual

/-- Reads a node.  Collections by indentation are accepted on request, and so is a sequence
whose entries are not indented. -/
def readNode : (fuel : Nat) → (block indentless : Bool) → EventReader Unit
  | 0, _, _ => return ()
  | fuel + 1, block, indentless => do
    let token ← peek
    if let .reference name := token.kind then
      skip
      return ← emitReference name token.start
    let start := token.start
    let properties ← readProperties
    let token ← peek
    let emitStart (event : Event) : EventReader Unit := do
      noteAnchor properties.anchor
      emit event start
    match token.kind with
    | .scalar text style =>
      emitStart (.scalar text (scalarTag properties.tag) style)
      skip
    | .flowSequenceStart =>
      emitStart .sequenceStart
      skip
      readFlowSequence fuel token.start true
    | .flowMappingStart =>
      emitStart .mappingStart
      skip
      readFlowMapping fuel token.start true
    | kind =>
      if kind = .blockEntry && indentless then
        emitStart .sequenceStart
        readIndentless fuel
      else if kind = .blockSequenceStart && block then
        emitStart .sequenceStart
        skip
        readBlockSequence fuel token.start
      else if kind = .blockMappingStart && block then
        emitStart .mappingStart
        skip
        readBlockMapping fuel token.start
      else if properties.isSome then
        emitStart (.scalar "" properties.tag .plain)
      else fail .noContent token.start (if block then .blockNode else .flowNode) start

/-- Reads the entries of a sequence by indentation. -/
def readBlockSequence : (fuel : Nat) → (since : Mark) → EventReader Unit
  | 0, _ => return ()
  | fuel + 1, since => do
    let token ← peek
    match token.kind with
    | .blockEntry =>
      let next ← following
      if next.kind = .blockEntry || next.kind = .blockEnd then emitEmpty token.behind
      else readNode fuel true false
      readBlockSequence fuel since
    | .blockEnd =>
      emit .sequenceEnd token.start
      skip
    | _ => fail .noEntry token.start .blockSequence since

/-- Reads the entries of a sequence that is not indented. -/
def readIndentless : (fuel : Nat) → EventReader Unit
  | 0 => return ()
  | fuel + 1 => do
    let token ← peek
    if token.kind = .blockEntry then
      let next ← following
      if [TokenKind.blockEntry, .key, .value, .blockEnd].contains next.kind then
        emitEmpty token.behind
      else readNode fuel true false
      readIndentless fuel
    else emit .sequenceEnd token.start

/-- Reads a key or a value of a mapping by indentation behind its sign, which may be
missing. -/
def readBlockPart : (fuel : Nat) → (sign : TokenKind) → EventReader Unit
  | 0, _ => return ()
  | fuel + 1, sign => do
    let token ← peek
    if token.kind = sign then
      let next ← following
      if [TokenKind.key, .value, .blockEnd].contains next.kind then emitEmpty token.behind
      else readNode fuel true true
    else emitEmpty token.start

/-- Reads the entries of a mapping by indentation. -/
def readBlockMapping : (fuel : Nat) → (since : Mark) → EventReader Unit
  | 0, _ => return ()
  | fuel + 1, since => do
    let token ← peek
    match token.kind with
    | .key =>
      readBlockPart fuel .key
      readBlockPart fuel .value
      readBlockMapping fuel since
    | .blockEnd =>
      emit .mappingEnd token.start
      skip
    | _ => fail .noKey token.start .blockMapping since

/-- Reads the value of an entry in brackets that are closed by a token. -/
def readFlowValue : (fuel : Nat) → (closing : TokenKind) → EventReader Unit
  | 0, _ => return ()
  | fuel + 1, closing => do
    let token ← peek
    if token.kind = .value then
      let next ← following
      if next.kind = .flowEntry || next.kind = closing then emitEmpty next.start
      else readNode fuel false false
    else emitEmpty token.start

/-- Reads a mapping of one entry in a sequence in brackets, behind the sign of its key. -/
def readSingleEntry : (fuel : Nat) → EventReader Unit
  | 0 => return ()
  | fuel + 1 => do
    let token ← peek
    if [TokenKind.value, .flowEntry, .flowSequenceEnd].contains token.kind then
      skip
      emitEmpty token.behind
    else readNode fuel false false
    readFlowValue fuel .flowSequenceEnd
    emit .mappingEnd (← peek).start

/-- Reads the entries of a sequence in brackets. -/
def readFlowSequence : (fuel : Nat) → (since : Mark) → (first : Bool) → EventReader Unit
  | 0, _, _ => return ()
  | fuel + 1, since, first => do
    let token ← peek
    let token ←
      if first || token.kind = .flowSequenceEnd then pure token
      else if token.kind = .flowEntry then following
      else fail .noSequenceEnd token.start .flowSequence since
    match token.kind with
    | .flowSequenceEnd =>
      emit .sequenceEnd token.start
      skip
    | .key =>
      emit .mappingStart token.start
      skip
      readSingleEntry fuel
      readFlowSequence fuel since false
    | _ =>
      readNode fuel false false
      readFlowSequence fuel since false

/-- Reads the entries of a mapping in brackets. -/
def readFlowMapping : (fuel : Nat) → (since : Mark) → (first : Bool) → EventReader Unit
  | 0, _, _ => return ()
  | fuel + 1, since, first => do
    let token ← peek
    let token ←
      if first || token.kind = .flowMappingEnd then pure token
      else if token.kind = .flowEntry then following
      else fail .noMappingEnd token.start .flowMapping since
    match token.kind with
    | .flowMappingEnd =>
      emit .mappingEnd token.start
      skip
    | .key =>
      let next ← following
      if [TokenKind.value, .flowEntry, .flowMappingEnd].contains next.kind then
        emitEmpty next.start
      else readNode fuel false false
      readFlowValue fuel .flowMappingEnd
      readFlowMapping fuel since false
    | _ =>
      readNode fuel false false
      emitEmpty (← peek).start
      readFlowMapping fuel since false

end

/-! ### Documents -/

/-- The handles that have a meaning everywhere. -/
def standardHandles : List (String × String) :=
  [("!", "!"), ("!!", "tag:yaml.org,2002:")]

/-- Reads the directives of a document. -/
def readDirectives : (fuel : Nat) → (versioned : Bool) → EventReader Unit
  | 0, _ => return ()
  | fuel + 1, versioned => do
    let token ← peek
    let mark := token.start
    match token.kind with
    | .versionDirective major minor =>
      if versioned then throw { flaw := .duplicateVersion, mark }
      if major ≠ 1 || (minor ≠ 1 && minor ≠ 2) then throw { flaw := .wrongVersion, mark }
      skip
      readDirectives fuel true
    | .tagDirective handle lead =>
      if (← get).handles.any (·.1 = handle) then throw { flaw := .duplicateHandle, mark }
      modify fun s => { s with handles := s.handles ++ [(handle, lead)] }
      skip
      readDirectives fuel versioned
    | _ => modify fun s => { s with handles := s.handles ++ standardHandles }

/-- Reads the content of a document behind its marker. -/
def readContent (fuel : Nat) : EventReader Unit := do
  let token ← peek
  match token.kind with
  | .versionDirective _ _ | .tagDirective _ _ | .documentStart | .documentEnd | .streamEnd =>
    emitEmpty token.start
  | _ => readNode fuel true false

/-- Reads a document; its end may be marked. -/
def readDocument (fuel : Nat) : EventReader Unit := do
  let token ← peek
  match token.kind with
  | .streamEnd => emit .nothing token.start
  | .versionDirective _ _ | .tagDirective _ _ | .documentStart =>
    readDirectives fuel false
    let token ← peek
    if token.kind ≠ .documentStart then throw { flaw := .noDocumentStart, mark := token.start }
    skip
    readContent fuel
    finish
  | _ =>
    readDirectives fuel false
    readNode fuel true false
    finish
where
  /-- Reads the end of a document. -/
  finish : EventReader Unit := do
    if (← peek).kind = .documentEnd then skip

/-- Something other than the ends of documents follows. -/
def hasMore : (fuel : Nat) → EventReader Bool
  | 0 => return false
  | fuel + 1 => do
    match (← peek).kind with
    | .documentEnd =>
      skip
      hasMore fuel
    | .streamEnd => return false
    | _ => return true

/-- Reads the first document of a text. -/
def readFirst (fuel : Nat) : EventReader Unit := do
  let _ ← peek
  skip
  readDocument fuel

end EventReader

/-- **The first document of a text.**  Every step of the reading takes a token or is one of
few for each token. -/
def Document.ofText (text : String) : Document :=
  match Lexer.ofText text with
  | .error problem => { events := [], problem := some problem }
  | .ok lexer =>
    let fuel := 8 * (text.length + 4)
    let (outcome, s) := (EventReader.readFirst fuel).run { lexer }
    let (more, _) := (EventReader.hasMore fuel).run s
    { events := s.events.toList
      problem := match outcome with
        | .error problem => some problem
        | .ok () => none
      continues := match more with
        | .ok more => more
        | .error _ => true
      anchored := s.anchored }

end FigureScript.Yaml
