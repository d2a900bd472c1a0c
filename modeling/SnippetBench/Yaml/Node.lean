import SnippetBench.Yaml.Tag
import SnippetBench.Yaml.Token

/-!
# YAML nodes

The nodes that the tokens of a YAML document describe: scalars, sequences and mappings, each with
its tag. They make up a graph: a collection refers to its parts by their numbers. An anchor names a
node, once in a document, and a reference stands for the node so named, also inside the node itself,
so that a collection can be a part of itself. A text holds at most one document.
-/

namespace SnippetBench.Yaml

/-- What a node consists of. The parts of a collection are given by their numbers in the graph. -/
inductive Content
  | scalar (wording : Wording)
  | sequence (items : List Nat)
  | mapping (entries : List (Nat × Nat))
  deriving DecidableEq, Repr

/-- A node. -/
structure Node where
  tag : Tag
  content : Content
  deriving DecidableEq, Repr

/-- The nodes of a document, by their numbers. -/
abbrev Graph := Array Node

namespace Node

/-- The node where nothing is written. -/
def empty : Node := ⟨.null, .scalar ⟨[], []⟩⟩

instance : Inhabited Node := ⟨empty⟩

/-- The state of reading nodes: the tokens that follow and the fault behind them, if any, the nodes
so far, what the anchors name, and the starts of tag names that handles stand for. -/
structure Reader where
  tokens : List Token
  fault : Option Fault
  nodes : Graph := #[]
  anchors : List (Text × Nat) := []
  handles : List (Text × Text)

/-- Reading with a state that may find a fault. -/
abbrev Read := StateT Reader (Except Fault)

/-- The next token, if any. Behind the last one, the fault that ends them is found. -/
def peek : Read (Option Token) := do
  let r ← get
  match r.tokens, r.fault with
  | [], some f => throw f
  | tokens, _ => return tokens.head?

/-- Steps behind the next token. -/
def skip : Read Unit := modify fun r => { r with tokens := r.tokens.tail }

/-- Steps behind the next token if it is the given one. -/
def accept (t : Token) : Read Bool := do
  if (← peek) = some t then
    skip
    return true
  else return false

/-- Steps behind the next token, which has to be the given one. -/
def expect (t : Token) : Read Unit := do
  if !(← accept t) then throw .malformed

/-- Adds a node, which an anchor names if there is one. -/
def add (anchor : Option Text) (n : Node) : Read Nat :=
  modifyGet fun r =>
    let id := r.nodes.size
    (id, { r with
      nodes := r.nodes.push n
      anchors := (anchor.map fun a => (a, id)).toList ++ r.anchors })

/-- Adds a node where nothing is written. -/
def addEmpty : Read Nat := add none empty

/-- Adds a collection with a tag. Its anchor names it while its content is read. -/
def addCollection {α : Type} (anchor : Option Text) (tag : Tag) (make : List α → Content)
    (read : Read (List α)) : Read Nat := do
  let id ← add anchor ⟨tag, make []⟩
  let content := make (← read)
  modify fun r => { r with nodes := r.nodes.setIfInBounds id ⟨tag, content⟩ }
  return id

/-- The full name of a written tag. -/
def tagName (handle : Option Text) (suffix : Text) : Read Text := do
  match handle with
  | none => return suffix
  | some h =>
    match (← get).handles.lookup h with
    | some start => return start ++ suffix
    | none => throw .malformed

/-- Reads an anchor, if there is one. -/
def readAnchor : Read (Option Text) := do
  match ← peek with
  | some (.anchor a) =>
    skip
    return some a
  | _ => return none

/-- Reads a tag as it is written, if there is one. -/
def readTag : Read (Option (Option Text × Text)) := do
  match ← peek with
  | some (.tag handle suffix) =>
    skip
    return some (handle, suffix)
  | _ => return none

/-- Reads an anchor and a tag in either order. -/
def readProperties : Read (Option Text × Option Text) := do
  let before ← readAnchor
  let tag ← readTag
  let anchor ← if before.isNone && tag.isSome then readAnchor else pure before
  return (anchor, ← tag.mapM fun (handle, suffix) => tagName handle suffix)

/-- The tag of a scalar. A plain scalar without a tag, and any scalar with the tag `!`, is known by
its form. -/
def scalarTag (tag : Option Text) (text : Text) (plain : Bool) : Tag :=
  match tag with
  | none => if plain then Tag.ofPlain text else .text
  | some name => if name = ['!'] then Tag.ofPlain text else Tag.ofName name

/-- The tag of a collection. -/
def collectionTag (tag : Option Text) (usual : Tag) : Tag :=
  match tag with
  | none => usual
  | some name => if name = ['!'] then usual else Tag.ofName name

/-- The tokens before which a part of a block may be left out. -/
def endsBlockPart (t : Option Token) : Bool :=
  t = some .key || t = some .value || t = some .blockEnd

/-- Where a node stands, which says what it may be. -/
inductive Place
  | flow
  | block
  /-- A key or value of a block mapping, which may be a sequence that stands no deeper. -/
  | blockPart
  deriving DecidableEq

/-- What the next token starts: the kinds of nodes as they are written. -/
inductive Start
  | indentless
  | scalar (wording : Wording) (plain : Bool)
  | flowSequence
  | flowMapping
  | blockSequence
  | blockMapping
  | nothing

/-- What the next token starts at a place. -/
def startAt (place : Place) : Option Token → Start
  | some .blockEntry => if place = .blockPart then .indentless else .nothing
  | some (.scalar wording plain) => .scalar wording plain
  | some .flowSequenceStart => .flowSequence
  | some .flowMappingStart => .flowMapping
  | some .blockSequenceStart => if place = .flow then .nothing else .blockSequence
  | some .blockMappingStart => if place = .flow then .nothing else .blockMapping
  | _ => .nothing

/-- Refuses an anchor whose name is taken. -/
def requireFree (anchor : Option Text) : Read Unit := do
  let anchors := (← get).anchors
  if anchor.any fun a => (anchors.lookup a).isSome then throw .malformed

mutual

/-- Reads a node and gives its number. The fuel bounds the depth of the recursion. -/
def readNode (fuel : Nat) (place : Place) : Read Nat := do
  match fuel with
  | 0 => throw .malformed
  | fuel + 1 =>
    match ← peek with
    | some (.reference a) =>
      skip
      match (← get).anchors.lookup a with
      | some id => return id
      | none => throw .malformed
    | _ =>
      let (anchor, tag) ← readProperties
      let start := startAt place (← peek)
      if start matches .nothing && anchor.isNone && tag.isNone then throw .malformed
      requireFree anchor
      match start with
      | .indentless =>
        addCollection anchor (collectionTag tag .sequence) .sequence (readEntries fuel true [])
      | .scalar wording plain =>
        skip
        add anchor ⟨scalarTag tag wording.text plain, .scalar wording⟩
      | .flowSequence =>
        skip
        addCollection anchor (collectionTag tag .sequence) .sequence (readFlowItems fuel true [])
      | .flowMapping =>
        skip
        addCollection anchor (collectionTag tag .mapping) .mapping (readFlowPairs fuel true [])
      | .blockSequence =>
        skip
        addCollection anchor (collectionTag tag .sequence) .sequence (readEntries fuel false [])
      | .blockMapping =>
        skip
        addCollection anchor (collectionTag tag .mapping) .mapping (readBlockPairs fuel [])
      | .nothing => add anchor ⟨scalarTag tag [] true, .scalar ⟨[], []⟩⟩

/-- Reads the entries of a block sequence, or of one that stands no deeper than what is around
it and has no end of its own. -/
def readEntries (fuel : Nat) (indentless : Bool) (items : List Nat) : Read (List Nat) := do
  match fuel with
  | 0 => throw .malformed
  | fuel + 1 =>
    if ← accept .blockEntry then
      let next ← peek
      let absent := next = some .blockEntry || next = some .blockEnd
        || (indentless && (next = some .key || next = some .value))
      let item ← if absent then addEmpty else readNode fuel .block
      readEntries fuel indentless (item :: items)
    else
      if !indentless then expect .blockEnd
      return items.reverse

/-- Reads a key or a value of a block mapping, which may be left out. -/
def readBlockPart (fuel : Nat) : Read Nat := do
  match fuel with
  | 0 => throw .malformed
  | fuel + 1 => if endsBlockPart (← peek) then addEmpty else readNode fuel .blockPart

/-- Reads the pairs of a block mapping. -/
def readBlockPairs (fuel : Nat) (pairs : List (Nat × Nat)) : Read (List (Nat × Nat)) := do
  match fuel with
  | 0 => throw .malformed
  | fuel + 1 =>
    if ← accept .key then
      let key ← readBlockPart fuel
      let value ← if ← accept .value then readBlockPart fuel else addEmpty
      readBlockPairs fuel ((key, value) :: pairs)
    else
      expect .blockEnd
      return pairs.reverse

/-- Reads a part of a flow collection that may be left out before the given tokens. -/
def readFlowPart (fuel : Nat) (ends : List Token) : Read Nat := do
  match fuel with
  | 0 => throw .malformed
  | fuel + 1 =>
    match ← peek with
    | some t => if ends.contains t then addEmpty else readNode fuel .flow
    | none => readNode fuel .flow

/-- Reads the items of a flow sequence; a pair among them is a mapping of its own. -/
def readFlowItems (fuel : Nat) (first : Bool) (items : List Nat) : Read (List Nat) := do
  match fuel with
  | 0 => throw .malformed
  | fuel + 1 =>
    if ← accept .flowSequenceEnd then return items.reverse
    if !first then expect .flowEntry
    if ← accept .key then
      let key ← readFlowPart fuel [.value, .flowEntry, .flowSequenceEnd]
      let value ←
        if ← accept .value then readFlowPart fuel [.flowEntry, .flowSequenceEnd] else addEmpty
      readFlowItems fuel false ((← add none ⟨.mapping, .mapping [(key, value)]⟩) :: items)
    else if ← accept .flowSequenceEnd then return items.reverse
    else readFlowItems fuel false ((← readNode fuel .flow) :: items)

/-- Reads the pairs of a flow mapping; a key without a value stands for itself. -/
def readFlowPairs (fuel : Nat) (first : Bool) (pairs : List (Nat × Nat)) :
    Read (List (Nat × Nat)) := do
  match fuel with
  | 0 => throw .malformed
  | fuel + 1 =>
    if ← accept .flowMappingEnd then return pairs.reverse
    if !first then expect .flowEntry
    if ← accept .key then
      let key ← readFlowPart fuel [.value, .flowEntry, .flowMappingEnd]
      let value ←
        if ← accept .value then readFlowPart fuel [.flowEntry, .flowMappingEnd] else addEmpty
      readFlowPairs fuel false ((key, value) :: pairs)
    else if ← accept .flowMappingEnd then return pairs.reverse
    else readFlowPairs fuel false ((← readNode fuel .flow, ← addEmpty) :: pairs)

end

/-! ### Documents -/

/-- The handles that need no directive. -/
def commonHandles : List (Text × Text) := [("!", "!"), ("!!", Tag.core)]

/-- Reads directives: whether a version was given, and the handles. Neither may be given twice, and
the version has to be one. -/
def readDirectives (fuel : Nat) (versioned : Bool) (handles : List (Text × Text)) :
    Read (List (Text × Text)) := do
  match fuel with
  | 0 => throw .malformed
  | fuel + 1 =>
    match ← peek with
    | some (.directive (.version major)) =>
      skip
      if versioned || major ≠ 1 then throw .malformed
      readDirectives fuel true handles
    | some (.directive (.handle handle start)) =>
      skip
      if (handles.lookup handle).isSome then throw .malformed
      readDirectives fuel versioned ((handle, start) :: handles)
    | some (.directive .other) =>
      skip
      readDirectives fuel versioned handles
    | _ => return handles

/-- Whether a token starts or ends a document. -/
def isDocumentSign : Token → Bool
  | .directive _ | .documentStart | .documentEnd => true
  | _ => false

/-- Steps behind signs of the end of a document. -/
def skipEnds : Read Unit :=
  modify fun r => { r with tokens := r.tokens.dropWhile (· = .documentEnd) }

/-- Reads a document that is announced by its sign. -/
def readAnnounced (fuel : Nat) : Read Nat := do
  let handles ← readDirectives fuel false []
  modify fun r => { r with handles := handles ++ commonHandles }
  expect .documentStart
  match ← peek with
  | some t => if isDocumentSign t then addEmpty else readNode fuel .block
  | none => addEmpty

/-- Reads the only document of a text, and gives the number of its node; there may be none. A
further document is refused behind its directives. -/
def readDocument (fuel : Nat) : Read (Option Nat) := do
  match ← peek with
  | none => return none
  | some t =>
    let announced := isDocumentSign t && t ≠ .documentEnd
    let id ← if announced then readAnnounced fuel else readNode fuel .block
    skipEnds
    if (← peek).isSome then
      let _ ← readDirectives fuel false []
      throw .malformed
    return some id

/-- The document in a text: its graph, and the number of its node, if it has a document. -/
def ofText (t : Text) : Except Fault (Option Nat × Graph) := do
  let (tokens, fault) := Token.ofText t
  let start : Reader := { tokens, fault, handles := commonHandles }
  let (root, r) ← (readDocument (4 * tokens.length + 4)).run start
  return (root, r.nodes)

end Node

end SnippetBench.Yaml
