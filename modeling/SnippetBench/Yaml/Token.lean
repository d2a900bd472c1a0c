import SnippetBench.Number.Numeral
import SnippetBench.Text.Utf8
import SnippetBench.Yaml.Scalar

/-!
# YAML tokens

The tokens of a YAML text. Indentation is read into tokens that start and end blocks. A key needs no
sign of its own: where a `:` shows that what stands before it on the line was a key, the token of
the key, and the start of a block if the key opens one, are put before it. Such a key stands on one
line and is at most 1024 characters long; a line that could only be a key and turns out not to be
one makes the text malformed.

A fault ends the tokens. Before it stand those that are settled, up to the first that may still
become the start of a key: a reader of tokens finds what is wrong with them first.
-/

namespace SnippetBench.Yaml

/-- What a directive says. -/
inductive Directive
  | version (major : Nat)
  | handle (handle start : Text)
  | other
  deriving DecidableEq, Repr

/-- A token. -/
inductive Token
  | directive (what : Directive)
  | documentStart
  | documentEnd
  | blockSequenceStart
  | blockMappingStart
  | blockEnd
  | flowSequenceStart
  | flowSequenceEnd
  | flowMappingStart
  | flowMappingEnd
  | blockEntry
  | flowEntry
  | key
  | value
  | reference (name : Text)
  | anchor (name : Text)
  | tag (handle : Option Text) (suffix : Text)
  | scalar (wording : Wording) (plain : Bool)
  deriving DecidableEq, Repr

/-! ### Names, tags and directives -/

/-- The characters of the name of a tag, besides letters, digits, hyphens and underscores. -/
def isUriChar (c : Char) : Bool := isNameChar c || ";/?:@&=+$,.!~*'()[]%".toList.contains c

/-- Reads escaped bytes of a tag, which encode a text. -/
def uriBytes? (fuel : Nat) (bytes : List UInt8) (cur : Cursor) : Option (Text × Cursor) :=
  match fuel with
  | 0 => none
  | fuel + 1 =>
    if cur.peek = '%' then do
      let digits := cur.next.rest.take 2
      guard (digits.length = 2)
      let n ← Text.Quoted.hexValue? digits
      uriBytes? fuel (bytes ++ [UInt8.ofNat n]) (cur.skip 3)
    else (Text.Utf8.decode bytes).toOption.map (·, cur)

/-- Reads the name of a tag. -/
def uri? (fuel : Nat) (text : Text) (cur : Cursor) : Option (Text × Cursor) :=
  match fuel with
  | 0 => none
  | fuel + 1 =>
    let c := cur.peek
    if c = '%' then do
      let (piece, cur) ← uriBytes? (cur.rest.length + 1) [] cur
      uri? fuel (text ++ piece) cur
    else if isUriChar c then uri? fuel (text ++ [c]) cur.next
    else if text.isEmpty then none
    else some (text, cur)

/-- Reads the handle of a tag: an exclamation mark, or a name between two of them. -/
def handle? (cur : Cursor) : Option (Text × Cursor) := do
  guard (cur.peek = '!')
  if cur.peek 1 = ' ' then return (['!'], cur.next)
  let (name, cur) := cur.next.span isNameChar
  guard (cur.peek = '!')
  return ('!' :: name ++ ['!'], cur.next)

/-- Reads the name of a tag with all the characters that it can have. -/
def wholeUri? (cur : Cursor) : Option (Text × Cursor) := uri? (cur.rest.length + 1) [] cur

/-- Reads a tag. -/
def tag? (cur : Cursor) : Option (Token × Cursor) := do
  let (token, cur) ←
    if cur.peek 1 = '<' then do
      let (name, cur) ← wholeUri? (cur.skip 2)
      guard (cur.peek = '>')
      pure (Token.tag none name, cur.next)
    else if isGapOrEnd (cur.peek 1) then pure (Token.tag none ['!'], cur.next)
    else do
      let word := cur.next.rest.takeWhile fun c => !isSpaceOrEnd c
      let (handle, cur) ← if word.contains '!' then handle? cur else pure (['!'], cur.next)
      let (name, cur) ← wholeUri? cur
      pure (Token.tag (some handle) name, cur)
  guard (isSpaceOrEnd cur.peek)
  return (token, cur)

/-- Reads the name of an anchor or of a reference to one. -/
def anchorName? (cur : Cursor) : Option (Text × Cursor) := do
  let (name, cur) := cur.next.span isNameChar
  guard !name.isEmpty
  guard (isGapOrEnd cur.peek || "?:,]\x7d%@`".toList.contains cur.peek)
  return (name, cur)

/-- Reads a number of decimal digits. -/
def readNumber (cur : Cursor) : Except Fault (Nat × Cursor) :=
  let (digits, cur) := cur.span Char.isDigit
  if digits.isEmpty then .error .malformed
  else if Number.Numeral.maxDigits < digits.length then
    .error (.unreadable (.tooManyDigits digits.length))
  else .ok (Number.Numeral.ofDigits 10 (digits.filterMap Number.Numeral.asciiDigit?), cur)

/-- Goes on at a place where a condition holds, and is malformed elsewhere. -/
def require (holds : Bool) : Except Fault Unit := if holds then .ok () else .error .malformed

/-- Reads the version behind the name of its directive. -/
def readVersion (cur : Cursor) : Except Fault (Directive × Cursor) := do
  let (major, cur) ← readNumber cur.skipSpaces
  require (cur.peek = '.')
  let (_, cur) ← readNumber cur.next
  require (isSpaceOrEnd cur.peek)
  return (.version major, cur)

/-- Reads a handle and what it stands for behind the name of their directive. -/
def handleDirective? (cur : Cursor) : Option (Directive × Cursor) := do
  let (handle, cur) ← handle? cur.skipSpaces
  guard (cur.peek = ' ')
  let (start, cur) ← wholeUri? cur.skipSpaces
  guard (isSpaceOrEnd cur.peek)
  return (.handle handle start, cur)

/-- Reads a directive. -/
def readDirective (cur : Cursor) : Except Fault (Token × Cursor) := do
  let (name, cur) := cur.next.span isNameChar
  require (!name.isEmpty && isSpaceOrEnd cur.peek)
  let (what, cur) ←
    if name = "YAML" then readVersion cur
    else if name = "TAG" then wellFormed (handleDirective? cur)
    else pure (.other, (cur.span fun c => !isLineEnd c).2)
  return (.directive what, ← wellFormed cur.restOfLine?)

/-! ### The state of the reader -/

/-- A place where a key may have started: the number of tokens before it, whether what starts there
has to be a key, and where it is. -/
structure KeyStart where
  position : Nat
  required : Bool
  index : Nat
  line : Nat
  column : Nat

/-- The state of reading tokens. -/
structure Reader where
  /-- A number above that of the characters of the text, which bounds the rounds of every loop. -/
  fuel : Nat
  cursor : Cursor
  /-- The tokens so far, the latest first. -/
  tokens : List Token := []
  /-- The number of open flow collections. -/
  flow : Nat := 0
  /-- The column of the innermost open block, and those around it. -/
  indent : Int := -1
  indents : List Int := []
  keyAllowed : Bool := true
  /-- The places where a key may have started, by the number of flow collections open there. -/
  starts : List (Nat × KeyStart) := []

namespace Reader

/-- Adds a token. -/
def push (r : Reader) (t : Token) : Reader := { r with tokens := t :: r.tokens }

/-- Adds a token and takes over the place behind it. -/
def emit (r : Reader) (t : Token) (cur : Cursor) : Reader :=
  { r with tokens := t :: r.tokens, cursor := cur }

/-- Puts a token behind the first `position` tokens. -/
def insertAt (r : Reader) (position : Nat) (t : Token) : Reader :=
  let later := r.tokens.length - position
  { r with tokens := r.tokens.take later ++ t :: r.tokens.drop later }

/-- Forgets where a key may have started in the innermost collection. -/
def dropStart? (r : Reader) : Option Reader :=
  match r.starts.lookup r.flow with
  | some s =>
    if s.required then none else some { r with starts := r.starts.filter fun p => p.1 ≠ r.flow }
  | none => some r

/-- Notes that a key may start here. -/
def noteStart? (r : Reader) : Option Reader :=
  if r.keyAllowed then do
    let r ← r.dropStart?
    let cur := r.cursor
    let start : KeyStart :=
      ⟨r.tokens.length, r.flow = 0 && r.indent = (cur.column : Int), cur.index, cur.line,
        cur.column⟩
    return { r with starts := (r.flow, start) :: r.starts }
  else some r

/-- Whether a key cannot reach from its start to here. -/
def isStale (r : Reader) (s : KeyStart) : Bool :=
  s.line ≠ r.cursor.line || s.index + 1024 < r.cursor.index

/-- Forgets the places from which a key cannot reach here. -/
def dropStale? (r : Reader) : Option Reader :=
  if r.starts.any fun p => r.isStale p.2 && p.2.required then none
  else some { r with starts := r.starts.filter fun p => !r.isStale p.2 }

/-- The tokens before which no token can be put any more, in their order. -/
def settled (r : Reader) : List Token :=
  let unsettled := r.starts.filter fun p => !r.isStale p.2
  let count := unsettled.foldl (fun n p => min n p.2.position) r.tokens.length
  r.tokens.reverse.take count

/-- Ends the blocks that stand deeper than a column. -/
def unwind (r : Reader) (column : Int) : Reader :=
  if r.flow ≠ 0 then r
  else
    let ended := (r.indent :: r.indents).takeWhile fun i => column < i
    match (r.indent :: r.indents).drop ended.length with
    | indent :: indents =>
      { r with
        indent, indents
        tokens := List.replicate ended.length Token.blockEnd ++ r.tokens }
    | [] => r

/-- Opens a block at a column, if the innermost one stands less deep. -/
def deepen (r : Reader) (column : Int) : Option Reader :=
  if r.indent < column then some { r with indents := r.indent :: r.indents, indent := column }
  else none

/-- Skips spaces, comments and line breaks before the next token. -/
def skipToToken (fuel : Nat) (r : Reader) : Reader :=
  match fuel with
  | 0 => r
  | fuel + 1 =>
    let cur := r.cursor.skipSpaces.skipComment
    match cur.lineBreak? with
    | some (_, cur) =>
      skipToToken fuel { r with cursor := cur, keyAllowed := r.keyAllowed || r.flow = 0 }
    | none => { r with cursor := cur }

/-- Opens a flow collection. -/
def openFlow? (r : Reader) (t : Token) : Option Reader := do
  let r ← r.noteStart?
  return { (r.emit t r.cursor.next) with flow := r.flow + 1, keyAllowed := true }

/-- Closes a flow collection. -/
def closeFlow? (r : Reader) (t : Token) : Option Reader := do
  let r ← r.dropStart?
  return { (r.emit t r.cursor.next) with flow := r.flow - 1, keyAllowed := false }

/-- Reads the sign of an entry or of a key, which opens a block where one may start. -/
def sign? (r : Reader) (t opening : Token) (keyAllowed : Bool) : Option Reader := do
  guard (r.flow ≠ 0 || r.keyAllowed)
  let r := if r.flow = 0 then ((r.deepen r.cursor.column).map (·.push opening)).getD r else r
  let r ← r.dropStart?
  return { (r.emit t r.cursor.next) with keyAllowed }

/-- Reads the sign of a value. -/
def value? (r : Reader) : Option Reader :=
  match r.starts.lookup r.flow with
  | some s =>
    let r := { r with starts := r.starts.filter fun p => p.1 ≠ r.flow }
    let r := r.insertAt s.position .key
    let r :=
      if r.flow = 0 then
        ((r.deepen s.column).map (·.insertAt s.position .blockMappingStart)).getD r
      else r
    some { (r.emit .value r.cursor.next) with keyAllowed := false }
  | none => r.sign? .value .blockMappingStart (r.flow = 0)

/-- Reads a document indicator. -/
def indicator? (r : Reader) (t : Token) : Option Reader := do
  let r ← (r.unwind (-1)).dropStart?
  return { (r.emit t (r.cursor.skip 3)) with keyAllowed := false }

/-- Adds a token that may be a key, read by `read`. -/
def keyLike (r : Reader) (read : Cursor → Except Fault (Token × Cursor)) : Except Fault Reader := do
  let r ← wellFormed r.noteStart?
  let (t, cur) ← read r.cursor
  return { (r.emit t cur) with keyAllowed := false }

/-- Reads a plain scalar. -/
def plain? (r : Reader) : Option Reader := do
  let r ← r.noteStart?
  let cur := r.cursor
  let (text, broken, cur) :=
    plainScalar (r.flow ≠ 0) (r.indent + 1) r.fuel [] [] false cur
  return { (r.emit (.scalar ⟨text, []⟩ true) cur) with keyAllowed := broken }

/-- Reads a block scalar. -/
def block? (r : Reader) (folded : Bool) : Option Reader := do
  let r ← r.dropStart?
  let (text, cur) ← blockScalar? folded r.indent r.fuel r.cursor.next
  return { (r.emit (.scalar ⟨text, []⟩ false) cur) with keyAllowed := true }

/-- Whether a plain scalar may start here. -/
def plainStarts (r : Reader) : Bool :=
  let c := r.cursor.peek
  let following := r.cursor.peek 1
  !(isGapOrEnd c || "-?:,[]\x7b\x7d#&*!|>'\"%@`".toList.contains c)
    || (!isGapOrEnd following && (c = '-' || (r.flow = 0 && (c = '?' || c = ':'))))

/-- Adds the sign between the items of a flow collection. -/
def flowEntry? (r : Reader) : Option Reader := do
  let r ← r.dropStart?
  return { (r.emit .flowEntry r.cursor.next) with keyAllowed := true }

/-- Adds a directive. -/
def directive (r : Reader) : Except Fault Reader := do
  let r ← wellFormed (r.unwind (-1)).dropStart?
  let (t, cur) ← readDirective r.cursor
  return { (r.emit t cur) with keyAllowed := false }

/-- Adds a quoted scalar. -/
def quoted (r : Reader) : Except Fault Reader :=
  r.keyLike fun cur => do
    let (wording, cur) ← readQuoted cur.peek r.fuel ⟨[], []⟩ cur.next
    return (.scalar wording false, cur)

/-- Adds a token with a name. -/
def named (r : Reader) (make : Text → Token) : Except Fault Reader :=
  r.keyLike fun cur => do
    let (name, cur) ← wellFormed (anchorName? cur)
    return (make name, cur)

/-- Adds the token that starts here. -/
def token (r : Reader) : Except Fault Reader :=
  let cur := r.cursor
  let c := cur.peek
  let gapFollows := isGapOrEnd (cur.peek 1)
  let inFlow := r.flow ≠ 0
  if cur.column = 0 && c = '%' then r.directive
  else if cur.column = 0 && cur.atIndicator '-' then wellFormed (r.indicator? .documentStart)
  else if cur.column = 0 && cur.atIndicator '.' then wellFormed (r.indicator? .documentEnd)
  else if c = '[' then wellFormed (r.openFlow? .flowSequenceStart)
  else if c = '{' then wellFormed (r.openFlow? .flowMappingStart)
  else if c = ']' then wellFormed (r.closeFlow? .flowSequenceEnd)
  else if c = '}' then wellFormed (r.closeFlow? .flowMappingEnd)
  else if c = ',' then wellFormed r.flowEntry?
  else if c = '-' && gapFollows then wellFormed (r.sign? .blockEntry .blockSequenceStart true)
  else if c = '?' && (inFlow || gapFollows) then
    wellFormed (r.sign? .key .blockMappingStart (r.flow = 0))
  else if c = ':' && (inFlow || gapFollows) then wellFormed r.value?
  else if c = '*' then r.named .reference
  else if c = '&' then r.named .anchor
  else if c = '!' then r.keyLike fun cur => wellFormed (tag? cur)
  else if c = '|' && !inFlow then wellFormed (r.block? false)
  else if c = '>' && !inFlow then wellFormed (r.block? true)
  else if c = '\'' || c = '"' then r.quoted
  else if r.plainStarts then wellFormed r.plain?
  else .error .malformed

/-- Goes to the next token and adds it. Says whether the text has ended instead. -/
def advance (r : Reader) : Except Fault (Reader × Bool) := do
  let r ← wellFormed (r.skipToToken r.fuel).dropStale?
  let r := r.unwind r.cursor.column
  if r.cursor.rest.isEmpty then return (← wellFormed (r.unwind (-1)).dropStart?, true)
  else return (← r.token, false)

/-- The tokens up to the end of the text or a fault. Each takes at least one character, so that
their number bounds the fuel. -/
def run (fuel : Nat) (r : Reader) : List Token × Option Fault :=
  match fuel with
  | 0 => ([], some .malformed)
  | fuel + 1 =>
    match r.advance with
    | .error f => (r.settled, some f)
    | .ok (r, true) => (r.tokens.reverse, none)
    | .ok (r, false) => run fuel r

end Reader

/-- The tokens of a text, and the fault that ends them, if there is one. A byte order mark at the
start does not count. -/
def Token.ofText (t : Text) : List Token × Option Fault :=
  if isYamlText t then
    let cur : Cursor := ⟨t, 0, 0, 0⟩
    let start := if cur.peek = '\uFEFF' then cur.next else cur
    let fuel := t.length + 1
    Reader.run fuel { fuel, cursor := start }
  else ([], some .malformed)

end SnippetBench.Yaml
