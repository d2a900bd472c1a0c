import SnippetBench.Yaml.Cursor
import SnippetBench.Yaml.Fault

/-!
# Scalars in YAML

The texts of scalars in their styles: plain, single and double quoted, literal and folded. A line
break inside a plain or quoted scalar is folded to a space, and further breaks are kept. The block
styles keep the lines that stand deeper than the surrounding block; an indicator says what becomes
of the breaks at the end.

Every reader gives the text and the place behind it, or nothing if the scalar is malformed. An
escape in a double quoted scalar gives the number of a character, which may be half of a code point
or beyond all of them. The loops take as fuel a number above that of the characters that follow, of
which each round consumes at least one; what is left of the fuel is enough for a loop inside a
round.
-/

namespace SnippetBench.Yaml

/-! ### Plain scalars -/

/-- Whether a plain scalar ends before the character `c`, which `following` follows. In a flow
collection, more characters end it. -/
def endsPlain (inFlow : Bool) (c following : Char) : Bool :=
  isGapOrEnd c
    || (c = ':' && (isGapOrEnd following || (inFlow && ",[]\x7b\x7d".toList.contains following)))
    || (inFlow && ",?[]\x7b\x7d".toList.contains c)

/-- The part of a plain scalar up to the next gap. -/
def plainPiece (inFlow : Bool) : Text → Text
  | [] => []
  | c :: rest =>
    if endsPlain inFlow c (rest.head?.getD '\x00') then [] else c :: plainPiece inFlow rest

/-- Folds line breaks: the first is a space if it is an ordinary one and no others follow. -/
def foldBreaks (first : Char) (others : Text) : Text :=
  if first ≠ '\n' then first :: others else if others.isEmpty then [' '] else others

/-- Reads the further line breaks and spaces after a line break in a plain scalar, or nothing if
they end at a document indicator. -/
def plainBreaks (fuel : Nat) (breaks : Text) (cur : Cursor) : Option Text × Cursor :=
  match fuel with
  | 0 => (some breaks, cur)
  | fuel + 1 =>
    if cur.peek = ' ' then plainBreaks fuel breaks cur.next
    else match cur.lineBreak? with
      | none => (some breaks, cur)
      | some (b, cur) =>
        if cur.atSeparator then (none, cur) else plainBreaks fuel (breaks ++ [b]) cur

/-- Reads the gap behind a part of a plain scalar: what it contributes if the scalar goes on, and
whether it has a line break. -/
def plainGap (fuel : Nat) (cur : Cursor) : Text × Bool × Cursor :=
  let (spaces, cur) := cur.span (· = ' ')
  match cur.lineBreak? with
  | none => (spaces, false, cur)
  | some (first, cur) =>
    if cur.atSeparator then ([], true, cur)
    else match plainBreaks fuel [] cur with
      | (none, cur) => ([], true, cur)
      | (some others, cur) => (foldBreaks first others, true, cur)

/-- Reads a plain scalar whose lines stand at the column `indent` or further right, unless it is in
a flow collection, given what was read before in reverse order. The flag says whether it ends after
a line break. -/
def plainScalar (inFlow : Bool) (indent : Int) (fuel : Nat) (before gap : Text) (broken : Bool)
    (cur : Cursor) : Text × Bool × Cursor :=
  match fuel with
  | 0 => (before.reverse, broken, cur)
  | fuel + 1 =>
    let piece := if cur.peek = '#' then [] else plainPiece inFlow cur.rest
    if piece.isEmpty then (before.reverse, broken, cur)
    else
      let before := piece.reverseAux (gap.reverseAux before)
      let (gap, broken, cur) := plainGap fuel (cur.skip piece.length)
      if gap.isEmpty || cur.peek = '#' || (!inFlow && (cur.column : Int) < indent) then
        (before.reverse, broken, cur)
      else plainScalar inFlow indent fuel before gap broken cur

/-! ### Quoted scalars -/

/-- The characters that stand behind a backslash for one character each. -/
def escapes : List (Char × Char) :=
  [('0', '\x00'), ('a', '\x07'), ('b', '\x08'), ('t', '\t'), ('\t', '\t'), ('n', '\n'),
    ('v', '\x0b'), ('f', '\x0c'), ('r', '\r'), ('e', '\x1b'), (' ', ' '), ('"', '"'), ('\\', '\\'),
    ('/', '/'), ('N', '\x85'), ('_', '\xa0'), ('L', '\u2028'), ('P', '\u2029')]

/-- The characters that announce the code point of a character, and the number of digits it has. -/
def numberedEscapes : List (Char × Nat) := [('x', 2), ('u', 4), ('U', 8)]

/-- Reads gaps and line breaks after a line break in a quoted scalar; a document indicator may not
start a line. -/
def quotedBreaks? (fuel : Nat) (breaks : Text) (cur : Cursor) : Option (Text × Cursor) :=
  match fuel with
  | 0 => none
  | fuel + 1 =>
    if cur.atSeparator then none
    else
      let cur := (cur.span fun c => c = ' ' || c = '\t').2
      match cur.lineBreak? with
      | none => some (breaks, cur)
      | some (b, cur) => quotedBreaks? fuel (breaks ++ [b]) cur

/-- What is written in a scalar: its text, and the numbers for which U+FFFD stands in it, in order,
where any further U+FFFD stands for itself. -/
structure Wording where
  text : Text
  stands : List Nat := []
  deriving DecidableEq, Repr

/-- Whether a wording has halves of code points. -/
def Wording.isBroken (w : Wording) : Bool := w.stands.any isHalf

/-- The wording of one character. -/
def Wording.ofChar (c : Char) : Wording := ⟨[c], if c = '\ufffd' then [c.toNat] else []⟩

/-- The character with a number. -/
def numberedChar (n : Nat) : Except Fault Wording :=
  if isHalf n then .ok ⟨['\ufffd'], [n]⟩
  else if n < 0x110000 then .ok (.ofChar (Char.ofNat n))
  else .error (.unreadable (.character n))

/-- Reads what follows a backslash in a double quoted scalar. -/
def readEscape (fuel : Nat) (cur : Cursor) : Except Fault (Wording × Cursor) :=
  match escapes.lookup cur.peek, numberedEscapes.lookup cur.peek with
  | some c, _ => .ok (⟨[c], []⟩, cur.next)
  | none, some count => do
    let digits := cur.next.rest.take count
    let n ← wellFormed (if digits.length = count then Text.Quoted.hexValue? digits else none)
    return (← numberedChar n, cur.next.skip count)
  | none, none => wellFormed do
    let (_, cur) ← cur.lineBreak?
    let (breaks, cur) ← quotedBreaks? fuel [] cur
    return (⟨breaks, []⟩, cur)

/-- Reads gaps inside a quoted scalar. -/
def quotedGap? (fuel : Nat) (cur : Cursor) : Option (Text × Cursor) :=
  let (spaces, cur) := cur.span fun c => c = ' ' || c = '\t'
  if cur.rest.isEmpty then none
  else match cur.lineBreak? with
    | none => some (spaces, cur)
    | some (first, cur) => do
      let (others, cur) ← quotedBreaks? fuel [] cur
      return (foldBreaks first others, cur)

/-- Reads a quoted scalar from a place behind its first quote, given what was read so far in reverse
order. -/
def readQuoted (quote : Char) (fuel : Nat) (before : Wording) (cur : Cursor) :
    Except Fault (Wording × Cursor) :=
  match fuel with
  | 0 => .error .malformed
  | fuel + 1 =>
    let c := cur.peek
    let goOn (piece : Wording) (cur : Cursor) : Except Fault (Wording × Cursor) :=
      readQuoted quote fuel
        ⟨piece.text.reverseAux before.text, piece.stands.reverseAux before.stands⟩ cur
    if c = quote then
      if quote = '\'' && cur.peek 1 = '\'' then goOn ⟨['\''], []⟩ (cur.skip 2)
      else .ok (⟨before.text.reverse, before.stands.reverse⟩, cur.next)
    else if quote = '"' && c = '\\' then do
      let (piece, cur) ← readEscape fuel cur.next
      goOn piece cur
    else if isGapOrEnd c then do
      let (piece, cur) ← wellFormed (quotedGap? fuel cur)
      goOn ⟨piece, []⟩ cur
    else goOn (.ofChar c) cur.next

/-! ### Block scalars -/

/-- What becomes of the line breaks at the end of a block scalar. -/
inductive Chomping
  | strip
  | clip
  | keep
  deriving DecidableEq, Repr

/-- The chomping that a character indicates. -/
def chomping? (c : Char) : Option Chomping :=
  if c = '+' then some .keep else if c = '-' then some .strip else none

/-- The indentation that a character indicates. -/
def increment? (c : Char) : Option Nat := if c.isDigit then some (c.toNat - '0'.toNat) else none

/-- Reads the indicators of a block scalar, in either order; a zero is no indentation. -/
def blockHeader? (cur : Cursor) : Option (Chomping × Option Nat × Cursor) := do
  let (chomping, increment, cur) :=
    match chomping? cur.peek, increment? cur.peek with
    | some chomping, _ =>
      match increment? (cur.peek 1) with
      | some n => (chomping, some n, cur.skip 2)
      | none => (chomping, none, cur.next)
    | none, some n =>
      match chomping? (cur.peek 1) with
      | some chomping => (chomping, some n, cur.skip 2)
      | none => (Chomping.clip, some n, cur.next)
    | none, none => (Chomping.clip, none, cur)
  guard (increment ≠ some 0)
  guard (isSpaceOrEnd cur.peek)
  return (chomping, increment, cur)

/-- Reads the spaces and line breaks before the first line of a block scalar: the breaks and the
greatest column reached. -/
def blockIndentation (fuel : Nat) (breaks : Text) (column : Nat) (cur : Cursor) :
    Text × Nat × Cursor :=
  match fuel with
  | 0 => (breaks, column, cur)
  | fuel + 1 =>
    if cur.peek = ' ' then blockIndentation fuel breaks (max column cur.next.column) cur.next
    else match cur.lineBreak? with
      | none => (breaks, column, cur)
      | some (b, cur) => blockIndentation fuel (breaks ++ [b]) column cur

/-- The place behind spaces up to a column. -/
def skipToColumn (column : Nat) (cur : Cursor) : Cursor :=
  let spaces := cur.rest.takeWhile (· = ' ')
  cur.skip (min spaces.length (column - cur.column))

/-- Reads empty lines of a block scalar. -/
def blockBreaks (column fuel : Nat) (breaks : Text) (cur : Cursor) : Text × Cursor :=
  match fuel with
  | 0 => (breaks, cur)
  | fuel + 1 =>
    let cur := skipToColumn column cur
    match cur.lineBreak? with
    | none => (breaks, cur)
    | some (b, cur) => blockBreaks column fuel (breaks ++ [b]) cur

/-- Reads the lines of a block scalar that stand at a column, given the breaks before the next of
them and the text so far in reverse order: the text, the break behind its last line, and the breaks
that follow. -/
def blockLines (folded : Bool) (column fuel : Nat) (text breaks : Text) (last : Text)
    (cur : Cursor) : Text × Text × Text × Cursor :=
  match fuel with
  | 0 => (text.reverse, last, breaks, cur)
  | fuel + 1 =>
    if cur.column = column && !cur.rest.isEmpty then
      let tight := !(cur.peek = ' ' || cur.peek = '\t')
      let (line, cur) := cur.span fun c => !isLineEnd c
      let text := line.reverseAux (breaks.reverseAux text)
      let (last, cur) :=
        match cur.lineBreak? with
        | some (b, cur) => ([b], cur)
        | none => ([], cur)
      let (breaks, cur) := blockBreaks column fuel [] cur
      if cur.column = column && !cur.rest.isEmpty then
        let joint : Text :=
          if folded && last = ['\n'] && tight && !(cur.peek = ' ' || cur.peek = '\t') then
            (if breaks.isEmpty then [' '] else [])
          else last
        blockLines folded column fuel (joint.reverseAux text) breaks last cur
      else (text.reverse, last, breaks, cur)
    else (text.reverse, last, breaks, cur)

/-- Reads a block scalar from behind its indicator, inside a block at the column `indent`. -/
def blockScalar? (folded : Bool) (indent : Int) (fuel : Nat) (cur : Cursor) :
    Option (Text × Cursor) := do
  let (chomping, increment, cur) ← blockHeader? cur
  let cur ← cur.restOfLine?
  let least := (max (indent + 1) 1).toNat
  let (breaks, column, cur) :=
    match increment with
    | none =>
      let (breaks, column, cur) := blockIndentation fuel [] 0 cur
      (breaks, max least column, cur)
    | some n =>
      let column := least + n - 1
      let (breaks, cur) := blockBreaks column fuel [] cur
      (breaks, column, cur)
  let (text, last, breaks, cur) := blockLines folded column fuel [] breaks [] cur
  return match chomping with
    | .strip => (text, cur)
    | .clip => (text ++ last, cur)
    | .keep => (text ++ last ++ breaks, cur)

end SnippetBench.Yaml
