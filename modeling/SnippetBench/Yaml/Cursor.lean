import SnippetBench.Text.Basic

/-!
# Places in a YAML text

A cursor is a place in a text: what follows it, how many characters stand before it, and its line
and column. The end of the text reads as the NUL character, which no YAML text contains. Five
characters break a line; `\r\n` is one break.
-/

namespace SnippetBench.Yaml

/-- The characters that break a line. -/
def isBreak (c : Char) : Bool :=
  c = '\n' || c = '\r' || c = '\x85' || c = '\u2028' || c = '\u2029'

/-- Line breaks and the end of the text. -/
def isLineEnd (c : Char) : Bool := c = '\x00' || isBreak c

/-- The space, line breaks and the end of the text. -/
def isSpaceOrEnd (c : Char) : Bool := c = ' ' || isLineEnd c

/-- The space, the tab, line breaks and the end of the text. -/
def isGapOrEnd (c : Char) : Bool := c = '\t' || isSpaceOrEnd c

/-- The ASCII letters and digits, the hyphen and the underscore. -/
def isNameChar (c : Char) : Bool := c.isAlphanum || c = '-' || c = '_'

/-- Whether all characters of a text may stand in YAML. -/
def isYamlText (t : Text) : Bool :=
  t.all (Text.inRanges [(0x9, 0xA), (0xD, 0xD), (0x20, 0x7E), (0x85, 0x85), (0xA0, 0xD7FF),
    (0xE000, 0xFFFD), (0x10000, 0x10FFFF)])

/-- A place in a text. -/
structure Cursor where
  rest : Text
  index : Nat := 0
  line : Nat := 0
  column : Nat := 0

namespace Cursor

/-- The character `n` places further on. -/
def peek (cur : Cursor) (n : Nat := 0) : Char := cur.rest[n]?.getD '\x00'

/-- The place behind one character. A byte order mark has no width. -/
def next (cur : Cursor) : Cursor :=
  match cur.rest with
  | [] => cur
  | c :: rest =>
    let index := cur.index + 1
    if isBreak c && !(c = '\r' && rest.head? == some '\n') then ⟨rest, index, cur.line + 1, 0⟩
    else ⟨rest, index, cur.line, if c = '\uFEFF' then cur.column else cur.column + 1⟩

/-- The place behind `n` characters. -/
def skip (cur : Cursor) : Nat → Cursor
  | 0 => cur
  | n + 1 => cur.next.skip n

/-- The longest run of characters of the class at a place, and the place behind it. -/
def span (p : Char → Bool) (cur : Cursor) : Text × Cursor :=
  let run := cur.rest.takeWhile p
  (run, cur.skip run.length)

/-- The place behind spaces. -/
def skipSpaces (cur : Cursor) : Cursor := (cur.span (· = ' ')).2

/-- The place behind a comment, if one starts here. -/
def skipComment (cur : Cursor) : Cursor :=
  if cur.peek = '#' then (cur.span fun c => !isLineEnd c).2 else cur

/-- Reads a line break: what it stands for, and the place behind it. -/
def lineBreak? (cur : Cursor) : Option (Char × Cursor) :=
  match cur.rest with
  | '\r' :: '\n' :: _ => some ('\n', cur.skip 2)
  | c :: _ =>
    if c = '\n' || c = '\r' || c = '\x85' then some ('\n', cur.next)
    else if isBreak c then some (c, cur.next)
    else none
  | [] => none

/-- Whether three equal characters and then a gap start here, as in a document indicator. -/
def atIndicator (cur : Cursor) (c : Char) : Bool :=
  cur.peek = c && cur.peek 1 = c && cur.peek 2 = c && isGapOrEnd (cur.peek 3)

/-- Whether a document indicator starts here. -/
def atSeparator (cur : Cursor) : Bool := cur.atIndicator '-' || cur.atIndicator '.'

/-- Reads spaces, a comment, if any, and the line break behind them; nothing else may stand on the
rest of the line. -/
def restOfLine? (cur : Cursor) : Option Cursor :=
  let cur := cur.skipSpaces.skipComment
  if isLineEnd cur.peek then some ((cur.lineBreak?.map (·.2)).getD cur) else none

end Cursor

end SnippetBench.Yaml
