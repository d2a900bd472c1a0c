import SnippetBench.Text.Basic

/-!
# Lines

Three rules for where a line ends are in use. A document and a script end their lines at `\n` only.
A file read as text, and the output of a script, may end lines with `\n`, `\r` or `\r\n`, which are
then all read as `\n`. Indentation sees, beyond these, the vertical tab, the form feed, the
separators U+001C to U+001E, the next-line character and the line and paragraph separators.
-/

namespace SnippetBench.Text

/-- The text with every line end `\r\n` and `\r` written as `\n`. -/
def normalizeNewlines : Text → Text
  | [] => []
  | '\r' :: '\n' :: rest => '\n' :: normalizeNewlines rest
  | '\r' :: rest => '\n' :: normalizeNewlines rest
  | c :: rest => c :: normalizeNewlines rest

/-- The lines of a text, each with its final `\n`; the last one may lack it. -/
def newlineLines : Text → List Text
  | [] => []
  | c :: rest =>
    if c = '\n' then [c] :: newlineLines rest
    else match newlineLines rest with
      | [] => [[c]]
      | line :: lines => (c :: line) :: lines

/-- The characters of which the line ends `\n`, `\r` and `\r\n` consist. -/
def isFeedOrReturn (c : Char) : Bool := c = '\n' || c = '\r'

/-- The characters that end a line for indentation. -/
def isLineBreak (c : Char) : Bool :=
  inRanges [(0xA, 0xD), (0x1C, 0x1E), (0x85, 0x85), (0x2028, 0x2029)] c

/-- The lines of a text, each with its line end, where every line break character ends a line
and `\r\n` is one line end. -/
def breakLines : Text → List Text
  | [] => []
  | '\r' :: '\n' :: rest => ['\r', '\n'] :: breakLines rest
  | c :: rest =>
    if isLineBreak c then [c] :: breakLines rest
    else match breakLines rest with
      | [] => [[c]]
      | line :: lines => (c :: line) :: lines

/-- The text given a final `\n` unless it is empty or has one. -/
def endLine (t : Text) : Text :=
  if t.isEmpty || t.getLast? == some '\n' then t else t ++ ['\n']

end SnippetBench.Text
