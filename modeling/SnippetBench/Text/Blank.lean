import SnippetBench.Text.Basic

/-!
# Blanks

The blank characters are those that are trimmed from the ends of a text: the spaces and line ends
of all scripts, and the four separators U+001C to U+001F. A zero width space, a word joiner and a
byte order mark are not blank.
-/

namespace SnippetBench.Text

/-- The ranges of blank characters, both ends included. -/
def blankRanges : List (Nat × Nat) :=
  [(0x9, 0xD), (0x1C, 0x20), (0x85, 0x85), (0xA0, 0xA0), (0x1680, 0x1680), (0x2000, 0x200A),
    (0x2028, 0x2029), (0x202F, 0x202F), (0x205F, 0x205F), (0x3000, 0x3000)]

/-- Whether a character is trimmed from the ends of a text. -/
def isBlank (c : Char) : Bool := inRanges blankRanges c

/-- The text without the blanks at both ends. -/
def strip (t : Text) : Text := trim isBlank t

/-- Whether a text has no character that is not blank. -/
def isAllBlank (t : Text) : Bool := t.all isBlank

end SnippetBench.Text
