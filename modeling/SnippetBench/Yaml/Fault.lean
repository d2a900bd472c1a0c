import SnippetBench.Text.Quoted

/-!
# Faults of YAML texts

A YAML text has no value if its structure is malformed, or if a part of it cannot be read as what it
has to be: a number, a truth value, a timestamp or the number of a character. The two are told
apart, because a malformed text is described as a whole and an unreadable part by its own message.
-/

namespace SnippetBench.Yaml

/-- Whether a number is that of half a code point. -/
def isHalf (n : Nat) : Bool := 0xD800 ≤ n && n ≤ 0xDFFF

/-- Why a part of a text cannot be read as what it has to be. A literal is the quoted form of what
was to be read. -/
inductive Unreadable
  | integer (base : Nat) (literal : Text)
  | float (literal : Text)
  | boolean (literal : Text)
  /-- Nothing is left of a number. -/
  | emptyNumber
  /-- An integer has more digits than are read. -/
  | tooManyDigits (count : Nat)
  /-- A power of sixty is beyond the floating point numbers. -/
  | tooLarge
  /-- Not the form of a timestamp. -/
  | timestamp
  /-- A timestamp may not be a default value inside a mapping. -/
  | timestampInside
  /-- A part of a timestamp is out of its range. -/
  | range (message : Text)
  /-- No character has the number. -/
  | character (number : Nat)
  /-- A default value is inside itself. -/
  | endless
  /-- Anything else that keeps a reader from the value, by its kind and description. -/
  | other (kind message : Text)
  deriving DecidableEq, Repr

namespace Unreadable

/-- The most characters of the literal of an integer that a message shows. -/
def shownLength : Nat := 200

/-- The description of an unreadable part. -/
def message : Unreadable → Text
  | integer base literal =>
    "invalid literal for int() with base " ++ Text.ofNat base ++ ": " ++ literal.take shownLength
  | float literal => "could not convert string to float: " ++ literal
  | boolean literal => literal
  | emptyNumber => "string index out of range"
  | tooManyDigits count =>
    "Exceeds the limit (4300 digits) for integer string conversion: value has " ++ Text.ofNat count
      ++ " digits; use sys.set_int_max_str_digits() to increase the limit"
  | tooLarge => "int too large to convert to float"
  | timestamp => "'NoneType' object has no attribute 'groupdict'"
  | timestampInside => "expected string or bytes-like object, got 'list'"
  | range message => message
  | character number =>
    if number < 0x80000000 then "chr() arg not in range(0x110000)"
    else "Python int too large to convert to C int"
  | endless => "maximum recursion depth exceeded"
  | other _ text => text

/-- A literal in which those of the given numbers that are halves of code points are written out.
Each number is that of a U+FFFD in the literal, in order. -/
def showHalves : List Nat → Text → Text
  | n :: stands, c :: rest =>
    if c = '\ufffd' then
      (if isHalf n then Text.Quoted.numbered n else [c]) ++ showHalves stands rest
    else c :: showHalves (n :: stands) rest
  | _, literal => literal

/-- The description of a part of a text in which U+FFFD stands for the given numbers. -/
def withHalves (stands : List Nat) : Unreadable → Unreadable
  | integer base literal => integer base (showHalves stands literal)
  | float literal => float (showHalves stands literal)
  | boolean literal => boolean (showHalves stands literal)
  | what => what

end Unreadable

/-- Why a text has no value. -/
inductive Fault
  | malformed
  | unreadable (what : Unreadable)
  deriving DecidableEq, Repr

/-- What was read, where nothing means that the text is malformed. -/
def wellFormed {α : Type} : Option α → Except Fault α
  | some a => .ok a
  | none => .error .malformed

end SnippetBench.Yaml
