import SnippetBench.Config.Fault
import SnippetBench.Number.Numeral

/-!
# Numbers and booleans spelled by texts

How a text in a configuration spells a number or a boolean. An integer may have spaces at its ends,
a sign, zeros and underscores behind the sign, underscores between its digits, and a point with
zeros only behind it. A floating point number has spaces at its ends or underscores inside, but not
both. A boolean is one of twelve words, without spaces.
-/

namespace SnippetBench.Config

open Number (Binary64)

namespace Spelling

/-! ### Integers -/

/-- The greatest number of characters that an integer may have, its sign included. -/
def maxLength : Nat := 4300

/-- Reads an integer of digits alone, with a minus sign if any and without zeros at the start. What
follows the digits of an integer that is too long does not matter. -/
def readPlain (t : Text) : Except Problem Int :=
  let (negative, digits) :=
    match t with
    | '-' :: rest => (true, rest)
    | t => (false, t)
  let run := digits.takeWhile Char.isDigit
  match run with
  | [] => .error .integerSyntax
  | '0' :: _ => if digits.length = 1 then .ok 0 else .error .integerSyntax
  | _ =>
    if maxLength < run.length + (if negative then 1 else 0) then .error .integerTooLong
    else if run.length < digits.length then .error .integerSyntax
    else
      .ok (Number.Numeral.signed negative
        (Number.Numeral.ofDigits 10 (run.filterMap Number.Numeral.asciiDigit?)))

/-- What is left without the zeros and underscores behind a zero at the start: the rest from a digit
or a minus sign on, or from the character before a point on, or the last character. -/
def afterZeros? (previous : Char) : Text → Option Text
  | [] => some [previous]
  | c :: rest =>
    if c = '0' || c = '_' then afterZeros? c rest
    else if c.isDigit || c = '-' then some (c :: rest)
    else if c = '.' then some (previous :: c :: rest)
    else none

/-- A numeral without zeros at its start or behind a minus sign there. It has to start with a digit
or a minus sign. -/
def dropZeros? : Text → Option Text
  | '0' :: rest => afterZeros? '0' rest
  | '-' :: '0' :: rest => (afterZeros? '0' rest).map ('-' :: ·)
  | c :: rest => if c.isDigit || c = '-' then some (c :: rest) else none
  | [] => none

/-- A numeral without a plus sign at its start, behind which no minus sign may stand. -/
def dropPlus? : Text → Option Text
  | '+' :: '-' :: _ => none
  | '+' :: rest => some rest
  | t => some t

/-- A numeral without its point, if only zeros are behind it, and at least one. -/
def dropZeroFraction (t : Text) : Text :=
  let whole := t.takeWhile (· ≠ '.')
  match t.drop whole.length with
  | '.' :: zeros => if !zeros.isEmpty && zeros.all (· = '0') then whole else t
  | _ => t

/-- A text without underscores, unless one of them is at an end or beside another. -/
def dropBars? (t : Text) : Option Text :=
  if t.head? = some '_' ∨ t.getLast? = some '_' ∨ Text.occursIn "__" t then none
  else some (t.filter (· ≠ '_'))

/-- A numeral without all that may decorate an integer. -/
def undecorated? (t : Text) : Option Text := do
  let t ← dropPlus? (Text.trim Number.Numeral.isSpace t)
  let t := dropZeroFraction (← dropZeros? t)
  return (dropBars? t).getD t

/-- Reads an integer of any size up to a number of digits. -/
def readInteger (t : Text) : Except Problem Int :=
  match readPlain t with
  | .error .integerSyntax =>
    match undecorated? t with
    | some t => readPlain t
    | none => .error .integerSyntax
  | result => result

/-! ### Floating point numbers -/

/-- Reads a floating point number without spaces and underscores. -/
def readPlainFloat? (t : Text) : Option Binary64 :=
  if t.contains '_' then none else Number.Numeral.readFloat? Number.Numeral.asciiDigit? t

/-- Reads a floating point number, with spaces at its ends or with underscores inside. -/
def readFloat (t : Text) : Except Problem Binary64 :=
  let plain := readPlainFloat? (Text.trim Number.Numeral.isSpace t)
  match plain.or ((dropBars? t).bind readPlainFloat?) with
  | some x => .ok x
  | none => .error .numberSyntax

/-! ### Booleans -/

/-- The spellings of true, in lower case. -/
def trueWords : List Text := ["1", "true", "t", "yes", "y", "on"]

/-- The spellings of false, in lower case. -/
def falseWords : List Text := ["0", "false", "f", "no", "n", "off"]

/-- Reads a boolean, in any case. -/
def readBoolean (t : Text) : Except Problem Bool :=
  let word := t.map Char.toLower
  if trueWords.contains word then .ok true
  else if falseWords.contains word then .ok false
  else .error .booleanSyntax

end Spelling

end SnippetBench.Config
