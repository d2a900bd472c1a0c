import SnippetBench.Text.Basic

/-!
# Tags

A tag says what a YAML node stands for. It is written out at the node, or it follows from the form
of a plain scalar: one of a fixed list of spellings of null, booleans, integers, floating point
numbers, dates and the merge key, and otherwise a text.
-/

namespace SnippetBench.Yaml

/-- What a node stands for. -/
inductive Tag
  | null
  | bool
  | int
  | float
  | binary
  | timestamp
  | ordered
  | pairs
  | set
  | text
  | sequence
  | mapping
  /-- The key that merges another mapping. -/
  | merge
  /-- The key that stands for a default value. -/
  | default
  /-- A tag that stands for nothing known. -/
  | unknown
  deriving DecidableEq, Repr

namespace Tag

/-- The common part of the names of the known tags. -/
def core : Text := "tag:yaml.org,2002:"

/-- The names of the known tags, without their common part. -/
def names : List (Text × Tag) :=
  [("null", null), ("bool", bool), ("int", int), ("float", float), ("binary", binary),
    ("timestamp", timestamp), ("omap", ordered), ("pairs", pairs), ("set", set), ("str", text),
    ("seq", sequence), ("map", mapping), ("merge", merge), ("value", default)]

/-- The tag with a full name. -/
def ofName (name : Text) : Tag :=
  match Text.after? core name with
  | some short => (names.lookup short).getD unknown
  | none => unknown

/-! ### Plain scalars -/

/-- The spellings of booleans. -/
def booleanWords : List Text :=
  ["yes", "Yes", "YES", "no", "No", "NO", "true", "True", "TRUE", "false", "False", "FALSE", "on",
    "On", "ON", "off", "Off", "OFF"]

/-- The spellings of null. -/
def nullWords : List Text := ["", "~", "null", "Null", "NULL"]

/-- The text behind a sign, if it has one. -/
def unsigned : Text → Text
  | '+' :: rest => rest
  | '-' :: rest => rest
  | t => t

/-- Whether a text is not empty and all its characters are in the class. -/
def isRun (p : Char → Bool) (t : Text) : Bool := !t.isEmpty && t.all p

/-- Decimal digits and the underscore. -/
def isDigitOrBar (c : Char) : Bool := c.isDigit || c = '_'

/-- Whether a text is one or two digits below sixty. -/
def isSixtieth : Text → Bool
  | [a] => a.isDigit
  | [a, b] => '0' ≤ a && a ≤ '5' && b.isDigit
  | _ => false

/-- Whether a text is a digit in the class followed by digits and underscores. -/
def isWhole (p : Char → Bool) : Text → Bool
  | c :: rest => p c && rest.all isDigitOrBar
  | [] => false

/-- Whether a text is a digit between one and nine followed by digits and underscores. -/
def isPositive (t : Text) : Bool := isWhole (fun c => '1' ≤ c && c ≤ '9') t

/-- Whether a text spells an integer: binary, octal, decimal, hexadecimal or in base sixty. -/
def isInteger (t : Text) : Bool :=
  match unsigned t with
  | '0' :: 'b' :: ds => isRun (fun c => c = '0' || c = '1' || c = '_') ds
  | '0' :: 'x' :: ds =>
    isRun (fun c => isDigitOrBar c || ('a' ≤ c && c ≤ 'f') || ('A' ≤ c && c ≤ 'F')) ds
  | '0' :: ds => ds.all fun c => ('0' ≤ c && c ≤ '7') || c = '_'
  | u =>
    match Text.splitOn (· = ':') u with
    | whole :: parts => isPositive whole && parts.all isSixtieth
    | [] => false

/-- Whether a text is an exponent with a sign, or empty. -/
def isExponent : Text → Bool
  | [] => true
  | e :: sign :: ds =>
    (e = 'e' || e = 'E') && (sign = '-' || sign = '+') && isRun Char.isDigit ds
  | _ => false

/-- Whether a text spells a floating point number: with a point and, if it has an exponent, a sign
in it; in base sixty; or infinity or not-a-number. -/
def isFloat (t : Text) : Bool :=
  let u := unsigned t
  let whole := u.takeWhile (· ≠ '.')
  match u.drop whole.length with
  | '.' :: tail =>
    let fraction := tail.takeWhile isDigitOrBar
    let rest := tail.drop fraction.length
    (isWhole Char.isDigit whole && isExponent rest)
      || (t.head? == some '.' && isWhole Char.isDigit fraction && isExponent rest)
      || (match Text.splitOn (· = ':') whole with
          | first :: second :: parts =>
            isWhole Char.isDigit first && (second :: parts).all isSixtieth && rest.isEmpty
          | _ => false)
      || (whole.isEmpty && [("inf" : Text), "Inf", "INF"].contains tail)
      || (t.head? == some '.' && [("nan" : Text), "NaN", "NAN"].contains tail)
  | _ => false

/-- Cuts a run of one or two digits off the start of a text. -/
def oneOrTwoDigits? : Text → Option (Text × Text)
  | a :: b :: rest =>
    if a.isDigit then (if b.isDigit then some ([a, b], rest) else some ([a], b :: rest)) else none
  | [a] => if a.isDigit then some ([a], []) else none
  | [] => none

/-- Cuts exactly `count` digits off the start of a text. -/
def digits? (count : Nat) (t : Text) : Option (Text × Text) :=
  let ds := t.take count
  if ds.length = count && ds.all Char.isDigit then some (ds, t.drop count) else none

/-- Cuts one character off the start of a text. -/
def char? (c : Char) : Text → Option Text
  | d :: rest => if c = d then some rest else none
  | [] => none

/-- The offset of a time zone: its sign, hours and minutes. -/
structure Zone where
  negative : Bool
  hours : Text
  minutes : Text

/-- The time of a day in a timestamp. -/
structure Clock where
  hour : Text
  minute : Text
  second : Text
  fraction : Text
  zone : Option Zone

/-- The parts of a timestamp. -/
structure Stamp where
  year : Text
  month : Text
  day : Text
  clock : Option Clock

/-- Reads a time zone, which ends the text. -/
def zone? (t : Text) : Option (Option Zone) :=
  match t.dropWhile fun c => c = ' ' || c = '\t' with
  | [] => if t.isEmpty then some none else none
  | ['Z'] => some (some ⟨false, ['0'], []⟩)
  | sign :: rest => do
    guard (sign = '-' || sign = '+')
    let (hours, rest) ← oneOrTwoDigits? rest
    match rest with
    | [] => return some ⟨sign = '-', hours, []⟩
    | rest => do
      let (minutes, rest) ← digits? 2 (← char? ':' rest)
      guard rest.isEmpty
      return some ⟨sign = '-', hours, minutes⟩

/-- Reads the time of a day, which ends the text. -/
def clock? (t : Text) : Option Clock := do
  let (hour, rest) ← oneOrTwoDigits? t
  let (minute, rest) ← digits? 2 (← char? ':' rest)
  let (second, rest) ← digits? 2 (← char? ':' rest)
  let (fraction, rest) :=
    match rest with
    | '.' :: rest => (rest.takeWhile Char.isDigit, rest.dropWhile Char.isDigit)
    | rest => ([], rest)
  return ⟨hour, minute, second, fraction, ← zone? rest⟩

/-- Reads a timestamp: a date, or a date and a time of the day. -/
def stamp? (t : Text) : Option Stamp := do
  let (year, rest) ← digits? 4 t
  let (month, rest) ← oneOrTwoDigits? (← char? '-' rest)
  let (day, rest) ← oneOrTwoDigits? (← char? '-' rest)
  match rest with
  | [] => return ⟨year, month, day, none⟩
  | c :: after =>
    let time := if c = 'T' || c = 't' then after else rest.dropWhile fun c => c = ' ' || c = '\t'
    guard (time.length < rest.length)
    return ⟨year, month, day, some (← clock? time)⟩

/-- Whether a text spells a timestamp: a date alone needs two digits in its month and its day. -/
def isTimestamp (t : Text) : Bool :=
  match stamp? t with
  | some s => s.clock.isSome || (s.month.length = 2 && s.day.length = 2)
  | none => false

/-- The signs that start a reference, an anchor and a tag. -/
def signs : List Text := ["*", "&", "!"]

/-- What a plain scalar on one line stands for. One of the signs alone stands for nothing. -/
def ofForm (t : Text) : Tag :=
  if booleanWords.contains t then bool
  else if isFloat t then float
  else if isInteger t then int
  else if t = "<<" then merge
  else if nullWords.contains t then null
  else if isTimestamp t then timestamp
  else if t = "=" then default
  else if signs.contains t then unknown
  else text

/-- A text without the line break at its end, if it has one. -/
def withoutBreak (t : Text) : Text := if t.getLast? = some '\n' then t.dropLast else t

/-- What a scalar stands for that is known by its form. A line break at its end does not change the
form, but a line break alone is a text. -/
def ofPlain (t : Text) : Tag := if t = ['\n'] then text else ofForm (withoutBreak t)

end Tag

end SnippetBench.Yaml
