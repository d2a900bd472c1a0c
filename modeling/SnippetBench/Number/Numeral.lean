import SnippetBench.Number.Binary64
import SnippetBench.Text.Blank
import SnippetBench.Text.DecimalDigit

/-!
# Reading numerals

Readers of integers and floating point numbers. Both take an optional sign and digits, where a
single underscore may stand between two digits. A floating point numeral has an optional fraction
and exponent, of which the point needs a digit on at least one side, or is a name of infinity or of
not-a-number. Which characters are digits is a parameter: the ten of ASCII, or those of every
script. What may surround a numeral is up to its reader, and mostly `isSpace`.
-/

namespace SnippetBench.Number.Numeral

/-- The spaces that may surround a numeral: the blanks other than the separators U+001C to
U+001F. -/
def isSpace (c : Char) : Bool := Text.isBlank c && !Text.inRanges [(0x1C, 0x1F)] c

/-- The value of an ASCII digit. -/
def asciiDigit? (c : Char) : Option Nat :=
  if c.isDigit then some (c.toNat - '0'.toNat) else none

/-- The longest first run of digits, where a single underscore may stand between two digits, and
what follows it. -/
def scanDigits (digit : Char → Option Nat) : Text → List Nat × Text
  | [] => ([], [])
  | c :: '_' :: c' :: rest =>
    match digit c with
    | none => ([], c :: '_' :: c' :: rest)
    | some d =>
      if (digit c').isSome then
        let (ds, after) := scanDigits digit (c' :: rest)
        (d :: ds, after)
      else ([d], '_' :: c' :: rest)
  | c :: rest =>
    match digit c with
    | none => ([], c :: rest)
    | some d =>
      let (ds, after) := scanDigits digit rest
      (d :: ds, after)

/-- The number that digits write in a base. -/
def ofDigits (base : Nat) (ds : List Nat) : Nat := ds.foldl (fun n d => n * base + d) 0

/-- The sign at the start of a numeral, true for a minus, and what follows it. -/
def scanSign : Text → Bool × Text
  | '-' :: rest => (true, rest)
  | '+' :: rest => (false, rest)
  | t => (false, t)

/-- An integer with a sign. -/
def signed (negative : Bool) (n : Nat) : Int := if negative then -n else n

/-- The greatest number of digits an integer numeral may have. -/
def maxDigits : Nat := 4300

/-- Reads an integer: a sign, if any, and digits. -/
def readInt? (digit : Char → Option Nat) (t : Text) : Option Int :=
  let (negative, t) := scanSign t
  match scanDigits digit t with
  | ([], _) => none
  | (ds, []) => if ds.length ≤ maxDigits then some (signed negative (ofDigits 10 ds)) else none
  | _ => none

/-- The floating point number nearest to `± mantissa * 10 ^ exponent`, where `mantissa` has at
most `places` digits. Exponents far outside the range are settled without computing the power. -/
def scaled (negative : Bool) (mantissa places : Nat) (exponent : Int) : Binary64 :=
  if mantissa = 0 ∨ exponent + places < -400 then .zero negative
  else if 400 < exponent then .infinite negative
  else .round negative (mantissa * (10 : Rat) ^ exponent)

/-- The exponent of a floating point numeral: nothing, or `e` with a sign, if any, and digits. -/
def scanExponent? (digit : Char → Option Nat) : Text → Option Int
  | [] => some 0
  | c :: rest =>
    if c = 'e' ∨ c = 'E' then
      let (negative, rest) := scanSign rest
      match scanDigits digit rest with
      | ([], _) => none
      | (ds, []) => some (signed negative (ofDigits 10 ds))
      | _ => none
    else none

/-- The names of the numbers that are not finite, in lower case. -/
def special? (negative : Bool) (t : Text) : Option Binary64 :=
  let name := t.map Char.toLower
  if name = "inf" ∨ name = "infinity" then some (.infinite negative)
  else if name = "nan" then some .nan
  else none

/-- Reads a floating point number. -/
def readFloat? (digit : Char → Option Nat) (t : Text) : Option Binary64 :=
  let (negative, t) := scanSign t
  (special? negative t).or <| do
    let (whole, rest) := scanDigits digit t
    let (fraction, rest) :=
      match rest with
      | '.' :: rest => scanDigits digit rest
      | _ => ([], rest)
    let exponent ← scanExponent? digit rest
    let ds := whole ++ fraction
    guard !ds.isEmpty
    return scaled negative (ofDigits 10 ds) ds.length (exponent - fraction.length)

end SnippetBench.Number.Numeral
