import SnippetBench.Number.Binary64
import SnippetBench.Text.Basic

/-!
# Decimal numerals of floating point numbers

Two ways to write a number. With fixed places, the exact binary value is rounded to the given number
of decimal places, ties to the even digit. In shortest form, the fewest significant digits are
written that read back as the same number, and of several such numerals the one nearest to the
exact value; the digits are placed positionally for numbers from `10 ^ -4` up to `10 ^ 16` and with
an exponent otherwise.
-/

namespace SnippetBench.Number.Decimal

/-- The sign of a numeral. -/
def sign (negative : Bool) : Text := if negative then ['-'] else []

/-- A natural number of units of the last of `places` decimal places. -/
def placed (places units : Nat) : Text :=
  let unit := Nat.pow 10 places
  let whole := Text.ofNat (units / unit)
  if places = 0 then whole
  else whole ++ '.' :: Text.padStart places '0' (Text.ofNat (units % unit))

/-- The numeral with a fixed number of decimal places. A number that rounds to zero keeps its
sign. -/
def fixed (places : Nat) : Binary64 → Text
  | .nan => "nan"
  | .infinite negative => sign negative ++ "inf"
  | x => sign x.isNegative ++ placed places (roundHalfEven (x.magnitude * 10 ^ places)).toNat

/-- Significant digits as a natural number without a factor ten, and the power of ten of the last
of them. -/
structure Digits where
  digits : Nat
  exponent : Int
  deriving DecidableEq, Repr

/-- The value of significant digits. -/
def Digits.toRat (d : Digits) : Rat := d.digits * (10 : Rat) ^ d.exponent

/-- The exponent of the greatest power of ten that is at most a positive rational. The binary
exponent leaves three candidates. -/
def decimalExponent (q : Rat) : Int :=
  let guess := (binaryExponent q * 1233) / 4096 - 1
  if (10 : Rat) ^ (guess + 2) ≤ q then guess + 2
  else if (10 : Rat) ^ (guess + 1) ≤ q then guess + 1
  else guess

/-- The numeral with `count` significant digits that reads back as the number and is nearest to
it: one of the two neighbours of the exact value among the numerals with that many digits. -/
def digitsOfCount? (x : Binary64) (count : Nat) : Option Digits :=
  let exponent := decimalExponent x.magnitude + 1 - count
  let scaled := x.magnitude / (10 : Rat) ^ exponent
  let nearest : Digits := ⟨(roundHalfEven scaled).toNat, exponent⟩
  let other : Digits :=
    ⟨if (nearest.digits : Rat) ≤ scaled then nearest.digits + 1 else nearest.digits - 1, exponent⟩
  [nearest, other].find? fun d => Binary64.round x.isNegative d.toRat = x

/-- The fewest significant digits that read back as the number; seventeen always suffice. -/
def shortestDigits (x : Binary64) : Digits :=
  ((List.range 17).findSome? fun n => digitsOfCount? x (n + 1)).getD ⟨0, 0⟩

/-- The exponent part of a numeral, with a sign and at least two digits. -/
def exponentPart (e : Int) : Text :=
  'e' :: (if e < 0 then '-' else '+') :: Text.padStart 2 '0' (Text.ofNat e.natAbs)

/-- Digits, the first of them at the place of `10 ^ e`, written positionally or with an
exponent. -/
def layout (digits : Text) (e : Int) : Text :=
  if -4 ≤ e ∧ e < 0 then
    "0." ++ List.replicate (-e - 1).toNat '0' ++ digits
  else if 0 ≤ e ∧ e < 16 then
    let whole := e.toNat + 1
    if digits.length ≤ whole then
      digits ++ List.replicate (whole - digits.length) '0' ++ ".0"
    else digits.take whole ++ '.' :: digits.drop whole
  else
    match digits with
    | [] => []
    | [d] => d :: exponentPart e
    | d :: rest => d :: '.' :: rest ++ exponentPart e

/-- The shortest numeral of a number. -/
def shortest : Binary64 → Text
  | .nan => "nan"
  | .infinite negative => sign negative ++ "inf"
  | x =>
    if x.magnitude = 0 then sign x.isNegative ++ "0.0"
    else
      let d := shortestDigits x
      let digits := Text.ofNat d.digits
      let e := d.exponent + digits.length - 1
      sign x.isNegative ++ layout (Text.trimEnd (· = '0') digits) e

end SnippetBench.Number.Decimal
