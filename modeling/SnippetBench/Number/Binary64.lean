import SnippetBench.Number.Rounding

/-!
# Binary floating point

The 64-bit binary floating point numbers of IEEE 754: a sign, a significand below `2 ^ 53` and an
exponent from `-1074` to `971`, the two infinities, and a single not-a-number. An operation on
finite numbers is the exact operation on the rationals they stand for followed by one rounding, to
the nearest number with ties to the even significand; only the sign of a zero needs a rule of its
own.
-/

namespace SnippetBench.Number

/-- A 64-bit binary floating point number. -/
inductive Binary64
  | nan
  | infinite (negative : Bool)
  /-- The number `± significand * 2 ^ exponent`. -/
  | finite (negative : Bool) (significand : Nat) (exponent : Int)
  deriving DecidableEq, Repr, Inhabited

namespace Binary64

/-- The exponent of the least positive number. -/
def minExponent : Int := -1074

/-- The greatest exponent of a finite number. -/
def maxExponent : Int := 971

/-- The least significand of full length, with 53 binary digits. -/
def leastFull : Nat := 0x10000000000000

/-- Zero with a sign. -/
def zero (negative : Bool) : Binary64 := finite negative 0 minExponent

/-- The number nearest to `± magnitude`, for a magnitude that is not negative. Beyond the greatest
finite number by half a unit or more, the result is infinite. -/
def round (negative : Bool) (magnitude : Rat) : Binary64 :=
  if magnitude ≤ 0 then zero negative
  else
    let exponent := max (binaryExponent magnitude - 52) minExponent
    let significand := (roundHalfEven (magnitude / (2 : Rat) ^ exponent)).toNat
    let (significand, exponent) :=
      if significand = 2 * leastFull then (leastFull, exponent + 1) else (significand, exponent)
    if maxExponent < exponent then infinite negative else finite negative significand exponent

/-- The number nearest to a rational; zero is positive. -/
def ofRat (q : Rat) : Binary64 := round (q < 0) (if q < 0 then -q else q)

/-- The number nearest to an integer, infinite if it is too large. -/
def ofInt (n : Int) : Binary64 := ofRat n

instance : NatCast Binary64 := ⟨fun n => ofInt n⟩

/-- The distance of a finite number from zero; zero for the other numbers. -/
def magnitude : Binary64 → Rat
  | finite _ significand exponent => significand * (2 : Rat) ^ exponent
  | _ => 0

/-- Whether the sign is negative, also of a zero; not-a-number has none. -/
def isNegative : Binary64 → Bool
  | nan => false
  | infinite negative => negative
  | finite negative .. => negative

/-- Whether a number is neither infinite nor not-a-number. -/
def isFinite : Binary64 → Bool
  | finite .. => true
  | _ => false

/-- The rational that a finite number stands for; zero for the other numbers. -/
def toRat (x : Binary64) : Rat := if x.isNegative then -x.magnitude else x.magnitude

/-- The number with the other sign. -/
def neg : Binary64 → Binary64
  | nan => nan
  | infinite negative => infinite !negative
  | finite negative significand exponent => finite (!negative) significand exponent

/-- The rounded sum. An exact sum of zero is negative only if both operands are. -/
def add : Binary64 → Binary64 → Binary64
  | nan, _ => nan
  | _, nan => nan
  | infinite s, infinite t => if s = t then infinite s else nan
  | infinite s, _ => infinite s
  | _, infinite t => infinite t
  | x, y =>
    let sum := x.toRat + y.toRat
    if sum = 0 then zero (x.isNegative && y.isNegative) else ofRat sum

/-- The rounded difference. -/
def sub (x y : Binary64) : Binary64 := add x y.neg

/-- The rounded product. Its sign is negative if the signs of the factors differ, also for a
zero. -/
def mul : Binary64 → Binary64 → Binary64
  | nan, _ => nan
  | _, nan => nan
  | x, y =>
    let negative := x.isNegative != y.isNegative
    if x.isFinite && y.isFinite then round negative (x.magnitude * y.magnitude)
    else if (x.isFinite && x.magnitude = 0) || (y.isFinite && y.magnitude = 0) then nan
    else infinite negative

/-- The rounded quotient. Its sign is negative if the signs of the operands differ; a zero divisor
gives an infinity, or not-a-number when the dividend is zero as well. -/
def div : Binary64 → Binary64 → Binary64
  | nan, _ => nan
  | _, nan => nan
  | infinite _, infinite _ => nan
  | infinite s, y => infinite (s != y.isNegative)
  | x, infinite t => zero (x.isNegative != t)
  | x, y =>
    let negative := x.isNegative != y.isNegative
    if y.magnitude = 0 then (if x.magnitude = 0 then nan else infinite negative)
    else round negative (x.magnitude / y.magnitude)

instance : Add Binary64 := ⟨add⟩

instance : Sub Binary64 := ⟨sub⟩

instance : Mul Binary64 := ⟨mul⟩

instance : Div Binary64 := ⟨div⟩

/-- Whether the first number is at most the second; not-a-number compares with nothing. -/
def le : Binary64 → Binary64 → Bool
  | nan, _ => false
  | _, nan => false
  | infinite true, _ => true
  | _, infinite false => true
  | infinite false, _ => false
  | _, infinite true => false
  | x, y => x.toRat ≤ y.toRat

/-- Whether the first number is less than the second; not-a-number compares with nothing. -/
def lt (x y : Binary64) : Bool := le x y && !le y x

instance : LE Binary64 := ⟨fun x y => le x y = true⟩

instance : LT Binary64 := ⟨fun x y => lt x y = true⟩

instance : DecidableLE Binary64 := fun x y => inferInstanceAs (Decidable (le x y = true))

instance : DecidableLT Binary64 := fun x y => inferInstanceAs (Decidable (lt x y = true))

/-- The rounded square root; not-a-number for a negative number other than zero. The integer root
is taken with at least 54 binary digits, and a remainder is kept as half a unit below the last of
them, so that the final rounding sees on which side of a tie the exact root lies. -/
def sqrt : Binary64 → Binary64
  | nan => nan
  | infinite negative => if negative then nan else infinite false
  | finite negative 0 exponent => finite negative 0 exponent
  | finite true .. => nan
  | finite false significand exponent =>
    let shift := 110 + (exponent % 2).toNat
    let scaled := significand * Nat.pow 2 shift
    let root := Nat.sqrt scaled
    let doubled := 2 * root + (if root * root = scaled then 0 else 1)
    ofRat (doubled * (2 : Rat) ^ ((exponent - shift) / 2 - 1))

/-- Why a number has no integer part. -/
inductive Unbounded
  | infinite
  | nan
  deriving DecidableEq, Repr

/-- The greatest integer that is at most the number. -/
def floor : Binary64 → Except Unbounded Int
  | nan => .error .nan
  | infinite _ => .error .infinite
  | x => .ok x.toRat.floor

/-- The 64 bits of the interchange format: sign, eleven bits of exponent, and the significand
without its leading one. -/
def toBits : Binary64 → Nat
  | nan => 0x7FF8000000000000
  | infinite negative => (if negative then 0x8000000000000000 else 0) + 0x7FF0000000000000
  | finite negative significand exponent =>
    (if negative then 0x8000000000000000 else 0) +
      (if significand < leastFull then significand
        else (exponent + 1075).toNat * leastFull + (significand - leastFull))

end Binary64

end SnippetBench.Number
