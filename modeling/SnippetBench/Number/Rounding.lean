/-!
# Rounding rationals

The rules by which an exact rational becomes an integer: to the nearest one with ties to the even
neighbour, and half up. The integer part of a binary logarithm, which places a positive rational
between two neighbouring powers of two, is here as well.
-/

namespace SnippetBench.Number

/-- The nearest integer; of two equally near ones, the even one. -/
def roundHalfEven (q : Rat) : Int :=
  let below := q.floor
  let part := q - below
  if part < 1 / 2 then below
  else if 1 / 2 < part then below + 1
  else below + below % 2

/-- The nearest integer; of two equally near ones, the greater one. -/
def roundHalfUp (q : Rat) : Int := (q + 1 / 2).floor

/-- The exponent `k` with `2 ^ k ≤ q < 2 ^ (k + 1)`, for a positive `q`. -/
def binaryExponent (q : Rat) : Int :=
  let k : Int := (q.num.natAbs.log2 : Int) - (q.den.log2 : Int)
  if (2 : Rat) ^ k ≤ q then k else k - 1

end SnippetBench.Number
