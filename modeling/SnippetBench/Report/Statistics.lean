import SnippetBench.Number.Binary64
import SnippetBench.Report.Ascending
import SnippetBench.Text.Basic

/-!
# Statistics of samples

The samples of a snippet are durations in milliseconds, one for each trial. They are reduced to a
trimmed mean and a standard deviation in whole microseconds, and the share of samples that were left
out, in whole percent. A sample is kept if it lies within one and a half quartile distances of the
quartiles, which are the samples at a quarter and at three quarters of the sorted list.

The same definitions serve two arithmetics: floating point, where they compute what a script prints,
and the rationals, where every operation is exact.
-/

namespace SnippetBench.Report

open Number (Binary64)

/-- Why samples cannot be reduced. -/
inductive ReduceError
  /-- There are no samples. -/
  | noSamples
  /-- No sample is kept; the quartiles are not finite. -/
  | nothingKept
  /-- The square of a finite deviation is too large. -/
  | squareTooLarge
  /-- A result is infinite. -/
  | infiniteResult
  /-- A result is not a number. -/
  | nanResult
  deriving DecidableEq, Repr

/-- The description of a reduction error. -/
def ReduceError.message : ReduceError → Text
  | noSamples => "cannot reduce an empty sample list"
  | nothingKept => "division by zero"
  | squareTooLarge => "(34, 'Numerical result out of range')"
  | infiniteResult => "cannot convert float infinity to integer"
  | nanResult => "cannot convert float NaN to integer"

/-- Reduced samples: mean and standard deviation in microseconds, outliers in percent. -/
structure Stats where
  mean : Int
  std : Int
  outliers : Int
  deriving DecidableEq, Repr

/-- How an arithmetic passes to whole numbers. -/
class Rounding (α : Type) where
  /-- The greatest integer that is at most the number plus one half. -/
  halfUp : α → Except ReduceError Int
  /-- A thousand times the square root of a number, rounded half up. -/
  thousandRoots : α → Except ReduceError Int
  /-- Whether the square of a finite number is outside the arithmetic. -/
  squareTooLarge : α → Bool

/-- The position of the lower quartile in a sorted list. -/
def lowerIndex (count : Nat) : Nat := count / 4

/-- The position of the upper quartile in a sorted list: three quarters, rounded up, and at most
the last position. -/
def upperIndex (count : Nat) : Nat := min ((3 * count + 3) / 4) (count - 1)

section

variable {α : Type} [Add α] [Sub α] [Mul α] [Div α] [NatCast α]

/-- The sum of the values from left to right. -/
def total (xs : List α) : α := xs.foldl (· + ·) ((0 : Nat) : α)

/-- The arithmetic mean of the values. -/
def mean (xs : List α) : α := total xs / (xs.length : α)

/-- The mean squared deviation of the values from `center`. -/
def spread (center : α) (xs : List α) : α := mean (xs.map fun v => (v - center) * (v - center))

/-- The population variance of the values. -/
def variance (xs : List α) : α := spread (mean xs) xs

variable [LE α] [DecidableLE α] [LT α] [DecidableLT α]

/-- The least and the greatest value that is kept, given the sorted samples. -/
def fences? (ordered : List α) : Option (α × α) := do
  let bottom ← ordered[lowerIndex ordered.length]?
  let top ← ordered[upperIndex ordered.length]?
  let margin := (top - bottom) * (((3 : Nat) : α) / ((2 : Nat) : α))
  return (bottom - margin, top + margin)

/-- The samples that are kept, in ascending order. -/
def keptSamples (samples : List α) : List α :=
  let ordered := ascending samples
  match fences? ordered with
  | some (low, high) => ordered.filter fun v => low ≤ v && v ≤ high
  | none => []

/-- The share of the samples that was left out, in percent. -/
def outlierShare (kept count : Nat) : α :=
  ((100 : Nat) : α) - ((kept * 100 : Nat) : α) / (count : α)

/-- Reduces samples to their statistics. -/
def reduce [Rounding α] (samples : List α) : Except ReduceError Stats :=
  if samples.isEmpty then .error .noSamples
  else
    let kept := keptSamples samples
    if kept.isEmpty then .error .nothingKept
    else
      let center := mean kept
      if kept.any fun v => Rounding.squareTooLarge (v - center) then .error .squareTooLarge
      else do
        let mean ← Rounding.halfUp (center * ((1000 : Nat) : α))
        let std ← Rounding.thousandRoots (spread center kept)
        let outliers ← Rounding.halfUp (outlierShare (α := α) kept.length samples.length)
        return ⟨mean, std, outliers⟩

end

/-! ### The two arithmetics -/

/-- Rounds half up by adding one half in floating point and taking the floor. -/
def floatHalfUp (x : Binary64) : Except ReduceError Int :=
  match (x + ((1 : Nat) : Binary64) / ((2 : Nat) : Binary64)).floor with
  | .ok n => .ok n
  | .error .infinite => .error .infiniteResult
  | .error .nan => .error .nanResult

instance : Rounding Binary64 where
  halfUp := floatHalfUp
  thousandRoots x := floatHalfUp (x.sqrt * ((1000 : Nat) : Binary64))
  squareTooLarge x := x.isFinite && !(x * x).isFinite

/-- A thousand times the square root of a rational, rounded half up. Half of the integer root of
four million times the number, rounded up, is that integer. -/
def ratThousandRoots (q : Rat) : Int := (Nat.sqrt (q * 4000000).floor.toNat + 1) / 2

instance : Rounding Rat where
  halfUp q := .ok (Number.roundHalfUp q)
  thousandRoots q := .ok (ratThousandRoots q)
  squareTooLarge _ := false

end SnippetBench.Report
