import SnippetBench.Number.Decimal

/-!
# Durations

A duration is a number of microseconds. It is printed in microseconds without decimal places below a
thousand, in milliseconds with two places below a million, and in seconds with two places otherwise.
A whole number of microseconds is divided exactly and rounded once; a floating point number is
divided in floating point. Both round to a floating point number before they are printed.
-/

namespace SnippetBench.Report

open Number (Binary64 Decimal.fixed)

/-- A number of microseconds. -/
inductive Micros
  | whole (count : Int)
  | real (count : Binary64)
  deriving DecidableEq, Repr

/-- Why a duration cannot be printed. -/
inductive DurationError
  /-- The number of microseconds is beyond the floating point numbers. -/
  | tooLarge
  /-- The number of milliseconds or seconds is beyond the floating point numbers. -/
  | quotientTooLarge
  deriving DecidableEq, Repr

/-- The description of a duration error. -/
def DurationError.message : DurationError → Text
  | tooLarge => "int too large to convert to float"
  | quotientTooLarge => "integer division result too large for a float"

/-- Whether a number of microseconds is below a bound. -/
def Micros.below (bound : Nat) : Micros → Bool
  | whole n => n < bound
  | real x => x < ((bound : Nat) : Binary64)

/-- The number of units of `size` microseconds. -/
def Micros.inUnits (size : Nat) : Micros → Except DurationError Binary64
  | whole n =>
    match Binary64.ofRat ((n : Rat) / (size : Rat)) with
    | .infinite _ => .error (if size = 1 then .tooLarge else .quotientTooLarge)
    | x => .ok x
  | real x => .ok (if size = 1 then x else x / ((size : Nat) : Binary64))

/-- The printed form of a duration. -/
def Micros.format (m : Micros) : Except DurationError Text :=
  if m.below 1000 then (m.inUnits 1).map fun x => Decimal.fixed 0 x ++ "μs"
  else if m.below 1000000 then (m.inUnits 1000).map fun x => Decimal.fixed 2 x ++ "ms"
  else (m.inUnits 1000000).map fun x => Decimal.fixed 2 x ++ "s"

end SnippetBench.Report
