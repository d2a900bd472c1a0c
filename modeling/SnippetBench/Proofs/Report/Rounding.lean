import SnippetBench.Report.Statistics
import Mathlib.Analysis.Real.Sqrt
import Mathlib.Algebra.Order.Floor.Semifield
import Mathlib.Data.Rat.Floor

/-!
# Rounding exact statistics

Half-up rounding is the floor of what is half a unit further on, so it is monotone and commutes with
adding an integer. A thousand times a square root is rounded by an integer root alone; that comes to
the same as rounding the real number half up (`ratThousandRoots_eq_floor`), and with it the order of
the reals and the laws of their square root are at hand for standard deviations.
-/

namespace SnippetBench.Number

theorem roundHalfUp_eq_floor (q : Rat) : roundHalfUp q = ⌊q + 1 / 2⌋ := rfl

@[simp]
theorem roundHalfUp_zero : roundHalfUp 0 = 0 := by
  rw [roundHalfUp_eq_floor]
  norm_num

theorem roundHalfUp_mono {p q : Rat} (h : p ≤ q) : roundHalfUp p ≤ roundHalfUp q := by
  rw [roundHalfUp_eq_floor, roundHalfUp_eq_floor]
  exact Int.floor_mono (by gcongr)

theorem roundHalfUp_add_intCast (q : Rat) (n : Int) : roundHalfUp (q + n) = roundHalfUp q + n := by
  rw [roundHalfUp_eq_floor, roundHalfUp_eq_floor, add_right_comm, Int.floor_add_intCast]

/-- A rational is rounded as the real number that it is. -/
theorem floor_ratCast_add_half (q : Rat) : ⌊(q : ℝ) + 1 / 2⌋ = roundHalfUp q := by
  rw [roundHalfUp_eq_floor, ← Rat.floor_cast (α := ℝ)]
  push_cast
  rfl

/-- The integer root of an integer part is the integer part of the root. -/
theorem sqrt_floor (x : ℝ) : Nat.sqrt ⌊x⌋₊ = ⌊√x⌋₊ := by
  refine eq_of_forall_le_iff fun m => ?_
  rcases Nat.eq_zero_or_pos m with rfl | hm
  · simp
  · have hm' : (0 : ℝ) < m := by exact_mod_cast hm
    calc m ≤ Nat.sqrt ⌊x⌋₊
      _ ↔ m * m ≤ ⌊x⌋₊ := Nat.le_sqrt
      _ ↔ ((m * m : ℕ) : ℝ) ≤ x := Nat.le_floor_iff' (by positivity)
      _ ↔ (m : ℝ) ^ 2 ≤ x := by rw [Nat.cast_mul, sq]
      _ ↔ (m : ℝ) ≤ √x := (Real.le_sqrt' hm').symm
      _ ↔ m ≤ ⌊√x⌋₊ := (Nat.le_floor_iff' hm.ne').symm

end SnippetBench.Number

namespace SnippetBench.Report

/-- **A thousand roots** are rounded half up as real numbers are. -/
theorem ratThousandRoots_eq_floor (q : Rat) :
    ratThousandRoots q = ⌊1000 * √(q : ℝ) + 1 / 2⌋ := by
  have hroot : √((q * 4000000 : Rat) : ℝ) = 2000 * √(q : ℝ) := by
    have hsquare : ((q * 4000000 : Rat) : ℝ) = 2000 ^ 2 * (q : ℝ) := by
      push_cast
      ring
    rw [hsquare, Real.sqrt_mul (by norm_num), Real.sqrt_sq (by norm_num)]
  have hfloor : (q * 4000000).floor.toNat = ⌊((q * 4000000 : Rat) : ℝ)⌋₊ := by
    rw [← Int.floor_toNat, Rat.floor_cast]
    rfl
  have hhalf : 1000 * √(q : ℝ) + 1 / 2 = (2000 * √(q : ℝ) + 1) / (2 : ℕ) := by
    push_cast
    ring
  have hnonneg : 0 ≤ 2000 * √(q : ℝ) := by positivity
  calc ratThousandRoots q
    _ = (((⌊2000 * √(q : ℝ)⌋₊ + 1) / 2 : ℕ) : ℤ) := by
      rw [ratThousandRoots, hfloor, Number.sqrt_floor, hroot]
      rfl
    _ = ((⌊(2000 * √(q : ℝ) + 1) / (2 : ℕ)⌋₊ : ℕ) : ℤ) := by
      rw [Nat.floor_div_natCast, Nat.floor_add_one hnonneg]
    _ = ⌊1000 * √(q : ℝ) + 1 / 2⌋ := by
      rw [← hhalf, Int.natCast_floor_eq_floor (by positivity)]

end SnippetBench.Report
