import SnippetBench.Proofs.Report.Rounding
import SnippetBench.Proofs.Report.Trimming
import Mathlib.Algebra.Order.BigOperators.Group.List
import Mathlib.Algebra.BigOperators.Ring.List
import Mathlib.Tactic.FieldSimp

/-!
# Means and variances in exact arithmetic

The mean is monotone and commutes with affine maps (`mean_map_le`, `mean_map_affine`). All else comes
from these two: a mean lies between bounds of its values, a variance is at most the square of half
their distance (`variance_le_sq`), and an affine map multiplies the variance by the square of its slope
(`variance_map_affine`). The root of the variance is the deviation, a real number; what is reported is
the mean and the deviation of the kept samples, in microseconds and rounded half up (`reduce_eq`).
-/

namespace SnippetBench.Report

variable {xs : List Rat} {low high : Rat}

/-! ### Means -/

theorem total_eq_sum (xs : List Rat) : total xs = xs.sum := List.sum_eq_foldl.symm

theorem mean_eq_sum_div (xs : List Rat) : mean xs = xs.sum / (xs.length : Rat) := by
  rw [mean, total_eq_sum]

theorem mean_map_le {f g : Rat → Rat} (h : ∀ v ∈ xs, f v ≤ g v) :
    mean (xs.map f) ≤ mean (xs.map g) := by
  rw [mean_eq_sum_div, mean_eq_sum_div, List.length_map, List.length_map]
  exact div_le_div_of_nonneg_right (List.sum_le_sum h) (by positivity)

theorem mean_map_affine (hne : xs ≠ []) (k c : Rat) :
    mean (xs.map fun v => k * v + c) = k * mean xs + c := by
  have hlength : (xs.length : Rat) ≠ 0 := by simpa using hne
  have hsum : (xs.map fun v => k * v + c).sum = k * xs.sum + xs.length * c := by
    rw [List.sum_map_add, List.sum_map_mul_left, List.map_id', List.map_const', List.sum_replicate,
      nsmul_eq_mul]
  rw [mean_eq_sum_div, mean_eq_sum_div, List.length_map, hsum]
  field_simp

theorem le_mean (hne : xs ≠ []) (h : ∀ v ∈ xs, low ≤ v) : low ≤ mean xs := by
  have hle : mean (xs.map fun v => 0 * v + low) ≤ mean (xs.map fun v => v) :=
    mean_map_le fun v hv => by simpa using h v hv
  rw [mean_map_affine hne, List.map_id'] at hle
  linarith

theorem mean_le (hne : xs ≠ []) (h : ∀ v ∈ xs, v ≤ high) : mean xs ≤ high := by
  have hle : mean (xs.map fun v => v) ≤ mean (xs.map fun v => 0 * v + high) :=
    mean_map_le fun v hv => by simpa using h v hv
  rw [mean_map_affine hne, List.map_id'] at hle
  linarith

/-! ### Variances -/

theorem variance_nonneg (hne : xs ≠ []) : 0 ≤ variance xs := by
  refine le_mean (by simpa using hne) fun s hs => ?_
  obtain ⟨v, -, rfl⟩ := List.mem_map.mp hs
  exact mul_self_nonneg _

/-- A variance is at most the product of the distances of the mean from two bounds of the values,
since the product of the distances of each value is not negative. -/
theorem variance_le_mul (hne : xs ≠ []) (h : ∀ v ∈ xs, low ≤ v ∧ v ≤ high) :
    variance xs ≤ (high - mean xs) * (mean xs - low) := by
  have hle : variance xs ≤ mean (xs.map fun v =>
      (high + low - 2 * mean xs) * v + (mean xs * mean xs - high * low)) := by
    refine mean_map_le fun v hv => ?_
    obtain ⟨hlow, hhigh⟩ := h v hv
    have hproduct : 0 ≤ (high - v) * (v - low) :=
      mul_nonneg (sub_nonneg.mpr hhigh) (sub_nonneg.mpr hlow)
    linarith
  rw [mean_map_affine hne] at hle
  linarith

/-- **A variance is at most the square of half the distance** of two bounds of the values. -/
theorem variance_le_sq (hne : xs ≠ []) (h : ∀ v ∈ xs, low ≤ v ∧ v ≤ high) :
    variance xs ≤ ((high - low) / 2) ^ 2 := by
  have hmiddle := sq_nonneg (mean xs - (high + low) / 2)
  linarith [variance_le_mul hne h]

theorem variance_map_affine (hne : xs ≠ []) (k c : Rat) :
    variance (xs.map fun v => k * v + c) = k ^ 2 * variance xs := by
  have hdeviations : (xs.map fun v => k * v + c).map (fun v =>
      (v - (k * mean xs + c)) * (v - (k * mean xs + c))) =
        (xs.map fun v => (v - mean xs) * (v - mean xs)).map fun s => k ^ 2 * s + 0 := by
    rw [List.map_map, List.map_map]
    refine List.map_congr_left fun v _ => ?_
    simp only [Function.comp]
    ring
  rw [variance, spread, mean_map_affine hne, hdeviations, mean_map_affine (by simpa using hne),
    add_zero]
  rfl

/-! ### Deviations -/

/-- The standard deviation before it is rounded: the root of the variance, in milliseconds. -/
noncomputable def deviation (xs : List Rat) : ℝ := √((variance xs : Rat) : ℝ)

theorem sq_deviation (hne : xs ≠ []) : deviation xs ^ 2 = ((variance xs : Rat) : ℝ) :=
  Real.sq_sqrt (by exact_mod_cast variance_nonneg hne)

theorem deviation_le (hne : xs ≠ []) (h : ∀ v ∈ xs, low ≤ v ∧ v ≤ high) :
    deviation xs ≤ (high - low) / 2 := by
  obtain ⟨v, hv⟩ := List.exists_mem_of_ne_nil xs hne
  have hrange : 0 ≤ (high - low) / 2 := by linarith [h v hv]
  have hsquare : deviation xs ^ 2 ≤ (((high - low) / 2 : Rat) : ℝ) ^ 2 := by
    rw [sq_deviation hne]
    exact_mod_cast variance_le_sq hne h
  have hle := (abs_le_of_sq_le_sq' hsquare (by exact_mod_cast hrange)).2
  push_cast at hle
  exact hle

theorem deviation_map_affine (hne : xs ≠ []) {k : Rat} (hk : 0 ≤ k) (c : Rat) :
    deviation (xs.map fun v => k * v + c) = k * deviation xs := by
  have hsquare : ((variance (xs.map fun v => k * v + c) : Rat) : ℝ) =
      (k : ℝ) ^ 2 * ((variance xs : Rat) : ℝ) := by
    rw [variance_map_affine hne]
    push_cast
    rfl
  rw [deviation, hsquare, Real.sqrt_mul (sq_nonneg _), Real.sqrt_sq (by exact_mod_cast hk), deviation]

/-! ### Reported statistics -/

/-- **The reduction of samples** reports the mean and the deviation of those that are kept, a thousand
times and rounded half up, and the share of the others. -/
theorem reduce_eq {samples : List Rat} (h : samples ≠ []) :
    reduce samples = .ok
      { mean := Number.roundHalfUp (1000 * mean (keptSamples samples))
        std := ⌊1000 * deviation (keptSamples samples) + 1 / 2⌋
        outliers := Number.roundHalfUp
          (outlierShare (α := Rat) (keptSamples samples).length samples.length) } := by
  rw [reduce_eq_ok (keptSamples_ne_nil h) h, ratThousandRoots_eq_floor, mul_comm]
  rfl

end SnippetBench.Report
