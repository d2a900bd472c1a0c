import SnippetBench.Proofs.Report.Average

/-!
# Statistics between bounds

What is reported lies within the samples: the mean between the least and the greatest of them, and the
deviation below half the range of those that are kept (`reduce_bounded`). Each of these is an inequality
of the unrounded number, which rounding preserves since it is monotone.
-/

namespace SnippetBench.Report

/-- The least and the greatest of some values. -/
structure IsRange (xs : List Rat) (least greatest : Rat) : Prop where
  least_mem : least ∈ xs
  greatest_mem : greatest ∈ xs
  bounds : ∀ v ∈ xs, least ≤ v ∧ v ≤ greatest

theorem exists_isRange {xs : List Rat} (hne : xs ≠ []) :
    ∃ least greatest, IsRange xs least greatest := by
  have hlength := List.length_pos_iff.mpr hne
  refine ⟨xs.minimum_of_length_pos hlength, xs.maximum_of_length_pos hlength,
    xs.minimum_of_length_pos_mem hlength, xs.maximum_of_length_pos_mem hlength, fun v hv => ?_⟩
  exact ⟨xs.minimum_of_length_pos_le_of_mem hv hlength,
    xs.le_maximum_of_length_pos_of_mem hv hlength⟩

variable {samples : List Rat}

/-- The range of the kept samples is within that of all. -/
theorem IsRange.kept_within (h : samples ≠ []) {low high least greatest : Rat}
    (hall : IsRange samples low high) (hkept : IsRange (keptSamples samples) least greatest) :
    low ≤ least ∧ greatest ≤ high :=
  ⟨(hall.bounds _ (keptSamples_subset h hkept.least_mem)).1,
    (hall.bounds _ (keptSamples_subset h hkept.greatest_mem)).2⟩

/-- A deviation of at most a rational is rounded to at most what that is rounded to. -/
theorem floor_deviation_le {xs : List Rat} {d : Rat} (h : deviation xs ≤ d) :
    ⌊1000 * deviation xs + 1 / 2⌋ ≤ Number.roundHalfUp (1000 * d) := by
  rw [← Number.floor_ratCast_add_half]
  push_cast
  exact Int.floor_mono (by gcongr)

theorem floor_deviation_nonneg (xs : List Rat) : 0 ≤ ⌊1000 * deviation xs + 1 / 2⌋ := by
  have hroot : 0 ≤ deviation xs := Real.sqrt_nonneg _
  exact Int.floor_nonneg.mpr (by positivity)

/-- **Reported statistics are bounded by the samples.** The mean of the kept samples lies between the
least and the greatest of them, and the reported mean between the least and the greatest sample in
microseconds; the variance is at most the square of half the range of the kept samples, and the
reported deviation at most half that range in microseconds. It is zero where all kept samples are
equal. -/
theorem reduce_bounded (h : samples ≠ []) :
    ∃ stats low high least greatest, reduce samples = .ok stats ∧ IsRange samples low high ∧
      IsRange (keptSamples samples) least greatest ∧
      (least ≤ mean (keptSamples samples) ∧ mean (keptSamples samples) ≤ greatest) ∧
      (Number.roundHalfUp (1000 * low) ≤ stats.mean ∧
        stats.mean ≤ Number.roundHalfUp (1000 * high)) ∧
      variance (keptSamples samples) ≤ ((greatest - least) / 2) ^ 2 ∧
      stats.std ≤ Number.roundHalfUp (1000 * (greatest - least) / 2) ∧
      ((∀ v ∈ keptSamples samples, ∀ w ∈ keptSamples samples, v = w) → stats.std = 0) := by
  have hkept := keptSamples_ne_nil h
  obtain ⟨low, high, hall⟩ := exists_isRange h
  obtain ⟨least, greatest, hrange⟩ := exists_isRange hkept
  obtain ⟨hlow, hhigh⟩ := hall.kept_within h hrange
  have hleast : least ≤ mean (keptSamples samples) :=
    le_mean hkept fun v hv => (hrange.bounds v hv).1
  have hgreatest : mean (keptSamples samples) ≤ greatest :=
    mean_le hkept fun v hv => (hrange.bounds v hv).2
  have hstd : ⌊1000 * deviation (keptSamples samples) + 1 / 2⌋ ≤
      Number.roundHalfUp (1000 * ((greatest - least) / 2)) := by
    refine floor_deviation_le ?_
    push_cast
    exact deviation_le hkept hrange.bounds
  refine ⟨_, low, high, least, greatest, reduce_eq h, hall, hrange, ⟨hleast, hgreatest⟩,
    ⟨?_, ?_⟩, variance_le_sq hkept hrange.bounds, ?_, fun hequal => ?_⟩
  · exact Number.roundHalfUp_mono (by linarith)
  · exact Number.roundHalfUp_mono (by linarith)
  · rwa [mul_div_assoc]
  · obtain rfl : greatest = least := hequal _ hrange.greatest_mem _ hrange.least_mem
    exact le_antisymm (by simpa using hstd) (floor_deviation_nonneg _)

/-- Samples around zero, one of which is left out. -/
theorem reduce_bounded_signed :
    let samples : List Rat := [-1, 1 / 2, 0, 80, -1 / 3, 1, 1 / 4, 1 / 5]
    samples ≠ [] ∧ ∃ stats low high least greatest, reduce samples = .ok stats ∧
      IsRange samples low high ∧ IsRange (keptSamples samples) least greatest ∧
      (Number.roundHalfUp (1000 * low) ≤ stats.mean ∧
        stats.mean ≤ Number.roundHalfUp (1000 * high)) ∧
      stats.std ≤ Number.roundHalfUp (1000 * (greatest - least) / 2) := by
  intro samples
  have hne : samples ≠ [] := by simp [samples]
  obtain ⟨stats, low, high, least, greatest, hreduce, hall, hkept, -, hmean, -, hstd, -⟩ :=
    reduce_bounded hne
  exact ⟨hne, stats, low, high, least, greatest, hreduce, hall, hkept, hmean, hstd⟩

end SnippetBench.Report
