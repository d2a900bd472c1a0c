import SnippetBench.Proofs.Report.Average
import SnippetBench.Proofs.Report.Sorting

/-!
# Statistics under affine maps

An affine map with a positive slope preserves the order of the samples, maps the fences to the fences,
and so the kept samples to the kept samples (`keptSamples_map_affine`). Their mean is mapped alike and
their deviation multiplied by the slope. Hence a shift by whole microseconds shifts the reported mean
and nothing else, and a change of the unit changes mean and deviation by its factor and leaves the share
of outliers (`reduce_equivariant`).
-/

namespace SnippetBench.Report

variable {samples : List Rat} {k : Rat} (c : Rat)

/-! ### Kept samples -/

section Affine

variable (hk : 0 < k)

include hk

theorem affine_le_affine {v w : Rat} : k * v + c ≤ k * w + c ↔ v ≤ w := by
  rw [add_le_add_iff_right, mul_le_mul_iff_right₀ hk]

theorem ascending_map_affine (samples : List Rat) :
    ascending (samples.map fun v => k * v + c) = (ascending samples).map fun v => k * v + c :=
  ascending_map _ (fun _ _ => le_refl _) fun _ _ _ _ => affine_le_affine c hk

omit hk in
/-- The fences of mapped samples are the mapped fences. -/
theorem fences?_map_affine (ordered : List Rat) :
    fences? (ordered.map fun v => k * v + c) =
      (fences? ordered).map fun (low, high) => (k * low + c, k * high + c) := by
  unfold fences?
  rw [List.length_map, List.getElem?_map, List.getElem?_map]
  cases ordered[lowerIndex ordered.length]? with
  | none => rfl
  | some bottom =>
    cases ordered[upperIndex ordered.length]? with
    | none => rfl
    | some top =>
      refine congrArg some (Prod.ext ?_ ?_)
      · dsimp only
        ring
      · dsimp only
        ring

/-- **The kept samples of mapped samples** are the images of the kept samples. -/
theorem keptSamples_map_affine (samples : List Rat) :
    keptSamples (samples.map fun v => k * v + c) =
      (keptSamples samples).map fun v => k * v + c := by
  unfold keptSamples
  dsimp only
  rw [ascending_map_affine c hk, fences?_map_affine]
  cases fences? (ascending samples) with
  | none => rfl
  | some fences =>
    simp only [Option.map_some, List.filter_map, Function.comp_def, affine_le_affine c hk]

/-! ### Statistics -/

/-- What is reported of mapped samples. -/
theorem reduce_map_affine (h : samples ≠ []) :
    reduce (samples.map fun v => k * v + c) = .ok
      { mean := Number.roundHalfUp (1000 * (k * mean (keptSamples samples) + c))
        std := ⌊1000 * (k * deviation (keptSamples samples)) + 1 / 2⌋
        outliers := Number.roundHalfUp
          (outlierShare (α := Rat) (keptSamples samples).length samples.length) } := by
  have hkept := keptSamples_ne_nil h
  rw [reduce_eq (by simpa using h), keptSamples_map_affine c hk, mean_map_affine hkept,
    deviation_map_affine hkept hk.le, List.length_map, List.length_map]

end Affine

/-- **Statistics are equivariant.** Adding whole microseconds to all samples adds them to the reported
mean and changes nothing else. Multiplying all samples by a positive factor keeps the images of the
samples that were kept, multiplies their mean and their deviation by the factor, before these are
rounded, and reports the same share of outliers. -/
theorem reduce_equivariant (h : samples ≠ []) :
    (∀ m : Int, ∃ stats, reduce samples = .ok stats ∧
      reduce (samples.map fun v => v + (m : Rat) / 1000) =
        .ok { stats with mean := stats.mean + m }) ∧
    ∀ k : Rat, 0 < k → ∃ stats stats', reduce samples = .ok stats ∧
      reduce (samples.map fun v => k * v) = .ok stats' ∧
      keptSamples (samples.map fun v => k * v) = (keptSamples samples).map (fun v => k * v) ∧
      mean (keptSamples (samples.map fun v => k * v)) = k * mean (keptSamples samples) ∧
      deviation (keptSamples (samples.map fun v => k * v)) = k * deviation (keptSamples samples) ∧
      stats.mean = Number.roundHalfUp (1000 * mean (keptSamples samples)) ∧
      stats'.mean = Number.roundHalfUp (1000 * (k * mean (keptSamples samples))) ∧
      stats.std = ⌊1000 * deviation (keptSamples samples) + 1 / 2⌋ ∧
      stats'.std = ⌊1000 * (k * deviation (keptSamples samples)) + 1 / 2⌋ ∧
      stats'.outliers = stats.outliers := by
  have hkept := keptSamples_ne_nil h
  refine ⟨fun m => ⟨_, reduce_eq h, ?_⟩, fun k hk => ?_⟩
  · have hshift := reduce_map_affine ((m : Rat) / 1000) one_pos h
    have hmean : 1000 * (1 * mean (keptSamples samples) + (m : Rat) / 1000) =
        1000 * mean (keptSamples samples) + m := by ring
    rw [hmean, Number.roundHalfUp_add_intCast] at hshift
    simpa only [one_mul, Rat.cast_one] using hshift
  · have hscale := reduce_map_affine 0 hk h
    have hkept' := keptSamples_map_affine 0 hk samples
    have hmean := mean_map_affine hkept k 0
    have hdeviation := deviation_map_affine hkept hk.le 0
    simp only [add_zero] at hscale hkept' hmean hdeviation
    exact ⟨_, _, reduce_eq h, hscale, hkept', hkept' ▸ hmean, hkept' ▸ hdeviation, rfl, rfl, rfl,
      rfl, rfl⟩

/-- Samples with an outlier, some negative, shifted below zero and measured in another unit. -/
theorem reduce_equivariant_signed :
    let samples : List Rat := [-1, 1 / 2, 0, 80, -1 / 3, 1, 1 / 4, 1 / 5]
    samples ≠ [] ∧ (0 : Rat) < 3 / 7 ∧
      (∃ stats, reduce samples = .ok stats ∧
        reduce (samples.map fun v => v + ((-1234 : Int) : Rat) / 1000) =
          .ok { stats with mean := stats.mean + -1234 }) ∧
      ∃ stats stats', reduce samples = .ok stats ∧
        reduce (samples.map fun v => 3 / 7 * v) = .ok stats' ∧
        keptSamples (samples.map fun v => 3 / 7 * v) =
          (keptSamples samples).map (fun v => 3 / 7 * v) ∧
        stats'.outliers = stats.outliers := by
  intro samples
  have hne : samples ≠ [] := by simp [samples]
  have hpos : (0 : Rat) < 3 / 7 := by norm_num
  obtain ⟨hshift, hscale⟩ := reduce_equivariant hne
  obtain ⟨stats, stats', hreduce, hreduce', hkept, -, -, -, -, -, -, houtliers⟩ := hscale (3 / 7) hpos
  exact ⟨hne, hpos, hshift (-1234), stats, stats', hreduce, hreduce', hkept, houtliers⟩

end SnippetBench.Report
