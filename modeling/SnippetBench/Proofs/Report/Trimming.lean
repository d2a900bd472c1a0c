import SnippetBench.Report.Statistics
import Mathlib.Algebra.Order.Ring.Rat
import Mathlib.Data.Rat.Floor
import Mathlib.Tactic.Linarith
import Mathlib.Tactic.Ring

/-!
# Trimmed samples

In exact arithmetic, trimming cuts the sorted samples into three runs: those below the fences, those
that are kept, and those above (`exists_parts`). Both quartiles and all samples between them are kept
(`exists_fences`), and more than half of the positions lie there (`QuartilePositions.half_lt`). So the
kept samples are a middle run with more than half of the samples, and at most half of them, in
percent, are reported as outliers (`reduce_trims`).
-/

namespace SnippetBench.Report

/-! ### The positions of the quartiles -/

/-- The positions of the quartiles among `count` sorted values: a quarter of the values, rounded down,
and three quarters, rounded up. Only below four values the second is cut to the last position. -/
structure QuartilePositions (count bottom top : Nat) : Prop where
  bottom_eq : (bottom : Int) = ⌊(count : Rat) / 4⌋
  top_eq : (top : Int) = min ⌈(count : Rat) / 4 * 3⌉ (count - 1)
  top_unclamped : 4 ≤ count → (top : Int) = ⌈(count : Rat) / 4 * 3⌉
  bottom_le_top : bottom ≤ top
  top_le_last : top ≤ count - 1
  top_lt : top < count

theorem floor_quarter (count : Nat) : ⌊(count : Rat) / 4⌋ = ((count / 4 : Nat) : Int) := by
  have h := Rat.floor_natCast_div_natCast count 4
  push_cast at h ⊢
  exact h

theorem ceil_three_quarters (count : Nat) :
    ⌈(count : Rat) / 4 * 3⌉ = (((3 * count + 3) / 4 : Nat) : Int) := by
  have hquotient : (count : Rat) / 4 * 3 = ((3 * count : Nat) : Rat) / ((4 : Nat) : Rat) := by
    push_cast
    ring
  rw [hquotient, Rat.ceil_natCast_div_natCast]
  push_cast
  omega

theorem quartilePositions {count : Nat} (h : 0 < count) :
    QuartilePositions count (lowerIndex count) (upperIndex count) := by
  have hlower : lowerIndex count = count / 4 := rfl
  have hupper : upperIndex count = min ((3 * count + 3) / 4) (count - 1) := rfl
  refine ⟨?_, ?_, fun hfour => ?_, ?_, ?_, ?_⟩
  · rw [floor_quarter, hlower]
  · rw [ceil_three_quarters, hupper]
    omega
  · rw [ceil_three_quarters, hupper]
    omega
  all_goals omega

/-! ### Sorted values between two bounds -/

theorem pairwise_ascending (samples : List Rat) : (ascending samples).Pairwise (· ≤ ·) := by
  have hall : samples.all (fun x => decide (x ≤ x)) = true := by simp
  have htrans : ∀ a b c : Rat, decide (a ≤ b) = true → decide (b ≤ c) = true →
      decide (a ≤ c) = true := by
    intro a b c hab hbc
    simp only [decide_eq_true_eq] at *
    exact le_trans hab hbc
  have htotal : ∀ a b : Rat, (decide (a ≤ b) || decide (b ≤ a)) = true := by
    intro a b
    simpa using le_total a b
  rw [ascending, if_pos hall]
  exact (List.pairwise_mergeSort htrans htotal samples).imp fun h => by simpa using h

theorem ascending_perm (samples : List Rat) : (ascending samples).Perm samples := by
  have hall : samples.all (fun x => decide (x ≤ x)) = true := by simp
  rw [ascending, if_pos hall]
  exact List.mergeSort_perm samples _

variable {xs : List Rat}

theorem le_of_position_le (hsorted : xs.Pairwise (· ≤ ·)) {i j : Nat} (h : i ≤ j) {v w : Rat}
    (hi : xs[i]? = some v) (hj : xs[j]? = some w) : v ≤ w := by
  obtain ⟨hi', rfl⟩ := List.getElem?_eq_some_iff.mp hi
  obtain ⟨hj', rfl⟩ := List.getElem?_eq_some_iff.mp hj
  rcases Nat.lt_or_eq_of_le h with hlt | rfl
  · exact List.pairwise_iff_getElem.mp hsorted i j hi' hj' hlt
  · exact le_refl _

/-- Sorted values are those below both bounds, those between them, and those above, in this order. -/
theorem exists_parts (hsorted : xs.Pairwise (· ≤ ·)) (low high : Rat) :
    ∃ below above, xs = below ++ xs.filter (fun v => low ≤ v && v ≤ high) ++ above ∧
      (∀ v ∈ below, v < low) ∧ ∀ v ∈ above, high < v := by
  induction xs with
  | nil => exact ⟨[], [], rfl, by simp, by simp⟩
  | cons x xs ih =>
    obtain ⟨hx, hsorted⟩ := List.pairwise_cons.mp hsorted
    obtain ⟨below, above, hparts, hbelow, habove⟩ := ih hsorted
    by_cases hlow : x < low
    · refine ⟨x :: below, above, ?_, List.forall_mem_cons.mpr ⟨hlow, hbelow⟩, habove⟩
      have hfilter : (x :: xs).filter (fun v => low ≤ v && v ≤ high) =
          xs.filter fun v => low ≤ v && v ≤ high := List.filter_cons_of_neg (by simp [hlow])
      rw [hfilter, List.cons_append, List.cons_append, ← hparts]
    · by_cases hhigh : high < x
      · have habove' : ∀ v ∈ x :: xs, high < v := by
          refine List.forall_mem_cons.mpr ⟨hhigh, fun v hv => ?_⟩
          exact lt_of_lt_of_le hhigh (hx v hv)
        have hfilter : (x :: xs).filter (fun v => low ≤ v && v ≤ high) = [] :=
          List.filter_eq_nil_iff.mpr fun v hv => by simp [habove' v hv]
        refine ⟨[], x :: xs, ?_, by simp, habove'⟩
        rw [hfilter]
        rfl
      · -- Nothing behind a kept value is below the bounds.
        have hnil : below = [] := by
          refine List.eq_nil_iff_forall_not_mem.mpr fun v hv => ?_
          have hmem : v ∈ xs := by
            rw [hparts]
            simp [hv]
          exact hlow (lt_of_le_of_lt (hx v hmem) (hbelow v hv))
        subst hnil
        have hfilter : (x :: xs).filter (fun v => low ≤ v && v ≤ high) =
            x :: xs.filter fun v => low ≤ v && v ≤ high :=
          List.filter_cons_of_pos (by simp [not_lt.mp hlow, not_lt.mp hhigh])
        refine ⟨[], above, ?_, by simp, habove⟩
        rw [hfilter, List.nil_append, List.cons_append]
        rw [List.nil_append] at hparts
        rw [← hparts]

/-! ### The samples that are kept -/

/-- Sorted values cut into three runs, where all positions from `bottom` to `top` are in the middle run,
which is kept, and the values of the other runs are apart from all that are kept. -/
structure IsTrimmed (ordered below kept above : List Rat) (bottom top : Nat) : Prop where
  parts : ordered = below ++ kept ++ above
  bottom_kept : below.length ≤ bottom
  top_kept : top < below.length + kept.length
  below_lt : ∀ v ∈ below, ∀ w ∈ kept, v < w
  lt_above : ∀ v ∈ above, ∀ w ∈ kept, w < v

/-- The fences are outside all values from the lower to the upper quartile. -/
theorem exists_fences (hsorted : xs.Pairwise (· ≤ ·)) (hne : xs ≠ []) :
    ∃ low high, fences? xs = some (low, high) ∧
      ∀ i v, lowerIndex xs.length ≤ i → i ≤ upperIndex xs.length → xs[i]? = some v →
        low ≤ v ∧ v ≤ high := by
  have hpositions := quartilePositions (List.length_pos_iff.mpr hne)
  have htop := hpositions.top_lt
  have hbottom := lt_of_le_of_lt hpositions.bottom_le_top htop
  have hbottom' := List.getElem?_eq_getElem hbottom
  have htop' := List.getElem?_eq_getElem htop
  generalize xs[lowerIndex xs.length] = bottom at hbottom'
  generalize xs[upperIndex xs.length] = top at htop'
  have hle := le_of_position_le hsorted hpositions.bottom_le_top hbottom' htop'
  refine ⟨_, _, by rw [fences?, hbottom', htop']; rfl, fun i v hi hi' hv => ?_⟩
  have hbottomv := le_of_position_le hsorted hi hbottom' hv
  have hvtop := le_of_position_le hsorted hi' hv htop'
  have hmargin : 0 ≤ (top - bottom) * (((3 : Nat) : Rat) / ((2 : Nat) : Rat)) :=
    mul_nonneg (sub_nonneg.mpr hle) (by norm_num)
  constructor <;> linarith

/-- A value within the bounds stands behind all values below them and before all values above them. -/
theorem position_of_inside {below kept above : List Rat} {low high v : Rat}
    (hbelow : ∀ v ∈ below, v < low) (habove : ∀ v ∈ above, high < v) {i : Nat}
    (hv : (below ++ kept ++ above)[i]? = some v) (hinside : low ≤ v ∧ v ≤ high) :
    below.length ≤ i ∧ i < below.length + kept.length := by
  constructor
  · by_contra hlt
    rw [List.append_assoc, List.getElem?_append_left (by omega)] at hv
    exact absurd (hbelow v (List.mem_of_getElem? hv)) (not_lt.mpr hinside.1)
  · by_contra hlt
    have hlast : (below ++ kept).length ≤ i := by
      rw [List.length_append]
      omega
    rw [List.getElem?_append_right hlast] at hv
    exact absurd (habove v (List.mem_of_getElem? hv)) (not_lt.mpr hinside.2)

variable {samples : List Rat}

/-- The kept samples are a middle run of the sorted samples. -/
theorem exists_isTrimmed (h : samples ≠ []) :
    ∃ below above, IsTrimmed (ascending samples) below (keptSamples samples) above
      (lowerIndex samples.length) (upperIndex samples.length) := by
  have hsorted := pairwise_ascending samples
  have hlength := (ascending_perm samples).length_eq
  have hne : ascending samples ≠ [] := fun e => h ((e ▸ ascending_perm samples).nil_eq.symm)
  have hpositions := quartilePositions (List.length_pos_iff.mpr h)
  obtain ⟨low, high, hfences, hinside⟩ := exists_fences hsorted hne
  rw [hlength] at hinside
  obtain ⟨below, above, hparts, hbelow, habove⟩ := exists_parts hsorted low high
  have hkept : keptSamples samples =
      (ascending samples).filter fun v => low ≤ v && v ≤ high := by
    rw [keptSamples, hfences]
  have hbounds : ∀ w ∈ keptSamples samples, low ≤ w ∧ w ≤ high := fun w hw => by
    rw [hkept] at hw
    simpa using (List.mem_filter.mp hw).2
  rw [← hkept] at hparts
  have hmiddle : ∀ i, lowerIndex samples.length ≤ i → i ≤ upperIndex samples.length →
      below.length ≤ i ∧ i < below.length + (keptSamples samples).length := by
    intro i hi hi'
    obtain ⟨v, hv⟩ : ∃ v, (ascending samples)[i]? = some v :=
      ⟨_, List.getElem?_eq_getElem (by rw [hlength]; exact lt_of_le_of_lt hi' hpositions.top_lt)⟩
    exact position_of_inside hbelow habove (hparts ▸ hv) (hinside i v hi hi' hv)
  exact ⟨below, above, hparts, (hmiddle _ (le_refl _) hpositions.bottom_le_top).1,
    (hmiddle _ hpositions.bottom_le_top (le_refl _)).2,
    fun v hv w hw => lt_of_lt_of_le (hbelow v hv) (hbounds w hw).1,
    fun v hv w hw => lt_of_le_of_lt (hbounds w hw).2 (habove v hv)⟩

/-- More than half of the values are kept, since more than half of the positions are those from the
lower to the upper quartile. -/
theorem IsTrimmed.half_lt {ordered below kept above : List Rat} {count : Nat} (hcount : 0 < count)
    (h : IsTrimmed ordered below kept above (lowerIndex count) (upperIndex count)) :
    count < 2 * kept.length := by
  have hbottom := h.bottom_kept
  have htop := h.top_kept
  unfold lowerIndex at hbottom
  unfold upperIndex at htop
  omega

theorem IsTrimmed.length_kept_le {ordered below kept above : List Rat} {bottom top : Nat}
    (h : IsTrimmed ordered below kept above bottom top) : kept.length ≤ ordered.length := by
  rw [h.parts, List.length_append, List.length_append]
  omega

theorem keptSamples_ne_nil (h : samples ≠ []) : keptSamples samples ≠ [] := by
  obtain ⟨below, above, htrimmed⟩ := exists_isTrimmed h
  have hhalf := htrimmed.half_lt (List.length_pos_iff.mpr h)
  intro hnil
  simp [hnil] at hhalf

theorem keptSamples_subset (h : samples ≠ []) : keptSamples samples ⊆ samples := by
  obtain ⟨below, above, htrimmed⟩ := exists_isTrimmed h
  intro v hv
  rw [← (ascending_perm samples).mem_iff, htrimmed.parts]
  simp [hv]

/-! ### The share of outliers -/

/-- Where more than half of the samples are kept, the share of outliers is from 0 to 50 percent. -/
theorem roundHalfUp_outlierShare {kept count : Nat} (hle : kept ≤ count) (hlt : count < 2 * kept) :
    0 ≤ Number.roundHalfUp (outlierShare (α := Rat) kept count) ∧
      Number.roundHalfUp (outlierShare (α := Rat) kept count) ≤ 50 := by
  have hcount : (0 : Rat) < count := by
    have : 0 < count := by omega
    exact_mod_cast this
  have hall : ((kept * 100 : Nat) : Rat) / count ≤ 100 := by
    rw [div_le_iff₀ hcount]
    have : kept * 100 ≤ 100 * count := by omega
    exact_mod_cast this
  have hhalf : 50 < ((kept * 100 : Nat) : Rat) / count := by
    rw [lt_div_iff₀ hcount]
    have : 50 * count < kept * 100 := by omega
    exact_mod_cast this
  have hhundred : ((100 : Nat) : Rat) = 100 := rfl
  rw [Number.roundHalfUp, outlierShare, hhundred]
  constructor
  · rw [Rat.le_floor_iff]
    push_cast at hall ⊢
    linarith
  · rw [← Int.lt_add_one_iff, Rat.floor_lt_iff]
    push_cast at hhalf ⊢
    linarith

/-- In exact arithmetic nothing but the lack of kept samples stops a reduction. -/
theorem reduce_eq_ok (hkept : keptSamples samples ≠ []) (h : samples ≠ []) :
    reduce samples = .ok ⟨Number.roundHalfUp (mean (keptSamples samples) * ((1000 : Nat) : Rat)),
      ratThousandRoots (variance (keptSamples samples)),
      Number.roundHalfUp (outlierShare (α := Rat) (keptSamples samples).length samples.length)⟩ := by
  have hsquares : ((keptSamples samples).any fun v =>
      Rounding.squareTooLarge (v - mean (keptSamples samples))) = false :=
    List.any_eq_false.mpr fun v _ => by simp [Rounding.squareTooLarge]
  rw [reduce, if_neg (by simpa using h)]
  simp only [List.isEmpty_iff, hkept, if_false, hsquares]
  rfl

/-- Trimming keeps a middle run of the sorted samples that has more than half of them, all positions
from the lower to the upper quartile among them, and the reduction of the samples succeeds, with at
most 50 percent of outliers. -/
theorem reduce_trims (h : samples ≠ []) :
    QuartilePositions samples.length (lowerIndex samples.length) (upperIndex samples.length) ∧
      (ascending samples).Perm samples ∧ (ascending samples).Pairwise (· ≤ ·) ∧
      (∃ below above, IsTrimmed (ascending samples) below (keptSamples samples) above
        (lowerIndex samples.length) (upperIndex samples.length)) ∧
      samples.length < 2 * (keptSamples samples).length ∧
      ∃ stats, reduce samples = .ok stats ∧ 0 ≤ stats.outliers ∧ stats.outliers ≤ 50 := by
  have hcount := List.length_pos_iff.mpr h
  obtain ⟨below, above, htrimmed⟩ := exists_isTrimmed h
  have hhalf := htrimmed.half_lt hcount
  have hle := htrimmed.length_kept_le
  rw [(ascending_perm samples).length_eq] at hle
  have hkept : keptSamples samples ≠ [] := fun e => by simp [e] at hhalf
  exact ⟨quartilePositions hcount, ascending_perm samples, pairwise_ascending samples,
    ⟨below, above, htrimmed⟩, hhalf, _, reduce_eq_ok hkept h, roundHalfUp_outlierShare hle hhalf⟩

theorem reduce_trims_spike :
    ([1, 1, 1, 50, 1, 1, 1 / 1000, 1] : List Rat) ≠ [] ∧
      8 < 2 * (keptSamples [1, 1, 1, 50, 1, 1, 1 / 1000, (1 : Rat)]).length ∧
      ∃ stats, reduce [1, 1, 1, 50, 1, 1, 1 / 1000, (1 : Rat)] = .ok stats ∧
        0 ≤ stats.outliers ∧ stats.outliers ≤ 50 :=
  ⟨by simp, (@reduce_trims [1, 1, 1, 50, 1, 1, 1 / 1000, 1] (by simp)).2.2.2.2⟩

end SnippetBench.Report
