import SnippetBench.Proofs.Number.SameValue
import SnippetBench.Proofs.Report.Sorting
import Mathlib.Data.List.Forall2

/-!
# The order of the trials

In floating point, equal samples can differ: a zero has two signs, and a stable sort leaves the zeros in
the order of the trials. So two orders of the same finite samples are sorted into two lists that agree in
value only, position by position (`ascending_sameValue`). Whatever is computed from values alone agrees
again: the fences, the choice of the kept samples, their sum, mean and deviations. The results agree up
to the sign of a zero, which no rounding to a whole number sees, and so the statistics are the same
(`reduce_eq_of_perm`).
-/

namespace SnippetBench.Report

open Number (Binary64)
open Number.Binary64 (SameValue SameUpToZero)

variable {xs ys : List Binary64}

/-! ### Sums and means -/

theorem total_sameValue (h : List.Forall₂ SameValue xs ys) : SameValue (total xs) (total ys) :=
  List.rel_foldl (fun _ _ hsum _ _ hx => (hsum.add hx).sameValue) (.refl _) h

theorem mean_sameUpToZero (h : List.Forall₂ SameValue xs ys) : SameUpToZero (mean xs) (mean ys) := by
  rw [mean, mean, h.length_eq]
  exact (total_sameValue h).div _

theorem spread_sameUpToZero {center center' : Binary64} (hcenter : SameValue center center')
    (h : List.Forall₂ SameValue xs ys) : SameUpToZero (spread center xs) (spread center' ys) := by
  refine mean_sameUpToZero (List.rel_map (fun v w hv => ?_) h)
  have hdeviation := (hv.sub hcenter).sameValue
  exact (hdeviation.mul hdeviation).sameValue

/-! ### Kept samples -/

theorem getElem?_sameValue (h : List.Forall₂ SameValue xs ys) (i : Nat) :
    Option.Rel SameValue xs[i]? ys[i]? := by
  induction h generalizing i with
  | nil => exact .none
  | cons hx _ ih =>
    cases i with
    | zero => exact .some hx
    | succ i => exact ih i

theorem fences?_sameValue (h : List.Forall₂ SameValue xs ys) :
    Option.Rel (fun f f' => SameValue f.1 f'.1 ∧ SameValue f.2 f'.2) (fences? xs) (fences? ys) := by
  have hbottom := getElem?_sameValue h (lowerIndex xs.length)
  have htop := getElem?_sameValue h (upperIndex xs.length)
  rw [fences?, fences?, ← h.length_eq]
  revert hbottom htop
  generalize xs[lowerIndex xs.length]? = bottom, xs[upperIndex xs.length]? = top
  generalize ys[lowerIndex xs.length]? = bottom', ys[upperIndex xs.length]? = top'
  intro hbottom htop
  cases hbottom with
  | none => exact .none
  | some hbottom =>
    cases htop with
    | none => exact .none
    | some htop =>
      have hfactor := SameValue.refl (((3 : Nat) : Binary64) / ((2 : Nat) : Binary64))
      have hmargin := ((htop.sub hbottom).sameValue.mul hfactor).sameValue
      exact .some ⟨(hbottom.sub hmargin).sameValue, (htop.add hmargin).sameValue⟩

theorem forall₂_sameValue (hx : ∀ x ∈ xs, x.isFinite = true) (hy : ∀ y ∈ ys, y.isFinite = true)
    (h : xs.map Binary64.toRat = ys.map Binary64.toRat) : List.Forall₂ SameValue xs ys := by
  induction xs generalizing ys with
  | nil =>
    rw [List.map_nil, eq_comm, List.map_eq_nil_iff] at h
    subst h
    exact .nil
  | cons x xs ih =>
    cases ys with
    | nil => cases h
    | cons y ys =>
      obtain ⟨hhead, htail⟩ := List.cons.inj h
      rw [List.forall_mem_cons] at hx hy
      exact .cons (.of_isFinite hx.1 hy.1 hhead) (ih hx.2 hy.2 htail)

/-- **Two orders of the same finite samples** are sorted into lists of the same values. -/
theorem ascending_sameValue (h : xs.Perm ys) (hfinite : ∀ x ∈ xs, x.isFinite = true) :
    List.Forall₂ SameValue (ascending xs) (ascending ys) := by
  have hfinite' : ∀ y ∈ ys, y.isFinite = true := fun y hy => hfinite y (h.mem_iff.mpr hy)
  have hvalues {zs : List Binary64} (hz : ∀ z ∈ zs, z.isFinite = true) :
      (ascending zs).map Binary64.toRat = ascending (zs.map Binary64.toRat) :=
    (ascending_map _ (fun z hmem => Binary64.le_self_of_isFinite (hz z hmem)) fun a ha b hb =>
      Binary64.le_iff_toRat_le (hz a ha) (hz b hb)).symm
  have hmem {zs : List Binary64} (hz : ∀ z ∈ zs, z.isFinite = true) :
      ∀ z ∈ ascending zs, z.isFinite = true := fun z hmem =>
    hz z ((ascending_perm_of_refl fun a ha => Binary64.le_self_of_isFinite (hz a ha)).mem_iff.mp hmem)
  refine forall₂_sameValue (hmem hfinite) (hmem hfinite') ?_
  rw [hvalues hfinite, hvalues hfinite', ascending_eq_of_perm (h.map _)]

theorem keptSamples_sameValue (h : xs.Perm ys) (hfinite : ∀ x ∈ xs, x.isFinite = true) :
    List.Forall₂ SameValue (keptSamples xs) (keptSamples ys) := by
  have hordered := ascending_sameValue h hfinite
  have hfences := fences?_sameValue hordered
  unfold keptSamples
  dsimp only
  revert hfences
  generalize fences? (ascending xs) = fences, fences? (ascending ys) = fences'
  intro hfences
  cases hfences with
  | none => exact .nil
  | some hfences =>
    obtain ⟨hlow, hhigh⟩ := hfences
    refine List.rel_filter (fun v w hv => ?_) hordered
    simp only [Bool.and_eq_true, decide_eq_true_eq, hlow.le_iff hv, hv.le_iff hhigh]

/-! ### Statistics -/

theorem floatHalfUp_eq {x y : Binary64} (h : SameValue x y) : floatHalfUp x = floatHalfUp y := by
  rw [floatHalfUp, floatHalfUp, (h.add (.refl _)).sameValue.floor_eq]

theorem thousandRoots_eq {x y : Binary64} (h : SameUpToZero x y) :
    Rounding.thousandRoots x = Rounding.thousandRoots y :=
  floatHalfUp_eq (h.sqrt.sameValue.mul (.refl _)).sameValue

theorem squareTooLarge_eq {x y : Binary64} (h : SameValue x y) :
    Rounding.squareTooLarge x = Rounding.squareTooLarge y := by
  change (x.isFinite && !(x * x).isFinite) = (y.isFinite && !(y * y).isFinite)
  rw [h.isFinite_eq, (h.mul h).sameValue.isFinite_eq]

theorem any_squareTooLarge_eq {center center' : Binary64} (hcenter : SameValue center center')
    (h : List.Forall₂ SameValue xs ys) :
    (xs.any fun v => Rounding.squareTooLarge (v - center)) =
      ys.any fun v => Rounding.squareTooLarge (v - center') := by
  induction h with
  | nil => rfl
  | cons hx _ ih => rw [List.any_cons, List.any_cons, ih, squareTooLarge_eq (hx.sub hcenter).sameValue]

/-- **The order of the trials does not matter.** Two orders of the same finite samples are reduced to the
same statistics, or fail with the same error. -/
theorem reduce_eq_of_perm (h : xs.Perm ys) (hfinite : ∀ x ∈ xs, x.isFinite = true) :
    reduce xs = reduce ys := by
  have hkept := keptSamples_sameValue h hfinite
  have hmean := (mean_sameUpToZero hkept).sameValue
  have hisEmpty {zs zs' : List Binary64} (hlength : zs.length = zs'.length) :
      zs.isEmpty = zs'.isEmpty := by
    cases zs <;> cases zs' <;> first | rfl | cases hlength
  have hcenter : Rounding.halfUp (mean (keptSamples xs) * ((1000 : Nat) : Binary64)) =
      Rounding.halfUp (mean (keptSamples ys) * ((1000 : Nat) : Binary64)) :=
    floatHalfUp_eq (hmean.mul (.refl _)).sameValue
  unfold reduce
  dsimp only
  rw [hisEmpty h.length_eq, hisEmpty hkept.length_eq, any_squareTooLarge_eq hmean hkept, hcenter,
    thousandRoots_eq (spread_sameUpToZero hmean hkept), hkept.length_eq, h.length_eq]

/-- Two orders of samples with both zeros. -/
theorem reduce_eq_of_perm_zeros :
    let xs : List Binary64 := [.zero false, .finite false Binary64.leastFull (-50), .zero true]
    let ys : List Binary64 := [.zero true, .finite false Binary64.leastFull (-50), .zero false]
    xs.Perm ys ∧ (∀ x ∈ xs, x.isFinite = true) ∧ reduce xs = reduce ys := by
  intro xs ys
  have hperm : xs.Perm ys := by decide
  have hfinite : ∀ x ∈ xs, x.isFinite = true := by decide
  exact ⟨hperm, hfinite, reduce_eq_of_perm hperm hfinite⟩

end SnippetBench.Report
