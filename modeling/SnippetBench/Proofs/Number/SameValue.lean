import SnippetBench.Number.Binary64
import Mathlib.Algebra.Order.Field.Rat
import Mathlib.Tactic.Positivity

/-!
# Numbers of the same value

A value can have several representations: zero has two signs, and a significand and an exponent can be
changed against each other. Comparisons and integer parts see the value only. An operation on numbers of
the same value gives the same number, up to the sign of a zero, since it rounds a rational that depends on
the values (`SameValue.add`, `SameValue.sub`, `SameValue.mul`, `SameValue.div`).
-/

namespace SnippetBench.Number.Binary64

/-- Two numbers of the same value: the same infinity, both not-a-number, or two finite numbers that stand
for the same rational. -/
inductive SameValue : Binary64 → Binary64 → Prop
  | nan : SameValue nan nan
  | infinite (negative : Bool) : SameValue (infinite negative) (infinite negative)
  | finite {s s' : Bool} {m m' : Nat} {e e' : Int}
      (value : (finite s m e).toRat = (finite s' m' e').toRat) :
      SameValue (finite s m e) (finite s' m' e')

/-- Two numbers that are the same up to the sign of a zero. -/
inductive SameUpToZero : Binary64 → Binary64 → Prop
  | same (x : Binary64) : SameUpToZero x x
  | zeros (s s' : Bool) : SameUpToZero (zero s) (zero s')

variable {x x' y y' : Binary64}

/-! ### Magnitude and sign -/

theorem magnitude_nonneg (x : Binary64) : 0 ≤ x.magnitude := by
  cases x with
  | finite => exact mul_nonneg (Nat.cast_nonneg _) (zpow_nonneg (by norm_num) _)
  | nan => exact le_refl _
  | infinite => exact le_refl _

theorem magnitude_eq_abs_toRat (x : Binary64) : x.magnitude = |x.toRat| := by
  unfold toRat
  split
  · rw [abs_neg, abs_of_nonneg x.magnitude_nonneg]
  · rw [abs_of_nonneg x.magnitude_nonneg]

theorem isNegative_eq_of_magnitude_ne_zero (h : x.magnitude ≠ 0) :
    x.isNegative = decide (x.toRat < 0) := by
  have hpos : 0 < x.magnitude := lt_of_le_of_ne x.magnitude_nonneg h.symm
  unfold toRat
  cases x.isNegative with
  | true => simpa using hpos
  | false => simpa using hpos.le

theorem magnitude_eq_of_toRat_eq (h : x.toRat = y.toRat) : x.magnitude = y.magnitude := by
  rw [magnitude_eq_abs_toRat, magnitude_eq_abs_toRat, h]

/-- The value determines the sign, unless it is zero. -/
theorem isNegative_eq_of_toRat_eq (h : x.toRat = y.toRat) (hy : y.magnitude ≠ 0) :
    x.isNegative = y.isNegative := by
  have hx : x.magnitude ≠ 0 := magnitude_eq_of_toRat_eq h ▸ hy
  rw [isNegative_eq_of_magnitude_ne_zero hx, isNegative_eq_of_magnitude_ne_zero hy, h]

/-- The sign is of no account for the rounding of zero. -/
theorem round_sameUpToZero {s s' : Bool} {q : Rat} (h : q ≠ 0 → s = s') :
    SameUpToZero (round s q) (round s' q) := by
  by_cases hq : q = 0
  · have hzero (s : Bool) : round s q = zero s := by rw [round, if_pos hq.le]
    rw [hzero, hzero]
    exact .zeros s s'
  · rw [h hq]
    exact .same _

/-- Nor is it for an infinite result that only a number other than zero has. -/
theorem infinite_sameUpToZero {s s' : Bool} {q : Rat} (h : q ≠ 0 → s = s') :
    SameUpToZero (if q = 0 then nan else infinite s) (if q = 0 then nan else infinite s') := by
  by_cases hq : q = 0
  · rw [if_pos hq, if_pos hq]
    exact .same _
  · rw [h hq]
    exact .same _

/-! ### Comparisons and integer parts -/

theorem le_self_of_isFinite (h : x.isFinite = true) : x ≤ x := by
  cases x with
  | finite s m e => exact decide_eq_true (le_refl (finite s m e).toRat)
  | nan => cases h
  | infinite => cases h

theorem le_iff_toRat_le (hx : x.isFinite = true) (hy : y.isFinite = true) :
    x.toRat ≤ y.toRat ↔ x ≤ y := by
  cases x with
  | nan => cases hx
  | infinite => cases hx
  | finite =>
    cases y with
    | nan => cases hy
    | infinite => cases hy
    | finite => exact decide_eq_true_iff.symm

namespace SameValue

theorem refl : ∀ x, SameValue x x
  | .nan => .nan
  | .infinite s => .infinite s
  | .finite .. => .finite rfl

theorem of_isFinite (hx : x.isFinite = true) (hy : y.isFinite = true) (h : x.toRat = y.toRat) :
    SameValue x y := by
  cases x with
  | nan => cases hx
  | infinite => cases hx
  | finite =>
    cases y with
    | nan => cases hy
    | infinite => cases hy
    | finite => exact .finite h

theorem le_eq (hx : SameValue x x') (hy : SameValue y y') : le x y = le x' y' := by
  cases hx with
  | nan => rfl
  | infinite s => cases hy <;> cases s <;> rfl
  | finite hx =>
    cases hy with
    | nan => rfl
    | infinite t => cases t <;> rfl
    | finite hy => simp only [le, hx, hy]

theorem le_iff (hx : SameValue x x') (hy : SameValue y y') : x ≤ y ↔ x' ≤ y' :=
  Bool.eq_iff_iff.mp (hx.le_eq hy)

theorem isFinite_eq (h : SameValue x y) : x.isFinite = y.isFinite := by
  cases h <;> rfl

theorem floor_eq (h : SameValue x y) : x.floor = y.floor := by
  cases h with
  | nan => rfl
  | infinite => rfl
  | finite h => simp only [floor, h]

/-! ### Operations -/

theorem neg (h : SameValue x y) : SameValue x.neg y.neg := by
  cases h with
  | nan => exact .nan
  | infinite s => exact .infinite _
  | @finite s s' m m' e e' h =>
    have hneg (s : Bool) (m : Nat) (e : Int) :
        (Binary64.finite (!s) m e).toRat = -(Binary64.finite s m e).toRat := by
      cases s <;> simp [toRat, isNegative, magnitude]
    exact .finite (by rw [hneg, hneg, h])

theorem add (hx : SameValue x x') (hy : SameValue y y') : SameUpToZero (x + y) (x' + y') := by
  cases hx with
  | nan => exact .same _
  | infinite s => cases hy <;> exact .same _
  | finite hx =>
    cases hy with
    | nan => exact .same _
    | infinite t => exact .same _
    | finite hy =>
      change SameUpToZero (Binary64.add _ _) (Binary64.add _ _)
      simp only [Binary64.add, hx, hy]
      split
      · exact .zeros _ _
      · exact .same _

theorem sub (hx : SameValue x x') (hy : SameValue y y') : SameUpToZero (x - y) (x' - y') :=
  hx.add hy.neg

/-- The values determine the sign of a product that is not zero. -/
theorem mul (hx : SameValue x x') (hy : SameValue y y') : SameUpToZero (x * y) (x' * y') := by
  change SameUpToZero (Binary64.mul _ _) (Binary64.mul _ _)
  cases hx with
  | nan => exact .same _
  | infinite s =>
    cases hy with
    | nan => exact .same _
    | infinite t => exact .same _
    | finite hy =>
      simp only [Binary64.mul, isFinite, Bool.false_and, Bool.false_or, Bool.true_and,
        Bool.false_eq_true, if_false, magnitude_eq_of_toRat_eq hy, decide_eq_true_eq]
      exact infinite_sameUpToZero fun hne => by rw [isNegative_eq_of_toRat_eq hy hne]
  | finite hx =>
    cases hy with
    | nan => exact .same _
    | infinite t =>
      simp only [Binary64.mul, isFinite, Bool.false_and, Bool.or_false, Bool.true_and, Bool.and_false,
        Bool.false_eq_true, if_false, magnitude_eq_of_toRat_eq hx, decide_eq_true_eq]
      exact infinite_sameUpToZero fun hne => by rw [isNegative_eq_of_toRat_eq hx hne]
    | finite hy =>
      simp only [Binary64.mul, isFinite, Bool.and_self, if_true, magnitude_eq_of_toRat_eq hx,
        magnitude_eq_of_toRat_eq hy]
      refine round_sameUpToZero fun hne => ?_
      obtain ⟨hne, hne'⟩ := mul_ne_zero_iff.mp hne
      rw [isNegative_eq_of_toRat_eq hx hne, isNegative_eq_of_toRat_eq hy hne']

theorem div (hx : SameValue x x') (y : Binary64) : SameUpToZero (x / y) (x' / y) := by
  change SameUpToZero (Binary64.div _ _) (Binary64.div _ _)
  cases hx with
  | nan => exact .same _
  | infinite s => exact .same _
  | finite hx =>
    cases y with
    | nan => exact .same _
    | infinite t => exact .zeros _ _
    | finite =>
      simp only [Binary64.div, magnitude_eq_of_toRat_eq hx]
      split
      · exact infinite_sameUpToZero fun hne => by rw [isNegative_eq_of_toRat_eq hx hne]
      · refine round_sameUpToZero fun hne => ?_
        rw [isNegative_eq_of_toRat_eq hx (div_ne_zero_iff.mp hne).1]

end SameValue

/-! ### Up to the sign of a zero -/

namespace SameUpToZero

theorem sameValue (h : SameUpToZero x y) : SameValue x y := by
  cases h with
  | same => exact .refl x
  | zeros s s' => exact .finite (by cases s <;> cases s' <;> simp [toRat, magnitude])

/-- The root of a zero is that zero. -/
theorem sqrt (h : SameUpToZero x y) : SameUpToZero x.sqrt y.sqrt := by
  cases h with
  | same => exact .same _
  | zeros s s' => exact .zeros s s'

end SameUpToZero

end SnippetBench.Number.Binary64
