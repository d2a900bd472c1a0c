import SnippetBench.Number.Binary64
import Mathlib.Algebra.Order.Field.Rat
import Mathlib.Data.Rat.Floor
import Mathlib.Tactic.Linarith
import Mathlib.Tactic.Positivity

/-!
# Rounding to the nearest number

A rational is rounded to an integer that is at most half a unit away (`abs_roundHalfEven_sub_le`). A
floating point number is such an integer of units of its last place. Where significands have their full
length, one unit is at most the share `2 ^ -52` of the number, so the rounded number differs from the
exact one by at most half of that share (`Binary64.exists_round_eq`).
-/

namespace SnippetBench.Number

/-! ### The nearest integer -/

/-- The nearest integer is at most half a unit away. -/
theorem abs_roundHalfEven_sub_le (q : Rat) : |(roundHalfEven q : Rat) - q| ≤ 1 / 2 := by
  have hlow : (q.floor : Rat) ≤ q := Rat.floor_le q
  have hhigh : q < q.floor + 1 := by linarith [Rat.lt_floor (x := q)]
  unfold roundHalfEven
  dsimp only
  split
  · rw [abs_le]
    constructor <;> linarith
  · split
    · push_cast
      rw [abs_le]
      constructor <;> linarith
    · have htie : q = q.floor + 1 / 2 := by linarith
      rcases Int.emod_two_eq_zero_or_one q.floor with h | h
      · rw [h, abs_le]
        push_cast
        constructor <;> linarith
      · rw [h, abs_le]
        push_cast
        constructor <;> linarith

theorem roundHalfEven_nonneg {q : Rat} (h : 0 ≤ q) : 0 ≤ roundHalfEven q := by
  have hnear := abs_le.mp (abs_roundHalfEven_sub_le q)
  have hlow : (-1 : Rat) < roundHalfEven q := by linarith
  have hint : (-1 : Int) < roundHalfEven q := by exact_mod_cast hlow
  omega

/-! ### The nearest floating point number -/

/-- The power of two with the binary exponent does not exceed the number. -/
theorem two_zpow_binaryExponent_le {q : Rat} (h : 0 < q) : (2 : Rat) ^ binaryExponent q ≤ q := by
  unfold binaryExponent
  dsimp only
  split
  · assumption
  · have hnum : q.num.natAbs ≠ 0 := by simpa using h.ne'
    have hn : ((2 ^ q.num.natAbs.log2 : Nat) : Rat) ≤ q.num.natAbs := by
      exact_mod_cast Nat.log2_self_le hnum
    have hd : (q.den : Rat) ≤ ((2 ^ (q.den.log2 + 1) : Nat) : Rat) := by
      exact_mod_cast Nat.lt_log2_self.le
    have hq : q = (q.num.natAbs : Rat) / q.den := by
      have hpos : 0 < q.num := Rat.num_pos.mpr h
      rw [Nat.cast_natAbs, abs_of_pos hpos, Rat.num_div_den]
    have hden : (0 : Rat) < q.den := by exact_mod_cast q.den_pos
    calc (2 : Rat) ^ ((q.num.natAbs.log2 : Int) - (q.den.log2 : Int) - 1)
      _ = ((2 ^ q.num.natAbs.log2 : Nat) : Rat) / ((2 ^ (q.den.log2 + 1) : Nat) : Rat) := by
        rw [sub_sub, zpow_sub₀ (by norm_num)]
        push_cast
        rfl
      _ ≤ (q.num.natAbs : Rat) / q.den := by gcongr
      _ = q := hq.symm

namespace Binary64

/-- **Rounding to the nearest number.** In the range of the numbers with full significands the rounded
number is finite, and it differs from the exact one by at most the share `2 ^ -53` of it. -/
theorem exists_round_eq {q : Rat} (hlow : (2 : Rat) ^ (-1022 : Int) ≤ q)
    (hhigh : q < (2 : Rat) ^ (1023 : Int)) (negative : Bool) :
    ∃ m e, round negative q = .finite negative m e ∧ |(m : Rat) * (2 : Rat) ^ e - q| ≤ q / 2 ^ 53 := by
  have hpos : 0 < q := lt_of_lt_of_le (zpow_pos (by norm_num) _) hlow
  have hk := two_zpow_binaryExponent_le hpos
  have htop : binaryExponent q < 1023 :=
    (zpow_lt_zpow_iff_right₀ (by norm_num)).mp (lt_of_le_of_lt hk hhigh)
  have hfull (k : Int) : (2 : Rat) ^ (k - 52) * 2 ^ 52 = 2 ^ k := by
    rw [zpow_sub₀ (by norm_num)]
    norm_num
  unfold round
  rw [if_neg (not_le.mpr hpos)]
  dsimp only
  generalize he : max (binaryExponent q - 52) minExponent = e
  -- the significand has its full length, so the unit is a small share of the number
  have hunit : (2 : Rat) ^ e * 2 ^ 52 ≤ q := by
    rcases max_choice (binaryExponent q - 52) minExponent with h | h
    · rw [← he, h, hfull]
      exact hk
    · rw [← he, h]
      exact (hfull (-1022)).trans_le hlow
  have hunitPos : (0 : Rat) < 2 ^ e := zpow_pos (by norm_num) e
  generalize hm : (roundHalfEven (q / 2 ^ e)).toNat = m
  have hcast : (m : Rat) = roundHalfEven (q / 2 ^ e) := by
    have hnonneg : 0 ≤ roundHalfEven (q / 2 ^ e) := roundHalfEven_nonneg (by positivity)
    rw [← hm]
    exact_mod_cast Int.toNat_of_nonneg hnonneg
  have hnear : |(m : Rat) * 2 ^ e - q| ≤ q / 2 ^ 53 := by
    have hround := abs_roundHalfEven_sub_le (q / 2 ^ e)
    calc |(m : Rat) * 2 ^ e - q|
      _ = |(roundHalfEven (q / 2 ^ e) : Rat) - q / 2 ^ e| * 2 ^ e := by
        rw [hcast, ← abs_of_pos hunitPos, ← abs_mul, abs_of_pos hunitPos, sub_mul,
          div_mul_cancel₀ _ hunitPos.ne']
      _ ≤ 1 / 2 * 2 ^ e := by gcongr
      _ ≤ q / 2 ^ 53 := by linarith
  have hmax : e ≤ 970 := by
    rw [← he]
    exact max_le (by omega) (by decide)
  by_cases hcarry : m = 2 * leastFull
  · rw [if_pos hcarry]
    dsimp only
    rw [if_neg (by simp only [maxExponent]; omega)]
    refine ⟨_, _, rfl, ?_⟩
    have hvalue : ((leastFull : Nat) : Rat) * 2 ^ (e + 1) = m * 2 ^ e := by
      rw [hcarry, zpow_add_one₀ (by norm_num)]
      push_cast
      ring
    rw [hvalue]
    exact hnear
  · rw [if_neg hcarry]
    dsimp only
    rw [if_neg (by simp only [maxExponent]; omega)]
    exact ⟨m, e, rfl, hnear⟩

end Binary64

end SnippetBench.Number
