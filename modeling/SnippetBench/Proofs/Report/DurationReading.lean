import SnippetBench.Report.Duration
import SnippetBench.Proofs.Number.FixedPlaces
import SnippetBench.Proofs.Number.Nearest
import Mathlib.Algebra.Order.Field.Power

/-!
# Durations read back

A printed duration is read as a number of units, and with the size of its unit as a number of
microseconds. A whole number of microseconds is rounded twice, to a floating point number and then to
two places. What is read back is a whole number of steps of the last place (`exists_format_eq`), so of
the first rounding, which is wrong by less than a microsecond, nothing is left but the side of a tie.
Hence the number that is read is at most half a step away from the one that was printed, and larger
numbers are not read as smaller ones, even where the unit changes between them (`format_faithful`).
-/

namespace SnippetBench.Report

open Number (Binary64 roundHalfEven)
open Number.Decimal (fixed placed readFixed?)

/-- A unit in which durations are printed. -/
inductive Scale
  | micro
  | milli
  | second
  deriving DecidableEq, Repr

namespace Scale

/-- The symbol behind a number of units. -/
def symbol : Scale → Text
  | micro => "μs"
  | milli => "ms"
  | second => "s"

/-- The number of microseconds in a unit. -/
def size : Scale → Nat
  | micro => 1
  | milli => 1000
  | second => 1000000

/-- The number of decimal places of a printed number of units. -/
def places : Scale → Nat
  | micro => 0
  | milli => 2
  | second => 2

/-- The number of microseconds in a unit of the last printed digit. -/
def step : Scale → Nat
  | micro => 1
  | milli => 10
  | second => 10000

/-- How far a printed number may be away from the exact one: half of the last printed digit, and not at
all where microseconds are printed in full. -/
def slack : Scale → Nat
  | micro => 0
  | milli => 5
  | second => 5000

/-- The unit with a symbol. -/
def ofSymbol? (t : Text) : Option Scale := [micro, milli, second].find? (·.symbol = t)

/-- The unit in which a number of microseconds is printed. -/
def ofCount (n : Int) : Scale :=
  if n < 1000 then micro else if n < 1000000 then milli else second

end Scale

/-- What a printed duration says. -/
structure Reading where
  amount : Rat
  scale : Scale
  deriving DecidableEq

/-- The number of microseconds that a printed duration says. -/
def Reading.value (r : Reading) : Rat := r.amount * r.scale.size

/-- Reads a printed duration: a decimal number and the symbol of a unit. -/
def readDuration? (t : Text) : Option Reading := do
  let (amount, symbol) ← readFixed? t
  let scale ← Scale.ofSymbol? symbol
  return ⟨amount, scale⟩

variable {n a b : Int}

/-! ### Reading -/

theorem readDuration?_placed (s : Scale) (units : Nat) :
    readDuration? (placed s.places units ++ s.symbol) = some ⟨(units : Rat) / 10 ^ s.places, s⟩ := by
  have hend : ∀ c, s.symbol.head? = some c → c.isDigit = false ∧ c ≠ '.' := by
    intro c hc
    cases s <;> cases hc <;> decide
  have hsymbol : Scale.ofSymbol? s.symbol = some s := by
    cases s <;> decide
  simp only [readDuration?, Number.Decimal.readFixed?_placed_append _ _ hend, Option.bind_eq_bind,
    Option.bind_some, hsymbol, Option.pure_def]

/-- The number that is read is a whole number of steps. -/
theorem value_eq_steps (s : Scale) (units : Nat) :
    Reading.value ⟨(units : Rat) / 10 ^ s.places, s⟩ = ((s.step * units : Int) : Rat) := by
  cases s <;> simp only [Reading.value, Scale.places, Scale.size, Scale.step] <;> push_cast <;> ring

/-! ### Printing -/

theorem ofCount_cases (n : Int) :
    (n < 1000 ∧ Scale.ofCount n = .micro) ∨
      (1000 ≤ n ∧ n < 1000000 ∧ Scale.ofCount n = .milli) ∨
      (1000000 ≤ n ∧ Scale.ofCount n = .second) := by
  unfold Scale.ofCount
  split
  · exact .inl ⟨by assumption, rfl⟩
  · split
    · exact .inr (.inl ⟨by omega, by assumption, rfl⟩)
    · exact .inr (.inr ⟨by omega, rfl⟩)

theorem format_whole (n : Int) :
    (Micros.whole n).format = ((Micros.whole n).inUnits (Scale.ofCount n).size).map fun x =>
      fixed (Scale.ofCount n).places x ++ (Scale.ofCount n).symbol := by
  unfold Micros.format Micros.below
  rcases ofCount_cases n with ⟨h, hs⟩ | ⟨h, h', hs⟩ | ⟨h, hs⟩
  · rw [hs, if_pos (by simpa using h)]
    rfl
  · rw [hs, if_neg (by simpa using h), if_pos (by simpa using h')]
    rfl
  · have h' : ¬ n < 1000 := by omega
    rw [hs, if_neg (by simpa using h'), if_neg (by simpa using h)]
    rfl

theorem one_le_size (s : Scale) : (1 : Rat) ≤ s.size := by cases s <;> norm_num [Scale.size]

theorem size_le (s : Scale) : (s.size : Rat) ≤ 1000000 := by cases s <;> norm_num [Scale.size]

/-- The quotient of a number of microseconds is so near to the exact one that the number itself, as it
follows from the quotient, is wrong by at most the share `2 ^ -53` of it. -/
theorem exists_inUnits_eq (s : Scale) (hn : 0 ≤ n) (hlt : n < 2 ^ 53) :
    ∃ m e, (Micros.whole n).inUnits s.size = .ok (.finite false m e) ∧
      |(m : Rat) * (2 : Rat) ^ e * s.size - n| ≤ n / 2 ^ 53 := by
  rcases hn.eq_or_lt with rfl | hpos
  · refine ⟨0, Binary64.minExponent, ?_, by norm_num⟩
    rw [Micros.inUnits, Int.cast_zero, zero_div]
    rfl
  · have hsize : (0 : Rat) < s.size := zero_lt_one.trans_le (one_le_size s)
    have hone : (1 : Rat) ≤ n := by exact_mod_cast hpos
    have hq : (0 : Rat) < n / s.size := by positivity
    have hlow : (2 : Rat) ^ (-1022 : Int) ≤ n / s.size :=
      calc (2 : Rat) ^ (-1022 : Int)
        _ ≤ 2 ^ (-20 : Int) := zpow_le_zpow_right₀ (by norm_num) (by norm_num)
        _ ≤ 1 / 1000000 := by norm_num
        _ ≤ n / s.size := by
          have := size_le s
          gcongr
    have hhigh : (n : Rat) / s.size < (2 : Rat) ^ (1023 : Int) :=
      calc (n : Rat) / s.size
        _ ≤ n := div_le_self (by positivity) (one_le_size s)
        _ < 2 ^ (53 : Int) := by exact_mod_cast hlt
        _ ≤ 2 ^ (1023 : Int) := zpow_le_zpow_right₀ (by norm_num) (by norm_num)
    obtain ⟨m, e, hround, hnear⟩ := Binary64.exists_round_eq hlow hhigh false
    refine ⟨m, e, ?_, ?_⟩
    · rw [Micros.inUnits, Binary64.ofRat, if_neg hq.le.not_gt, decide_eq_false hq.le.not_gt, hround]
    · calc |(m : Rat) * 2 ^ e * s.size - n|
        _ = |(m : Rat) * 2 ^ e - n / s.size| * s.size := by
          rw [← abs_of_pos hsize, ← abs_mul, abs_of_pos hsize, sub_mul, div_mul_cancel₀ _ hsize.ne']
        _ ≤ n / s.size / 2 ^ 53 * s.size := by gcongr
        _ = n / 2 ^ 53 := by field_simp

theorem step_mul_pow_places (s : Scale) : (s.step : Rat) * 10 ^ s.places = s.size := by
  cases s <;> norm_num [Scale.step, Scale.places, Scale.size]

/-- Half a step and what the first rounding adds is less than a microsecond beyond the slack. -/
theorem half_step_add_lt (hlt : n < 2 ^ 53) :
    ((Scale.ofCount n).step : Rat) / 2 + n / 2 ^ 53 < (Scale.ofCount n).slack + 1 := by
  have hfirst : (n : Rat) / 2 ^ 53 < 1 := by
    rw [div_lt_one (by norm_num)]
    exact_mod_cast hlt
  rcases ofCount_cases n with ⟨h, hs⟩ | ⟨-, -, hs⟩ | ⟨-, hs⟩
  · have hsmall : (n : Rat) < 1000 := by exact_mod_cast h
    rw [hs]
    norm_num [Scale.step, Scale.slack]
    linarith
  · rw [hs]
    norm_num [Scale.step, Scale.slack]
    linarith
  · rw [hs]
    norm_num [Scale.step, Scale.slack]
    linarith

/-- What is printed is a number of steps, and as near to the exact number as the unit allows. -/
theorem exists_format_eq (hn : 0 ≤ n) (hlt : n < 2 ^ 53) :
    ∃ units : Nat, (Micros.whole n).format =
        .ok (placed (Scale.ofCount n).places units ++ (Scale.ofCount n).symbol) ∧
      |((Scale.ofCount n).step * units : Int) - n| ≤ (Scale.ofCount n).slack := by
  have hslack := half_step_add_lt hlt
  generalize hs : Scale.ofCount n = s at hslack ⊢
  obtain ⟨m, e, hunits, hnear⟩ := exists_inUnits_eq s hn hlt
  refine ⟨(roundHalfEven ((m : Rat) * 2 ^ e * 10 ^ s.places)).toNat, ?_, ?_⟩
  · rw [format_whole, hs, hunits]
    rfl
  · have hround := Number.abs_roundHalfEven_sub_le ((m : Rat) * 2 ^ e * 10 ^ s.places)
    rw [Int.toNat_of_nonneg (Number.roundHalfEven_nonneg (by positivity))]
    generalize roundHalfEven ((m : Rat) * 2 ^ e * 10 ^ s.places) = units at hround
    have hstep : (0 : Rat) ≤ s.step := Nat.cast_nonneg _
    have hsteps : |(s.step : Rat) * units - m * 2 ^ e * s.size| ≤ s.step / 2 := by
      calc |(s.step : Rat) * units - m * 2 ^ e * s.size|
        _ = s.step * |(units : Rat) - m * 2 ^ e * 10 ^ s.places| := by
          rw [← step_mul_pow_places, ← abs_of_nonneg hstep, ← abs_mul, abs_of_nonneg hstep]
          ring_nf
        _ ≤ s.step * (1 / 2) := by gcongr
        _ = s.step / 2 := by ring
    -- the difference is an integer, so what it exceeds the slack by is nothing
    have hlt : |(s.step : Rat) * units - n| < s.slack + 1 :=
      calc |(s.step : Rat) * units - n|
        _ ≤ |(s.step : Rat) * units - m * 2 ^ e * s.size| + |(m : Rat) * 2 ^ e * s.size - n| :=
          abs_sub_le _ _ _
        _ ≤ s.step / 2 + n / 2 ^ 53 := add_le_add hsteps hnear
        _ < s.slack + 1 := hslack
    exact Int.lt_add_one_iff.mp (by exact_mod_cast hlt)

/-- Numbers that are read from durations are in the order of the numbers that were printed. -/
theorem steps_le_steps {u v : Nat} (hab : a < b)
    (ha : |((Scale.ofCount a).step * u : Int) - a| ≤ (Scale.ofCount a).slack)
    (hb : |((Scale.ofCount b).step * v : Int) - b| ≤ (Scale.ofCount b).slack) :
    ((Scale.ofCount a).step * u : Int) ≤ (Scale.ofCount b).step * v := by
  rw [abs_le] at ha hb
  rcases ofCount_cases a with ⟨h, hs⟩ | ⟨h, h', hs⟩ | ⟨h, hs⟩
  all_goals
    rcases ofCount_cases b with ⟨k, ks⟩ | ⟨k, k', ks⟩ | ⟨k, ks⟩
    all_goals
      rw [hs] at ha
      rw [ks] at hb
      rw [hs, ks]
      simp only [Scale.step, Scale.slack] at ha hb ⊢
      omega

/-- A duration is read as a number of steps that is as near to the exact number as the unit allows. -/
theorem exists_reading (hn : 0 ≤ n) (hlt : n < 2 ^ 53) :
    ∃ (t : Text) (units : Nat), (Micros.whole n).format = .ok t ∧
      (∃ r, readDuration? t = some r ∧ r.scale = Scale.ofCount n ∧
        r.value = (((Scale.ofCount n).step * units : Int) : Rat)) ∧
      |((Scale.ofCount n).step * units : Int) - n| ≤ (Scale.ofCount n).slack := by
  obtain ⟨units, hformat, hnear⟩ := exists_format_eq hn hlt
  exact ⟨_, units, hformat, ⟨_, readDuration?_placed _ _, rfl, value_eq_steps _ _⟩, hnear⟩

/-- **Printed durations are faithful and ordered.** Every whole number of microseconds below `2 ^ 53` is
printed in its unit. What is read back is at most half of the last printed digit away from it, and no
greater for a smaller number. -/
theorem format_faithful (ha : 0 ≤ a) (hab : a ≤ b) (hb : b < 2 ^ 53) :
    ∃ s t r q, (Micros.whole a).format = .ok s ∧ (Micros.whole b).format = .ok t ∧
      readDuration? s = some r ∧ readDuration? t = some q ∧
      r.scale = Scale.ofCount a ∧ q.scale = Scale.ofCount b ∧ r.value ≤ q.value ∧
      |r.value - a| ≤ r.scale.slack ∧ |q.value - b| ≤ q.scale.slack := by
  choose text units hformat hread hnear using
    fun (n : Int) (h : 0 ≤ n ∧ n < 2 ^ 53) => exists_reading h.1 h.2
  have ha' : 0 ≤ a ∧ a < 2 ^ 53 := ⟨ha, by omega⟩
  have hb' : 0 ≤ b ∧ b < 2 ^ 53 := ⟨by omega, hb⟩
  obtain ⟨r, hr, hscale, hvalue⟩ := hread a ha'
  obtain ⟨q, hq, hscale', hvalue'⟩ := hread b hb'
  have hle : ((Scale.ofCount a).step * units a ha' : Int) ≤ (Scale.ofCount b).step * units b hb' := by
    rcases hab.eq_or_lt with rfl | hlt
    · exact le_rfl
    · exact steps_le_steps hlt (hnear a ha') (hnear b hb')
  refine ⟨_, _, r, q, hformat a ha', hformat b hb', hr, hq, hscale, hscale', ?_, ?_, ?_⟩
  · rw [hvalue, hvalue']
    exact_mod_cast hle
  · rw [hvalue, hscale]
    exact_mod_cast hnear a ha'
  · rw [hvalue', hscale']
    exact_mod_cast hnear b hb'

/-- A number that lies in the middle between two printed ones, and one in the next unit. -/
theorem format_faithful_switch :
    (0 : Int) ≤ 999995 ∧ (999995 : Int) ≤ 1000000 ∧ (1000000 : Int) < 2 ^ 53 ∧
      ∃ s t r q, (Micros.whole 999995).format = .ok s ∧ (Micros.whole 1000000).format = .ok t ∧
        readDuration? s = some r ∧ readDuration? t = some q ∧
        r.scale = .milli ∧ q.scale = .second ∧ r.value ≤ q.value ∧
        |r.value - 999995| ≤ 5 ∧ |q.value - 1000000| ≤ 5000 := by
  obtain ⟨s, t, r, q, hs, ht, hr, hq, hscale, hscale', hle, hnear, hnear'⟩ :=
    format_faithful (a := 999995) (b := 1000000) (by decide) (by decide) (by decide)
  rw [hscale] at hnear
  rw [hscale'] at hnear'
  exact ⟨by decide, by decide, by decide, s, t, r, q, hs, ht, hr, hq, hscale, hscale', hle,
    by exact_mod_cast hnear, by exact_mod_cast hnear'⟩

end SnippetBench.Report
