import SnippetBench.Number.Decimal
import SnippetBench.Proofs.Text.Trim
import Mathlib.Algebra.Order.Field.Rat
import Mathlib.Tactic.FieldSimp
import Mathlib.Tactic.Ring

/-!
# Numerals with fixed places read back

A numeral with fixed places consists of the digits of its whole part and, behind a point, of as many
digits as it has places, the first of which may be zeros. Read from the start of a text it gives the
number of units of its last place that was written (`readFixed?_placed_append`).
-/

namespace SnippetBench.Number.Decimal

/-- The number that decimal digits write. -/
def valueOf (digits : Text) : Nat := Nat.ofDigitChars 10 digits 0

/-- Reads the numeral at the start of a text, which may have a point and decimal places behind it: its
value and what follows it. There is a digit on either side of the point. -/
def readFixed? (t : Text) : Option (Rat × Text) :=
  let whole := t.takeWhile Char.isDigit
  if whole.isEmpty then none
  else match t.dropWhile Char.isDigit with
    | '.' :: rest =>
      let places := rest.takeWhile Char.isDigit
      if places.isEmpty then none
      else some (valueOf whole + valueOf places / 10 ^ places.length, rest.dropWhile Char.isDigit)
    | rest => some (valueOf whole, rest)

variable {whole part rest : Text} {places n : Nat}

theorem readFixed?_whole (hne : whole ≠ []) (hwhole : ∀ c ∈ whole, c.isDigit = true)
    (hrest : ∀ c, rest.head? = some c → c.isDigit = false ∧ c ≠ '.') :
    readFixed? (whole ++ rest) = some ((valueOf whole : Rat), rest) := by
  have hend : ∀ c, rest.head? = some c → c.isDigit = false := fun c hc => (hrest c hc).1
  have hempty : whole.isEmpty = false := List.isEmpty_eq_false_iff.mpr hne
  rw [readFixed?, Text.takeWhile_run hwhole hend, Text.dropWhile_run hwhole hend]
  dsimp only
  rw [hempty, if_neg Bool.false_ne_true]
  split
  · exact absurd rfl (hrest '.' rfl).2
  · rfl

theorem readFixed?_pointed (hne : whole ≠ []) (hwhole : ∀ c ∈ whole, c.isDigit = true)
    (hpartNe : part ≠ []) (hpart : ∀ c ∈ part, c.isDigit = true)
    (hrest : ∀ c, rest.head? = some c → c.isDigit = false) :
    readFixed? (whole ++ '.' :: (part ++ rest)) =
      some ((valueOf whole : Rat) + valueOf part / 10 ^ part.length, rest) := by
  have hpoint : ∀ c, ('.' :: (part ++ rest)).head? = some c → c.isDigit = false := fun c hc => by
    cases hc
    rfl
  have hempty : whole.isEmpty = false := List.isEmpty_eq_false_iff.mpr hne
  have hpartEmpty : part.isEmpty = false := List.isEmpty_eq_false_iff.mpr hpartNe
  rw [readFixed?, Text.takeWhile_run hwhole hpoint, Text.dropWhile_run hwhole hpoint]
  simp only [hempty, hpartEmpty, Bool.false_eq_true, if_false, Text.takeWhile_run hpart hrest,
    Text.dropWhile_run hpart hrest]

/-! ### Written digits -/

theorem isDigit_of_mem_ofNat {c : Char} (h : c ∈ Text.ofNat n) : c.isDigit = true :=
  Nat.isDigit_of_mem_toDigits (by decide) (by decide) h

theorem ofNat_ne_nil (n : Nat) : Text.ofNat n ≠ [] := Nat.toDigits_ne_nil

theorem valueOf_ofNat (n : Nat) : valueOf (Text.ofNat n) = n :=
  Nat.ofDigitChars_toDigits (by decide) (by decide)

theorem valueOf_padStart (width : Nat) (digits : Text) :
    valueOf (Text.padStart width '0' digits) = valueOf digits := by
  have hzeros : ∀ k, Nat.ofDigitChars 10 (List.replicate k '0') 0 = 0 := fun k => by
    induction k with
    | zero => rfl
    | succ k ih =>
      rw [List.replicate_succ, Nat.ofDigitChars_cons]
      exact ih
  rw [valueOf, Text.padStart, Nat.ofDigitChars_append, hzeros, valueOf]

theorem isDigit_of_mem_padStart {c : Char} (h : c ∈ Text.padStart places '0' (Text.ofNat n)) :
    c.isDigit = true := by
  rcases List.mem_append.mp h with h | h
  · rw [List.eq_of_mem_replicate h]
    rfl
  · exact isDigit_of_mem_ofNat h

theorem length_padStart_ofNat (hplaces : 0 < places) (hn : n < 10 ^ places) :
    (Text.padStart places '0' (Text.ofNat n)).length = places := by
  have hlength : (Text.ofNat n).length ≤ places :=
    (Nat.length_toDigits_le_iff (by decide) hplaces).mpr hn
  rw [Text.padStart, List.length_append, List.length_replicate]
  omega

/-- **Reading a numeral with fixed places** gives the units of its last place. -/
theorem readFixed?_placed_append (places units : Nat)
    (hrest : ∀ c, rest.head? = some c → c.isDigit = false ∧ c ≠ '.') :
    readFixed? (placed places units ++ rest) = some ((units : Rat) / 10 ^ places, rest) := by
  unfold placed
  dsimp only
  by_cases hplaces : places = 0
  · rw [if_pos hplaces, readFixed?_whole (ofNat_ne_nil _) (fun c => isDigit_of_mem_ofNat) hrest,
      valueOf_ofNat, hplaces]
    simp
  · have hmod : units % 10 ^ places < 10 ^ places := Nat.mod_lt _ (Nat.pow_pos (by decide))
    have hlength : (Text.padStart places '0' (Text.ofNat (units % Nat.pow 10 places))).length = places :=
      length_padStart_ofNat (Nat.pos_of_ne_zero hplaces) hmod
    have hne : Text.padStart places '0' (Text.ofNat (units % Nat.pow 10 places)) ≠ [] := fun h =>
      hplaces (by rw [← hlength, h]; rfl)
    have hsplit : (units : Rat) = 10 ^ places * (units / Nat.pow 10 places : Nat) +
        (units % Nat.pow 10 places : Nat) := by
      exact_mod_cast (Nat.div_add_mod units (10 ^ places)).symm
    rw [if_neg hplaces, List.append_assoc, List.cons_append,
      readFixed?_pointed (ofNat_ne_nil _) (fun c => isDigit_of_mem_ofNat) hne
        (fun c => isDigit_of_mem_padStart) (fun c hc => (hrest c hc).1),
      hlength, valueOf_padStart, valueOf_ofNat, valueOf_ofNat]
    congr 2
    rw [hsplit]
    field_simp

end SnippetBench.Number.Decimal
