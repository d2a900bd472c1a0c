import SnippetBench.Proofs.Except
import SnippetBench.Proofs.Number.FixedPlaces
import SnippetBench.Proofs.Report.TableRun

/-!
# Rows

A row shows the name of a snippet in its first cell and, in its second, what came of it: the statistics
or the error. Both are written by the rule for cells (`formatOutcome_markdown`). The rule does nothing to
statistics, since none of the characters that mean something in a table occur in them (`plain_shown`).
-/

namespace SnippetBench.Report

open Number (Binary64)
open Number.Decimal (fixed placed isDigit_of_mem_ofNat isDigit_of_mem_padStart)

/-! ### Texts without meaning in a table -/

/-- Whether a character neither bounds or escapes anything in a table nor ends a line. -/
def isPlain (c : Char) : Bool := c ≠ '|' && c ≠ '\\' && c ≠ '\n' && c ≠ '\r'

/-- A text of such characters. -/
def Plain (t : Text) : Prop := ∀ c ∈ t, isPlain c = true

instance (t : Text) : Decidable (Plain t) := List.decidableBAll (isPlain · = true) t

variable {s t : Text} {n : Int} {outcome : Outcome}

theorem Plain.append (hs : Plain s) (ht : Plain t) : Plain (s ++ t) := fun c hc =>
  (List.mem_append.mp hc).elim (hs c) (ht c)

theorem Plain.of_digits (h : ∀ c ∈ t, c.isDigit = true) : Plain t := by
  intro c hc
  have hdigit := h c hc
  unfold isPlain
  by_contra hplain
  simp only [ne_eq, decide_not, Bool.and_eq_true, Bool.not_eq_true', decide_eq_false_iff_not,
    not_and_or, not_not] at hplain
  rcases hplain with ((rfl | rfl) | rfl) | rfl <;> exact absurd hdigit (by decide)

theorem plain_ofNat (n : Nat) : Plain (Text.ofNat n) := .of_digits fun _ => isDigit_of_mem_ofNat

theorem plain_ofInt (n : Int) : Plain (Text.ofInt n) := by
  cases n with
  | ofNat n => exact plain_ofNat n
  | negSucc n => exact Plain.append (s := ['-']) (by decide) (plain_ofNat _)

theorem plain_placed (places units : Nat) : Plain (placed places units) := by
  unfold placed
  dsimp only
  split
  · exact plain_ofNat _
  · exact (plain_ofNat _).append
      (Plain.append (s := ['.']) (by decide) (.of_digits fun _ => isDigit_of_mem_padStart))

theorem plain_fixed (places : Nat) (x : Binary64) : Plain (fixed places x) := by
  have hsign : ∀ negative, Plain (Number.Decimal.sign negative) := by decide
  unfold fixed
  split
  · decide
  · exact (hsign _).append (by decide)
  · exact (hsign _).append (plain_placed _ _)

/-- A printed whole number of microseconds. -/
theorem plain_format (h : (Micros.whole n).format = .ok t) : Plain t := by
  have hmap : ∀ (size places : Nat) {symbol : Text}, Plain symbol →
      ((Micros.whole n).inUnits size).map (fun x => fixed places x ++ symbol) = .ok t → Plain t := by
    intro size places symbol hsymbol h
    obtain ⟨x, -, rfl⟩ := map_eq_ok_iff.mp h
    exact (plain_fixed places x).append hsymbol
  unfold Micros.format at h
  split at h
  · exact hmap 1 0 (by decide) h
  · split at h
    · exact hmap 1000 2 (by decide) h
    · exact hmap 1000000 2 (by decide) h

/-! ### Cells -/

/-- What is shown of an outcome, before it is written as a cell. -/
def Outcome.shown : Outcome → Except DurationError Text
  | .stats s => do
    let spread ← spreadText s
    let mean ← (Micros.whole s.mean).format
    return mean ++ ' ' :: spread
  | .failure kind text => .ok (kind ++ ": " ++ text)

/-- The text of the error of an outcome, which is empty for statistics. -/
def Outcome.errorText : Outcome → Text
  | .stats _ => []
  | .failure kind text => kind ++ ": " ++ text

/-- Statistics are shown without characters that mean something. -/
theorem plain_shown {stats : Stats} (h : (Outcome.stats stats).shown = .ok t) : Plain t := by
  obtain ⟨spread, hspread, h⟩ := bind_eq_ok_iff.mp h
  obtain ⟨mean, hmean, h⟩ := bind_eq_ok_iff.mp h
  obtain ⟨std, hstd, rfl⟩ := map_eq_ok_iff.mp hspread
  cases h
  have hopen : Plain "(std. " := by decide
  have hbetween : Plain " o. " := by decide
  have hclose : Plain "%)" := by decide
  have hblank : Plain [' '] := by decide
  exact (plain_format hmean).append (hblank.append
    ((((hopen.append (plain_format hstd)).append hbetween).append (plain_ofInt _)).append hclose))

/-- What is the same for all plain texts is the same for what is shown and for the text of the error. -/
theorem eq_of_shown {α : Type} (f : Text → α) (hplain : ∀ t, Plain t → f t = f [])
    (h : outcome.shown = .ok t) : f t = f outcome.errorText := by
  cases outcome with
  | failure kind text =>
    cases h
    rfl
  | stats stats => exact hplain t (plain_shown h)

theorem cell_of_plain (h : Plain t) : cell t = t := by
  have hchar : ∀ c ∈ t, (if c = '|' then ['\\', '|'] else if c = '\n' then [' '] else [c]) = [c] := by
    intro c hc
    have hplain := h c hc
    rw [if_neg, if_neg]
    · rintro rfl
      exact absurd hplain (by decide)
    · rintro rfl
      exact absurd hplain (by decide)
  rw [cell, List.flatMap_congr hchar, List.flatMap_singleton' t]

/-- **A row** is the cell with the name and the cell with what is shown, between pipes. -/
theorem formatOutcome_markdown (name : Text) (outcome : Outcome) :
    formatOutcome name true outcome = outcome.shown.map fun t =>
      "| " ++ cell name ++ " | " ++ cell t ++ " |" := by
  cases outcome with
  | failure kind text => rfl
  | stats stats =>
    cases hspread : spreadText stats with
    | error e =>
      rw [formatOutcome, Outcome.shown, hspread]
      rfl
    | ok spread =>
      cases hmean : (Micros.whole stats.mean).format with
      | error e =>
        rw [formatOutcome, Outcome.shown, hspread, hmean]
        rfl
      | ok mean =>
        have hshown : (Outcome.stats stats).shown = .ok (mean ++ ' ' :: spread) := by
          rw [Outcome.shown, hspread, hmean]
          rfl
        have hcell := cell_of_plain (plain_shown hshown)
        rw [formatOutcome, hspread, hmean, hshown, Except.map, hcell, ← List.append_assoc _ mean]
        rfl

/-- A row is printed if the numbers in it can be. -/
theorem exists_row (h : outcome.IsPrintable) (name : Text) :
    ∃ t, outcome.shown = .ok t ∧
      formatOutcome name true outcome = .ok ("| " ++ cell name ++ " | " ++ cell t ++ " |") := by
  obtain ⟨row, hrow⟩ := exists_formatOutcome h name true
  have hmarkdown := formatOutcome_markdown name outcome
  rw [hrow] at hmarkdown
  obtain ⟨t, ht, rfl⟩ := map_eq_ok_iff.mp hmarkdown.symm
  exact ⟨t, ht, hrow⟩

end SnippetBench.Report
