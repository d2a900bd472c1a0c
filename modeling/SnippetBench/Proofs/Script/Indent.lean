import SnippetBench.Script.Block
import SnippetBench.Proofs.Text.BreakLines

/-!
# Indentation undone

The lines of a text are still broken lines when each of them is indented, so the lines of an
indented text are the indented lines of the text (`breakLines_indent`). Taking the margin from them
gives the text back (`unindent_indent`), whatever line ends the text has and however blank its
lines are.
-/

namespace SnippetBench.Script

open Text (Broken IsUnbroken breakLines isAllBlank isLineBreak)

variable {margin line : Text} {lines : List Text}

/-- A line with the margin before it, if it is not blank. -/
def indentLine (margin line : Text) : Text := if isAllBlank line then line else margin ++ line

/-- A line that is not blank without the first characters, of which there are `width`. -/
def unindentLine (width : Nat) (line : Text) : Text :=
  if isAllBlank line then line else line.drop width

/-- The text with `width` characters taken from the start of every line that is not blank. -/
def unindent (width : Nat) (t : Text) : Text := (breakLines t).flatMap (unindentLine width)

theorem indent_eq_flatten (margin t : Text) :
    indent margin t = ((breakLines t).map (indentLine margin)).flatten := by
  rw [← List.flatMap_def]
  rfl

theorem unindentLine_indentLine (margin line : Text) :
    unindentLine margin.length (indentLine margin line) = line := by
  unfold indentLine
  split
  · next h => rw [unindentLine, if_pos h]
  · next h =>
    have hblank : ¬ isAllBlank (margin ++ line) = true := fun hall => by
      simp only [isAllBlank, List.all_append, Bool.and_eq_true] at hall
      exact h hall.2
    rw [unindentLine, if_neg hblank, List.drop_left]

/-- Indented lines start with a line feed only if the lines do. -/
theorem head?_map_indentLine (hmargin : IsUnbroken margin) (h : Broken lines)
    (hhead : lines.flatten.head? ≠ some '\n') :
    (lines.map (indentLine margin)).flatten.head? ≠ some '\n' := by
  cases lines with
  | nil => simp
  | cons line lines =>
    obtain ⟨c, line, rfl⟩ := List.exists_cons_of_ne_nil h.ne_nil
    rw [List.map_cons, List.flatten_cons, indentLine]
    split
    · exact hhead
    · cases margin with
      | nil => exact hhead
      | cons d margin =>
        have hd := hmargin d List.mem_cons_self
        simp only [List.cons_append, List.head?_cons, ne_eq, Option.some.injEq]
        rintro rfl
        exact absurd hd (by decide)

/-- Broken lines are still broken lines when each of them is indented. -/
theorem broken_map_indentLine (hmargin : IsUnbroken margin) (h : Broken lines) :
    Broken (lines.map (indentLine margin)) := by
  have hindented : ∀ {body : Text}, IsUnbroken body → IsUnbroken (margin ++ body) :=
    fun hbody c hc => by
      rcases List.mem_append.mp hc with hc | hc
      · exact hmargin c hc
      · exact hbody c hc
  induction h with
  | nil => exact .nil
  | last hne hbody =>
    rw [List.map_singleton, indentLine]
    split
    · exact .last hne hbody
    · exact .last (by simp [hne]) (hindented hbody)
  | cons hbody hending hapart h ih =>
    have hapart' := fun e => head?_map_indentLine hmargin h (hapart e)
    rw [List.map_cons, indentLine]
    split
    · exact .cons hbody hending hapart' ih
    · rw [← List.append_assoc]
      exact .cons (hindented hbody) hending hapart' ih

/-- The lines of an indented text are the indented lines of the text. -/
theorem breakLines_indent (hmargin : IsUnbroken margin) (t : Text) :
    breakLines (indent margin t) = (breakLines t).map (indentLine margin) := by
  rw [indent_eq_flatten]
  exact (broken_map_indentLine hmargin (Text.broken_breakLines t)).breakLines_flatten

/-- Taking the margin from an indented text gives the text back. -/
theorem unindent_indent (hmargin : IsUnbroken margin) (t : Text) :
    unindent margin.length (indent margin t) = t := by
  have hline : unindentLine margin.length ∘ indentLine margin = id :=
    funext (unindentLine_indentLine margin)
  rw [unindent, breakLines_indent hmargin, List.flatMap_def, List.map_map, hline, List.map_id,
    Text.flatten_breakLines]

end SnippetBench.Script
