import SnippetBench.Proofs.Script.BlockLines
import SnippetBench.Proofs.Script.BlockReading
import SnippetBench.Proofs.Script.LineIndent

/-!
# The timed code

The lines of a block that are timed stand between the line that counts down and the line that stores
the result (`timedLines`). They are the lines of the code, each of them indented by itself
(`timedLines_block`). So they are the lines as they stand in the code, behind the margin, unless one of
them has a line break character inside (`timedLines_wrap`); then its text is changed, as that of a
string with a form feed (`timedLines_formFeed`).
-/

namespace SnippetBench.Script

open Document (Snippet)
open Text (isAllBlank)

/-- What stands between the first of the lines that is `first` and the last that is `last`. -/
def linesBetween (first last : Text) (lines : List Text) : List Text :=
  ((lines.dropWhile (· ≠ first)).tail.reverse.dropWhile (· ≠ last)).tail.reverse

theorem linesBetween_append {first last : Text} {before after : List Text} (hfirst : first ∉ before)
    (hlast : last ∉ after) (body : List Text) :
    linesBetween first last (before ++ first :: (body ++ last :: after)) = body := by
  have hbefore : ∀ line ∈ before, decide (line ≠ first) = true := fun line hline =>
    decide_eq_true fun e => hfirst (e ▸ hline)
  have hafter : ∀ line ∈ after.reverse, decide (line ≠ last) = true := fun line hline =>
    decide_eq_true fun e => hlast (e ▸ List.mem_reverse.mp hline)
  rw [linesBetween, List.dropWhile_append_of_pos hbefore, List.dropWhile_cons_of_neg (by simp),
    List.tail_cons, List.reverse_append, List.reverse_cons, List.append_assoc,
    List.dropWhile_append_of_pos hafter, List.singleton_append, List.dropWhile_cons_of_neg (by simp),
    List.tail_cons, List.reverse_reverse]

/-- The lines of a block that are timed. -/
def timedLines (t : Text) : List Text := linesBetween countdown storing (List.splitOn '\n' t)

theorem timedLines_block (s : Snippet) (samples iterations : Int) :
    timedLines (block s samples iterations) =
      (List.splitOn '\n' (effectiveCode s.code)).map (indent codeMargin) := by
  have hopening := newline_notMem_openingLines samples iterations
  have hmargin : '\n' ∉ codeMargin := by decide
  have hend : List.splitOn '\n' (unlines (storing :: closingLines s.name)) =
      storing :: (closingLines s.name ++ [[]]) := by
    have h := splitOn_unlines_append (newline_notMem_closingLines s.name) []
    rwa [List.append_nil, List.splitOn_nil, List.cons_append] at h
  rw [timedLines, block_eq_lines, splitOn_unlines_append hopening, List.splitOn_append_cons_self, hend,
    splitOn_indent hmargin, List.append_assoc, List.singleton_append]
  exact linesBetween_append (countdown_notMem_openingLines samples iterations)
    (storing_notMem_closingLines s.name) _

/-- The timed lines of a block are the lines of its code, each of them indented by itself. Exactly if
every line breaks at its end only, each of them is the line as it stands in the code, with the margin
before it unless it is blank. -/
theorem timedLines_wrap (s : Snippet) (hcode : isAllBlank s.code = false) {samples iterations : Int}
    (hs : 1 ≤ samples) (hi : 1 ≤ iterations) :
    ∃ t, wrap s samples iterations = .ok t ∧
      timedLines t = (List.splitOn '\n' s.code).map (indent codeMargin) ∧
      (timedLines t = (List.splitOn '\n' s.code).map (indentLine codeMargin) ↔
        ∀ line ∈ List.splitOn '\n' s.code, BreaksAtEnd line) := by
  have htimed := timedLines_block s samples iterations
  rw [effectiveCode, if_neg (by simp [hcode])] at htimed
  refine ⟨_, wrap_eq hs hi s, htimed, ?_⟩
  rw [htimed, List.map_inj_left]
  exact forall₂_congr fun line _ =>
    indent_eq_indentLine_iff (by decide) isUnbroken_codeMargin line

theorem timedLines_wrap_breaks :
    isAllBlank "x\n \x0c\n\ty\x0bz" = false ∧
      ∃ t, wrap ⟨"t", "x\n \x0c\n\ty\x0bz"⟩ 2 3 = .ok t ∧
        timedLines t = (List.splitOn '\n' "x\n \x0c\n\ty\x0bz".toList).map (indent codeMargin) ∧
        (timedLines t =
            (List.splitOn '\n' "x\n \x0c\n\ty\x0bz".toList).map (indentLine codeMargin) ↔
          ∀ line ∈ List.splitOn '\n' "x\n \x0c\n\ty\x0bz".toList, BreaksAtEnd line) :=
  ⟨by decide, timedLines_wrap ⟨"t", "x\n \x0c\n\ty\x0bz"⟩ (by decide) (by decide) (by decide)⟩

/-- A form feed in the text of a string has twelve spaces behind it in the block. -/
theorem timedLines_formFeed :
    isAllBlank "s = 'a\x0cb'" = false ∧ '\r' ∉ "s = 'a\x0cb'".toList ∧
      ∃ t, wrap ⟨"t", "s = 'a\x0cb'"⟩ 1 1 = .ok t ∧
        timedLines t = ["            s = 'a\x0c            b'".toList] ∧
        timedLines t ≠ (List.splitOn '\n' "s = 'a\x0cb'".toList).map (indentLine codeMargin) := by
  have htimed := timedLines_block ⟨"t", "s = 'a\x0cb'"⟩ 1 1
  refine ⟨by decide, by decide, _, rfl, ?_, ?_⟩
  · rw [htimed]
    decide +kernel
  · rw [htimed]
    decide +kernel

end SnippetBench.Script
