import SnippetBench.Proofs.Script.BlockLines
import SnippetBench.Proofs.Script.Layout

/-!
# The name in a block

A block reports its result or its error under the name of the snippet, which stands in the two calls
as a literal. Whatever the name is, the literal is one token of the script that means the name
(`IsLiteralOf`, `isLiteralOf_write`), and the rest of the block does not depend on the name
(`wrap_name_literal`).
-/

namespace SnippetBench.Script

open Text (IsUnbroken)
open Text.Quoted (finalSlashes read? write)

/-- A literal that a script may hold for a text: on one line, with printable characters only, ended by
the quote that it starts with and not before, and read back as the text. A quote is escaped if an odd
number of backslashes stands before it. -/
structure IsLiteralOf (t literal : Text) : Prop where
  quoted : ∃ quote inside, (quote = '\'' ∨ quote = '"') ∧ literal = quote :: inside ++ [quote] ∧
    ∀ before after, inside = before ++ quote :: after → Odd (finalSlashes before)
  unbroken : IsUnbroken literal
  printable : ∀ c ∈ literal, Text.isPrintable c = true
  readsBack : read? literal = some t

theorem isLiteralOf_write (t : Text) : IsLiteralOf t (write t) := by
  have hquote := Text.Quoted.quoteOf_eq t
  have hslash : Text.Quoted.quoteOf t ≠ '\\' := by
    rcases hquote with h | h <;> rw [h] <;> decide
  refine ⟨⟨_, _, hquote, rfl, fun before after h => ?_⟩, Text.Quoted.isUnbroken_write t,
    fun c hc => Text.Quoted.isPrintable_of_mem_write hc, Text.Quoted.read?_write t⟩
  exact (h ▸ Text.Quoted.isInside_flatMap_writeChar hquote t).odd_finalSlashes hslash

/-- The name of a snippet stands in its block twice, in the two calls that report, as a literal that
is safe for any name. Nothing else in the block depends on the name. -/
theorem wrap_name_literal (code : Text) {samples iterations : Int} (hs : 1 ≤ samples)
    (hi : 1 ≤ iterations) :
    ∃ front, ∀ name, IsLiteralOf name (write name) ∧
      wrap ⟨name, code⟩ samples iterations = .ok (front ++ unlines
        ["    _pybm_log(" ++ write name ++ ", _pybm_reduce(_pybm_results))",
          "except KeyboardInterrupt:", "    raise", "except BaseException as _pybm_error:",
          "    _pybm_log(" ++ write name ++ ", _pybm_error)"]) := by
  refine ⟨unlines (openingLines samples iterations ++ [countdown]) ++
    (indent codeMargin (effectiveCode code) ++ '\n' :: unlines [storing]), fun name =>
      ⟨isLiteralOf_write name, ?_⟩⟩
  rw [wrap_eq hs hi, block_eq_lines, closingLines, unlines, unlines, unlines, unlines]
  simp only [List.flatMap_cons, List.flatMap_nil, List.cons_append, List.append_assoc, List.append_nil]

theorem wrap_name_literal_awkward :
    ∃ front, IsLiteralOf "it's \"x\"\\\n7" (write "it's \"x\"\\\n7") ∧
      wrap ⟨"it's \"x\"\\\n7", "f()"⟩ 2 3 = .ok (front ++ unlines
        ["    _pybm_log(" ++ write "it's \"x\"\\\n7" ++ ", _pybm_reduce(_pybm_results))",
          "except KeyboardInterrupt:", "    raise", "except BaseException as _pybm_error:",
          "    _pybm_log(" ++ write "it's \"x\"\\\n7" ++ ", _pybm_error)"]) :=
  (wrap_name_literal "f()" (by decide) (by decide)).imp fun _ h => h _

end SnippetBench.Script
