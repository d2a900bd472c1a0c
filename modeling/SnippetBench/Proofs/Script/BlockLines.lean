import SnippetBench.Script.Block
import SnippetBench.Proofs.Text.Quoted

/-!
# The lines of a block

A block is six lines with the counts, the line that counts the iterations down, the indented code, the
line that stores the result of a trial, and five lines with the name (`block_eq_lines`). Neither a
numeral nor a literal has a line end, so these are the lines that the block has when it is split at
`\n`.
-/

namespace SnippetBench.Script

open Document (Snippet)

variable {lines : List Text}

/-- The line that counts the iterations down. -/
def countdown : Text := "            _pybm_iteration -= 1"

/-- The line that stores the result of a trial. -/
def storing : Text := "        _pybm_results[_pybm_sample] = (_pybm_clock() - _pybm_start) * 1000"

/-- The lines of a block before the one that counts down. -/
def openingLines (samples iterations : Int) : List Text :=
  ["try:", "    _pybm_results = [0.0] * " ++ Text.ofInt samples,
    "    for _pybm_sample in range(" ++ Text.ofInt samples ++ "):",
    "        _pybm_iteration = " ++ Text.ofInt iterations, "        _pybm_start = _pybm_clock()",
    "        while _pybm_iteration:"]

/-- The lines of a block behind the one that stores the result. -/
def closingLines (name : Text) : List Text :=
  ["    _pybm_log(" ++ Text.Quoted.write name ++ ", _pybm_reduce(_pybm_results))",
    "except KeyboardInterrupt:", "    raise", "except BaseException as _pybm_error:",
    "    _pybm_log(" ++ Text.Quoted.write name ++ ", _pybm_error)"]

/-- Lines one after the other, each with its line end. -/
def unlines (lines : List Text) : Text := lines.flatMap (· ++ ['\n'])

theorem splitOn_unlines_append (h : ∀ line ∈ lines, '\n' ∉ line) (rest : Text) :
    List.splitOn '\n' (unlines lines ++ rest) = lines ++ List.splitOn '\n' rest := by
  induction lines with
  | nil => rfl
  | cons line lines ih =>
    obtain ⟨hline, hlines⟩ := List.forall_mem_cons.mp h
    have hcons : unlines (line :: lines) ++ rest = line ++ '\n' :: (unlines lines ++ rest) := by
      simp [unlines]
    rw [hcons, List.splitOn_append_cons_self_of_not_mem hline, ih hlines, List.cons_append]

set_option maxRecDepth 2000 in
/-- A block is its lines. -/
theorem block_eq_lines (s : Snippet) (samples iterations : Int) :
    block s samples iterations = unlines (openingLines samples iterations ++ [countdown]) ++
      (indent codeMargin (effectiveCode s.code) ++
        '\n' :: unlines (storing :: closingLines s.name)) := by
  unfold block unlines openingLines closingLines countdown storing
  simp

theorem countdown_notMem_openingLines (samples iterations : Int) :
    countdown ∉ openingLines samples iterations := by
  unfold countdown openingLines
  simp

theorem storing_notMem_closingLines (name : Text) : storing ∉ closingLines name ++ [[]] := by
  unfold storing closingLines
  simp

/-- A written whole number has only digits and a minus sign. -/
theorem notMem_ofInt {c : Char} (hdigit : ¬ c.isDigit = true) (hminus : c ≠ '-') (n : Int) :
    c ∉ Text.ofInt n := by
  have hdigits : ∀ k : Nat, c ∉ Nat.toDigits 10 k := fun k hmem =>
    hdigit (Nat.isDigit_of_mem_toDigits (by decide) (by decide) hmem)
  cases n with
  | ofNat n => exact hdigits n
  | negSucc n =>
    rw [Text.ofInt, List.mem_cons]
    rintro (h | h)
    · exact hminus h
    · exact hdigits _ h

theorem newline_notMem_ofInt (n : Int) : '\n' ∉ Text.ofInt n :=
  notMem_ofInt (by decide) (by decide) n

theorem newline_notMem_openingLines (samples iterations : Int) :
    ∀ line ∈ openingLines samples iterations ++ [countdown], '\n' ∉ line := by
  have hsamples := newline_notMem_ofInt samples
  have hiterations := newline_notMem_ofInt iterations
  unfold openingLines countdown
  simp [hsamples, hiterations]

theorem newline_notMem_closingLines (name : Text) :
    ∀ line ∈ storing :: closingLines name, '\n' ∉ line := by
  have hname := Text.Quoted.newline_notMem_write name
  unfold closingLines storing
  simp [hname]

end SnippetBench.Script
