import SnippetBench.Proofs.Interpreter.Streaming
import SnippetBench.Proofs.Report.Row

/-!
# Rows as lines

A row is printed as a line. Writing a text as a cell takes every `\n` out of it, but no `\r`, at which
the host ends a line as well. So a row is handed to the sink in as many lines as it has pieces between
its carriage returns, whatever is printed before and behind it (`row_streamed`).
-/

namespace SnippetBench.Interpreter

open Report (Outcome Table cell formatOutcome)
open Text.Utf8 (encode decodeLossy)

/-- Printed bytes that leave no line unfinished. -/
def EndsLine (bytes : List UInt8) : Prop := bytes = [] ∨ bytes.getLast? = some 0x0A

/-- A sink that takes every line. -/
def collect (line : Text) : ExceptT Empty (StateM (List Text)) Unit := modify (· ++ [line])

variable {before after : List UInt8} {line name t : Text} {outcome : Outcome}

/-! ### Streaming -/

theorem takes_collect (lines collected : List Text) :
    Takes collect lines collected (collected ++ lines) := by
  induction lines generalizing collected with
  | nil =>
    rw [List.append_nil]
    exact .nil collected
  | cons line lines ih =>
    have hlines := ih (collected ++ [line])
    rw [List.append_assoc] at hlines
    exact .cons rfl hlines

/-- A sink that takes every line is handed all lines of the output in order. -/
theorem run_stream_collect (e : Execution) (limit : Option Number.Binary64) :
    (e.stream limit collect).run [] =
      (.ok (e.result limit (linesOf e.output).length), linesOf e.output) :=
  (takes_collect (linesOf e.output) []).run_stream limit

/-! ### Printed lines -/

theorem linesOf_eq (bytes : List UInt8) :
    linesOf bytes = (Text.universalLines (decodeLossy bytes)).map (Text.trimEnd Text.isFeedOrReturn) :=
  rfl

theorem trimEnd_line (h : Text.IsOneLine line) :
    Text.trimEnd Text.isFeedOrReturn (line ++ ['\n']) = line := by
  rw [Text.trimEnd_append_of_all (by simp [Text.isFeedOrReturn]), h.trimEnd_eq]

/-- The lines of a text that is printed as one line. -/
theorem linesOf_line (hnewline : '\n' ∉ line) (hend : line.getLast? ≠ some '\r') :
    (Text.universalLines (line ++ ['\n'])).map (Text.trimEnd Text.isFeedOrReturn) =
      List.splitOn '\r' line := by
  rw [Text.universalLines_line hnewline hend, List.map_map]
  refine (List.map_congr_left fun piece hpiece => ?_).trans (List.map_id _)
  have hreturn : '\r' ∉ piece := by
    rw [← Text.splitOn_eq] at hpiece
    exact Text.notMem_of_mem_splitOn hpiece
  exact trimEnd_line ⟨fun hmem => hnewline (Text.subset_of_mem_splitOn hpiece hmem), hreturn⟩

/-- Behind finished lines the reading starts anew. -/
theorem linesOf_append (h : EndsLine before) (bytes : List UInt8) :
    linesOf (before ++ bytes) = linesOf before ++ linesOf bytes := by
  have hnil : decodeLossy [] = [] := by rw [decodeLossy]
  rcases h with rfl | h
  · rw [linesOf_eq [], hnil]
    rfl
  · obtain ⟨front, rfl⟩ := List.getLast?_eq_some_iff.mp h
    obtain ⟨t, ht⟩ := Text.Utf8.exists_decodeLossy_append front
    rw [linesOf_eq, linesOf_eq, linesOf_eq, List.append_assoc, List.singleton_append, ht, ht, hnil,
      Text.universalLines_append, List.map_append]

/-- **A line that is printed** between others is read as the pieces between its carriage returns. -/
theorem linesOf_printed (hbefore : EndsLine before) (hnewline : '\n' ∉ line)
    (hend : line.getLast? ≠ some '\r') (after : List UInt8) :
    linesOf (before ++ (encode (line ++ ['\n']) ++ after)) =
      linesOf before ++ (List.splitOn '\r' line ++ linesOf after) := by
  rw [linesOf_append hbefore, linesOf_eq (encode _ ++ after), Text.Utf8.decodeLossy_encode_append,
    List.append_assoc, List.singleton_append, Text.universalLines_append, List.map_append,
    linesOf_line hnewline hend, ← linesOf_eq]

/-! ### Rows -/

theorem newline_notMem_cell (t : Text) : '\n' ∉ cell t := by
  intro hmem
  obtain ⟨c, -, hc⟩ := List.mem_flatMap.mp hmem
  split at hc
  · simp at hc
  · split at hc
    · simp at hc
    · next hbreak => exact hbreak (List.mem_singleton.mp hc).symm

/-- A cell keeps the carriage returns of its text. -/
theorem return_mem_cell_iff : '\r' ∈ cell t ↔ '\r' ∈ t := by
  refine ⟨fun hmem => ?_, fun hmem => List.mem_flatMap.mpr ⟨_, hmem, by decide⟩⟩
  obtain ⟨c, hc, hin⟩ := List.mem_flatMap.mp hmem
  split at hin
  · simp at hin
  · split at hin
    · simp at hin
    · rwa [List.mem_singleton.mp hin]

theorem return_mem_shown_iff (h : outcome.shown = .ok t) : '\r' ∈ t ↔ '\r' ∈ outcome.errorText := by
  have hplain : ∀ t, Report.Plain t → ('\r' ∈ t) = ('\r' ∈ ([] : Text)) := fun t ht =>
    propext ⟨fun hmem => absurd (ht '\r' hmem) (by decide), fun hmem => absurd hmem (List.not_mem_nil)⟩
  rw [Report.eq_of_shown ('\r' ∈ ·) hplain h]

/-- **A row is printed as one line** with no `\n` in it. Whatever was printed before, if it left no line
unfinished, and whatever is printed afterwards, the sink is handed the row as the pieces between its
carriage returns. It is one line exactly if neither the name nor the error has a carriage return. -/
theorem row_streamed (h : outcome.IsPrintable) (name : Text) :
    ∃ row, (∀ t : Table, t.markdown = true → (t.log name outcome).2.2 = .ok (row ++ ['\n'])) ∧
      '\n' ∉ row ∧
      (∀ (e : Execution) (limit : Option Number.Binary64) (before after : List UInt8),
        EndsLine before → e.output = before ++ (encode (row ++ ['\n']) ++ after) →
        (e.stream limit collect).run [] = (.ok (e.result limit (linesOf e.output).length),
          linesOf before ++ (List.splitOn '\r' row ++ linesOf after))) ∧
      (List.splitOn '\r' row = [row] ↔ '\r' ∉ name ∧ '\r' ∉ outcome.errorText) := by
  obtain ⟨t, ht, hrow⟩ := Report.exists_row h name
  generalize hr : ("| " ++ cell name ++ " | " ++ cell t ++ " |" : Text) = row at hrow
  have hnewline : '\n' ∉ row := by
    rw [← hr]
    simp [newline_notMem_cell]
  have hend : row.getLast? ≠ some '\r' := by
    rw [← hr, List.getLast?_append_of_ne_nil _ (by decide)]
    decide
  refine ⟨row, fun table hmarkdown => ?_, hnewline, fun e limit before after hbefore hout => ?_, ?_⟩
  · rw [Table.log, hmarkdown, hrow]
    rfl
  · rw [run_stream_collect, hout, linesOf_printed hbefore hnewline hend]
  · rw [Text.splitOn_eq_singleton_iff, ← hr, ← return_mem_shown_iff ht]
    simp [return_mem_cell_iff]

/-- The row of an error of two lines, behind the header of the table. -/
theorem row_streamed_header :
    (Outcome.failure "ValueError" "one\ntwo").IsPrintable ∧
      ({ markdown := true } : Table).markdown = true ∧
      EndsLine (encode (Report.tableHeader ++ ['\n'])) ∧
      ∃ row, ∃ e : Execution,
        (({ markdown := true } : Table).log "x" (.failure "ValueError" "one\ntwo")).2.2 =
          .ok (row ++ ['\n']) ∧
        '\n' ∉ row ∧
        e.output = encode (Report.tableHeader ++ ['\n']) ++
          (encode (row ++ ['\n']) ++ encode "done\n") ∧
        (e.stream none collect).run [] = (.ok (e.result none (linesOf e.output).length),
          linesOf (encode (Report.tableHeader ++ ['\n'])) ++
            (List.splitOn '\r' row ++ linesOf (encode "done\n"))) ∧
        (List.splitOn '\r' row = [row] ↔ '\r' ∉ ("x" : Text) ∧
          '\r' ∉ (Outcome.failure "ValueError" "one\ntwo").errorText) := by
  have hheader : EndsLine (encode (Report.tableHeader ++ ['\n'])) := .inr (by decide)
  obtain ⟨row, hlog, hnewline, hstream, hone⟩ :=
    @row_streamed (.failure "ValueError" "one\ntwo") trivial "x"
  exact ⟨trivial, rfl, hheader, row, ⟨_, some 0⟩, hlog _ rfl, hnewline, rfl,
    hstream _ none _ _ hheader rfl, hone⟩

/-- A carriage return in an error makes two lines of the row. -/
theorem row_return_streamed :
    ∃ row, formatOutcome "x" true (.failure "ValueError" "one\rtwo") = .ok row ∧ '\r' ∈ row ∧
      ((⟨encode (row ++ ['\n']), some 0⟩ : Execution).stream none collect).run [] =
        ((.ok ⟨0, 2, false⟩, ["| x | ValueError: one", "two |"]) :
          Except (Refusal Empty) RunResult × List Text) := by
  refine ⟨"| x | ValueError: one\rtwo |", rfl, by decide, ?_⟩
  have hlines : linesOf (encode ("| x | ValueError: one\rtwo |" ++ ['\n'])) =
      ["| x | ValueError: one", "two |"] := by
    have h := @linesOf_printed [] "| x | ValueError: one\rtwo |" (.inl rfl) (by decide) (by decide) []
    rw [List.nil_append, List.append_nil] at h
    rw [h, linesOf_eq, decodeLossy]
    decide
  rw [run_stream_collect, hlines]
  rfl

end SnippetBench.Interpreter
