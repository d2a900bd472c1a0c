import SnippetBench.Report.Duration
import SnippetBench.Report.Statistics

/-!
# Report lines

What a script reports about one snippet: its statistics, or the error that ended its trials. A plain
report is one coloured line, followed for an error by the lines of its text. A markdown report is a
row of a table with the two columns `id` and `result`; in a cell, a pipe is escaped and a line end
becomes a space.
-/

namespace SnippetBench.Report

/-- What is reported about a snippet. -/
inductive Outcome
  | stats (stats : Stats)
  /-- An error, by the name of its kind and its text. -/
  | failure (kind text : Text)
  deriving DecidableEq, Repr

/-- The text in a terminal colour, or in bold. -/
def styled (style t : Text) : Text := '\x1b' :: '[' :: style ++ 'm' :: t ++ "\x1b[0m"

/-- The style of the name of a snippet that ran. -/
def blue : Text := "38;5;39;1"

/-- The style of the name of a snippet that failed. -/
def red : Text := "38;5;204;1"

/-- The style of a mean. -/
def bold : Text := "1"

/-- A text in a cell of a table. -/
def cell (t : Text) : Text :=
  t.flatMap fun c => if c = '|' then ['\\', '|'] else if c = '\n' then [' '] else [c]

/-- The standard deviation and the outliers of statistics, in parentheses. -/
def spreadText (s : Stats) : Except DurationError Text :=
  (Micros.whole s.std).format.map fun std =>
    "(std. " ++ std ++ " o. " ++ Text.ofInt s.outliers ++ "%)"

/-- The report on a snippet, without a final line end. -/
def formatOutcome (name : Text) (markdown : Bool) : Outcome → Except DurationError Text
  | .stats s => do
    let spread ← spreadText s
    let mean ← (Micros.whole s.mean).format
    return if markdown then "| " ++ cell name ++ " | " ++ mean ++ ' ' :: spread ++ " |"
      else styled blue name ++ " | " ++ styled bold mean ++ ' ' :: spread
  | .failure kind text =>
    let error := kind ++ ": " ++ text
    .ok (if markdown then "| " ++ cell name ++ " | " ++ cell error ++ " |"
      else styled red name ++ " |\n" ++ error)

end SnippetBench.Report
