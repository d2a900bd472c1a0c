import SnippetBench.Report.Result

/-!
# The report of a script

A script reports its snippets one after another. Its report is plain or in markdown, and in markdown
a table header goes before the first row. The mode and whether the header is out are the whole state
of a report.
-/

namespace SnippetBench.Report

/-- The state of a report. -/
structure Table where
  markdown : Bool := false
  headerPrinted : Bool := false
  deriving DecidableEq, Repr

/-- The two lines above the rows of a table. -/
def tableHeader : Text := "| id | result |\n|----|--------|"

/-- Reports on one snippet: the new state and what is printed. If the numbers cannot be printed, the
header is out nevertheless. -/
def Table.log (t : Table) (name : Text) (outcome : Outcome) :
    Table × Text × Except DurationError Text :=
  let header : Text := if t.markdown && !t.headerPrinted then tableHeader ++ ['\n'] else []
  ({ t with headerPrinted := t.headerPrinted || t.markdown }, header,
    (formatOutcome name t.markdown outcome).map (· ++ ['\n']))

end SnippetBench.Report
