/-!
# Exit codes

The program ends with one of five codes. When several documents end differently, the greatest code
counts.
-/

namespace SnippetBench.Cli

/-- How the program ends. -/
inductive ExitCode
  | success
  | userError
  | configError
  | runtimeError
  | validationError
  deriving DecidableEq, Repr

namespace ExitCode

/-- The code as a number. -/
def number : ExitCode → Nat
  | success => 0
  | userError => 1
  | configError => 2
  | runtimeError => 3
  | validationError => 4

/-- The greater of two codes. -/
def worse (a b : ExitCode) : ExitCode := if a.number < b.number then b else a

end ExitCode

end SnippetBench.Cli
