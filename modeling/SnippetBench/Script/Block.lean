import SnippetBench.Document.Item
import SnippetBench.Text.Lines
import SnippetBench.Text.Quoted

/-!
# Timed blocks

A snippet becomes a block of the script that runs its code `iterations` times in each of `samples`
trials, measures every trial, and reports the reduced samples, or the error that ended them. The
code stands at a fixed depth inside the block, each of its lines that is not blank indented by the
same twelve spaces; the name stands there as a quoted literal, so that any name is safe.
-/

namespace SnippetBench.Script

open Document (Snippet)

/-- Why a script cannot be generated: a count below one. -/
inductive CountError
  | samples (count : Int)
  | iterations (count : Int)
  deriving DecidableEq, Repr

/-- The description of a count error. -/
def CountError.message : CountError → Text
  | samples count => "samples must be >= 1, got " ++ Text.ofInt count
  | iterations count => "iterations must be >= 1, got " ++ Text.ofInt count

/-- Refuses counts below one; the samples are checked first. -/
def checkCounts (samples iterations : Int) : Except CountError Unit :=
  if samples < 1 then .error (.samples samples)
  else if iterations < 1 then .error (.iterations iterations)
  else .ok ()

/-- The text with `margin` before every line that has a character other than blanks. -/
def indent (margin t : Text) : Text :=
  (Text.breakLines t).flatMap fun line => if Text.isAllBlank line then line else margin ++ line

/-- The margin of the code inside its block. -/
def codeMargin : Text := List.replicate 12 ' '

/-- The code that a block runs: that of the snippet, or a statement without effect if the snippet
has none. -/
def effectiveCode (code : Text) : Text := if Text.isAllBlank code then "pass" else code

/-- The block of a snippet, for counts that are at least one. -/
def block (snippet : Snippet) (samples iterations : Int) : Text :=
  "try:\n    _pybm_results = [0.0] * " ++ Text.ofInt samples
    ++ "\n    for _pybm_sample in range(" ++ Text.ofInt samples
    ++ "):\n        _pybm_iteration = " ++ Text.ofInt iterations
    ++ "\n        _pybm_start = _pybm_clock()\n        while _pybm_iteration:\n"
    ++ "            _pybm_iteration -= 1\n"
    ++ indent codeMargin (effectiveCode snippet.code)
    ++ "\n        _pybm_results[_pybm_sample] = (_pybm_clock() - _pybm_start) * 1000\n    _pybm_log("
    ++ Text.Quoted.write snippet.name
    ++ ", _pybm_reduce(_pybm_results))\nexcept KeyboardInterrupt:\n    raise\n"
    ++ "except BaseException as _pybm_error:\n    _pybm_log("
    ++ Text.Quoted.write snippet.name ++ ", _pybm_error)\n"

/-- The block of a snippet, with its counts checked. -/
def wrap (snippet : Snippet) (samples iterations : Int) : Except CountError Text := do
  checkCounts samples iterations
  return block snippet samples iterations

end SnippetBench.Script
