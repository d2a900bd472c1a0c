import SnippetBench.Text.Basic

/-!
# The version of the interpreter

The program asks for an interpreter of at least a minimum version. Versions compare by their first
two parts, from left to right; a version that ends before it differs is the older one.
-/

namespace SnippetBench.Interpreter

/-- The least version that is accepted. -/
def minimumVersion : List Int := [3, 11]

/-- A version with dots between its parts. -/
def showVersion (version : List Int) : Text := Text.join ['.'] (version.map Text.ofInt)

/-- Whether a version is accepted. -/
def isRecent (version : List Int) : Bool := !(version.take 2 < minimumVersion)

/-- The description of a version that is too old. -/
def tooOldMessage (version : List Int) : Text :=
  "pybm requires Python >= " ++ showVersion minimumVersion ++ ", found " ++ showVersion version

/-- Refuses a version that is too old. -/
def checkVersion (version : List Int) : Except Text Unit :=
  if isRecent version then .ok () else .error (tooOldMessage version)

end SnippetBench.Interpreter
