import SnippetBench.Files.Action
import SnippetBench.Text.Lines

/-!
# Reading and deleting files

A text is read from a file that has to be there and must not be a directory; its bytes have to be
UTF-8, and every line end is read as `\n`. Deleting a file that is not there does nothing.
-/

namespace SnippetBench.Files

/-- Why a text cannot be read. -/
inductive ReadError
  | notFound (p : Path)
  | notFile (p : Path)
  | system (f : Failure)
  | encoding (m : Text.Utf8.Mistake)
  deriving DecidableEq, Repr

/-- The description of an error. -/
def ReadError.message : ReadError → Text
  | notFound p => "File not found: " ++ p.toText
  | notFile p => "Expected a file, got a directory: " ++ p.toText
  | system f => f.message
  | encoding m => m.message

/-- The text of bytes, with every line end read as `\n`. -/
def textOfBytes (bytes : List UInt8) : Except Text.Utf8.Mistake Text :=
  (Text.Utf8.decode bytes).map Text.normalizeNewlines

/-- The text of the file where a path leads. -/
def Tree.textAt (tree : Tree) (p : Path) : Except ReadError Text :=
  match tree.entryAt p with
  | .ok (.file bytes) => (textOfBytes bytes).mapError .encoding
  | .ok .directory => .error (.notFile p)
  | .error f => .error (if f.isAbsence then .notFound p else .system f)

/-- Deletes a file if it is there, and tells whether it was. -/
def Action.delete (p : Path) : Action Bool := do
  if ← ask fun tree => tree.contains p then
    remove p
    return true
  else return false

end SnippetBench.Files
