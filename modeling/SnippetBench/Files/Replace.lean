import SnippetBench.Files.Access

/-!
# Replacing the content of a file

The content of a file is replaced in one stroke: a temporary file in the same directory takes the
text, and is then moved to where the text belongs. The stages are creating the temporary file,
writing, which also encodes the text, flushing, closing and moving. The system may refuse any of
them, whatever the tree looks like, as when the disk is full; when it refuses to write or to flush,
some of the bytes may have reached the temporary file. When a stage fails after the first, the
temporary file is removed.
-/

namespace SnippetBench.Files

/-- A stage of replacing the content of a file. -/
inductive Stage
  | create
  | write
  | flush
  | close
  | move
  deriving DecidableEq, Repr

/-- What the system refuses for reasons that are not in the tree. -/
structure Refusals where
  why? : Stage → Option Failure
  /-- How many bytes reach the temporary file before it is flushed. -/
  reached : Nat

/-- Nothing is refused. -/
def Refusals.none : Refusals := ⟨fun _ => Option.none, 0⟩

namespace Action

/-- Fails if the system refuses a stage. -/
def attempt (refusals : Refusals) (stage : Stage) : Action Unit :=
  match refusals.why? stage with
  | some f => throw f
  | none => return ()

/-- The name of a temporary file. -/
def temporaryName (n : Nat) : Text := ".pybm_tmp_" ++ Text.padStart 8 '0' (Text.ofNat n) ++ ".tmp"

/-- How many names are tried for a temporary file. -/
def temporaryNames : Nat := 10000

/-- The first name for a temporary file in a directory at which nothing stands. -/
def freeName? (tree : Tree) (directory : Location) : Option Text :=
  (List.range temporaryNames).findSome? fun n =>
    if (tree.find? (directory ++ [temporaryName n])).isNone then some (temporaryName n) else none

/-- Creates an empty temporary file in a directory, and gives its path. -/
def createTemporary (directory : Path) : Action Path := do
  let place ← ask fun tree => tree.locate directory
  match freeName? (← get) place with
  | none => throw .alreadyThere
  | some name =>
    let temporary : Path := { directory with names := directory.names ++ [name] }
    let place ← ask fun tree => tree.locate temporary
    modify fun tree => tree.put place (.file [])
    return temporary

/-- Removes a temporary file if it is there. -/
def discard (temporary : Path) : Action Unit := do
  if ← ask fun tree => tree.contains temporary then remove temporary

/-- The stages after the temporary file is created. -/
def fill (refusals : Refusals) (temporary target : Path) (bytes : List UInt8) : Action Unit := do
  writeBytes temporary (bytes.take refusals.reached)
  attempt refusals .write
  attempt refusals .flush
  writeBytes temporary bytes
  attempt refusals .close
  attempt refusals .move
  move temporary target

/-- Replaces the content of a file whose directory exists. -/
def replaceIn (refusals : Refusals) (target : Path) (text : Text) : Action Unit := do
  attempt refusals .create
  let temporary ← createTemporary target.parent
  tryCatch (fill refusals temporary target (Text.Utf8.encode text)) fun f => do
    discard temporary
    throw f

/-- Replaces the content of a file; its directory is made if it is not there. -/
def replace (target : Path) (text : Text) (refusals : Refusals := .none) : Action Unit := do
  ensureDirectories target.parent
  replaceIn refusals target text

end Action

end SnippetBench.Files
