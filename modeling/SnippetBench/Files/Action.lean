import SnippetBench.Files.Tree

/-!
# Actions on a tree of files

An action works on a tree of files. It gives a value or fails, and in both cases leaves a tree
behind: what was done before the failure stays done.
-/

namespace SnippetBench.Files

/-- An action on a tree of files. -/
abbrev Action (α : Type) := ExceptT Failure (StateM Tree) α

namespace Action

/-- What a tree tells. -/
def ask {α : Type} (question : Tree → Except Failure α) : Action α := do
  match question (← get) with
  | .ok a => return a
  | .error f => throw f

/-- Reads the bytes of a file. -/
def readBytes (p : Path) : Action (List UInt8) := do
  match ← ask fun tree => tree.entryAt p with
  | .file bytes => return bytes
  | .directory => throw .isDirectory

/-- Makes the bytes of a file from those it has; a file that is not there is created and has
none. -/
def changeBytes (p : Path) (change : List UInt8 → List UInt8) : Action Unit := do
  let place ← ask fun tree => tree.locate p
  match (← get).find? place with
  | some .directory => throw .isDirectory
  | some (.file bytes) => modify fun tree => tree.put place (.file (change bytes))
  | none => modify fun tree => tree.put place (.file (change []))

/-- Writes bytes at the end of a file. -/
def appendBytes (p : Path) (bytes : List UInt8) : Action Unit := changeBytes p (· ++ bytes)

/-- Makes bytes the content of a file. -/
def writeBytes (p : Path) (bytes : List UInt8) : Action Unit := changeBytes p fun _ => bytes

/-- Makes a directory where nothing is. -/
def makeDirectory (p : Path) : Action Unit := do
  let place ← ask fun tree => tree.locate p
  match (← get).find? place with
  | some _ => throw .alreadyThere
  | none => modify fun tree => tree.put place .directory

/-- Makes the directories that names lead to from a location, from the first on, unless they are
there. What stands at the last of them has to be a directory then. -/
def ensureFrom (place : Location) : List Text → Action Unit
  | [] => do
    match (← get).find? place with
    | some (.file _) => throw .alreadyThere
    | _ => return ()
  | name :: names => do
    let place ← ask fun tree => tree.walk place [name]
    if ((← get).find? place).isNone then modify fun tree => tree.put place .directory
    ensureFrom place names

/-- Makes a directory and those above it, unless they are there. -/
def ensureDirectories (p : Path) : Action Unit := do
  match Tree.refusal? p.toText with
  | some f => throw f
  | none => ensureFrom ((← get).start p.root) p.names

/-- Whether the last name of a path names an entry of a directory, rather than a directory
reached in another way. -/
def endsInName (p : Path) : Bool :=
  match p.name? with
  | some name => name ≠ ['.', '.']
  | none => false

/-- Removes a file. -/
def remove (p : Path) : Action Unit := do
  let place ← ask fun tree => tree.locate p
  match (← get).find? place with
  | none => throw .missing
  | some .directory => throw .isDirectory
  | some (.file _) => modify fun tree => tree.erase place

/-- Moves a file to a path, in place of the file that stands there. -/
def move (source target : Path) : Action Unit := do
  let origin ← ask fun tree => tree.locate source
  let place ← ask fun tree => tree.locate target
  if !endsInName target then throw .busy
  match (← get).find? origin, (← get).find? place with
  | none, _ => throw .missing
  | some .directory, _ => throw .isDirectory
  | some (.file _), some .directory => throw .isDirectory
  | some (.file bytes), _ => modify fun tree => (tree.erase origin).put place (.file bytes)

end Action

end SnippetBench.Files
