import SnippetBench.Text.Quoted

/-!
# Paths

A path is read into its root and the names between its slashes. Empty names and the name `.` are
dropped; the name `..` stays, since where it leads depends on the directories it passes. Exactly two
slashes at the start are a root of their own. The script of a document stands beside it: its name is
that of the document with a tag before the suffix.
-/

namespace SnippetBench.Files

/-- Where a path starts. -/
inductive Root
  | relative
  | slash
  | doubleSlash
  deriving DecidableEq, Repr

/-- How a root is written. -/
def Root.toText : Root → Text
  | relative => []
  | slash => ['/']
  | doubleSlash => ['/', '/']

/-- A path: its root and its names. -/
structure Path where
  root : Root
  names : List Text
  deriving DecidableEq, Repr

namespace Path

/-- The root that a text begins with. -/
def rootOf (t : Text) : Root :=
  match (t.takeWhile (· = '/')).length with
  | 0 => .relative
  | 2 => .doubleSlash
  | _ => .slash

/-- Reads a path. -/
def ofText (t : Text) : Path :=
  ⟨rootOf t, (Text.splitOn (· = '/') t).filter fun name => !name.isEmpty && name != ['.']⟩

/-- The path as a text; a relative path without names is `.`. -/
def toText (p : Path) : Text :=
  if p.root = .relative && p.names.isEmpty then ['.']
  else p.root.toText ++ Text.join ['/'] p.names

/-- The last name of a path, if it has names. -/
def name? (p : Path) : Option Text := p.names.getLast?

/-- The path without its last name. -/
def parent (p : Path) : Path := { p with names := p.names.dropLast }

/-- The path with another last name. -/
def withName (p : Path) (name : Text) : Path := { p with names := p.names.dropLast ++ [name] }

/-- A name cut before its last dot: stem and suffix. There is no suffix when the dot is the first
or the last character, or when there is none. -/
def splitSuffix (name : Text) : Text × Text :=
  let tail := (name.reverse.takeWhile (· ≠ '.')).reverse
  let front := name.take (name.length - tail.length)
  if tail.isEmpty || front.length ≤ 1 then (name, [])
  else (front.dropLast, '.' :: tail)

/-- The tag in the name of a generated script. -/
def scriptTag : Text := ".pybm"

/-- The name of the script of a document. -/
def scriptName (name : Text) : Text :=
  let (stem, suffix) := splitSuffix name
  stem ++ scriptTag ++ suffix

/-- Where the script of a document stands; nowhere if the path has no name. -/
def script? (p : Path) : Option Path := p.name?.map fun name => p.withName (scriptName name)

/-- Why a path has no script beside it. -/
def noNameMessage (p : Path) : Text :=
  "PosixPath(" ++ Text.Quoted.write p.toText ++ ") has an empty name"

end Path

end SnippetBench.Files
