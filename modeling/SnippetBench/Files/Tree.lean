import SnippetBench.Files.Failure
import SnippetBench.Files.Path
import SnippetBench.Text.Utf8

/-!
# Trees of files

A tree of files is kept as the list of what stands where: at each location, which is a list of names
from the root down, a file with its bytes or a directory. One directory is the working directory,
where relative paths start. A path is followed name by name, and every name it passes has to be that
of a directory; `..` leads back to the directory above, and `.` to the directory itself. Names and
whole paths have a greatest length in bytes.
-/

namespace SnippetBench.Files

/-- What stands at a location. -/
inductive Entry
  | file (bytes : List UInt8)
  | directory
  deriving DecidableEq, Repr

/-- A location: the names from the root down. -/
abbrev Location := List Text

/-- A tree of files and its working directory. -/
structure Tree where
  entries : List (Location × Entry)
  home : Location
  deriving DecidableEq, Repr

namespace Tree

/-- The tree with nothing but the root and an empty working directory in it. -/
def empty : Tree := ⟨[(["work"], .directory)], ["work"]⟩

/-- Whether two locations are the same. Their lengths are compared first, which tells most of them
apart. -/
def sameLocation (p q : Location) : Bool := p.length == q.length && p == q

theorem sameLocation_iff (p q : Location) : sameLocation p q = true ↔ p = q := by
  simp only [sameLocation, Bool.and_eq_true, beq_iff_eq]
  exact ⟨fun h => h.2, fun h => ⟨congrArg List.length h, h⟩⟩

/-- What stands at a location. The root is a directory. -/
def find? (tree : Tree) (place : Location) : Option Entry :=
  if place.isEmpty then some .directory
  else (tree.entries.find? fun (p, _) => sameLocation p place).map Prod.snd

/-- The entries with `entry` at a location, in place of what stood there. -/
def putEntry (place : Location) (entry : Entry) :
    List (Location × Entry) → List (Location × Entry)
  | [] => [(place, entry)]
  | (p, e) :: rest =>
    if sameLocation p place then (p, entry) :: rest else (p, e) :: putEntry place entry rest

/-- The tree with `entry` at a location. -/
def put (tree : Tree) (place : Location) (entry : Entry) : Tree :=
  { tree with entries := putEntry place entry tree.entries }

/-- The tree without what stood at a location. -/
def erase (tree : Tree) (place : Location) : Tree :=
  { tree with entries := tree.entries.filter fun (p, _) => p ≠ place }

/-- Where a path starts. -/
def start (tree : Tree) : Root → Location
  | .relative => tree.home
  | _ => []

/-- The greatest number of bytes in a name. -/
def nameLimit : Nat := 255

/-- The location that names lead to from another one. Something has to stand at every location on
the way, and it has to be a directory; what stands at the end is left open. -/
def walk (tree : Tree) (place : Location) : List Text → Except Failure Location
  | [] => .ok place
  | name :: names =>
    match tree.find? place with
    | none => .error .missing
    | some (.file _) => .error .notDirectory
    | some .directory =>
      if name = ['.'] then walk tree place names
      else if name = ['.', '.'] then walk tree place.dropLast names
      else if nameLimit < (Text.Utf8.encode name).length then .error .nameTooLong
      else walk tree (place ++ [name]) names

/-- The number of bytes that a path has to stay below. -/
def pathLimit : Nat := 4096

/-- Why a path cannot be followed at all, as it is written. -/
def refusal? (written : Text) : Option Failure :=
  if written.contains '\x00' then some .nullInPath
  else if pathLimit ≤ (Text.Utf8.encode written).length then some .nameTooLong
  else none

/-- The location that a path leads to. -/
def locate (tree : Tree) (p : Path) : Except Failure Location :=
  match refusal? p.toText with
  | some f => .error f
  | none => tree.walk (tree.start p.root) p.names

/-- What stands where a path leads. -/
def entryAt (tree : Tree) (p : Path) : Except Failure Entry := do
  match tree.find? (← tree.locate p) with
  | some e => .ok e
  | none => .error .missing

/-- Whether something of a kind stands where a path leads. That nothing is there is no failure. -/
def holds (tree : Tree) (kind : Entry → Bool) (p : Path) : Except Failure Bool :=
  match tree.entryAt p with
  | .ok e => .ok (kind e)
  | .error f => if f.isAbsence then .ok false else .error f

/-- Whether something stands where a path leads. -/
def contains (tree : Tree) (p : Path) : Except Failure Bool := tree.holds (fun _ => true) p

/-- Whether a file stands where a path leads. -/
def containsFile (tree : Tree) (p : Path) : Except Failure Bool :=
  tree.holds (fun e => e ≠ .directory) p

/-- Whether a directory stands where a path leads. -/
def containsDirectory (tree : Tree) (p : Path) : Except Failure Bool :=
  tree.holds (fun e => e = .directory) p

/-- What stands below the working directory, at locations that start there. -/
def below (tree : Tree) : List (Location × Entry) :=
  tree.entries.filterMap fun (place, e) =>
    if tree.home.isPrefixOf place && place ≠ tree.home then
      some (place.drop tree.home.length, e)
    else none

end Tree

end SnippetBench.Files
