import SnippetBench.Files.Tree

/-!
# Runtimes

A runtime is a program that executes scripts. Asked for its version it prints something; given a
script it prints the report. Both are bytes, and both end with an exit code, unless the program goes
on until it is killed. A host knows the runtimes by their names, or why they cannot be started. A
name with a slash is a path to a program. If the host has none there, the path is followed in the
tree as it is written, where every name before a slash has to be that of a directory; what it leads
to there, a file or a directory, cannot be started.
-/

namespace SnippetBench.Interpreter

open Files (Failure Path Tree)

/-- What a runtime prints when it is asked for its version, and its exit code if it ends. -/
structure Answer where
  output : List UInt8
  errors : List UInt8
  exit? : Option Int

/-- What a runtime prints when it executes a script, and its exit code if it ends. -/
structure Execution where
  output : List UInt8
  exit? : Option Int

/-- A runtime: its answer to the question for its version, and what executing a script does. -/
structure Runtime where
  answer : Answer
  execute : List UInt8 → Execution

/-- The runtimes by name. -/
abbrev Host := Text → Except Failure Runtime

/-- The host on which no runtime is found. -/
def Host.empty : Host := fun _ => .error .missing

/-- The names in a path as it is written. A slash at the end asks for a directory, like the name `.`
behind it. -/
def writtenNames (t : Text) : List Text :=
  let names := (Text.splitOn (· = '/') t).filter fun name => !name.isEmpty
  if t.getLast? = some '/' then names ++ [['.']] else names

/-- Why what a path leads to in a tree cannot be started. -/
def failureAt (tree : Tree) (written : Text) : Failure :=
  match tree.walk (tree.start (Path.rootOf written)) (writtenNames written) with
  | .ok place => if (tree.find? place).isSome then .notPermitted else .missing
  | .error f => f

/-- The program that a path leads to: one of the host, or else none for the reason that the tree
gives. -/
def Host.atPath (host : Host) (tree : Tree) (written : Text) : Except Failure Runtime :=
  match host written with
  | .error .missing => .error (failureAt tree written)
  | found => found

/-- A host that knows the files of a tree too. -/
def Host.among (host : Host) (tree : Tree) : Host := fun name =>
  match Tree.refusal? name with
  | some f => .error f
  | none =>
    if name.contains '/' then host.atPath tree name
    else if name = [] ∨ name = ['.'] ∨ name = ['.', '.'] then .error .notPermitted
    else if Tree.nameLimit < (Text.Utf8.encode name).length then .error .nameTooLong
    else host name

end SnippetBench.Interpreter
