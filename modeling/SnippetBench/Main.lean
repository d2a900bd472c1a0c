import SnippetBench.Cli.Program
import Std.Time.DateTime

/-!
# The executable

The program on a real disk. The files that the command line and the configuration name are read into
a tree, the program runs on the tree, and what it changed there is written back. The executable
starts no other programs, so that its host has no runtimes.
-/

namespace SnippetBench.Executable

open Files (Entry Location Path Tree)

/-- What stands on the disk at a location. What is neither a file nor a directory counts as a
directory, since it cannot be read as a document. -/
def onDisk? (place : Location) : IO (Option Entry) := do
  let path := System.mkFilePath ["/" ++ String.intercalate "/" (place.map String.ofList)]
  try
    match (← path.metadata).type with
    | .file => return some (.file (← IO.FS.readBinFile path).toList)
    | _ => return some .directory
  catch _ => return none

/-- The locations that a path passes. -/
def passed (tree : Tree) (p : Path) : List Location :=
  (p.names.foldl (fun (places, place) name =>
    let place := if name = ['.', '.'] then place.dropLast else place ++ [name]
    (places ++ [place], place)) (([] : List Location), tree.start p.root)).1

/-- The tree with what stands on the disk where a path leads and on the way. -/
def load (tree : Tree) (p : Path) : IO Tree :=
  (passed tree p).foldlM (fun tree place => do
    match ← onDisk? place with
    | some entry => return tree.put place entry
    | none => return tree) tree

/-- Writes the differences between two trees to the disk. -/
def save (before after : Tree) : IO Unit := do
  for (place, entry) in after.entries do
    if before.find? place ≠ some entry then
      let path := System.mkFilePath ["/" ++ String.intercalate "/" (place.map String.ofList)]
      match entry with
      | .directory => IO.FS.createDirAll path
      | .file bytes => IO.FS.writeBinFile path (ByteArray.mk bytes.toArray)
  for (place, _) in before.entries do
    if (after.find? place).isNone then
      IO.FS.removeFile (System.mkFilePath ["/" ++ String.intercalate "/" (place.map String.ofList)])

/-- The paths that an invocation names, with those of the scripts. -/
def pathsOf (i : Cli.Invocation) : List Path :=
  let documents : List Text :=
    match i.command with
    | .run options => options.paths
    | .code paths _ => paths
    | .info => []
  let paths := documents.map Path.ofText
  (i.common.config.map Path.ofText).toList ++ paths ++ paths.filterMap Path.script?

/-- The log file of the configuration that an invocation names. -/
def logFileOf? (tree : Tree) (i : Cli.Invocation) : Option Path := do
  let config ← (Config.load {} tree (Path.ofText (← i.common.config))).toOption
  return Path.ofText (← config.global.logFile)

/-- A moment as records give it: date and time of day in universal time. -/
def stamp (now : Std.Time.Timestamp) : Text :=
  let t := Std.Time.PlainDateTime.ofWallTime (now.toWallTime Std.Time.TimeZone.Offset.zero)
  let digits (width n : Nat) : Text := Text.padStart width '0' (Text.ofNat n)
  let date := Text.join ['-']
    [digits 4 t.date.year.toInt.toNat, digits 2 t.date.month.toNat, digits 2 t.date.day.toNat]
  let time := Text.join [':']
    [digits 2 t.time.hour.toNat, digits 2 t.time.minute.toNat, digits 2 t.time.second.toNat]
  date ++ 'T' :: time ++ '.' :: digits 6 (t.time.nanosecond.toNat / 1000) ++ "+00:00"

/-- Where the executable runs. -/
def surroundings : Surroundings :=
  { version := Interpreter.minimumVersion
    versionText := Interpreter.showVersion Interpreter.minimumVersion
    implementation := "native", platform := "native", executable := Cli.programName }

/-- The tree of the files that matter to a command line. -/
def treeFor (arguments : List Text) : IO Tree := do
  let home := (Path.ofText (← IO.currentDir).toString.toList).names
  let tree ← load ⟨[], home⟩ ⟨.slash, home⟩
  match Cli.readInvocation arguments with
  | .error _ => return tree
  | .ok i =>
    let tree ← (pathsOf i).foldlM load tree
    (logFileOf? tree i).toList.foldlM load tree

/-- Runs the program on the disk, and gives its exit code. -/
def run (arguments : List Text) : IO UInt32 := do
  let world : Cli.World :=
    { host := .empty, surroundings, time := stamp (← Std.Time.Timestamp.now) }
  let tree ← treeFor arguments
  let outcome := Cli.perform world tree arguments
  save tree outcome.session.tree
  IO.print (String.ofList outcome.session.output)
  IO.eprint (String.ofList (outcome.session.errors world))
  for complaint in outcome.complaint do
    IO.eprintln (String.ofList complaint)
  match outcome.ending with
  | .ok code => return UInt32.ofNat code
  | .error trouble =>
    IO.eprintln (String.ofList trouble.message)
    return 1

end SnippetBench.Executable

/-- The entry point. -/
def main (arguments : List String) : IO UInt32 :=
  SnippetBench.Executable.run (arguments.map String.toList)
