import SnippetBench.Config.File
import SnippetBench.Interpreter.Execution
import SnippetBench.Interpreter.Probe
import SnippetBench.Script.Build
import SnippetBench.Script.Lifetime
import SnippetBench.Startup

/-!
# Sessions

A session is what the program has to do with while it works: the tree of files, the loggers, the
versions of runtimes that were found, what was printed, the records that were told and where, and
the scripts that were started. Work in a session gives a value or ends in trouble; the session goes
on from what was done before the trouble.
-/

namespace SnippetBench.Cli

open Files (Action Failure Path Tree)
open Log (Record Registry Target)

/-- What stays the same during a session. -/
structure World where
  host : Interpreter.Host
  surroundings : Surroundings
  /-- The time that records are given. -/
  time : Text
  /-- Where configurations come from. -/
  configs : Config.Source := {}

/-- What changes during a session. -/
structure Session where
  tree : Tree
  registry : Registry := {}
  versions : Interpreter.Versions := []
  /-- The lines that were printed. -/
  printed : List Text := []
  /-- The records that were told, with the places where they were written. -/
  told : List (Record × List Target) := []
  /-- The scripts that were started, with the runtimes. -/
  started : List (Text × Path) := []

namespace Session

/-- What was printed. -/
def output (s : Session) : Text := s.printed.flatMap (· ++ ['\n'])

/-- What was written on the error stream. -/
def errors (w : World) (s : Session) : Text :=
  s.told.flatMap fun (r, targets) => targets.flatMap (Target.onErrors w.time r)

end Session

/-- What keeps the program from going on with its work. -/
inductive Trouble
  | system (f : Failure)
  | encoding (m : Text.Utf8.Mistake)
  | unreadable (what : Yaml.Unreadable)
  /-- A report would have to show a broken text. -/
  | unwritable
  | runtime (e : Interpreter.ProbeError)
  | unknownLevel (name : Text)
  | counts (e : Script.CountError)
  | noName (p : Path)
  deriving DecidableEq, Repr

/-- The description of a trouble. -/
def Trouble.message : Trouble → Text
  | system f => f.message
  | encoding m => m.message
  | unreadable what => what.message
  | unwritable => Config.brokenTextMessage
  | runtime e => e.message
  | unknownLevel name => Log.Level.unknownMessage name
  | counts e => e.message
  | noName p => p.noNameMessage

/-- The trouble with a runtime that cannot be asked. -/
def Trouble.ofProbe : Interpreter.ProbeError → Trouble
  | .system f => system f
  | .encoding m => encoding m
  | e => runtime e

/-- The trouble with a logger that cannot be set up. -/
def Trouble.ofSetUp : Log.SetUpError → Trouble
  | .unknownLevel name => unknownLevel name
  | .system f => system f

/-- Work in a session. -/
abbrev Work (α : Type) := ExceptT Trouble (StateM Session) α

namespace Work

/-- Prints a line. -/
def print (line : Text) : Work Unit := modify fun s => { s with printed := s.printed ++ [line] }

/-- Works on the tree of files. -/
def onTree {α : Type} (act : StateM Tree α) : Work α :=
  modifyGet fun s =>
    let (a, tree) := act.run s.tree
    (a, { s with tree })

/-- Works on the loggers and on the tree of files. -/
def onLoggers {α : Type} (act : StateM (Registry × Tree) α) : Work α :=
  modifyGet fun s =>
    let (a, registry, tree) := act.run (s.registry, s.tree)
    (a, { s with registry, tree })

/-- Does an action on the tree of files. -/
def files {α : Type} (act : Action α) : Work α := do
  match ← onTree act.run with
  | .ok a => return a
  | .error f => throw (.system f)

/-- Tells a record. -/
def tell (w : World) (r : Record) : Work Unit := do
  match ← onLoggers (Log.tell w.time r).run with
  | .ok targets => modify fun s => { s with told := s.told ++ [(r, targets)] }
  | .error _ => return ()

/-- Tells a record with details. -/
def note (w : World) (logger : Text) (level : Log.Level) (message : Text)
    (details : List (Text × Data)) : Work Unit :=
  tell w { level, logger, message, details }

/-- Sets a logger up. -/
def setUpLogger (name level : Text) : Work Unit := do
  match ← onLoggers (Registry.setUp name level none).run with
  | .ok () => return ()
  | .error e => throw (Trouble.ofSetUp e)

/-- Sets loggers up that are not there yet, at the level that loggers have by default. -/
def needLoggers (names : List Text) : Work Unit :=
  for name in names do
    if ((← get).registry.find? name).isNone then
      setUpLogger name Log.Level.info.name

/-- The version of a runtime. -/
def version (w : World) (name : Text) : Work (Except Interpreter.ProbeError Text) := do
  let s ← get
  let (result, versions) := (Interpreter.version (w.host.among s.tree) name).run s.versions
  set { s with versions }
  return result

end Work

end SnippetBench.Cli
