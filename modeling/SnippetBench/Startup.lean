import SnippetBench.Config.Options
import SnippetBench.Interpreter.Version
import SnippetBench.Log.Registry

/-!
# Starting up

Before a command does its work, the version of the interpreter is checked, the log level is settled
and given to the loggers that are there, and the logger of the program itself is set up, with the
log file of the configuration if there is one.
-/

namespace SnippetBench

open Files (Path Tree)
open Log (Level Record Registry)

/-- What the program knows about where it runs. -/
structure Surroundings where
  version : List Int
  versionText : Text
  implementation : Text
  platform : Text
  executable : Text
  deriving Repr

namespace Startup

/-- Why starting up fails. -/
inductive StartError
  | tooOld (version : List Int)
  | logging (e : Log.SetUpError)
  deriving DecidableEq, Repr

/-- The loggers whose names begin with this one are those of the program. -/
def programName : Text := "pybm"

/-- The logger of the program itself. -/
def loggerName : Text := "pybm.runtime"

/-- The record of a start. -/
def record (s : Surroundings) (level : Text) : Record :=
  { level := .debug, logger := loggerName, message := "pybm bootstrap complete"
    details := [("python_version", .text s.versionText), ("implementation", .text s.implementation),
      ("platform", .text s.platform), ("log_level", .text level)] }

/-- Starts up, and gives the name of the log level. -/
def run (s : Surroundings) (global : Option Config.GlobalOptions) (asked : Option Text) :
    ExceptT StartError (StateM (Registry × Tree)) Text := do
  if !Interpreter.isRecent s.version then throw (.tooOld s.version)
  let level := Level.choose asked (global.map (·.level))
  match (← get).1.setLevels programName level with
  | .error e => throw (.logging e)
  | .ok reg => modify fun (_, tree) => (reg, tree)
  let file := (global.bind (·.logFile)).map Path.ofText
  ExceptT.adapt .logging (Log.Registry.setUp loggerName level file)
  return level

end Startup

end SnippetBench
