import SnippetBench.Files.Path
import SnippetBench.Log.Record

/-!
# Loggers

A logger has a name, perhaps a level, and handlers, each of which writes records of a least level to
a target. It passes records on to the logger above it until it is set up completely. The one logger
above which there is none is the root.
-/

namespace SnippetBench.Log

open Files (Path)

/-- Where a record is written. -/
inductive Target
  | errors
  | file (p : Path)
  /-- The error stream, with the message alone. -/
  | bare
  deriving DecidableEq, Repr

/-- A writer of records. -/
structure Handler where
  target : Target
  level : Level
  deriving DecidableEq, Repr

/-- The name of the root. -/
def rootName : Text := "root"

/-- The name that a logger is kept under. -/
def keptName (name : Text) : Text := if name.isEmpty then rootName else name

/-- A logger. -/
structure Logger where
  name : Text
  level : Option Level := none
  handlers : List Handler := []
  passesOn : Bool := true
  /-- The name of the logger above. -/
  above : Text := rootName
  deriving DecidableEq, Repr

namespace Logger

/-- The logger with its own level and those of its handlers changed. -/
def relevel (logger : Logger) (level : Level) : Logger :=
  { logger with
    level := some level
    handlers := logger.handlers.map fun h => { h with level } }

/-- The logger with a handler of its own level added. -/
def addHandler (logger : Logger) (level : Level) (target : Target) : Logger :=
  { logger with handlers := logger.handlers ++ [⟨target, level⟩] }

/-- The levels of a logger and of its handlers. -/
def levels (logger : Logger) : List Level :=
  logger.level.toList ++ logger.handlers.map (·.level)

end Logger

end SnippetBench.Log
