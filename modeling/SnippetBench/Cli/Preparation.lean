import SnippetBench.Cli.Exit
import SnippetBench.Cli.Invocation
import SnippetBench.Cli.Session

/-!
# The beginning of a command

Every command begins with its logger, the configuration and the start of the program. The command
may end there with an exit code: when the configuration is in error, or when the interpreter is too
old. Anything else that goes wrong is trouble.
-/

namespace SnippetBench.Cli

open Files (Path)

/-- A part of a command, which may end the command with an exit code. -/
abbrev Part (α : Type) := ExceptT ExitCode Work α

namespace Part

/-- The exit code of a part that gives one, in either way. -/
def finish (part : Part ExitCode) : Work ExitCode := do
  match ← part.run with
  | .ok code => return code
  | .error code => return code

/-- Ends the work in trouble. -/
def trouble {α : Type} (t : Trouble) : Part α := ExceptT.lift (throw t)

end Part

/-- The logger of a command. -/
def commandLogger (command : Text) : Text := "pybm.cli." ++ command

/-- The details of a configuration error. -/
def configDetails (command : Text) (p : Path) (e : Config.LoadError) : List (Text × Data) :=
  [("command", .text command), ("config_path", .text p.toText), ("error", .text (e.message p))]

/-- Reads the configuration that is asked for, if one is. -/
def readConfiguration (w : World) (command : Text) :
    Option Text → Part (Option Config.Configuration)
  | none => return none
  | some t => do
    let p := Path.ofText t
    match Config.load w.configs (← get).tree p with
    | .ok c => return some c
    | .error (.system f) => Part.trouble (.system f)
    | .error (.encoding m) => Part.trouble (.encoding m)
    | .error (.unreadable what) => Part.trouble (.unreadable what)
    | .error .unwritable => Part.trouble .unwritable
    | .error e =>
      Work.note w (commandLogger command) .error "Configuration error" (configDetails command p e)
      throw .configError

/-- Starts the program up. -/
def startUp (w : World) (common : CommonOptions) (command : Text)
    (config : Option Config.Configuration) : Part Unit := do
  let start := Startup.run w.surroundings (config.map (·.global)) (common.level.map (·.name))
  let result ← ExceptT.lift (Work.onLoggers start.run)
  match result with
  | .ok level => Work.tell w (Startup.record w.surroundings level)
  | .error (.logging e) => Part.trouble (Trouble.ofSetUp e)
  | .error (.tooOld version) =>
    Work.note w (commandLogger command) .error "Environment check failed"
      [("error", .text (Interpreter.tooOldMessage version))]
    throw .runtimeError

/-- The beginning of every command, which gives the configuration. -/
def prepare (w : World) (common : CommonOptions) (command : Text) :
    Part (Option Config.Configuration) := do
  Work.setUpLogger (commandLogger command) (common.level.getD .info).name
  let config ← readConfiguration w command common.config
  startUp w common command config
  if config.isNone then
    Work.note w (commandLogger command) .debug "No config provided, running with defaults"
      [("command", .text command)]
  return config

end SnippetBench.Cli
