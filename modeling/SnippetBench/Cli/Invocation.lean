import SnippetBench.Cli.Argument

/-!
# Invocations

What the program is asked to do: a command with its own options, and the options that every command
has. The common options may stand before the command too, but only those behind it count.
-/

namespace SnippetBench.Cli

open Number (Binary64)

/-- The options that every command has. -/
structure CommonOptions where
  config : Option Text := none
  level : Option Log.Level := none
  dryRun : Bool := false
  deriving DecidableEq, Repr

/-- The options of a benchmark run that are given on the command line. -/
structure RunOptions where
  paths : List Text
  markdown : Bool := false
  samples : Option Int := none
  iterations : Option Int := none
  runtimes : List Text := []
  keep : Bool := false
  code : Bool := false
  timeout : Option Binary64 := none
  deriving DecidableEq, Repr

/-- A command. -/
inductive Command
  | run (options : RunOptions)
  | code (paths : List Text) (markdown : Bool)
  | info
  deriving DecidableEq, Repr

/-- What the program is asked to do. -/
structure Invocation where
  common : CommonOptions
  command : Command
  deriving DecidableEq, Repr

/-! ### Forms -/

/-- The options of every form. -/
def commonSwitches : List Switch :=
  [⟨["-h", "--help"], .help⟩, ⟨["--config"], .config⟩, ⟨["--log-level"], .level⟩,
    ⟨["--dry-run"], .dryRun⟩]

/-- The name of the program. -/
def programName : Text := "pybm"

/-- The form of the arguments before and of the command. -/
def programForm : Form :=
  ⟨programName, commonSwitches ++ [⟨["-V", "--version"], .version⟩], .command⟩

/-- The name of a command as messages give it. -/
def fullName (command : Text) : Text := programName ++ ' ' :: command

/-- The form of the arguments of a benchmark run. -/
def runForm : Form :=
  ⟨fullName "run",
    commonSwitches ++
      [⟨["--md"], .markdown⟩, ⟨["-s", "--samples"], .samples⟩,
        ⟨["-i", "--iterations"], .iterations⟩, ⟨["--runtime"], .runtime⟩, ⟨["--keep"], .keep⟩,
        ⟨["--code"], .code⟩, ⟨["--timeout"], .timeout⟩],
    .paths⟩

/-- The form of the arguments of the command that prints code. -/
def codeForm : Form := ⟨fullName "code", commonSwitches ++ [⟨["--md"], .markdown⟩], .paths⟩

/-- The form of the arguments of the command that tells about the surroundings. -/
def infoForm : Form := ⟨fullName "info", commonSwitches, .nothing⟩

/-- The commands by name. -/
def commandForms : List (Text × Form) := [("run", runForm), ("code", codeForm), ("info", infoForm)]

/-! ### From settings to an invocation -/

/-- The common options that are set; the last setting of an option counts. -/
def commonOf (settings : List Setting) : CommonOptions :=
  settings.foldl (fun common s =>
    match s with
    | .config path => { common with config := some path }
    | .level l => { common with level := some l }
    | .dryRun => { common with dryRun := true }
    | _ => common) {}

/-- The options of a benchmark run that are set; the last setting of an option counts, and
runtimes add up. -/
def runOptionsOf (paths : List Text) (settings : List Setting) : RunOptions :=
  settings.foldl (fun options s =>
    match s with
    | .markdown => { options with markdown := true }
    | .samples n => { options with samples := some n }
    | .iterations n => { options with iterations := some n }
    | .runtime name => { options with runtimes := options.runtimes ++ [name] }
    | .keep => { options with keep := true }
    | .code => { options with code := true }
    | .timeout x => { options with timeout := some x }
    | _ => options) { paths }

/-- The command that a form has read. -/
def commandOf (name : Text) (found : Found) : Command :=
  if name = ("run" : Text) then .run (runOptionsOf found.paths found.settings)
  else if name = ("code" : Text) then .code found.paths (found.settings.contains .markdown)
  else .info

/-- The stop at arguments that are left over. -/
def unrecognized (arguments : List Text) : Stop :=
  .usage programName ("unrecognized arguments: " ++ Text.join " " arguments)

/-- Reads a command line. -/
def readInvocation (arguments : List Text) : Except Stop Invocation := do
  let outer ← programForm.read arguments
  match outer.command with
  | none => if outer.leftOver.isEmpty then throw .noCommand else throw (unrecognized outer.leftOver)
  | some (name, behind) =>
    match commandForms.lookup name with
    | none =>
      throw (.usage programName
        ("argument command: " ++ invalidChoice name (commandForms.map Prod.fst)))
    | some form =>
      let inner ← form.read behind
      let leftOver := outer.leftOver ++ inner.leftOver
      if !leftOver.isEmpty then throw (unrecognized leftOver)
      return ⟨commonOf inner.settings, commandOf name inner⟩

end SnippetBench.Cli
