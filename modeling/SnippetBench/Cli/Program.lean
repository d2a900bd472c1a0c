import SnippetBench.Cli.Benchmark
import SnippetBench.Cli.Help

/-!
# The program

The command line decides what is done: a benchmark run, a listing of the code that snippets
measure, a record about the surroundings and the runtimes, or help. The program ends with an exit
code, unless a trouble keeps it from that.
-/

namespace SnippetBench.Cli

open Files (Path Tree)

/-- The command that prints the code of the snippets of documents. -/
def printCode (w : World) (common : CommonOptions) (paths : List Text) (markdown : Bool) :
    Work ExitCode :=
  Part.finish do
    let config ← prepare w common "code"
    let markdown := markdown || (config.map (·.bench.markdown)).getD false
    forPaths (fun path => Part.finish do
      let (_, items) ← readDocument w "code" (Path.ofText path)
      printListing path items markdown
      return .success) paths

/-- The versions of runtimes by name, null for those that are not available. -/
def versionsOf (w : World) : List Text → List (Text × Data) → Work (List (Text × Data))
  | [], known => return known
  | name :: names, known => do
    match ← Work.version w name with
    | .ok v => versionsOf w names (Log.Record.setField name (.text v) known)
    | .error e =>
      if e.isAbsence then versionsOf w names (Log.Record.setField name .null known)
      else throw (Trouble.ofProbe e)

/-- The command that tells about the surroundings and the runtimes. -/
def tellInfo (w : World) (common : CommonOptions) : Work ExitCode :=
  Part.finish do
    let config ← prepare w common "info"
    Work.needLoggers [hostLogger]
    let bench := (config.map (·.bench)).getD {}
    let versions ← versionsOf w bench.runtimes []
    Work.note w (commandLogger "info") .info "System information"
      [("pybm_version", .text Script.version),
        ("python_version", .text w.surroundings.versionText),
        ("implementation", .text w.surroundings.implementation),
        ("platform", .text w.surroundings.platform),
        ("executable", .text w.surroundings.executable),
        ("runtimes", .map (versions.map fun (name, v) => (.text name, v))),
        ("config", (common.config.map Data.text).getD .null)]
    return .success

/-- Does what is asked for. -/
def Invocation.perform (w : World) (i : Invocation) : Work ExitCode :=
  match i.command with
  | .run options => run w i.common options
  | .code paths markdown => printCode w i.common paths markdown
  | .info => tellInfo w i.common

/-- How the program ended: with an exit code or in trouble, with a complaint about the command line
if there is one, and what the session was then. -/
structure Outcome where
  ending : Except Trouble Nat
  complaint : Option Text := none
  session : Session

/-- The help of a program or command. -/
def helpOf (program : Text) : List Text :=
  if program = runForm.program then Help.run
  else if program = codeForm.program then Help.code
  else if program = infoForm.program then Help.info
  else Help.program

/-- How the program ends when reading the command line stops. -/
def Stop.outcome (tree : Tree) : Stop → Outcome
  | help program => { ending := .ok 0, session := { tree, printed := helpOf program } }
  | version => { ending := .ok 0, session := { tree, printed := [Script.version] } }
  | noCommand => { ending := .ok 1, session := { tree, printed := Help.program } }
  | usage program message =>
    { ending := .ok 2, complaint := some (program ++ ": error: " ++ message), session := { tree } }

/-- Runs the program with the arguments of its command line. -/
def perform (w : World) (tree : Tree) (arguments : List Text) : Outcome :=
  match readInvocation arguments with
  | .error stop => stop.outcome tree
  | .ok i =>
    let (result, session) := (i.perform w).run { tree }
    { ending := result.map ExitCode.number, session }

end SnippetBench.Cli
