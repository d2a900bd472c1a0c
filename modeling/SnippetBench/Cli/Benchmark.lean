import SnippetBench.Cli.Documents
import SnippetBench.Digest.Sha256

/-!
# Benchmarking documents

For each document a script is generated, put beside the document, and executed by every runtime that
was selected, with a banner before each execution. What a script prints is printed as it comes.
Runtimes that are named on the command line must all be available; otherwise the first available one
of the configuration is used.
-/

namespace SnippetBench.Cli

open Document (Item)
open Files (Path)

/-- The logger of the host, which executes scripts. -/
def hostLogger : Text := "pybm.execution.host"

/-- The logger of the scripts that are put beside documents. -/
def scriptLogger : Text := "pybm.execution.artifact"

/-- The logger of this command. -/
def runLogger : Text := commandLogger "run"

/-- What the command line lays over the configured options of a benchmark. -/
def RunOptions.overrides (options : RunOptions) : List (Text × Data) :=
  let flag (b : Bool) : Data := if b then .bool true else .null
  [("samples", (options.samples.map Data.int).getD .null),
    ("iterations", (options.iterations.map Data.int).getD .null),
    ("runtimes", if options.runtimes.isEmpty then .null
      else .list (options.runtimes.map Data.text)),
    ("keep", flag options.keep), ("markdown", flag options.markdown),
    ("timeout_seconds", (options.timeout.map Data.float).getD .null)]

/-- The options of the benchmark. -/
def benchOptions (w : World) (options : RunOptions) (config : Option Config.Configuration) :
    Part Config.BenchOptions := do
  let configured := (config.map (·.bench)).getD {}
  match Config.applyOverrides configured options.overrides with
  | .ok bench => return bench
  | .error e =>
    Work.note w runLogger .error "Invalid benchmark options" [("error", .text e.message)]
    throw .configError

/-! ### Runtimes -/

/-- Checks that all named runtimes are available. -/
def checkRuntimes (w : World) : List Text → Part Unit
  | [] => return ()
  | name :: names => do
    match ← Work.version w name with
    | .ok _ => checkRuntimes w names
    | .error e =>
      if e.isAbsence then
        Work.note w runLogger .error "Runtime not found"
          [("runtime", .text name), ("error", .text e.message)]
        throw .runtimeError
      else Part.trouble (Trouble.ofProbe e)

/-- The first available one of the configured runtimes. -/
def firstRuntime (w : World) (names : List Text) : Part Text := do
  let s ← get
  let (result, versions) := (Interpreter.firstAvailable (w.host.among s.tree) names).run s.versions
  set { s with versions }
  match result with
  | .error e => Part.trouble (Trouble.ofProbe e)
  | .ok selection =>
    for name in selection.skipped do
      Work.note w hostLogger .debug "Runtime not available" [("runtime", .text name)]
    match selection.chosen with
    | some name => return name
    | none =>
      Work.note w runLogger .error "No runtime available"
        [("tried", .list (names.map Data.text))]
      throw .runtimeError

/-- The runtimes that execute the scripts. -/
def selectRuntimes (w : World) (named configured : List Text) : Part (List Text) := do
  Work.needLoggers [hostLogger]
  if named.isEmpty then return [← firstRuntime w configured]
  else
    checkRuntimes w named
    return named

/-! ### Scripts -/

/-- The lines before the report of a script. -/
def banner (path runtime version : Text) (bench : Config.BenchOptions) : List Text :=
  let counts := "iter:" ++ Text.ofInt bench.iterations ++ " samples:" ++ Text.ofInt bench.samples
  if bench.markdown then ["### *" ++ path ++ "*, " ++ runtime ++ "@" ++ version, counts]
  else [">" ++ path ++ " " ++ runtime ++ "@" ++ version ++ " " ++ counts]

/-- Tells how the execution of a script ended. -/
def tellEnd (w : World) (bench : Config.BenchOptions) (p script : Path) (runtime : Text)
    (r : Interpreter.RunResult) : Work ExitCode := do
  let about (last : Text × Data) : List (Text × Data) :=
    [("runtime", .text runtime), ("script", .text script.toText), last]
  if r.timedOut then
    Work.note w hostLogger .warning "Generated script timed out"
      (about ("timeout_seconds", (bench.timeout.map Data.float).getD .null))
  else
    Work.note w hostLogger .debug "Generated script finished"
      (about ("exit_code", .int r.exitCode))
  if r.success then return .success
  else
    Work.note w runLogger .error "Generated script failed"
      [("path", .text p.toText), ("runtime", .text runtime), ("exit_code", .int r.exitCode),
        ("timed_out", .bool r.timedOut)]
    return .runtimeError

/-- Executes a script by one runtime. -/
def execute (w : World) (bench : Config.BenchOptions) (p script : Path) (runtime : Text) :
    Work ExitCode := do
  match ← Work.version w runtime with
  | .error e => throw (Trouble.ofProbe e)
  | .ok version =>
    for line in banner p.toText runtime version bench do
      Work.print line
  let tree := (← get).tree
  match w.host.among tree runtime with
  | .error .missing =>
    Work.note w runLogger .error "Runtime failed to start"
      [("runtime", .text runtime),
        ("error", .text (Interpreter.ProbeError.message (.notFound runtime)))]
    return .runtimeError
  | .error f => throw (.system f)
  | .ok program =>
    modify fun s => { s with started := s.started ++ [(runtime, script)] }
    let bytes ← Work.files (Files.Action.readBytes script)
    match ← ExceptT.lift ((program.execute bytes).stream bench.timeout Work.print) with
    | .error refusal => throw refusal.why
    | .ok r => tellEnd w bench p script runtime r

/-- Ends the lifetime of a script, and tells what became of it. -/
def leaveScript (w : World) (script : Path) (keep : Bool) : Work Unit := do
  let path : Text × Data := ("path", .text script.toText)
  match ← Work.onTree (Script.leave script keep) with
  | .kept => Work.note w scriptLogger .info "Generated script kept" [path]
  | .deleted => Work.note w scriptLogger .debug "Generated script removed" [path]
  | .absent => return ()
  | .failed f =>
    Work.note w scriptLogger .error "Could not remove generated script"
      [path, ("error", .text f.message)]

/-- Works during the lifetime of a script. -/
def duringScript {α : Type} (w : World) (script : Path) (text : Text) (keep : Bool)
    (body : Work α) : Work α := do
  Work.files (Script.enter script text)
  Work.note w scriptLogger .debug "Generated script written" [("path", .text script.toText)]
  ExceptT.mk do
    let outcome ← body.run
    let _ ← (leaveScript w script keep).run
    return outcome

/-- Executes a script by several runtimes, and gives the greatest exit code. -/
def executeAll (w : World) (bench : Config.BenchOptions) (p script : Path) :
    List Text → Work ExitCode
  | [] => return .success
  | runtime :: runtimes => do
    let code ← execute w bench p script runtime
    return code.worse (← executeAll w bench p script runtimes)

/-- The script of a document. -/
def scriptOf (bench : Config.BenchOptions) (p : Path) (text : Text) (items : List Item) :
    Except Script.CountError Text :=
  Script.build
    { samples := bench.samples, iterations := bench.iterations, source := some p.toText
      digest := some (Digest.Sha256.ofText text), markdown := bench.markdown } items

/-- Benchmarks one document. -/
def benchmarkDocument (w : World) (common : CommonOptions) (options : RunOptions)
    (bench : Config.BenchOptions) (runtimes : List Text) (path : Text) : Work ExitCode :=
  Part.finish do
    let p := Path.ofText path
    Work.needLoggers [scriptLogger]
    let (text, items) ← readDocument w "run" p
    if options.code then printListing p.toText items bench.markdown
    match scriptOf bench p text items, p.script? with
    | .error e, _ => Part.trouble (.counts e)
    | _, none => Part.trouble (.noName p)
    | .ok scriptText, some script =>
      if common.dryRun then
        Work.note w runLogger .info "Dry run, generated script not executed"
          [("path", .text p.toText), ("script", .text script.toText),
            ("runtimes", .list (runtimes.map Data.text))]
        return .success
      else
        ExceptT.lift <| duringScript w script scriptText bench.keep
          (executeAll w bench p script runtimes)

/-! ### The command -/

/-- Work whose trouble is told and ends in an exit code. -/
def guarded (w : World) (work : Work ExitCode) : Work ExitCode :=
  tryCatch work fun t => do
    Work.tell w
      { level := .error, logger := runLogger, message := "Benchmark run failed"
        details := [("error", .text t.message)], exception := some t.message }
    return .runtimeError

/-- Benchmarks all documents. -/
def benchmarkAll (w : World) (common : CommonOptions) (options : RunOptions)
    (bench : Config.BenchOptions) : Work ExitCode :=
  Part.finish do
    let runtimes ← selectRuntimes w options.runtimes bench.runtimes
    Work.note w runLogger .debug "Starting benchmark run"
      [("documents", .int options.paths.length), ("runtimes", .list (runtimes.map Data.text)),
        ("samples", .int bench.samples), ("iterations", .int bench.iterations),
        ("dry_run", .bool common.dryRun)]
    forPaths (benchmarkDocument w common options bench runtimes) options.paths

/-- The command that benchmarks documents. -/
def run (w : World) (common : CommonOptions) (options : RunOptions) : Work ExitCode :=
  Part.finish do
    let config ← prepare w common "run"
    let bench ← benchOptions w options config
    guarded w (benchmarkAll w common options bench)

end SnippetBench.Cli
