import SnippetBench.Config.Field

/-!
# Options

The options of the program: global ones, which hold for every command, and those of a benchmark. A
configuration is read from data. Every field is checked, and all faults are reported, first those of
the fields in their order and then those of unknown keys. The counts are at least one, a runtime
is named, and the time limit, if there is one, is greater than zero.
-/

namespace SnippetBench.Config

open Number (Binary64)

/-- The options that hold for every command. -/
structure GlobalOptions where
  version : Text
  level : Log.Level := .info
  logFile : Option Text := none
  deriving DecidableEq, Repr

/-- The options of a benchmark: how many trials a snippet has and how often a trial runs it, which
runtimes may execute the script, what becomes of the script and of the report, and after how many
seconds a run is stopped. -/
structure BenchOptions where
  samples : Int := 1000
  iterations : Int := 1
  runtimes : List Text := ["python3", "python", "pypy3"]
  keep : Bool := false
  markdown : Bool := false
  timeout : Option Binary64 := none
  deriving DecidableEq, Repr

/-- A configuration. -/
structure Configuration where
  global : GlobalOptions
  bench : BenchOptions := {}
  deriving DecidableEq, Repr

/-- Reads the global options. -/
def readGlobal : Data → Checked GlobalOptions
  | .map entries =>
    if hasBrokenKey entries then .fail .textEncoding else
    let version := readField entries "config_version" none readText
    let level := readField entries "log_level" (some .info) readLevel
    let logFile := readField entries "log_file" (some none) (readOptional readText)
    let unknown := unknownKeys ["config_version", "log_level", "log_file"] entries
    match version, level, logFile, unknown with
    | .ok version, .ok level, .ok logFile, [] => .ok { version, level, logFile }
    | _, _, _, _ => .error (version.faults ++ level.faults ++ logFile.faults ++ unknown)
  | _ => .fail (.notOptions "GlobalConfig")

/-- The names of the fields of the bench options. -/
def benchFields : List Text :=
  ["samples", "iterations", "runtimes", "keep", "markdown", "timeout_seconds"]

/-- Reads the options of a benchmark. -/
def readBench : Data → Checked BenchOptions
  | .map entries =>
    if hasBrokenKey entries then .fail .textEncoding else
    let default : BenchOptions := {}
    let samples := readField entries "samples" (some default.samples) readCount
    let iterations := readField entries "iterations" (some default.iterations) readCount
    let runtimes := readField entries "runtimes" (some default.runtimes) readNames
    let keep := readField entries "keep" (some default.keep) readBoolean
    let markdown := readField entries "markdown" (some default.markdown) readBoolean
    let timeout := readField entries "timeout_seconds" (some default.timeout)
      (readOptional readPositive)
    let unknown := unknownKeys benchFields entries
    match samples, iterations, runtimes, keep, markdown, timeout, unknown with
    | .ok samples, .ok iterations, .ok runtimes, .ok keep, .ok markdown, .ok timeout, [] =>
      .ok { samples, iterations, runtimes, keep, markdown, timeout }
    | _, _, _, _, _, _, _ =>
      .error (samples.faults ++ iterations.faults ++ runtimes.faults ++ keep.faults
        ++ markdown.faults ++ timeout.faults ++ unknown)
  | _ => .fail (.notOptions "BenchConfig")

/-- Reads a configuration. -/
def readConfiguration : Data → Checked Configuration
  | .map entries =>
    if hasBrokenKey entries then .fail .textEncoding else
    let global := readField entries "global" none readGlobal
    let bench := readField entries "bench" (some {}) readBench
    let unknown := unknownKeys ["global", "bench"] entries
    match global, bench, unknown with
    | .ok global, .ok bench, [] => .ok { global, bench }
    | _, _, _ => .error (global.faults ++ bench.faults ++ unknown)
  | _ => .fail (.notOptions "PybmConfig")

/-! ### Overrides -/

/-- The options of a benchmark as data. -/
def BenchOptions.toEntries (b : BenchOptions) : List (Data × Data) :=
  [(.text "samples", .int b.samples), (.text "iterations", .int b.iterations),
    (.text "runtimes", .list (b.runtimes.map .text)), (.text "keep", .bool b.keep),
    (.text "markdown", .bool b.markdown),
    (.text "timeout_seconds", (b.timeout.map Data.float).getD .null)]

/-- Sets the entry of a text key: in place if there is one, else at the end. -/
def setEntry (entries : List (Data × Data)) (key : Text) (value : Data) : List (Data × Data) :=
  match entries with
  | [] => [(.text key, value)]
  | (.text k, v) :: rest =>
    if k = key then (.text k, value) :: rest else (.text k, v) :: setEntry rest key value
  | entry :: rest => entry :: setEntry rest key value

/-- The overrides that are given: those with a value other than null. -/
def givenOverrides (overrides : List (Text × Data)) : List (Text × Data) :=
  overrides.filter fun (_, value) => value != .null

/-- The name that stands for the options themselves beside the overrides. -/
def ownName : Text := "bench"

/-- Why overrides cannot be laid on top of options. -/
inductive OverrideError
  /-- An override has the name of the options themselves. -/
  | nameTaken
  | faults (fs : List Fault)
  deriving DecidableEq, Repr

/-- The first line of the description of an error. -/
def OverrideError.message : OverrideError → Text
  | nameTaken => "apply_overrides() got multiple values for argument '" ++ ownName ++ "'"
  | faults _ => "Invalid benchmark options:"

/-- Options with overrides laid on top. The result is read again, so that an override is checked
like a value of a file. -/
def applyOverrides (bench : BenchOptions) (overrides : List (Text × Data)) :
    Except OverrideError BenchOptions :=
  if overrides.any fun (name, _) => name = ownName then .error .nameTaken
  else
    (readBench (.map ((givenOverrides overrides).foldl (fun es (k, v) => setEntry es k v)
      bench.toEntries))).mapError .faults

end SnippetBench.Config
