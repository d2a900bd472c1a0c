import SnippetBench.Interpreter.Host
import SnippetBench.Number.Binary64
import SnippetBench.Text.Lines

/-!
# Executing a script

The lines that a script prints are handed to a sink one after another. Bytes that are not UTF-8 are
replaced, and `\n`, `\r` and `\r\n` all end a line. When the sink refuses a line, the script is
killed, nothing more is handed over, and the refusal is passed on. A script that goes on after its
time limit is killed as well; without a limit it goes on until somebody kills it. No process is left
behind: whether its lines were taken or not, its end is waited for.
-/

namespace SnippetBench.Interpreter

/-- The exit code of a program that was killed. -/
def killedCode : Int := -9

/-- The lines of what a script prints, without their line ends. -/
def linesOf (bytes : List UInt8) : List Text :=
  (Text.newlineLines (Text.normalizeNewlines (Text.Utf8.decodeLossy bytes))).map
    (Text.trimEnd Text.isFeedOrReturn)

/-- How the execution of a script ended. -/
structure RunResult where
  exitCode : Int
  lines : Nat
  timedOut : Bool
  deriving DecidableEq, Repr

/-- Whether a script ended by itself with exit code zero. -/
def RunResult.success (r : RunResult) : Bool := r.exitCode = 0 && !r.timedOut

/-- A sink that refused a line: why, and how many lines it had taken. -/
structure Refusal (ε : Type) where
  why : ε
  taken : Nat

/-- Hands lines to a sink until it refuses one, and counts those it takes. -/
def feed {σ ε : Type} (sink : Text → ExceptT ε (StateM σ) Unit) (taken : Nat) :
    List Text → StateM σ (Except (Refusal ε) Nat)
  | [] => return .ok taken
  | line :: lines => do
    match ← (sink line).run with
    | .ok () => feed sink (taken + 1) lines
    | .error why => return .error ⟨why, taken⟩

/-- How a script whose lines were all taken ended. -/
def Execution.result (e : Execution) (limit : Option Number.Binary64) (lines : Nat) : RunResult :=
  match e.exit? with
  | some code => ⟨code, lines, false⟩
  | none => ⟨killedCode, lines, limit.isSome⟩

/-- What has become of a script that was started, as far as the host knows. -/
inductive Fate
  /-- It goes on: nobody has waited for its end or killed it. -/
  | running
  /-- It has ended by itself. -/
  | ended (code : Int)
  /-- It was killed. -/
  | killed
  deriving DecidableEq, Repr

/-- A script that was started: the lines of its output that nobody has read, how it ends by itself, and
what has become of it. -/
structure Process where
  unread : List Text
  exit? : Option Int
  fate : Fate
  deriving DecidableEq, Repr

/-- The process of a script that is started. -/
def Execution.start (e : Execution) : Process := ⟨linesOf e.output, e.exit?, .running⟩

namespace Process

/-- The process when some more of its lines were read. -/
def afterReading (p : Process) (lines : Nat) : Process := { p with unread := p.unread.drop lines }

/-- Kills a process, unless it has ended. -/
def kill (p : Process) : Process := if p.fate = .running then { p with fate := .killed } else p

/-- Waits until a process has ended. One that does not end by itself goes on until somebody kills it. -/
def wait (p : Process) : Process :=
  match p.fate, p.exit? with
  | .running, some code => { p with fate := .ended code }
  | .running, none => { p with fate := .killed }
  | _, _ => p

end Process

/-- Hands the lines of a script to a sink, and tells what has become of its process. A script whose
lines were all taken is waited for. When the sink refuses a line, the script is killed. -/
def Execution.supervise {σ ε : Type} (e : Execution) (limit : Option Number.Binary64)
    (sink : Text → ExceptT ε (StateM σ) Unit) :
    StateM σ (Except (Refusal ε) RunResult × Process) := do
  let p := e.start
  match ← feed sink 0 p.unread with
  | .ok taken => return (.ok (e.result limit taken), (p.afterReading taken).wait)
  | .error refusal => return (.error refusal, (p.afterReading (refusal.taken + 1)).kill.wait)

/-- Hands the lines of an execution to a sink. A refusal means that the script was killed. -/
def Execution.stream {σ ε : Type} (e : Execution) (limit : Option Number.Binary64)
    (sink : Text → ExceptT ε (StateM σ) Unit) : StateM σ (Except (Refusal ε) RunResult) := do
  return (← e.supervise limit sink).1

end SnippetBench.Interpreter
