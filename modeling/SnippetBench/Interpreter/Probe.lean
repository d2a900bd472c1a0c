import SnippetBench.Interpreter.Host
import SnippetBench.Files.Access
import SnippetBench.Text.Blank
import SnippetBench.Text.DecimalDigit

/-!
# The version of a runtime

A runtime is usable if it tells its version. The version is the first group of three numbers with
dots between them in what the runtime prints on its output and on its error stream, in this order;
when there is none, everything that it prints, without blanks at the ends. A version that was found
once is remembered under the name of the runtime, and the runtime is not asked again. A failure is
not remembered.
-/

namespace SnippetBench.Interpreter

open Files (Failure)

/-- Why a runtime is not usable. -/
inductive ProbeError
  | notFound (name : Text)
  | endless (name : Text)
  | exited (name : Text) (code : Int)
  | system (f : Failure)
  | encoding (m : Text.Utf8.Mistake)
  deriving DecidableEq, Repr

namespace ProbeError

/-- Whether an error only means that the runtime is not available. -/
def isAbsence : ProbeError → Bool
  | system _ | encoding _ => false
  | _ => true

/-- The description of an error. -/
def message : ProbeError → Text
  | notFound name => name ++ " not found"
  | endless name => name ++ " --version timed out"
  | exited name code => name ++ " --version exited with code " ++ Text.ofInt code
  | system f => f.message
  | encoding m => m.message

end ProbeError

/-- The longest run of decimal digits at the start of a text and what follows it, if there is a
digit. -/
def digitRun? (t : Text) : Option (Text × Text) :=
  match t.takeWhile Text.isDecimalDigit with
  | [] => none
  | digits => some (digits, t.drop digits.length)

/-- A group of three numbers at the start of a text. -/
def versionHere? (t : Text) : Option Text := do
  let (major, rest) ← digitRun? t
  let (minor, rest) ← digitRun? (← Text.after? ['.'] rest)
  let (patch, _) ← digitRun? (← Text.after? ['.'] rest)
  return major ++ '.' :: minor ++ '.' :: patch

/-- The first group of three numbers in a text. -/
def firstVersion? : Text → Option Text
  | [] => none
  | c :: rest => (versionHere? (c :: rest)).or (firstVersion? rest)

/-- The version in what a runtime prints. -/
def versionIn (output errors : Text) : Text :=
  let printed := Text.strip (output ++ errors)
  (firstVersion? printed).getD printed

/-- Asks a runtime for its version. -/
def probe (host : Host) (name : Text) : Except ProbeError Text :=
  match host name with
  | .error .missing => .error (.notFound name)
  | .error f => .error (.system f)
  | .ok runtime =>
    match runtime.answer.exit? with
    | none => .error (.endless name)
    | some code => do
      let output ← (Files.textOfBytes runtime.answer.output).mapError .encoding
      let errors ← (Files.textOfBytes runtime.answer.errors).mapError .encoding
      if code ≠ 0 then throw (.exited name code)
      return versionIn output errors

/-- The versions that were found, by name. -/
abbrev Versions := List (Text × Text)

/-- The version of a runtime: the one that is remembered, or else the one it tells when it is
asked. -/
def versionBy {m : Type → Type} [Monad m] (ask : Text → m (Except ProbeError Text)) (name : Text) :
    ExceptT ProbeError (StateT Versions m) Text := do
  match (← get).lookup name with
  | some v => return v
  | none =>
    match ← ask name with
    | .ok v =>
      modify ((name, v) :: ·)
      return v
    | .error e => throw e

/-- The version of a runtime on a host. -/
def version (host : Host) (name : Text) : ExceptT ProbeError (StateM Versions) Text :=
  versionBy (m := Id) (fun name => pure (probe host name)) name

/-- The first available runtime, if there is one, and the names before it that are not. -/
structure Selection where
  skipped : List Text
  chosen : Option Text
  deriving DecidableEq, Repr

/-- The first of several runtimes that is available. -/
def firstAvailable (host : Host) : List Text → ExceptT ProbeError (StateM Versions) Selection
  | [] => return ⟨[], none⟩
  | name :: names => ExceptT.mk do
    match ← (version host name).run with
    | .ok _ => return .ok ⟨[], some name⟩
    | .error e =>
      if e.isAbsence then
        let found ← (firstAvailable host names).run
        return found.map fun s => { s with skipped := name :: s.skipped }
      else return .error e

end SnippetBench.Interpreter
