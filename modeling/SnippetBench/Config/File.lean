import SnippetBench.Config.Options
import SnippetBench.Files.Access
import SnippetBench.Yaml.Value

/-!
# Configuration files

A configuration file is a YAML text whose value is a map. Reading one goes through the file, its
text, its value and the options in it, and stops at the first of these that is in error. What the
system tells of the file, and what value its text has, comes from a source. The source is not part
of the program: each of its answers may be a failure of any kind.
-/

namespace SnippetBench.Config

open Files (Failure Path Tree)

/-- Why a configuration cannot be read from a file. -/
inductive LoadError
  | notFound
  | notFile
  /-- The system does not give the bytes of the file. -/
  | refused (f : Failure)
  | malformed
  /-- The value is not a map but of another kind. -/
  | notMap (kind : Text)
  | faults (fs : List Fault)
  /-- The system does not tell what stands at the path, or the path does not reach it. -/
  | system (f : Failure)
  | encoding (m : Text.Utf8.Mistake)
  | unreadable (what : Yaml.Unreadable)
  /-- A fault concerns a broken text, so that the faults cannot be reported. -/
  | unwritable
  deriving DecidableEq, Repr

/-- Why a broken text cannot be written. -/
def brokenTextMessage : Text := "'utf-8' codec can't encode text: surrogates not allowed"

namespace LoadError

/-- Whether an error is one of those that a configuration file is expected to have. The others are
not caught. -/
def isExpected : LoadError → Bool
  | system _ | encoding _ | unreadable _ | unwritable => false
  | _ => true

/-- The first line of the description of an error in the file at a path. -/
def message (p : Path) : LoadError → Text
  | notFound => "Config file not found: " ++ p.toText
  | notFile => "Config path is not a file: " ++ p.toText
  | refused f => "Cannot read config file " ++ p.toText ++ ": " ++ f.message
  | malformed => "Invalid YAML in " ++ p.toText
  | notMap kind => "Config file must contain a YAML mapping (dict), got " ++ kind
  | faults _ => "Config validation failed for " ++ p.toText ++ ":"
  | system f => f.message
  | encoding m => m.message
  | unreadable what => what.message
  | unwritable => brokenTextMessage

/-- The error when the bytes of a file cannot be had. What has no number does not come from the
system, and is not caught. -/
def ofReading (f : Failure) : LoadError := if f.number?.isSome then refused f else system f

/-- The error when a text has no value. -/
def ofFault : Yaml.Fault → LoadError
  | .malformed => malformed
  | .unreadable what => unreadable what

/-- The error with faults. -/
def ofFaults (fs : List Fault) : LoadError :=
  if fs.any fun f => f.problem = .unwritable then unwritable else faults fs

end LoadError

/-- How many maps and lists deep the options of a configuration are. -/
def depth : Nat := 3

/-- Where configurations come from: what the system tells of the files in a tree, and a reader of
YAML. If nothing else is said, the system keeps nobody from a file, and the reader takes texts of
any depth. -/
structure Source where
  /-- Whether something stands where a path leads. -/
  contains : Tree → Path → Except Failure Bool := Tree.contains
  /-- Whether a file stands where a path leads. -/
  containsFile : Tree → Path → Except Failure Bool := Tree.containsFile
  /-- The bytes of the file where a path leads. -/
  bytesAt (tree : Tree) (p : Path) : Except Failure (List UInt8) :=
    ((Files.Action.readBytes p).run.run tree).1
  /-- The value of a YAML text. -/
  value : Text → Except Yaml.Fault Data := Yaml.load depth

namespace Source

/-- The text of the file where a path leads. -/
def textAt (source : Source) (tree : Tree) (p : Path) : Except LoadError Text := do
  if !(← (source.contains tree p).mapError .system) then throw .notFound
  if !(← (source.containsFile tree p).mapError .system) then throw .notFile
  let bytes ← (source.bytesAt tree p).mapError .ofReading
  (Files.textOfBytes bytes).mapError .encoding

/-- The value of the YAML text in the file where a path leads. -/
def valueAt (source : Source) (tree : Tree) (p : Path) : Except LoadError Data := do
  (source.value (← source.textAt tree p)).mapError .ofFault

end Source

/-- The configuration in the file where a path leads. -/
def load (source : Source) (tree : Tree) (p : Path) : Except LoadError Configuration := do
  match ← source.valueAt tree p with
  | .map entries => (readConfiguration (.map entries)).mapError LoadError.ofFaults
  | d => .error (.notMap d.kind)

end SnippetBench.Config
