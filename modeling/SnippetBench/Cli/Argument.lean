import SnippetBench.Log.Level
import SnippetBench.Number.Numeral
import SnippetBench.Text.Quoted

/-!
# Command line arguments

A command line is read by a form, which knows the options and what the other arguments, the
operands, are. First every argument is classified: it begins with a hyphen and names an option, or
it is an operand. An option may be named by the start of its name, if no other option begins so. A
lone `--` makes all later arguments operands. Then the arguments are read from left to right.

The value of an option follows as the next argument, or in the same argument: behind an equals sign,
or directly behind the letter of a short option. Short options that take no value may be written
together. Operands are taken from one run of arguments; those of other runs, and options that are
not known, are left over.
-/

namespace SnippetBench.Cli

open Number (Binary64)

/-- What an option is for. -/
inductive Key
  | help
  | version
  | config
  | level
  | dryRun
  | markdown
  | samples
  | iterations
  | runtime
  | keep
  | code
  | timeout
  deriving DecidableEq, Repr

/-- Whether an option takes a value. -/
def Key.takesValue : Key → Bool
  | config | level | samples | iterations | runtime | timeout => true
  | _ => false

/-- An option: its names and what it is for. -/
structure Switch where
  names : List Text
  key : Key
  deriving DecidableEq, Repr

/-- An option as error messages name it. -/
def Switch.title (s : Switch) : Text := Text.join "/" s.names

/-- What the operands of a form are. -/
inductive Operands
  | nothing
  /-- A command and everything behind it. -/
  | command
  /-- Paths, at least one. -/
  | paths
  deriving DecidableEq, Repr

/-- What a command line may hold. -/
structure Form where
  program : Text
  switches : List Switch
  operands : Operands

namespace Form

/-- The option with a name. -/
def named? (form : Form) (name : Text) : Option Switch :=
  form.switches.find? fun s => s.names.contains name

/-- The names of all options with their options. -/
def allNames (form : Form) : List (Text × Switch) :=
  form.switches.flatMap fun s => s.names.map fun name => (name, s)

end Form

/-! ### Classifying arguments -/

/-- An option as it stands in an argument: its full name and the text attached to it. An option that
is not known is kept as the argument. -/
inductive Mention
  | known (s : Switch) (name : Text) (attached : Option Text)
  | unknown
  deriving DecidableEq, Repr

/-- What an argument is. -/
inductive Word
  | operand
  | dashes
  | option (m : Mention)
  deriving DecidableEq, Repr

/-- A text split at its first equals sign, if it has one. -/
def splitEquals (t : Text) : Text × Option Text :=
  let name := t.takeWhile (· ≠ '=')
  match t.drop name.length with
  | _ :: value => (name, some value)
  | [] => (name, none)

/-- Whether an argument is a negative number, which is an operand. -/
def isNegativeNumber (t : Text) : Bool :=
  let t := if t.getLast? = some '\n' then t.dropLast else t
  match t with
  | '-' :: digits =>
    let whole := digits.takeWhile Text.isDecimalDigit
    match digits.drop whole.length with
    | [] => !whole.isEmpty
    | '.' :: fraction => !fraction.isEmpty && fraction.all Text.isDecimalDigit
    | _ => false
  | _ => false

/-- The options that an argument can mean. -/
def candidates (form : Form) (t : Text) : List (Text × Mention) :=
  match t with
  | '-' :: '-' :: _ =>
    let (start, value) := splitEquals t
    form.allNames.filterMap fun (name, s) =>
      if start.isPrefixOf name then some (name, .known s name value) else none
  | _ =>
    form.allNames.filterMap fun (name, s) =>
      if name = t.take 2 then some (name, .known s name (some (t.drop 2)))
      else if t.isPrefixOf name then some (name, .known s name none)
      else none

/-- Classifies an argument other than `--`, or tells why it cannot be. -/
def classify (form : Form) (t : Text) : Except Text Word :=
  if t.head? ≠ some '-' ∨ t.length = 1 then .ok .operand
  else match form.named? t with
    | some s => .ok (.option (.known s t none))
    | none =>
      let (name, value) := splitEquals t
      match value, form.named? name with
      | some v, some s => .ok (.option (.known s name (some v)))
      | _, _ =>
        match candidates form t with
        | [(_, m)] => .ok (.option m)
        | [] =>
          if isNegativeNumber t ∨ t.contains ' ' then .ok .operand
          else .ok (.option .unknown)
        | several => .error ("ambiguous option: " ++ t ++ " could match "
            ++ Text.join ", " (several.map Prod.fst))

/-- Classifies all arguments. -/
def classifyAll (form : Form) : List Text → Except Text (List (Text × Word))
  | [] => .ok []
  | t :: ts =>
    if t = ['-', '-'] then .ok ((t, .dashes) :: ts.map fun t => (t, .operand))
    else do return (t, ← classify form t) :: (← classifyAll form ts)

/-! ### Options in one argument -/

/-- The complaint about an option. -/
def complain (s : Switch) (what : Text) : Text := "argument " ++ s.title ++ ": " ++ what

/-- How the options in one argument end. -/
inductive Last
  /-- An option without attached text. -/
  | bare (s : Switch)
  | valued (s : Switch) (value : Text)
  deriving DecidableEq, Repr

/-- The options in one argument: those before the last, which take no value, and the last. -/
structure Cluster where
  flags : List Switch
  last : Last
  deriving DecidableEq, Repr

/-- The complaint about a text that is attached to an option without a value. -/
def ignored (s : Switch) (t : Text) : Text :=
  complain s ("ignored explicit argument " ++ Text.Quoted.write t)

/-- The options in an argument that names one with a text attached to it. Behind the letter of an
option without a value, each further letter has to be an option of its own; if one is not, none of
the options before it acts. -/
def cluster (form : Form) (flags : List Switch) (s : Switch) (isShort : Bool) (t : Text) :
    Except Text Cluster :=
  if s.key.takesValue then .ok ⟨flags, .valued s t⟩
  else match t with
    | [] => .error (ignored s [])
    | c :: rest =>
      match if isShort then form.named? ['-', c] else none with
      | none => .error (ignored s (c :: rest))
      | some next =>
        if rest.isEmpty then .ok ⟨flags ++ [s], .bare next⟩
        else cluster form (flags ++ [s]) next true rest

/-- Whether the name of an option has a single hyphen. -/
def isShortName : Text → Bool
  | '-' :: '-' :: _ => false
  | _ => true

/-- The options in an argument that names one, with the text attached to it, if any. -/
def clusterOf (form : Form) (s : Switch) (name : Text) : Option Text → Except Text Cluster
  | none => .ok ⟨[], .bare s⟩
  | some t => cluster form [] s (isShortName name) t

/-! ### Settings -/

/-- What an option on the command line sets. -/
inductive Setting
  | config (path : Text)
  | level (l : Log.Level)
  | dryRun
  | markdown
  | samples (n : Int)
  | iterations (n : Int)
  | runtime (name : Text)
  | keep
  | code
  | timeout (x : Binary64)
  deriving DecidableEq, Repr

/-- Why reading a command line stops before its end. -/
inductive Stop
  /-- The help of a program is asked for. -/
  | help (program : Text)
  | version
  /-- No command is given. -/
  | noCommand
  /-- The command line of a program is in error. -/
  | usage (program message : Text)
  deriving DecidableEq, Repr

/-- The complaint about a value that is not among the choices. -/
def invalidChoice (t : Text) (choices : List Text) : Text :=
  "invalid choice: " ++ Text.Quoted.write t ++ " (choose from "
    ++ Text.join ", " (choices.map Text.Quoted.write) ++ ")"

/-- The value of an integer option. -/
def readInteger (t : Text) : Except Text Int :=
  match Number.Numeral.readInt? Text.digitValue? (Text.trim Number.Numeral.isSpace t) with
  | some n => .ok n
  | none => .error ("invalid int value: " ++ Text.Quoted.write t)

/-- The value of an option that is a floating point number. -/
def readNumber (t : Text) : Except Text Binary64 :=
  match Number.Numeral.readFloat? Text.digitValue? (Text.trim Number.Numeral.isSpace t) with
  | some x => .ok x
  | none => .error ("invalid float value: " ++ Text.Quoted.write t)

/-- The value of an option that is a level, named in upper case. -/
def readLevel (t : Text) : Except Text Log.Level :=
  match Log.Level.all.find? fun l => l.name = t with
  | some l => .ok l
  | none => .error (invalidChoice t (Log.Level.all.map Log.Level.name))

/-- What an option sets with a value, which is empty for options without one. -/
def setting (form : Form) (s : Switch) (value : Text) : Except Stop Setting :=
  (match s.key with
  | .help => .error (.help form.program)
  | .version => .error .version
  | .config => .ok (.config value)
  | .level => (readLevel value).map .level |>.mapError wrong
  | .dryRun => .ok .dryRun
  | .markdown => .ok .markdown
  | .samples => (readInteger value).map .samples |>.mapError wrong
  | .iterations => (readInteger value).map .iterations |>.mapError wrong
  | .runtime => .ok (.runtime value)
  | .keep => .ok .keep
  | .code => .ok .code
  | .timeout => (readNumber value).map .timeout |>.mapError wrong)
where
  /-- The stop at a value that is in error. -/
  wrong (what : Text) : Stop := .usage form.program (complain s what)

/-! ### Reading -/

/-- How far the operands are read. -/
inductive Phase
  | awaited
  | running
  | over
  deriving DecidableEq, Repr

/-- What is read of a command line. -/
structure Found where
  settings : List Setting := []
  paths : List Text := []
  /-- The command and the arguments behind it. -/
  command : Option (Text × List Text) := none
  leftOver : List Text := []

namespace Found

/-- Adds what is found further left. -/
def after (found : Found) (settings : List Setting) (leftOver : List Text) : Found :=
  { found with settings := settings ++ found.settings, leftOver := leftOver ++ found.leftOver }

/-- Adds a path. -/
def addPath (found : Found) (path : Text) : Found := { found with paths := path :: found.paths }

/-- The command with the arguments behind it. -/
def ofCommand (name : Text) (words : List (Text × Word)) : Found :=
  { command := some (name, words.map Prod.fst) }

end Found

/-- What options without values set, one after another. -/
def flagSettings (form : Form) (flags : List Switch) : Except Stop (List Setting) :=
  flags.mapM fun s => setting form s []

/-- Reads classified arguments. -/
def readWords (form : Form) (phase : Phase) : List (Text × Word) → Except Stop Found
  | [] => .ok {}
  | (t, .operand) :: words =>
    match form.operands, phase with
    | .command, .awaited => .ok (Found.ofCommand t words)
    | .paths, .awaited | .paths, .running => do
      return (← readWords form .running words).addPath t
    | _, _ => do return (← readWords form phase words).after [] [t]
  | (t, .dashes) :: words =>
    match form.operands, phase, words with
    | .command, .awaited, _ :: _ => .ok (Found.ofCommand t words)
    | .paths, .awaited, _ :: _ | .paths, .running, _ => readWords form .running words
    | _, _, _ => do return (← readWords form phase words).after [] [t]
  | (t, .option m) :: words => do
    let phase := if phase = .running then .over else phase
    match m with
    | .unknown => return (← readWords form phase words).after [] [t]
    | .known s name attached =>
      let found ← (clusterOf form s name attached).mapError (Stop.usage form.program)
      match found.last with
      | .valued s value =>
        let settings ← flagSettings form found.flags
        let last ← setting form s value
        return (← readWords form phase words).after (settings ++ [last]) []
      | .bare s =>
        if s.key.takesValue then
          match words with
          | (value, .operand) :: words =>
            let settings ← flagSettings form found.flags
            let last ← setting form s value
            return (← readWords form phase words).after (settings ++ [last]) []
          | _ => throw (Stop.usage form.program (complain s "expected one argument"))
        else
          let settings ← flagSettings form (found.flags ++ [s])
          return (← readWords form phase words).after settings []

/-- Reads a command line by a form. -/
def Form.read (form : Form) (arguments : List Text) : Except Stop Found := do
  let words ← (classifyAll form arguments).mapError (Stop.usage form.program)
  let found ← readWords form .awaited words
  if form.operands = .paths ∧ found.paths.isEmpty then
    throw (Stop.usage form.program "the following arguments are required: PATH")
  return found

end SnippetBench.Cli
