import SnippetBench.Files.Access
import SnippetBench.Log.Logger

/-!
# The registry of loggers

Loggers are named, and a name with dots stands below the names before its dots. A logger is made
when it is first asked for; above it comes the nearest logger that is there then, or else the root.
The names between them are noted as gaps, with the loggers below. When a logger is made at a gap, it
comes between the loggers below and those above them, unless its name is the beginning of theirs: as
the root is called `root`, loggers called `r`, `ro` and `roo` come above later loggers only.

A record counts if its level is at least that of the nearest logger at or above its own that has a
level. It is written by the handlers of its logger whose level it reaches, and by those further up
as long as the loggers on the way pass records on. If there are no handlers, a record of warning
level or above is written on the error stream as its message alone.

Setting a logger up gives it a level. A logger that has handlers keeps them, at the new level; one
without them gets one for the error stream and, if a file is given, one for the file. When the file
cannot be opened, the logger is left with its level, the error stream and passing records on.
-/

namespace SnippetBench.Log

open Files (Action Failure Path Tree)

/-- What stands under a name. -/
inductive Node
  | logger (l : Logger)
  /-- No logger, but loggers with the given names stand below. -/
  | gap (below : List Text)
  deriving DecidableEq, Repr

/-- The loggers. -/
structure Registry where
  root : Logger := { name := rootName, level := some .warning }
  nodes : List (Text × Node) := []
  deriving DecidableEq, Repr

/-- The names before the dots of a name that is given backwards, the longest first. A dot at the
start or right before such a dot does not count. -/
def namesBefore : Text → List Text
  | '.' :: c :: rest => (c :: rest).reverse :: namesBefore rest
  | _ :: rest => namesBefore rest
  | [] => []

/-- The names that a name stands below, the longest first. -/
def namesAbove (name : Text) : List Text := namesBefore name.reverse

/-- Why a logger cannot be set up. -/
inductive SetUpError
  | unknownLevel (name : Text)
  | system (f : Failure)
  deriving DecidableEq, Repr

namespace Registry

/-- The logger of a name. -/
def find? (reg : Registry) (name : Text) : Option Logger :=
  if keptName name = rootName then some reg.root
  else match reg.nodes.lookup name with
    | some (.logger l) => some l
    | _ => none

/-- The nodes with one of them put under a name, in place of what stood there. -/
def putNode (name : Text) (node : Node) : List (Text × Node) → List (Text × Node)
  | [] => [(name, node)]
  | (n, other) :: rest =>
    if n = name then (n, node) :: rest else (n, other) :: putNode name node rest

/-- The registry with a node under a name. -/
def put (reg : Registry) (name : Text) (node : Node) : Registry :=
  { reg with nodes := putNode name node reg.nodes }

/-- Changes the logger of a name, if there is one. -/
def change (reg : Registry) (name : Text) (f : Logger → Logger) : Registry :=
  if keptName name = rootName then { reg with root := f reg.root }
  else match reg.find? name with
    | some l => reg.put name (.logger (f l))
    | none => reg

/-! ### Making loggers -/

/-- Notes a new logger in the gaps above it, up to the nearest logger, the name of which is given.
Where nothing stands, there is a gap from now on. -/
def noteIn (reg : Registry) (name : Text) : List Text → Registry × Text
  | [] => (reg, rootName)
  | above :: others =>
    match reg.nodes.lookup above with
    | some (.logger _) => (reg, above)
    | some (.gap below) =>
      let below := if below.contains name then below else below ++ [name]
      noteIn (reg.put above (.gap below)) name others
    | none => noteIn (reg.put above (.gap [name])) name others

/-- Puts a new logger above one that stood below its gap. -/
def adopt (name : Text) (reg : Registry) (below : Text) : Registry :=
  reg.change below fun l => if name.isPrefixOf l.above then l else { l with above := name }

/-- Makes a logger of a name, if there is none. -/
def make (reg : Registry) (name : Text) : Registry :=
  if (reg.find? name).isSome then reg
  else
    let adopted :=
      match reg.nodes.lookup name with
      | some (.gap below) => below
      | _ => []
    let reg := adopted.foldl (adopt name) (reg.put name (.logger { name }))
    let (reg, above) := reg.noteIn name (namesAbove name)
    reg.change name fun l => { l with above }

/-! ### Setting loggers up -/

/-- Whether a name is the given one or stands below it. -/
def isUnder (above name : Text) : Bool := name = above || (above ++ ['.']).isPrefixOf name

/-- Changes the level of the logger of a name, if it has handlers. The logger is made if it is not
there. -/
def setLevel (level : Level) (reg : Registry) (name : Text) : Registry :=
  (reg.make name).change name fun l => if l.handlers.isEmpty then l else l.relevel level

/-- Changes the levels of the loggers with handlers at and below a name. -/
def setLevels (reg : Registry) (above levelName : Text) : Except SetUpError Registry :=
  match Level.read? (Text.upper levelName) with
  | none => .error (.unknownLevel (Text.upper levelName))
  | some level =>
    .ok (((reg.nodes.map Prod.fst).filter (isUnder above)).foldl (setLevel level) reg)

/-- Opens a log file, making it and its directory if they are not there. -/
def openFile (p : Path) : Action Unit := do
  Action.ensureDirectories p.parent
  Action.appendBytes p []

/-- Gives handlers to a logger that has none, and gives it a level. -/
def equip (reg : Registry) (name : Text) (level : Level) (file : Option Path) :
    ExceptT SetUpError (StateM (Registry × Tree)) Unit :=
  ExceptT.mk fun (_, tree) =>
    let reg := reg.change name fun l => (l.relevel level).addHandler level .errors
    let done (reg : Registry) : Registry := reg.change name fun l => { l with passesOn := false }
    match file with
    | none => (.ok (), done reg, tree)
    | some p =>
      match (openFile p).run tree with
      | (.ok (), tree) => (.ok (), done (reg.change name (·.addHandler level (.file p))), tree)
      | (.error f, tree) => (.error (.system f), reg, tree)

/-- Sets a logger up. A log file is used only when the logger had no handlers before. -/
def setUp (name levelName : Text) (file : Option Path) :
    ExceptT SetUpError (StateM (Registry × Tree)) Unit := do
  let name := keptName name
  modify fun (reg, tree) => (reg.make name, tree)
  match Level.read? levelName with
  | none => throw (.unknownLevel levelName)
  | some level =>
    let reg := (← get).1
    match reg.find? name with
    | some l =>
      if l.handlers.isEmpty then equip reg name level file
      else modify fun (reg, tree) => (reg.change name (·.relevel level), tree)
    | none => return ()

/-! ### Where records go -/

/-- The loggers at and above a name, from the nearest on. A name above is shorter than the one
below, which bounds the fuel. -/
def upward (reg : Registry) (fuel : Nat) (name : Text) : List Logger :=
  match fuel with
  | 0 => []
  | fuel + 1 =>
    match reg.find? name with
    | none => []
    | some l => if keptName name = rootName then [l] else l :: reg.upward fuel l.above

/-- The loggers at and above a name, up to the root. -/
def chain (reg : Registry) (name : Text) : List Logger := reg.upward (name.length + 2) name

/-- The loggers of a chain that a record comes to: those up to the first that passes none on. -/
def reached : List Logger → List Logger
  | [] => []
  | l :: above => if l.passesOn then l :: reached above else [l]

/-- The level that a record of a logger has to have to count. -/
def levelOf (reg : Registry) (name : Text) : Level :=
  ((reg.chain name).findSome? (·.level)).getD .warning

/-- Whether a record counts. -/
def isEnabled (reg : Registry) (r : Record) : Bool :=
  (reg.levelOf r.logger).severity ≤ r.level.severity

/-- Where a record that counts is written. -/
def targets (reg : Registry) (r : Record) : List Target :=
  match (reached (reg.chain r.logger)).flatMap (·.handlers) with
  | [] => if Level.warning.severity ≤ r.level.severity then [.bare] else []
  | handlers =>
    (handlers.filter fun h => h.level.severity ≤ r.level.severity).map (·.target)

/-- The loggers other than the root that have handlers. -/
def equipped (reg : Registry) : List Logger :=
  reg.nodes.filterMap fun (_, node) =>
    match node with
    | .logger l => if l.handlers.isEmpty then none else some l
    | .gap _ => none

end Registry

/-- What a record made at a time adds to the error stream when it is written to a target. -/
def Target.onErrors (time : Text) (r : Record) : Target → Text
  | errors => r.line time
  | bare => r.plain
  | file _ => []

/-- Writes a record made at a time to a file. -/
def Target.onFile (time : Text) (r : Record) : Target → Action Unit
  | file p => Action.appendBytes p (Text.Utf8.encode (r.line time))
  | _ => return ()

/-- Writes a record made at a time to the log files among the targets. -/
def record (time : Text) (r : Record) (targets : List Target) : StateM Tree Unit :=
  for target in targets do
    let _ ← (target.onFile time r).run

/-- Tells a record: makes its logger, if it is not there, writes the log files, and gives the places
where the record is written. A record that counts is refused if it has a reserved name. -/
def tell (time : Text) (r : Record) :
    ExceptT Text (StateM (Registry × Tree)) (List Target) :=
  ExceptT.mk fun (reg, tree) =>
    let reg := reg.make r.logger
    if !reg.isEnabled r then (.ok [], reg, tree)
    else match r.reserved? with
      | some name => (.error name, reg, tree)
      | none =>
        let targets := reg.targets r
        (.ok targets, reg, ((record time r targets).run tree).2)

end SnippetBench.Log
