import SnippetBench.Text.Upper

/-!
# Log levels

The five levels of log records, in ascending order of severity. A level is named in any case; the
comparison is made on the upper case form of the whole name.
-/

namespace SnippetBench.Log

/-- A level. -/
inductive Level
  | debug
  | info
  | warning
  | error
  | critical
  deriving DecidableEq, Repr

namespace Level

/-- The levels in ascending order. -/
def all : List Level := [debug, info, warning, error, critical]

/-- The name of a level. -/
def name : Level → Text
  | debug => "DEBUG"
  | info => "INFO"
  | warning => "WARNING"
  | error => "ERROR"
  | critical => "CRITICAL"

/-- The severity of a level as a number. -/
def severity : Level → Nat
  | debug => 10
  | info => 20
  | warning => 30
  | error => 40
  | critical => 50

/-- The level with a name, in any case. -/
def read? (t : Text) : Option Level := all.find? fun l => l.name = Text.upper t

/-- The description of a name that is no level. -/
def unknownMessage (t : Text) : Text :=
  "Invalid log level '" ++ t ++ "'. Must be one of: CRITICAL, DEBUG, ERROR, INFO, WARNING"

/-- The name of the level to use: one that is asked for comes before one that is configured, and
INFO is used when there is neither. A name that is asked for need not be that of a level. -/
def choose (asked : Option Text) (configured : Option Level) : Text :=
  match asked, configured with
  | some t, _ => Text.upper t
  | none, some l => l.name
  | none, none => info.name

end Level

end SnippetBench.Log
