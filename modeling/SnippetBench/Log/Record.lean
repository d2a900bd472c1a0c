import SnippetBench.Data.Json
import SnippetBench.Log.Level
import SnippetBench.Text.Quoted

/-!
# Log records

A record is something that happened, told by a logger at a level, with details. It is written as one
line of JSON: first the time, the level, the logger and the message, then the details in their
order, and last the exception, if there is one. A detail named like one of these takes its place.
Some names are reserved and refused; details whose name begins with an underscore are left out.
-/

namespace SnippetBench.Log

/-- A record. -/
structure Record where
  level : Level
  logger : Text
  message : Text
  details : List (Text × Data) := []
  exception : Option Text := none
  deriving Repr

namespace Record

/-- The names that a detail may not have. -/
def reservedNames : List Text :=
  ["message", "asctime", "name", "msg", "args", "levelname", "levelno", "pathname", "filename",
    "module", "exc_info", "exc_text", "stack_info", "lineno", "funcName", "created", "msecs",
    "relativeCreated", "thread", "threadName", "processName", "process"]

/-- The first name among the details that they may not have. -/
def reserved? (r : Record) : Option Text :=
  (r.details.map Prod.fst).find? fun name => reservedNames.contains name

/-- The description of the refusal of a name. -/
def reservedMessage (name : Text) : Text :=
  "\"Attempt to overwrite " ++ Text.Quoted.write name ++ " in LogRecord\""

/-- Whether a detail is written. -/
def isWritten (name : Text) : Bool := name ≠ ("taskName" : Text) && name.head? ≠ some '_'

/-- Sets a field: in place if there is one of that name, else at the end. -/
def setField (name : Text) (value : Data) : List (Text × Data) → List (Text × Data)
  | [] => [(name, value)]
  | (n, v) :: rest => if n = name then (name, value) :: rest else (n, v) :: setField name value rest

/-- The fields of a record made at a time. -/
def fields (time : Text) (r : Record) : List (Text × Data) :=
  let head : List (Text × Data) :=
    [("ts", .text time), ("level", .text r.level.name), ("module", .text r.logger),
      ("msg", .text r.message)]
  let told := (r.details.filter fun (name, _) => isWritten name).foldl
    (fun fs (name, value) => setField name value fs) head
  match r.exception with
  | some e => setField "exc" (.text e) told
  | none => told

/-- A record as a line of JSON. -/
def line (time : Text) (r : Record) : Text :=
  Data.Json.write (.map ((r.fields time).map fun (name, value) => (.text name, value))) ++ ['\n']

/-- The message of a record alone, with the exception on a line of its own. -/
def plain (r : Record) : Text :=
  r.message ++ '\n' :: (r.exception.map (· ++ ['\n'])).getD []

end Record

end SnippetBench.Log
