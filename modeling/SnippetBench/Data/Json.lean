import SnippetBench.Data.Basic
import SnippetBench.Number.Decimal
import SnippetBench.Text.Quoted

/-!
# Data as JSON

Data is written as JSON on one line, with a blank behind every comma and colon. Only the quotation
mark, the backslash and the control characters are escaped; all other characters stand as they are.
A number that is not finite is written by its name, and a value of which JSON has no kind by the
text that shows it.
-/

namespace SnippetBench.Data.Json

open Number (Binary64)

/-- One character inside a quoted text. -/
def escape (c : Char) : Text :=
  if c = '"' || c = '\\' then ['\\', c]
  else if c = '\n' then ['\\', 'n']
  else if c = '\t' then ['\\', 't']
  else if c = '\r' then ['\\', 'r']
  else if c = '\x08' then ['\\', 'b']
  else if c = '\x0c' then ['\\', 'f']
  else if c.toNat < 0x20 then '\\' :: 'u' :: Text.hex 4 c.toNat
  else [c]

/-- A text in quotation marks. -/
def quote (t : Text) : Text := '"' :: t.flatMap escape ++ ['"']

/-- A floating point number. -/
def writeFloat : Binary64 → Text
  | .nan => "NaN"
  | .infinite negative => Number.Decimal.sign negative ++ "Infinity"
  | x => Number.Decimal.shortest x

/-- The text that stands for a key. -/
def keyText : Data → Text
  | .text t => t
  | .int n => Text.ofInt n
  | .bool b => if b then "true" else "false"
  | .float x => writeFloat x
  | .broken shown => shown
  | .bytes b => Text.Quoted.ofBytes b
  | .other _ shown => shown
  | _ => "null"

mutual

/-- A value as JSON. -/
def write : Data → Text
  | .null => "null"
  | .bool b => if b then "true" else "false"
  | .int n => Text.ofInt n
  | .float x => writeFloat x
  | .text t => quote t
  | .broken shown => quote shown
  | .bytes b => quote (Text.Quoted.ofBytes b)
  | .list items => '[' :: Text.join ", " (writeItems items) ++ [']']
  | .set members => '[' :: Text.join ", " (writeItems members) ++ [']']
  | .map entries => '{' :: Text.join ", " (writeEntries entries) ++ ['}']
  | .other _ shown => quote shown

/-- The items of a list or a set. -/
def writeItems : List Data → List Text
  | [] => []
  | item :: items => write item :: writeItems items

/-- The entries of a map. -/
def writeEntries : List (Data × Data) → List Text
  | [] => []
  | (key, value) :: entries =>
    (quote (keyText key) ++ ": " ++ write value) :: writeEntries entries

end

end SnippetBench.Data.Json
