import SnippetBench.Number.Binary64
import SnippetBench.Text.Basic

/-!
# Data

The values that configuration files, option values and log records are made of. The entries of a map
keep their order, and a map has at most one entry for a key where the reader of a format has seen to
it. Bytes may stand for the text that they encode, and a set for the list of its members. A value of
a kind that no option and no record uses, such as a date, is kept by the name of its kind and the
way it is shown.
-/

namespace SnippetBench

/-- A value of a configuration file or of a log record. -/
inductive Data
  | null
  | bool (value : Bool)
  | int (value : Int)
  | float (value : Number.Binary64)
  | text (value : Text)
  /-- A text with halves of code points, which no file and no answer can hold. In place of each half
  stands U+FFFD. -/
  | broken (shown : Text)
  | bytes (value : List UInt8)
  | list (items : List Data)
  | set (members : List Data)
  | map (entries : List (Data × Data))
  | other (kind shown : Text)
  deriving Repr, Inhabited

namespace Data

/-- The name of the kind of a value, as messages give it. -/
def kind : Data → Text
  | null => "NoneType"
  | bool _ => "bool"
  | int _ => "int"
  | float _ => "float"
  | text _ => "str"
  | broken _ => "str"
  | bytes _ => "bytes"
  | list _ => "list"
  | set _ => "set"
  | map _ => "dict"
  | other kind _ => kind

mutual

/-- Whether two values are of the same kind with the same content. -/
def same : Data → Data → Bool
  | null, null => true
  | bool a, bool b => a == b
  | int a, int b => a == b
  | float a, float b => a == b
  | text a, text b => a == b
  | broken a, broken b => a == b
  | bytes a, bytes b => a == b
  | list a, list b => sameItems a b
  | set a, set b => sameItems a b
  | map a, map b => sameEntries a b
  | other a shown, other b shown' => a == b && shown == shown'
  | _, _ => false

/-- Whether the items of two lists or sets are the same one by one. -/
def sameItems : List Data → List Data → Bool
  | [], [] => true
  | a :: as, b :: bs => same a b && sameItems as bs
  | _, _ => false

/-- Whether the entries of two maps are the same one by one. -/
def sameEntries : List (Data × Data) → List (Data × Data) → Bool
  | [], [] => true
  | (k, a) :: as, (l, b) :: bs => same k l && same a b && sameEntries as bs
  | _, _ => false

end

instance : BEq Data := ⟨same⟩

/-- The value of the first entry whose key is the text. -/
def lookup? (key : Text) : List (Data × Data) → Option Data
  | [] => none
  | (.text k, value) :: entries => if k = key then some value else lookup? key entries
  | _ :: entries => lookup? key entries

/-- The member of a map under a text key. -/
def get? (key : Text) : Data → Option Data
  | map entries => lookup? key entries
  | _ => none

end Data

end SnippetBench
