import SnippetBench.Config.Spelling
import SnippetBench.Log.Level
import SnippetBench.Number.Decimal
import SnippetBench.Text.Quoted
import SnippetBench.Text.Utf8

/-!
# Values of single options

How the value of an option is read. A text must be a text, or bytes that encode one. Numbers and
booleans are read generously: from each other where nothing is lost, and from texts that spell them.
-/

namespace SnippetBench.Config

open Number (Binary64)

/-- The value that a text spells. -/
def spelled {α : Type} (result : Except Problem α) : Checked α :=
  result.mapError fun p => [⟨[], p⟩]

/-- The text that a value other than a broken text can stand for: itself, or the text that bytes
encode. Bytes that encode no text have the problem that is given. -/
def textOf? (problem : Problem) : Data → Option (Except Problem Text)
  | .text t => some (.ok t)
  | .bytes b => some ((Text.Utf8.decode b).mapError fun _ => problem)
  | .broken _ => some (.error .textEncoding)
  | _ => none

/-- Reads a text, which may be broken. -/
def readText : Data → Checked Text
  | .broken shown => .ok shown
  | d =>
    match textOf? .textEncoding d with
    | some t => spelled t
    | none => .fail .notText

/-- Reads a value that may be absent. -/
def readOptional {α : Type} (read : Data → Checked α) : Data → Checked (Option α)
  | .null => .ok none
  | d => (read d).map some

/-- Reads the name of a log level. -/
def readLevel : Data → Checked Log.Level
  | .broken _ => .fail .unwritable
  | d =>
    match readText d with
    | .ok t =>
      match Log.Level.read? t with
      | some l => .ok l
      | none => .fail (.unknownLevel t)
    | .error fs => .error fs

/-- The greatest magnitude of a machine integer, which is one more than the greatest integer. -/
def machineBound : Nat := 0x8000000000000000

/-- The machine integer that a floating point number is equal to, or what is wrong with it. -/
def wholeOf (x : Binary64) : Except Problem Int :=
  if !x.isFinite then .error .notFinite
  else if x.toRat.den ≠ 1 then .error .fraction
  else if machineBound ≤ x.toRat.num.natAbs then .error .integerTooLong
  else .ok x.toRat.num

/-- Reads an integer of any size, or the value of a floating point number that is an integer. -/
def readInteger (d : Data) : Checked Int :=
  match d, textOf? .integerSyntax d with
  | .int n, _ => .ok n
  | .bool b, _ => .ok (if b then 1 else 0)
  | .float x, _ => spelled (wholeOf x)
  | _, some t => spelled (t.bind Spelling.readInteger)
  | _, none => .fail .notInteger

/-- Reads a count, which is at least one. -/
def readCount (d : Data) : Checked Int :=
  match readInteger d with
  | .ok n => if 1 ≤ n then .ok n else .fail .belowOne
  | .error fs => .error fs

/-- The boolean that an integer stands for: false for zero, true for one. -/
def truthOf (n : Int) : Except Problem Bool :=
  if n = 0 then .ok false else if n = 1 then .ok true else .error .booleanSyntax

/-- Reads a boolean. Of the numbers, only machine integers can stand for one. -/
def readBoolean (d : Data) : Checked Bool :=
  match d, textOf? .booleanSyntax d with
  | .bool b, _ => .ok b
  | .int n, _ =>
    if -(machineBound : Int) ≤ n ∧ n < machineBound then spelled (truthOf n) else .fail .notBoolean
  | .float x, _ =>
    match wholeOf x with
    | .ok n => spelled (truthOf n)
    | .error _ => .fail .notBoolean
  | _, some t => spelled (t.bind Spelling.readBoolean)
  | _, none => .fail .notBoolean

/-- Reads a floating point number. -/
def readNumber (d : Data) : Checked Binary64 :=
  match d, textOf? .numberSyntax d with
  | .float x, _ => .ok x
  | .int n, _ =>
    match Binary64.ofInt n with
    | .infinite _ => .fail .notNumber
    | x => .ok x
  | .bool b, _ => .ok (((if b then 1 else 0 : Nat)) : Binary64)
  | _, some t => spelled (t.bind Spelling.readFloat)
  | _, none => .fail .notNumber

/-- Reads a number greater than zero. -/
def readPositive (d : Data) : Checked Binary64 :=
  match readNumber d with
  | .ok x => if ((0 : Nat) : Binary64) < x then .ok x else .fail .notPositive
  | .error fs => .error fs

/-- Reads texts that stand at the positions from `position` on. -/
def readTextsFrom (position : Nat) : List Data → Checked (List Text)
  | [] => .ok []
  | d :: ds =>
    let first := (readText d).under (.index position)
    let others := readTextsFrom (position + 1) ds
    match first, others with
    | .ok t, .ok ts => .ok (t :: ts)
    | _, _ => .error (first.faults ++ others.faults)

/-- Reads a list of texts that is not empty, for which a set may stand. -/
def readNames : Data → Checked (List Text)
  | .list ds | .set ds =>
    match readTextsFrom 0 ds with
    | .ok [] => .fail .emptyList
    | c => c
  | _ => .fail .notList

/-! ### Keys of a map -/

/-- The most digits with which an integer is shown. -/
def maxShown : Nat := 4300

/-- Where a key that is no text stands: its number, or the way it is shown. -/
def stepOfKey : Data → Step
  | .text t => .key t
  | .int n =>
    if (Text.ofNat n.natAbs).length ≤ maxShown then .index n else .key "<unprintable int object>"
  | .bool b => .index (if b then 1 else 0)
  | .null => .key "None"
  | .float x => .key (Number.Decimal.shortest x)
  | .other _ shown => .key shown
  | .broken shown => .key shown
  | .bytes b => .key (Text.Quoted.ofBytes b)
  | .list _ | .set _ => .key "[...]"
  | .map _ => .key "\x7b...\x7d"

/-- Whether a key is a broken text. No key can then be compared with the known ones. -/
def hasBrokenKey (entries : List (Data × Data)) : Bool :=
  entries.any fun (key, _) => match key with
    | .broken _ => true
    | _ => false

/-- The faults of the keys that are not among the known ones, in order. -/
def unknownKeys (known : List Text) (entries : List (Data × Data)) : List Fault :=
  entries.filterMap fun (key, _) =>
    match key with
    | .text t => if known.contains t then none else some ⟨[.key t], .unknownKey⟩
    | k => some ⟨[stepOfKey k], .keyNotText⟩

/-- Reads the field of a map, which has a default when it may be absent. -/
def readField {α : Type} (entries : List (Data × Data)) (name : Text) (default : Option α)
    (read : Data → Checked α) : Checked α :=
  match Data.lookup? name entries, default with
  | some d, _ => (read d).under (.key name)
  | none, some a => .ok a
  | none, none => Checked.under (.key name) (.fail .missing)

end SnippetBench.Config
