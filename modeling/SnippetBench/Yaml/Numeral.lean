import SnippetBench.Number.Numeral
import SnippetBench.Text.Lower
import SnippetBench.Yaml.Fault

/-!
# Numbers and truth values in YAML

The texts of integers, floating point numbers and booleans. Underscores in a number do not count. An
integer may be binary, octal or hexadecimal, and any number may be written in base sixty with a `:`
between its parts. What a tag asks for need not have the form by which a plain scalar is known, so
that the parts of a number can be anything; digits of all scripts and spaces around a part are read.
-/

namespace SnippetBench.Yaml

open Number (Binary64)

/-- The value of a digit of a base up to sixteen. -/
def digitOf? (base : Nat) (c : Char) : Option Nat :=
  ((Text.digitValue? c).or (Text.Quoted.hexDigit? c)).filter (· < base)

/-- The letter that may announce the digits of a base. -/
def baseLetter : Nat → Option Char
  | 2 => some 'b'
  | 8 => some 'o'
  | 16 => some 'x'
  | _ => none

/-- Drops a zero and the letter of a base from the start of a numeral. -/
def dropBase (base : Nat) (t : Text) : Text :=
  match t with
  | zero :: c :: rest =>
    if Text.digitValue? zero = some 0 && some c.toLower = baseLetter base then rest else t
  | _ => t

/-- Reads an integer in a base, with spaces around it and a sign if any. Only numerals in base ten
are too long from some length on. -/
def readInBase (base : Nat) (t : Text) : Except Unreadable Int :=
  let (negative, digits) := Number.Numeral.scanSign (Text.trim Number.Numeral.isSpace t)
  let (ds, rest) := Number.Numeral.scanDigits (digitOf? base) (dropBase base digits)
  if base = 10 && Number.Numeral.maxDigits < ds.length then .error (.tooManyDigits ds.length)
  else if ds.isEmpty || !rest.isEmpty then .error (.integer base (Text.Quoted.write t))
  else .ok (Number.Numeral.signed negative (Number.Numeral.ofDigits base ds))

/-- The value of parts in base sixty, the least significant last. -/
def ofSixties {α : Type} [Add α] [Mul α] [NatCast α] (parts : List α) : α :=
  (parts.reverse.foldl
    (fun (acc : α × Nat) part => (acc.1 + part * ((acc.2 : Nat) : α), acc.2 * 60))
    (((0 : Nat) : α), 1)).1

/-- Splits a sign off a number without underscores; nothing may not be all of it. -/
def splitSign (t : Text) : Except Unreadable (Bool × Text) :=
  match t.filter (· ≠ '_') with
  | [] => .error .emptyNumber
  | t => .ok (Number.Numeral.scanSign t)

/-- Reads an integer. -/
def readInt (t : Text) : Except Unreadable Int := do
  let (negative, t) ← splitSign t
  let sign (n : Int) : Int := if negative then -n else n
  match t with
  | [] => .error .emptyNumber
  | ['0'] => .ok 0
  | '0' :: 'b' :: ds => (readInBase 2 ds).map sign
  | '0' :: 'x' :: ds => (readInBase 16 ds).map sign
  | '0' :: _ => (readInBase 8 t).map sign
  | _ =>
    if t.contains ':' then do
      let parts ← (Text.splitOn (· = ':') t).mapM (readInBase 10)
      return sign (ofSixties parts)
    else (readInBase 10 t).map sign

/-- Reads the numeral of a floating point number, with spaces around it. -/
def readFloatPart (t : Text) : Except Unreadable Binary64 :=
  match Number.Numeral.readFloat? Text.digitValue? (Text.trim Number.Numeral.isSpace t) with
  | some x => .ok x
  | none => .error (.float (Text.Quoted.write t))

/-- The sign of a floating point number, and what follows it in lower case. -/
def floatParts (t : Text) : Except Unreadable (Bool × Text) :=
  splitSign (Text.lower (t.filter (· ≠ '_')))

/-- The spelling of not-a-number in YAML. -/
def nanSpelling : Text := ".nan"

/-- Whether a text is the spelling of not-a-number in YAML, and not another name of it. -/
def isNanSpelling (t : Text) : Bool :=
  match floatParts t with
  | .ok (_, t) => t = nanSpelling
  | .error _ => false

/-- Reads a floating point number. -/
def readFloat (t : Text) : Except Unreadable Binary64 := do
  let (negative, t) ← floatParts t
  let sign (x : Binary64) : Binary64 := if negative then x.neg else x
  if t = ".inf" then return .infinite negative
  else if t = nanSpelling then return .nan
  else if t.contains ':' then do
    let parts ← (Text.splitOn (· = ':') t).mapM readFloatPart
    if (Binary64.ofInt (Nat.pow 60 (parts.length - 1))).isFinite then return sign (ofSixties parts)
    else throw .tooLarge
  else return sign (← readFloatPart t)

/-- The boolean with a spelling, in any case. -/
def readBool (t : Text) : Except Unreadable Bool :=
  let word := Text.lower t
  if [("yes" : Text), "true", "on"].contains word then .ok true
  else if [("no" : Text), "false", "off"].contains word then .ok false
  else .error (.boolean (Text.Quoted.write word))

end SnippetBench.Yaml
