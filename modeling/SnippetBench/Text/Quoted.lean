import SnippetBench.Text.Printable

/-!
# Quoted literals

A quoted literal writes a text on one line with printable characters only. It stands in single
quotes unless the text has a single quote and no double quote. The backslash and the surrounding
quote are escaped by a backslash; tab, line feed and carriage return have short escapes; any other
character that is not printable is written by its code point in two, four or eight hexadecimal
digits. `Quoted.read?` is the reader of such literals. The literal of bytes has a `b` before it and
shows the bytes that are printable in ASCII as characters.
-/

namespace SnippetBench.Text.Quoted

/-- The quote that surrounds the literal of a text. -/
def quoteOf (t : Text) : Char :=
  if t.contains '\'' && !t.contains '"' then '"' else '\''

/-- The escape of a code point by its number: the shortest of the forms with two, four and
eight digits that has room for it. -/
def numbered (n : Nat) : Text :=
  if n < 0x100 then '\\' :: 'x' :: hex 2 n
  else if n < 0x10000 then '\\' :: 'u' :: hex 4 n
  else '\\' :: 'U' :: hex 8 n

/-- One character inside a literal surrounded by `quote`. -/
def writeChar (quote c : Char) : Text :=
  if c = '\\' || c = quote then ['\\', c]
  else if c = '\t' then ['\\', 't']
  else if c = '\n' then ['\\', 'n']
  else if c = '\r' then ['\\', 'r']
  else if isPrintable c then [c]
  else numbered c.toNat

/-- The literal of a text. -/
def write (t : Text) : Text :=
  let quote := quoteOf t
  quote :: t.flatMap (writeChar quote) ++ [quote]

/-- One byte inside a literal surrounded by `quote`. -/
def writeByte (quote : Char) (b : UInt8) : Text :=
  if b < 0x80 then writeChar quote (Char.ofNat b.toNat) else numbered b.toNat

/-- The literal of bytes. -/
def ofBytes (bytes : List UInt8) : Text :=
  let quote := quoteOf (bytes.map fun b => Char.ofNat b.toNat)
  'b' :: quote :: bytes.flatMap (writeByte quote) ++ [quote]

/-- The value of a hexadecimal digit. -/
def hexDigit? (c : Char) : Option Nat :=
  let n := c.toNat
  if '0'.toNat ≤ n ∧ n ≤ '9'.toNat then some (n - '0'.toNat)
  else if 'a'.toNat ≤ n ∧ n ≤ 'f'.toNat then some (n - 'a'.toNat + 10)
  else if 'A'.toNat ≤ n ∧ n ≤ 'F'.toNat then some (n - 'A'.toNat + 10)
  else none

/-- The number that hexadecimal digits write. -/
def hexValue? (digits : Text) : Option Nat :=
  digits.foldl (fun acc c => do return (← acc) * 16 + (← hexDigit? c)) (some 0)

/-- The character with the code point that `digits` write, if there is one. -/
def charOfHex? (digits : Text) : Option Char := do
  let n ← hexValue? digits
  if n.isValidChar then some (Char.ofNat n) else none

/-- Reads the inside of a literal and its final quote; nothing may follow the quote. -/
def readInside? (quote : Char) : Text → Option Text
  | [] => none
  | '\\' :: 'x' :: a :: b :: rest => do
    return (← charOfHex? [a, b]) :: (← readInside? quote rest)
  | '\\' :: 'u' :: a :: b :: c :: d :: rest => do
    return (← charOfHex? [a, b, c, d]) :: (← readInside? quote rest)
  | '\\' :: 'U' :: a :: b :: c :: d :: e :: f :: g :: h :: rest => do
    return (← charOfHex? [a, b, c, d, e, f, g, h]) :: (← readInside? quote rest)
  | '\\' :: 't' :: rest => do return '\t' :: (← readInside? quote rest)
  | '\\' :: 'n' :: rest => do return '\n' :: (← readInside? quote rest)
  | '\\' :: 'r' :: rest => do return '\r' :: (← readInside? quote rest)
  | '\\' :: c :: rest =>
    if c = '\\' ∨ c = '\'' ∨ c = '"' then do return c :: (← readInside? quote rest) else none
  | c :: rest =>
    if c = quote then (if rest.isEmpty then some [] else none)
    else if c = '\\' ∨ c = '\n' then none
    else do return c :: (← readInside? quote rest)

/-- Reads a literal back to the text it writes. -/
def read? : Text → Option Text
  | quote :: rest => if quote = '\'' ∨ quote = '"' then readInside? quote rest else none
  | [] => none

end SnippetBench.Text.Quoted
