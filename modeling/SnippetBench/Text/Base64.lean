import SnippetBench.Text.Basic

/-!
# Base64

Bytes written in letters that stand for six bits each. Four letters make a group of three bytes. The
last group may have two or three letters, which are filled up to four by `=` signs and make one byte
or two. Everything behind a group so filled up is ignored, and so is every character that is neither
a letter nor a sign that fills a group up.
-/

namespace SnippetBench.Text.Base64

/-- The six bits that a letter stands for. -/
def value? (c : Char) : Option Nat :=
  let n := c.toNat
  if c.isUpper then some (n - 'A'.toNat)
  else if c.isLower then some (n - 'a'.toNat + 26)
  else if c.isDigit then some (n - '0'.toNat + 52)
  else if c = '+' then some 62
  else if c = '/' then some 63
  else none

/-- The bytes of a group of two to four values of six bits. -/
def bytesOf : List Nat → List UInt8
  | a :: b :: rest =>
    UInt8.ofNat (a * 4 + b / 16) ::
      match rest with
      | [] => []
      | c :: rest =>
        UInt8.ofNat (b % 16 * 16 + c / 4) ::
          match rest with
          | [] => []
          | d :: _ => [UInt8.ofNat (c % 4 * 64 + d)]
  | _ => []

/-- Reads on inside a group, of which the values and the signs behind them are given. The letters
may not end inside a group. -/
def readFrom? (group : List Nat) (signs : Nat) : Text → Option (List UInt8)
  | [] => if group.isEmpty then some [] else none
  | c :: rest =>
    if c = '=' then
      if group.length < 2 then readFrom? group signs rest
      else if group.length + signs + 1 < 4 then readFrom? group (signs + 1) rest
      else some (bytesOf group)
    else
      match value? c with
      | none => readFrom? group signs rest
      | some v =>
        if group.length = 3 then (readFrom? [] 0 rest).map (bytesOf (group ++ [v]) ++ ·)
        else readFrom? (group ++ [v]) 0 rest

/-- The bytes that a text writes, or nothing if its last group is not full. -/
def decode? (t : Text) : Option (List UInt8) := readFrom? [] 0 t

end SnippetBench.Text.Base64
