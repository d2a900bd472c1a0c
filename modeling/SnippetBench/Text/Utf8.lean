import SnippetBench.Text.Basic

/-!
# UTF-8

Bytes to text and back. A character is a lead byte and up to three continuation bytes; the lead byte
fixes how many follow and, for a few leads, narrows the range of the first of them, which rules out
overlong forms, surrogates and numbers beyond U+10FFFF. `step` reads one character or the longest
start of one that is still possible; the strict reader stops there with the mistake and its place,
and the lenient reader writes one U+FFFD for it and goes on.
-/

namespace SnippetBench.Text.Utf8

/-- The bytes of one character. -/
def encodeChar (c : Char) : List UInt8 :=
  let n := c.toNat
  let tail (k : Nat) : UInt8 := UInt8.ofNat (0x80 + n / Nat.pow 64 k % 64)
  if n < 0x80 then [UInt8.ofNat n]
  else if n < 0x800 then [UInt8.ofNat (0xC0 + n / 64), tail 0]
  else if n < 0x10000 then [UInt8.ofNat (0xE0 + n / 0x1000), tail 1, tail 0]
  else [UInt8.ofNat (0xF0 + n / 0x40000), tail 2, tail 1, tail 0]

/-- The bytes of a text. -/
def encode (t : Text) : List UInt8 := t.flatMap encodeChar

/-- What is wrong at a place where no character can be read. -/
inductive Fault
  /-- The byte cannot begin a character. -/
  | start
  /-- A continuation byte is missing before the next byte. -/
  | continuation
  /-- The bytes end inside a character. -/
  | unfinished
  deriving DecidableEq, Repr

/-- The description of a fault. -/
def Fault.message : Fault → Text
  | .start => "invalid start byte"
  | .continuation => "invalid continuation byte"
  | .unfinished => "unexpected end of data"

/-- What a lead byte asks for: the number of continuation bytes, its own part of the code
point, and the least and greatest first continuation byte. -/
structure Lead where
  following : Nat
  value : Nat
  low : Nat
  high : Nat

/-- What a byte asks for as the first byte of a character. -/
def lead? (b : UInt8) : Option Lead :=
  let n := b.toNat
  if n < 0x80 then some ⟨0, n, 0x80, 0xBF⟩
  else if n < 0xC2 then none
  else if n < 0xE0 then some ⟨1, n - 0xC0, 0x80, 0xBF⟩
  else if n < 0xF0 then
    some ⟨2, n - 0xE0, if n = 0xE0 then 0xA0 else 0x80, if n = 0xED then 0x9F else 0xBF⟩
  else if n < 0xF5 then
    some ⟨3, n - 0xF0, if n = 0xF0 then 0x90 else 0x80, if n = 0xF4 then 0x8F else 0xBF⟩
  else none

/-- What reading one character finds: a character, or a fault with the number of bytes in it. -/
inductive Found
  | char (c : Char) (rest : List UInt8)
  | fault (what : Fault) (count : Nat) (rest : List UInt8)

/-- Reads `following` continuation bytes, the first of them between `low` and `high`; `count`
bytes are already read and make up `value`. -/
def continuations (count value low high : Nat) : Nat → List UInt8 → Found
  | 0, rest => .char (Char.ofNat value) rest
  | _ + 1, [] => .fault .unfinished count []
  | following + 1, b :: rest =>
    if low ≤ b.toNat ∧ b.toNat ≤ high then
      continuations (count + 1) (value * 64 + (b.toNat - 0x80)) 0x80 0xBF following rest
    else .fault .continuation count (b :: rest)

/-- Reads one character from bytes that begin with `b`. -/
def step (b : UInt8) (rest : List UInt8) : Found :=
  match lead? b with
  | none => .fault .start 1 rest
  | some l => continuations 1 l.value l.low l.high l.following rest

/-- The part of a find that is still unread. -/
def Found.rest : Found → List UInt8
  | .char _ rest => rest
  | .fault _ _ rest => rest

theorem length_rest_continuations (count value low high following : Nat) (bytes : List UInt8) :
    (continuations count value low high following bytes).rest.length ≤ bytes.length := by
  induction following generalizing count value low high bytes with
  | zero => simp [continuations, Found.rest]
  | succ n ih =>
    cases bytes with
    | nil => simp [continuations, Found.rest]
    | cons b rest =>
      simp only [continuations]
      split
      · exact Nat.le_succ_of_le (ih ..)
      · simp [Found.rest]

theorem length_rest_step (b : UInt8) (rest : List UInt8) :
    (step b rest).rest.length ≤ rest.length := by
  simp only [step]
  split
  · simp [Found.rest]
  · exact length_rest_continuations ..

/-- A mistake in bytes read as UTF-8: what is wrong, where it starts, and the bytes in it. -/
structure Mistake where
  fault : Fault
  start : Nat
  bytes : List UInt8
  deriving DecidableEq, Repr

/-- The description of a mistake: a single byte is shown, several are given by their places. -/
def Mistake.message (m : Mistake) : Text :=
  let place :=
    match m.bytes with
    | [b] => "byte 0x" ++ hex 2 b.toNat ++ " in position " ++ ofNat m.start
    | _ => "bytes in position " ++ ofNat m.start ++ "-" ++ ofNat (m.start + m.bytes.length - 1)
  "'utf-8' codec can't decode " ++ place ++ ": " ++ m.fault.message

/-- Reads bytes from a position on, refusing the first mistake. -/
def decodeFrom (position : Nat) : List UInt8 → Except Mistake Text
  | [] => .ok []
  | b :: bytes =>
    match _h : step b bytes with
    | .char c rest =>
      (decodeFrom (position + c.utf8Size) rest).map (c :: ·)
    | .fault what count _ => .error ⟨what, position, (b :: bytes).take count⟩
termination_by bytes => bytes.length
decreasing_by
  have := length_rest_step b bytes
  rw [_h] at this
  simp only [Found.rest] at this
  simp only [List.length_cons]
  omega

/-- The text that bytes encode, or the first mistake in them. -/
def decode (bytes : List UInt8) : Except Mistake Text := decodeFrom 0 bytes

/-- The text that bytes encode, with one U+FFFD for each mistake. -/
def decodeLossy : List UInt8 → Text
  | [] => []
  | b :: bytes =>
    match _h : step b bytes with
    | .char c rest => c :: decodeLossy rest
    | .fault _ _ rest => '\ufffd' :: decodeLossy rest
termination_by bytes => bytes.length
decreasing_by
  all_goals
    have := length_rest_step b bytes
    rw [_h] at this
    simp only [Found.rest] at this
    simp only [List.length_cons]
    omega

end SnippetBench.Text.Utf8
