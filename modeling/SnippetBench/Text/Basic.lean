/-!
# Texts

A text is the sequence of its Unicode code points. Documents, snippet names, generated scripts,
paths and messages are all texts, so that every statement about them is a statement about lists of
characters. A string literal may stand wherever a text is expected.
-/

namespace SnippetBench

/-- A text: its code points in order. -/
abbrev Text := List Char

instance : Coe String Text := ⟨String.toList⟩

namespace Text

/-- Whether a code point lies in one of the ranges, both ends included. -/
def inRanges (ranges : List (Nat × Nat)) (c : Char) : Bool :=
  ranges.any fun r => r.1 ≤ c.toNat && c.toNat ≤ r.2

/-- The text without its longest final run of characters of the class. -/
def trimEnd (p : Char → Bool) (t : Text) : Text := (t.reverse.dropWhile p).reverse

/-- The text without its longest first and final runs of characters of the class. -/
def trim (p : Char → Bool) (t : Text) : Text := trimEnd p (t.dropWhile p)

/-- The parts in order with `separator` between every two neighbours. -/
def join (separator : Text) (parts : List Text) : Text := separator.intercalate parts

/-- The decimal numeral of a natural number. -/
def ofNat (n : Nat) : Text := Nat.toDigits 10 n

/-- The decimal numeral of an integer, with a sign only when it is negative. No integer has too many
digits to be written. -/
def ofInt : Int → Text
  | .ofNat n => ofNat n
  | .negSucc n => '-' :: ofNat (n + 1)

/-- A text filled up at its start to at least `width` characters. -/
def padStart (width : Nat) (fill : Char) (t : Text) : Text :=
  List.replicate (width - t.length) fill ++ t

/-- The lower case hexadecimal numeral of `n`, filled up with zeros to `width` digits. -/
def hex (width n : Nat) : Text := padStart width '0' (Nat.toDigits 16 n)

/-- The parts of a text between the characters of the class; one more than there are such
characters. -/
def splitOn (p : Char → Bool) : Text → List Text
  | [] => [[]]
  | c :: rest =>
    if p c then [] :: splitOn p rest
    else match splitOn p rest with
      | [] => [[c]]
      | part :: parts => (c :: part) :: parts

/-- What follows `start` in the text, if the text begins with it. -/
def after? (start t : Text) : Option Text :=
  if start.isPrefixOf t then some (t.drop start.length) else none

/-- Whether `part` occurs in the text as consecutive characters. -/
def occursIn (part : Text) : Text → Bool
  | [] => part.isEmpty
  | c :: rest => part.isPrefixOf (c :: rest) || occursIn part rest

end Text

end SnippetBench
