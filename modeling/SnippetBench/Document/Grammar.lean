import SnippetBench.Text.Word

/-!
# Grammar of a document

A document is a sequence of declarations and contents, and a declaration is a marker, at most one
value and a line end:

    document     ←  (declaration | content)*
    declaration  ←  marker value? line-end

The marker is `#@bench` where no word character follows it, with the blanks and tabs behind it. A
value is a text in one pair of braces, with the blanks and tabs behind it, or else a bare text; none
of them holds a further brace or a `\n`. A content is the longest run of lines that do not start with
a marker, each with its `\n`. Lines end at `\n`; a line end may have one `\r` before it.

A terminal is given by the number of characters that it takes from the start of a text.
-/

namespace SnippetBench.Document

/-- The marker that opens a declaration. -/
def marker : Text := "#@bench"

/-- What follows the marker at the start of a text, if one stands there. -/
def afterMarker? (t : Text) : Option Text :=
  (Text.after? marker t).filter fun rest => !rest.head?.any Text.isWord

/-- Whether a text starts with a marker, so that its first line is a declaration line. -/
def isMarked (t : Text) : Bool := (afterMarker? t).isSome

/-- The characters that may stand between the marker and the value. -/
def isGap (c : Char) : Bool := c = ' ' || c = '\t'

/-- The two braces that may enclose a value. -/
def isBrace (c : Char) : Bool := c = '{' || c = '}'

/-- The characters of a value, its braces apart. -/
def isPlain (c : Char) : Bool := !isBrace c && c != '\n'

/-- The terminals of the grammar. -/
inductive Terminal
  | marker
  | value
  | content
  | lineEnd
  deriving DecidableEq, Repr

namespace Terminal

/-- The length of a marker, with the blanks and tabs behind it. -/
def markerLength (t : Text) : Nat :=
  match afterMarker? t with
  | some rest => Document.marker.length + (rest.takeWhile isGap).length
  | none => 0

/-- The length of a value in braces, with the blanks and tabs behind it. -/
def bracedLength : Text → Nat
  | '{' :: inside =>
    match inside.dropWhile isPlain with
    | '}' :: after => (inside.takeWhile isPlain).length + 2 + (after.takeWhile isGap).length
    | _ => 0
  | _ => 0

/-- The length of a value; braces are tried before a bare text. -/
def valueLength (t : Text) : Nat :=
  if 0 < bracedLength t then bracedLength t else (t.takeWhile isPlain).length

/-- The length of a run of lines that do not start with a marker. -/
def contentLength (t : Text) : Nat :=
  if isMarked t then 0
  else match h : t.dropWhile (· != '\n') with
    | [] => 0
    | _ :: rest => (t.takeWhile (· != '\n')).length + 1 + contentLength rest
termination_by t.length
decreasing_by
  have := congrArg List.length (List.takeWhile_append_dropWhile (p := (· != '\n')) (l := t))
  simp only [h, List.length_append, List.length_cons] at this
  omega

/-- The length of a line end. -/
def lineEndLength : Text → Nat
  | '\r' :: '\n' :: _ => 2
  | '\n' :: _ => 1
  | _ => 0

/-- How many characters a terminal takes from the start of a text. No terminal is empty, so it takes
none only where it does not stand. -/
def length (t : Text) : Terminal → Nat
  | marker => markerLength t
  | value => valueLength t
  | content => contentLength t
  | lineEnd => lineEndLength t

@[simp] theorem length_nil (k : Terminal) : k.length [] = 0 := by
  cases k with
  | marker => rfl
  | value => rfl
  | content => simp [length, contentLength]
  | lineEnd => rfl

end Terminal

end SnippetBench.Document
