import SnippetBench.Document.Grammar
import SnippetBench.Text.Lines

/-!
# Tokens of a document

A document is given a final line end if it lacks one, and read from its start to its end, one
terminal of the grammar after the other. What has been read of the declaration at hand decides which
terminals may come next; the first of them that takes any characters is read. A declaration becomes
one token with its name and its line, a content one token with its text and its first line. Where
none of the terminals takes a character, the whole document is invalid, and the mistake is placed
there.
-/

namespace SnippetBench.Document

/-- A token: the declaration of a name, which may be empty, or a run of content lines with their
line ends. Both carry the number of their first line. -/
inductive Token
  | declaration (name : Text) (line : Nat)
  | content (text : Text) (line : Nat)
  deriving DecidableEq, Repr

/-- A place where a document does not match the grammar. Lines and columns count from one. -/
structure Misfit where
  line : Nat
  column : Nat
  deriving DecidableEq, Repr

/-- The description of a misfit. -/
def Misfit.message (m : Misfit) : Text :=
  "Document does not match the benchmark grammar (line " ++ Text.ofNat m.line ++ ", column "
    ++ Text.ofNat m.column ++ ")"

/-- The characters that are cut off from both ends of a value to give the name. -/
def isNameTrim (c : Char) : Bool := isBrace c || c = ' ' || c = '\n' || c = '\r'

/-- What has been read of the declaration at hand. -/
inductive Reading
  | between
  | marked (line : Nat)
  | valued (line : Nat) (value : Text)
  deriving DecidableEq, Repr

/-- A terminal that may come next, with the reading and the tokens that it leads to when it takes a
text on a line. -/
structure Move where
  terminal : Terminal
  reading : Text → Nat → Reading
  tokens : Text → Nat → List Token

namespace Reading

/-- The moves from a reading, in the order in which they are tried. -/
def moves : Reading → List Move
  | between =>
    [⟨.marker, fun _ line => marked line, fun _ _ => []⟩,
      ⟨.content, fun _ _ => between, fun text line => [.content text line]⟩]
  | marked line =>
    [⟨.value, fun text _ => valued line text, fun _ _ => []⟩,
      ⟨.lineEnd, fun _ _ => between, fun _ _ => [.declaration [] line]⟩]
  | valued line value =>
    [⟨.lineEnd, fun _ _ => between, fun _ _ => [.declaration (Text.trim isNameTrim value) line]⟩]

/-- The first move from a reading whose terminal stands at the start of a text. -/
def move? (reading : Reading) (t : Text) : Option Move :=
  reading.moves.find? fun move => 0 < move.terminal.length t

end Reading

/-- The column behind a text that starts in the given column. -/
def columnAfter (column : Nat) (text : Text) : Nat :=
  if text.contains '\n' then (text.reverse.takeWhile (· != '\n')).length + 1
  else column + text.length

namespace Token

/-- The tokens of a text that starts at a line and a column, after what has been read. -/
def scan (reading : Reading) (line column : Nat) (t : Text) : Except Misfit (List Token) :=
  match _h : reading.move? t with
  | none => if t.isEmpty && reading == .between then .ok [] else .error ⟨line, column⟩
  | some move =>
    let text := t.take (move.terminal.length t)
    let tokens := scan (move.reading text line) (line + text.count '\n') (columnAfter column text)
      (t.drop (move.terminal.length t))
    tokens.map (move.tokens text line ++ ·)
termination_by t.length
decreasing_by
  have taken : 0 < move.terminal.length t := by simpa using List.find?_some _h
  cases t with
  | nil => simp at taken
  | cons c rest => simp only [List.length_drop, List.length_cons]; omega

/-- The tokens of a document, which is given a final line end if it lacks one. -/
def ofText (document : Text) : Except Misfit (List Token) :=
  scan .between 1 1 (Text.endLine document)

end Token

end SnippetBench.Document
