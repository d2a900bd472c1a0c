import SnippetBench.Document.Token
import SnippetBench.Text.Blank

/-!
# Items of a document

The items are what a script is built from: content that is taken over as it is, and named snippets
of code that are measured. A named declaration opens a snippet, which collects the content tokens up
to the next declaration. An empty declaration closes the open snippet and leaves an empty content
item as its mark. Content outside a snippet becomes an item of its own. All content is stripped of
the blanks at its ends.
-/

namespace SnippetBench.Document

/-- A snippet: a name and the code to be measured. -/
structure Snippet where
  name : Text
  code : Text := []
  deriving DecidableEq, Repr

/-- An item of a document. -/
inductive Item
  | content (text : Text)
  | snippet (snippet : Snippet)
  deriving DecidableEq, Repr

namespace Item

/-- The items of tokens, where `active` is the snippet that is collecting code, if any. It is
written out when the next declaration arrives or the tokens end. -/
def foldFrom (active : Option Snippet) : List Token → List Item
  | [] => (active.map snippet).toList
  | .declaration name _ :: tokens =>
    (active.map snippet).toList ++
      if name.isEmpty then content [] :: foldFrom none tokens
      else foldFrom (some ⟨name, []⟩) tokens
  | .content text _ :: tokens =>
    match active with
    | some s => foldFrom (some { s with code := s.code ++ Text.strip text }) tokens
    | none => content (Text.strip text) :: foldFrom none tokens

/-- The items of tokens in order. -/
def ofTokens (tokens : List Token) : List Item := foldFrom none tokens

/-- The items of a document. -/
def ofText (document : Text) : Except Misfit (List Item) :=
  (Token.ofText document).map ofTokens

/-- The snippet that an item is, if it is one. -/
def snippet? : Item → Option Snippet
  | content _ => none
  | snippet s => some s

end Item

/-- The snippets among the items, in order. -/
def snippets (items : List Item) : List Snippet := items.filterMap Item.snippet?

end SnippetBench.Document
