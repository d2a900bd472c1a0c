import SnippetBench.Document.Item

/-!
# Listings

A listing shows the code that a snippet measures between a header, which names the document and the
snippet, and a footer. A plain header is filled up with dots to a fixed width; in markdown the code
stands in a fence.
-/

namespace SnippetBench.Document.Listing

/-- The width of a plain header and footer. -/
def width : Nat := 32

/-- The number of characters that a long path is cut down to. -/
def pathTail : Nat := 10

/-- Where a snippet is: the end of its document's path and its name. -/
def location (path name : Text) : Text :=
  let shown := if pathTail < path.length then "..." ++ path.drop (path.length - pathTail) else path
  shown ++ '@' :: name

/-- The line or lines above the code. -/
def header (path : Text) (snippet : Snippet) (markdown : Bool) : Text :=
  let place := location path snippet.name
  if markdown then '*' :: place ++ "*\n```python" else Text.padStart width '.' place

/-- The line below the code. -/
def footer (markdown : Bool) : Text := if markdown then "```" else List.replicate width '.'

/-- The listing of a snippet, without a final line end. -/
def format (path : Text) (snippet : Snippet) (markdown : Bool) : Text :=
  Text.join ['\n'] [header path snippet markdown, snippet.code, footer markdown]

end SnippetBench.Document.Listing
