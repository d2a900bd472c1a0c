import SnippetBench.Document.Item
import SnippetBench.Text.Lines

/-!
# Future imports

A line of content that starts with `from __future__ import ` has to precede every other statement
of the script. Such lines are lifted out of the content items, in order; all other lines, and all
snippets, stay where they are.
-/

namespace SnippetBench.Script

open Document (Item)

/-- How a line begins that must move to the top of the script. -/
def futureStart : Text := "from __future__ import "

/-- Whether a line must move to the top of the script. -/
def isFuture (line : Text) : Bool := futureStart.isPrefixOf line

/-- The lines of a content text that move to the top, without the blanks at their ends. -/
def futureLines (text : Text) : List Text :=
  ((Text.newlineLines text).filter isFuture).map Text.strip

/-- A content text without the lines that move to the top. -/
def withoutFutures (text : Text) : Text :=
  ((Text.newlineLines text).filter fun line => !isFuture line).flatten

/-- The lines that an item gives to the top of the script. -/
def Futures.ofItem : Item → List Text
  | .content text => futureLines text
  | .snippet _ => []

/-- What remains of an item without these lines. -/
def Futures.strip : Item → Item
  | .content text => .content (withoutFutures text)
  | .snippet s => .snippet s

/-- The lifted lines of all items, and the items that remain. -/
def liftFutures (items : List Item) : List Text × List Item :=
  (items.flatMap Futures.ofItem, items.map Futures.strip)

end SnippetBench.Script
