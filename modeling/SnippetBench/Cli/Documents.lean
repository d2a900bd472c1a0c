import SnippetBench.Cli.Preparation
import SnippetBench.Document.Listing

/-!
# Documents on the command line

A document is read and parsed. One that cannot be read or does not parse is told and gives an exit
code, and the next document follows; bytes that are no text are trouble.
-/

namespace SnippetBench.Cli

open Document (Item Token)
open Files (Path)

/-- The loggers of the two stages of reading a document. -/
def documentLoggers : List Text := ["pybm.document.tokenizer", "pybm.document.parser"]

/-- Reads and parses a document. -/
def readDocument (w : World) (command : Text) (p : Path) : Part (Text × List Item) := do
  Work.needLoggers documentLoggers
  match (← get).tree.textAt p with
  | .error (.encoding m) => Part.trouble (.encoding m)
  | .error e =>
    Work.note w (commandLogger command) .error "Cannot read document"
      [("path", .text p.toText), ("error", .text e.message)]
    throw .userError
  | .ok text =>
    match Token.ofText text with
    | .error m =>
      Work.note w (commandLogger command) .error "Document failed to parse"
        [("path", .text p.toText), ("error", .text m.message), ("line", .int m.line)]
      throw .validationError
    | .ok tokens =>
      let items := Item.ofTokens tokens
      Work.note w "pybm.document.tokenizer" .debug "Document tokenized"
        [("tokens", .int tokens.length)]
      Work.note w "pybm.document.parser" .debug "Document parsed"
        [("items", .int items.length), ("snippets", .int (Document.snippets items).length)]
      return (text, items)

/-- Prints the code of the snippets among items. -/
def printListing (path : Text) (items : List Item) (markdown : Bool) : Work Unit :=
  for snippet in Document.snippets items do
    Work.print (Document.Listing.format path snippet markdown)

/-- Works on paths one after another, and gives the greatest exit code. -/
def forPaths (work : Text → Work ExitCode) : List Text → Work ExitCode
  | [] => return .success
  | path :: paths => do
    let code ← work path
    return code.worse (← forPaths work paths)

end SnippetBench.Cli
