import SnippetBench.Digest.Sha256
import SnippetBench.Script.Block
import SnippetBench.Script.Futures
import SnippetBench.Script.Support

/-!
# The generated script

A script consists of parts: a heading of comments, the lifted future imports, the helper library,
a switch for markdown reports, and one part for each item of the document in order. Between every
two parts stands one empty line.
-/

namespace SnippetBench.Script

open Document (Item)

/-- The version of the program, as the heading and the command line show it. -/
def version : Text := "0.3.0"

/-- The comments that open a script. -/
def heading (samples iterations : Int) (source digest : Option Text) : Text :=
  let lines : List Text :=
    ["# auto-generated using pybm " ++ version, "#", "# samples: " ++ Text.ofInt samples,
      "# iterations: " ++ Text.ofInt iterations]
      ++ (source.map ("# source: ".toList ++ ·)).toList
      ++ (digest.map ("# sha256: ".toList ++ ·)).toList
  Text.join ['\n'] lines ++ ['\n']

/-- What a script is built with, beside the items. -/
structure Settings where
  samples : Int
  iterations : Int
  source : Option Text := none
  digest : Option Text := none
  markdown : Bool := false

/-- The part of a script that an item becomes. -/
def part (settings : Settings) : Item → Text
  | .content text => text
  | .snippet s => block s settings.samples settings.iterations

/-- The parts before those of the items. -/
def frontParts (settings : Settings) (futures : List Text) : List Text :=
  heading settings.samples settings.iterations settings.source settings.digest
    :: (if futures.isEmpty then [] else [Text.join ['\n'] futures])
    ++ support :: (if settings.markdown then ["_PYBM_MARKDOWN = True"] else [])

/-- The parts in order, without the line ends at their ends, with an empty line between every two
of them. -/
def assemble (parts : List Text) : Text :=
  Text.join ['\n', '\n'] (parts.map (Text.trimEnd (· = '\n'))) ++ ['\n']

/-- The script of items. -/
def build (settings : Settings) (items : List Item) : Except CountError Text := do
  checkCounts settings.samples settings.iterations
  let (futures, items) := liftFutures items
  return assemble (frontParts settings futures ++ items.map (part settings))

end SnippetBench.Script
