import SnippetBench.Yaml.Node

/-!
# Merges in YAML mappings

A merge key brings the entries of other mappings into a mapping, before its own ones. Its value is a
mapping, or a sequence of mappings of which the earlier ones win and so come later. The merges of a
mapping that is brought in are resolved first; a mapping may also bring in itself, without the merge
that does so. In a mapping without merges a default key is a text like any other key.
-/

namespace SnippetBench.Yaml

namespace Node

/-- The entries of a mapping; a node of another kind has none. -/
def entries (n : Node) : List (Nat × Nat) :=
  match n.content with
  | .mapping es => es
  | _ => []

/-- The node with other entries. -/
def withEntries (n : Node) (es : List (Nat × Nat)) : Node := { n with content := .mapping es }

/-- Whether a node is a mapping. -/
def isMapping (n : Node) : Bool := n.content matches .mapping _

end Node

namespace Graph

/-- The node with a number. -/
def node (g : Graph) (id : Nat) : Node := g[id]?.getD .empty

/-- The graph with a node changed. -/
def change (g : Graph) (id : Nat) (f : Node → Node) : Graph := g.modify id f

/-- The number of all entries of mappings. -/
def entryCount (g : Graph) : Nat := g.foldl (fun count n => count + n.entries.length) 0

/-- The default keys among entries made texts. -/
def defaultsToTexts (g : Graph) (es : List (Nat × Nat)) : Graph :=
  let toText (n : Node) : Node := if n.tag = .default then { n with tag := .text } else n
  es.foldl (fun g e => g.change e.1 toText) g

/-- The first merge among entries: the number of what it brings in, and the other entries. -/
def takeMerge? (g : Graph) : List (Nat × Nat) → Option (Nat × List (Nat × Nat))
  | [] => none
  | e :: es =>
    if (g.node e.1).tag = .merge then some (e.2, es)
    else (takeMerge? g es).map fun (value, others) => (value, e :: others)

/-- Resolves the merges of a mapping, given the entries that its earlier merges brought in. Each
round takes one merge out of the graph, and entries are brought in from mappings without merges
only, so that the number of entries bounds the fuel. -/
def resolve (fuel id : Nat) (brought : List (Nat × Nat)) (g : Graph) : Except Fault Graph :=
  match fuel with
  | 0 => .error .malformed
  | fuel + 1 =>
    let bring (value : Nat) (g : Graph) : Except Fault (List (Nat × Nat) × Graph) := do
      if (g.node value).isMapping then
        let g ← resolve fuel value [] g
        return ((g.node value).entries, g)
      else throw .malformed
    match g.takeMerge? (g.node id).entries with
    | none =>
      let es := brought ++ (g.node id).entries
      .ok ((g.change id (·.withEntries es)).defaultsToTexts es)
    | some (value, others) => do
      let g := g.change id (·.withEntries others)
      let (more, g) ←
        match (g.node value).content with
        | .sequence values =>
          values.foldlM
            (fun (es, g) value => do
              let (first, g) ← bring value g
              return (first ++ es, g))
            ([], g)
        | _ => bring value g
      resolve fuel id (brought ++ more) g

end Graph

end SnippetBench.Yaml
