import SnippetBench.Text.Base64
import SnippetBench.Yaml.Merge
import SnippetBench.Yaml.Numeral
import SnippetBench.Yaml.Timestamp

/-!
# The values of YAML nodes

A node becomes a value by its tag: a scalar is read in the form that its tag asks for, and a
collection gets its parts. A mapping whose merges are resolved keeps one entry for a key: the last
value, in the place of the first. Keys are the same if they are equal as numbers or as instants of
time, or else in kind and value.

Values are built from the outside inwards. A collection is begun where it is first met and filled
later, after all that were begun before it; so a collection can be a part of itself, and of several
faults the one that is met first in this order counts. The structure of a node can contradict its
tag, or a key can be a collection, and then the text is malformed; or a scalar does not have the
form that its tag asks for.
-/

namespace SnippetBench.Yaml

open Number (Binary64)

/-! ### Values without parts -/

/-- What makes two keys the same. -/
inductive Identity
  | number (value : Rat)
  | infinite (negative : Bool)
  /-- Not-a-number is the same as itself only: there is one for its spelling, and one for each node
  that has another name of it. -/
  | notNumber (node : Option Nat)
  | instant (microseconds : Int)
  | other (value : Data)
  deriving BEq

/-- A value without parts, with what makes it the same key as another one. -/
structure Atom where
  data : Data
  identity : Identity

namespace Atom

/-- A value that is the same key as an equal one of its kind only. -/
def plain (d : Data) : Atom := ⟨d, .other d⟩

/-- A truth value, which is the same key as zero or one. -/
def ofBool (b : Bool) : Atom := ⟨.bool b, .number (if b then 1 else 0)⟩

/-- An integer. -/
def ofInt (n : Int) : Atom := ⟨.int n, .number n⟩

/-- A floating point number, written with a text at a node. -/
def ofFloat (node : Nat) (text : Text) (x : Binary64) : Atom :=
  ⟨.float x,
    match x with
    | .nan => .notNumber (if isNanSpelling text then none else some node)
    | .infinite negative => .infinite negative
    | x => .number x.toRat⟩

/-- A timestamp. -/
def ofMoment (m : Moment) : Atom :=
  ⟨m.data, match m.instant? with
    | some t => .instant t
    | none => .other m.data⟩

/-- A text. -/
def ofWording (w : Wording) : Atom := plain (if w.isBroken then .broken w.text else .text w.text)

/-- The bytes that a scalar writes in ASCII letters. -/
def ofBinary? (w : Wording) : Option Atom := do
  guard (w.text.all fun c => c.toNat < 128)
  return plain (.bytes (← Text.Base64.decode? w.text))

end Atom

/-- What is written for a value without parts: a scalar, or the default of a mapping, which is the
value under its first default key. The fuel bounds the number of mappings inside one another. -/
def wordingAt (g : Graph) (fuel id : Nat) : Except Fault Wording :=
  match fuel with
  | 0 => .error (.unreadable .endless)
  | fuel + 1 =>
    match (g.node id).content with
    | .scalar w => .ok w
    | .mapping es =>
      match es.find? fun e => (g.node e.1).tag = .default with
      | some e => wordingAt g fuel e.2
      | none => .error .malformed
    | .sequence _ => .error .malformed

/-- The value without parts of a node by its tag. -/
def atomAt (g : Graph) (id : Nat) : Except Fault Atom := do
  let n := g.node id
  if [Tag.merge, .default, .unknown].contains n.tag then throw .malformed
  let w ← wordingAt g (g.size + 1) id
  let refuse (what : Unreadable) : Fault := .unreadable (what.withHalves w.stands)
  match n.tag with
  | .null => return .plain .null
  | .bool => ((readBool w.text).map Atom.ofBool).mapError refuse
  | .int => ((readInt w.text).map Atom.ofInt).mapError refuse
  | .float => ((readFloat w.text).map (Atom.ofFloat id w.text)).mapError refuse
  | .timestamp =>
    if n.isMapping then throw (.unreadable .timestampInside)
    else ((readTimestamp w.text).map Atom.ofMoment).mapError refuse
  | .text => return .ofWording w
  | .binary => wellFormed (Atom.ofBinary? w)
  | _ => throw .malformed

/-! ### Collections -/

/-- What is known of the value of a node. The parts of a collection that may be collections are
given by their numbers. -/
inductive Value
  | atom (a : Atom)
  | list (items : List Nat)
  /-- A list of pairs, of which only the number is kept. -/
  | pairs (count : Nat)
  | set (members : List Atom)
  | map (entries : List (Atom × Nat))

/-- The empty collection of the kind that a tag names. -/
def Value.begun? : Tag → Option Value
  | .sequence => some (.list [])
  | .ordered => some (.pairs 0)
  | .pairs => some (.pairs 0)
  | .set => some (.set [])
  | .mapping => some (.map [])
  | _ => none

/-- Adds an entry: in the place of one with the same key, else at the end. -/
def putEntry (entries : List (Atom × Nat)) (key : Atom) (value : Nat) : List (Atom × Nat) :=
  match entries with
  | [] => [(key, value)]
  | (k, v) :: rest =>
    if k.identity == key.identity then (k, value) :: rest else (k, v) :: putEntry rest key value

/-- The state of building values: the graph, the values so far by the numbers of their nodes, and
the collections that were begun, in this order. -/
structure Building where
  graph : Graph
  values : Array (Option Value)
  begun : Array Nat := #[]

/-- Building values with a state that may find a fault. -/
abbrev Build := StateT Building (Except Fault)

namespace Build

/-- The node with a number. -/
def node (id : Nat) : Build Node := return (← get).graph.node id

/-- Notes the value of a node. -/
def note (id : Nat) (v : Value) : Build Unit :=
  modify fun b => { b with values := b.values.setIfInBounds id (some v) }

/-- The value of a node; a collection that is met for the first time is begun. -/
def value (id : Nat) : Build Value := do
  match (← get).values[id]?.join with
  | some v => return v
  | none =>
    match Value.begun? (← node id).tag with
    | some v =>
      note id v
      modify fun b => { b with begun := b.begun.push id }
      return v
    | none =>
      let v := Value.atom (← atomAt (← get).graph id)
      note id v
      return v

/-- The value of a key, which may not be a collection. -/
def key (id : Nat) : Build Atom := do
  match ← value id with
  | .atom a => return a
  | _ => throw .malformed

/-- The entries of a mapping, with its merges resolved. -/
def entries (id : Nat) : Build (List (Atom × Nat)) := do
  let g := (← get).graph
  let g ← g.resolve (g.entryCount + 1) id []
  modify fun b => { b with graph := g }
  (g.node id).entries.foldlM
    (fun es e => do
      let k ← key e.1
      let _ ← value e.2
      return putEntry es k e.2)
    []

/-- Builds the parts of a pair, which is a mapping with one entry. -/
def pair (id : Nat) : Build Unit := do
  match (← node id).entries with
  | [e] =>
    let _ ← value e.1
    let _ ← value e.2
  | _ => throw .malformed

/-- Fills a collection that was begun. -/
def fill (id : Nat) : Build Unit := do
  let n ← node id
  match n.tag, n.content with
  | .sequence, .sequence items =>
    items.forM fun item => do
      let _ ← value item
    note id (.list items)
  | .ordered, .sequence items | .pairs, .sequence items =>
    items.forM pair
    note id (.pairs items.length)
  | .mapping, .mapping _ => note id (.map (← entries id))
  | .set, .mapping _ => note id (.set ((← entries id).map Prod.fst))
  | _, _ => throw .malformed

/-- Fills the collections from the given one on, in the order in which they were begun. There are at
most as many as there are nodes, which bounds the fuel. -/
def fillFrom (fuel start : Nat) : Build Unit := do
  match fuel with
  | 0 => return ()
  | fuel + 1 =>
    match (← get).begun[start]? with
    | some id =>
      fill id
      fillFrom fuel (start + 1)
    | none => return ()

end Build

namespace Building

/-- The data of a node: collections are empty that are more than `depth` collections deep. -/
def data (b : Building) (depth id : Nat) : Data :=
  match b.values[id]?.join, depth with
  | some (.atom a), _ => a.data
  | some (.list _), 0 => .list []
  | some (.list items), depth + 1 => .list (items.map (b.data depth))
  | some (.pairs count), _ => .list (List.replicate count (.other "tuple" "()"))
  | some (.set members), _ => .set (members.map Atom.data)
  | some (.map _), 0 => .map []
  | some (.map es), depth + 1 => .map (es.map fun (k, v) => (k.data, b.data depth v))
  | none, _ => .null

end Building

/-- The value in a text, down to collections that are `depth` collections deep, which are left
empty. A text without a document stands for null. -/
def load (depth : Nat) (t : Text) : Except Fault Data := do
  match ← Node.ofText t with
  | (none, _) => return .null
  | (some root, graph) =>
    let build : Build Unit := do
      let _ ← Build.value root
      Build.fillFrom graph.size 0
    let (_, b) ← build.run { graph, values := Array.replicate graph.size none }
    return b.data depth root

end SnippetBench.Yaml
