import SnippetBench.Report.Merge
import SnippetBench.Report.Run

/-!
# Ascending order

Sorting the samples. Where every value compares with itself, the order is the stable ascending one.
A value that is not a number compares with nothing; then the order is that of a merge sort by runs:
the list is cut into runs, and neighbouring runs are merged, those first whose middles are parted
last when the list is halved again and again.
-/

namespace SnippetBench.Report

/-- How often a list of `count` values has to be halved until the middles of two neighbouring runs
of it are parted, given twice the distances of the middles from its start. -/
def partingDepth (count fuel depth middle middle' : Nat) : Nat :=
  match fuel with
  | 0 => depth
  | fuel + 1 =>
    if count ≤ middle then
      partingDepth count fuel (depth + 1) (2 * (middle - count)) (2 * (middle' - count))
    else if count ≤ middle' then depth + 1
    else partingDepth count fuel (depth + 1) (2 * middle) (2 * middle')

/-- A run that waits to be merged: where it starts, its values, and the depth at which it is parted
from the run behind it. -/
structure Waiting (α : Type) where
  start : Nat
  values : List α
  depth : Nat := 0

/-- The runs that wait, the last first, and how many wins in a row are often enough for a merge to
gallop. -/
structure Pending (α : Type) where
  least : Nat := Merge.worthwhile
  runs : List (Waiting α) := []

namespace Pending

variable {α : Type} [LT α] [DecidableLT α]

/-- Merges the last two runs while they are parted deeper than the given depth. -/
def mergeDeeper (depth : Nat) (least : Nat) (last : Waiting α) : List (Waiting α) → Pending α
  | [] => ⟨least, [last]⟩
  | run :: runs =>
    if depth < run.depth then
      let (least, values) := mergeNeighbours least run.values last.values
      mergeDeeper depth least { run with values } runs
    else ⟨least, last :: run :: runs⟩

/-- Adds a run of a list of `count` values behind the others. -/
def push (count : Nat) (p : Pending α) (values : List α) : Pending α :=
  match p.runs with
  | [] => { p with runs := [{ start := 0, values }] }
  | last :: runs =>
    let size := last.values.length
    let middle := 2 * last.start + size
    let depth := partingDepth count (2 * count + 2) 0 middle (middle + size + values.length)
    let merged := mergeDeeper depth p.least last runs
    let start := last.start + size
    match merged.runs with
    | last :: runs => { merged with runs := { start, values } :: { last with depth } :: runs }
    | [] => { merged with runs := [{ start, values }] }

/-- Merges all runs: the last two, or the two before the last if the first of them is shorter than
the last. -/
def mergeAll (fuel : Nat) (p : Pending α) : List α :=
  match fuel, p.runs with
  | fuel + 1, c :: b :: a :: runs =>
    if a.values.length < c.values.length then
      let (least, values) := mergeNeighbours p.least a.values b.values
      mergeAll fuel ⟨least, c :: { a with values } :: runs⟩
    else
      let (least, values) := mergeNeighbours p.least b.values c.values
      mergeAll fuel ⟨least, { b with values } :: a :: runs⟩
  | _, [b, a] => (mergeNeighbours p.least a.values b.values).2
  | _, runs => runs.flatMap (·.values)

end Pending

variable {α : Type} [LT α] [DecidableLT α]

/-- The values in the order of a merge sort by runs. -/
def runOrder (xs : List α) : List α :=
  let runs := runsOf (leastRun xs.length) xs.length xs
  (runs.foldl (Pending.push xs.length) {}).mergeAll runs.length

variable [LE α] [DecidableLE α]

/-- The values in ascending order. -/
def ascending (xs : List α) : List α :=
  if xs.all fun x => x ≤ x then xs.mergeSort fun x y => x ≤ y else runOrder xs

end SnippetBench.Report
