/-!
# Runs

A run is a part of a list that is in order: no value is less than the one before it. A list of
values some of which may not compare is cut into runs: the longest first part that ascends, or
descends and is then reversed, is taken; a short one is filled up by inserting the next values, each
behind the last value that it is not less than, found by halving.
-/

namespace SnippetBench.Report

variable {α : Type} [LT α] [DecidableLT α]

/-- The longest first part of a list in which each value, starting with one that follows
`previous`, is less than the one before it, and the rest. -/
def descendingRun (previous : α) : List α → List α × List α
  | [] => ([], [])
  | x :: rest =>
    if x < previous then
      let (run, rest) := descendingRun x rest
      (x :: run, rest)
    else ([], x :: rest)

/-- The longest first part of a list in which no value, starting with one that follows
`previous`, is less than the one before it, and the rest. -/
def ascendingRun (previous : α) : List α → List α × List α
  | [] => ([], [])
  | x :: rest =>
    if x < previous then ([], x :: rest)
    else
      let (run, rest) := ascendingRun x rest
      (x :: run, rest)

/-- The first run of a list, reversed if it descends, and the rest. -/
def naturalRun : List α → List α × List α
  | a :: b :: rest =>
    if b < a then
      let (run, rest) := descendingRun b rest
      ((a :: b :: run).reverse, rest)
    else
      let (run, rest) := ascendingRun b rest
      (a :: b :: run, rest)
  | xs => (xs, [])

/-- Where `x` belongs among the values at the positions from `low` up to `high`. -/
def insertionPoint (values : List α) (x : α) (low high : Nat) : Nat :=
  if low < high then
    let middle := low + (high - low) / 2
    match values[middle]? with
    | some y =>
      if x < y then insertionPoint values x low middle
      else insertionPoint values x (middle + 1) high
    | none => low
  else low
termination_by high - low

/-- The values with `x` put in its place. -/
def insertByHalving (values : List α) (x : α) : List α :=
  let k := insertionPoint values x 0 values.length
  values.take k ++ x :: values.drop k

/-- The first run of a list, filled up to `least` values as far as there are any, and the rest. -/
def filledRun (least : Nat) (xs : List α) : List α × List α :=
  let (run, rest) := naturalRun xs
  let missing := least - run.length
  ((rest.take missing).foldl insertByHalving run, rest.drop missing)

/-- The least length of a run in a list of `count` values: below 64 all of them, and else a number
between 32 and 64 of which `count` is a power of two times, or slightly less. -/
def leastRun (count : Nat) : Nat := halved count 0
where
  /-- Halves a number until it is below 64, and adds one if anything was lost. -/
  halved (count lost : Nat) : Nat :=
    if 64 ≤ count then halved (count / 2) (max lost (count % 2)) else count + lost
  termination_by count

/-- A list cut into filled runs. -/
def runsOf (least : Nat) (fuel : Nat) (xs : List α) : List (List α) :=
  match fuel, xs with
  | 0, _ => []
  | _, [] => []
  | fuel + 1, xs =>
    let (run, rest) := filledRun least xs
    run :: runsOf least fuel rest

end SnippetBench.Report
