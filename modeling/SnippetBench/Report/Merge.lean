/-!
# Merging two runs

Two runs are merged into one by taking the first value of either again and again. When one run wins
often enough in a row, the merge gallops: it looks at the values at the distances 1, 3, 7, … and
then halves the last interval, to take many values of one run at once. How often is often enough
adapts to the values: it falls while galloping pays and rises when it ends.

A merge goes forward from the least values, or backward from the greatest ones; a backward merge is
given its runs in reverse. For values that all compare with each other, both give the stable merge.
Otherwise the result depends on which values are looked at, and the definitions fix that.
-/

namespace SnippetBench.Report

variable {α : Type}

/-! ### Galloping -/

/-- Halves the interval from `low` to `high` in which the number of first values in the class ends.
Of two middle positions, a backward search looks at the lower one. -/
def halve (inClass : α → Bool) (values : List α) (backward : Bool) (low high : Nat) : Nat :=
  if low < high then
    let middle := low + (high - low - (if backward then 1 else 0)) / 2
    match values[middle]? with
    | some x =>
      if inClass x then halve inClass values backward (middle + 1) high
      else halve inClass values backward low middle
    | none => low
  else high
termination_by high - low
decreasing_by all_goals omega

/-- Looks at positions further and further on, until a value is not in the class: the last
position of a value in the class and the first position after it that was looked at or is none. -/
def reach (inClass : α → Bool) (values : List α) (fuel last next : Nat) : Nat × Nat :=
  match fuel with
  | 0 => (last, next)
  | fuel + 1 =>
    match values[next]? with
    | some x => if inClass x then reach inClass values fuel next (2 * next + 1) else (last, next)
    | none => (last, values.length)

/-- The number of first values that are in a class of values, as far as galloping tells. -/
def gallop (inClass : α → Bool) (values : List α) (backward : Bool) : Nat :=
  match values with
  | [] => 0
  | x :: _ =>
    if inClass x then
      let (last, next) := reach inClass values values.length 0 1
      halve inClass values backward (last + 1) next
    else 0

/-! ### The state of a merge -/

/-- The state of a merge. A value of the second run that is not `before` one of the first run
comes behind it. -/
structure Merge (α : Type) where
  /-- Whether a value of the second run comes before one of the first. -/
  before : α → α → Bool
  backward : Bool
  /-- The merged values, the latest first. -/
  merged : List α
  /-- What is left of the runs. -/
  first : List α
  second : List α

namespace Merge

/-- Whether all values of the second run are merged, or all but one of the first. -/
def isOver (m : Merge α) : Bool :=
  match m.first, m.second with
  | _ :: _ :: _, _ :: _ => false
  | _, _ => true

/-- All values, when a merge is over. -/
def result (m : Merge α) : List α := m.merged.reverse ++ m.second ++ m.first

/-- Takes values of the first run. -/
def takeFirst (m : Merge α) (count : Nat) : Merge α :=
  { m with merged := (m.first.take count).reverse ++ m.merged, first := m.first.drop count }

/-- Takes values of the second run. -/
def takeSecond (m : Merge α) (count : Nat) : Merge α :=
  { m with merged := (m.second.take count).reverse ++ m.merged, second := m.second.drop count }

/-- Takes single values until a run has won `least` times in a row, given how often each has won
until now. -/
def alternate (least fuel : Nat) (firstWins secondWins : Nat) (m : Merge α) : Merge α :=
  match fuel, m.first, m.second with
  | fuel + 1, x :: _, y :: _ =>
    if m.isOver then m
    else if m.before y x then
      let m := m.takeSecond 1
      if least ≤ secondWins + 1 then m else alternate least fuel 0 (secondWins + 1) m
    else
      let m := m.takeFirst 1
      if least ≤ firstWins + 1 then m else alternate least fuel (firstWins + 1) 0 m
  | _, _, _ => m

/-- Takes at once the values of the first run that come before the next value of the second, and
then that one, unless the merge is over; gives how many. -/
def gallopFirst (m : Merge α) : Nat × Merge α :=
  match m.second with
  | [] => (0, m)
  | y :: _ =>
    let count := gallop (fun x => !m.before y x) m.first m.backward
    let m := m.takeFirst count
    (count, if m.isOver then m else m.takeSecond 1)

/-- Takes at once the values of the second run that come before the next value of the first, and
then that one, unless the merge is over; gives how many. -/
def gallopSecond (m : Merge α) : Nat × Merge α :=
  match m.first with
  | [] => (0, m)
  | x :: _ =>
    let count := gallop (fun y => m.before y x) m.second m.backward
    let m := m.takeSecond count
    (count, if m.isOver then m else m.takeFirst 1)

/-- The number of values from which on galloping pays. -/
def worthwhile : Nat := 7

/-- Gallops in both runs, in a forward merge first in the first run, and tells whether it
paid. -/
def gallopBoth (m : Merge α) : Bool × Merge α :=
  let (count, m) := if m.backward then m.gallopSecond else m.gallopFirst
  if m.isOver then (false, m)
  else
    let (count', m) := if m.backward then m.gallopFirst else m.gallopSecond
    (worthwhile ≤ count || worthwhile ≤ count', m)

/-- Gallops as long as it pays. -/
def gallopOn (fuel least : Nat) (m : Merge α) : Nat × Merge α :=
  match fuel with
  | 0 => (least, m)
  | fuel + 1 =>
    let least := max (least - 1) 1
    let (pays, m) := m.gallopBoth
    if m.isOver then (least, m)
    else if pays then gallopOn fuel least m
    else (least + 1, m)

/-- Goes on until the merge is over. -/
def finish (fuel least : Nat) (m : Merge α) : Nat × Merge α :=
  match fuel with
  | 0 => (least, m)
  | fuel + 1 =>
    let m := m.alternate least (m.first.length + m.second.length) 0 0
    if m.isOver then (least, m)
    else
      let (least, m) := m.gallopOn (m.first.length + m.second.length) (least + 1)
      if m.isOver then (least, m) else finish fuel least m

/-- Merges runs of which the second begins with the first value of all, given how many wins in a
row are often enough, which may change. -/
def run (least : Nat) (before : α → α → Bool) (backward : Bool) (first second : List α) :
    Nat × List α :=
  let m := (Merge.mk before backward [] first second).takeSecond 1
  let (least, m) := if m.isOver then (least, m) else m.finish (first.length + second.length) least
  (least, m.result)

end Merge

/-! ### Two neighbouring runs -/

variable [LT α] [DecidableLT α]

/-- Merges two neighbouring runs, given how many wins in a row are often enough. The values at the
ends that are in place already are left out of the merge, which goes backward if the second run is
then the shorter one. -/
def mergeNeighbours (least : Nat) (a b : List α) : Nat × List α :=
  match b with
  | [] => (least, a)
  | y :: _ =>
    let (start, a') := a.splitAt (gallop (fun x => !decide (y < x)) a false)
    match a'.getLast? with
    | none => (least, a ++ b)
    | some last =>
      let (stop, b') := b.reverse.splitAt (gallop (fun x => !decide (x < last)) b.reverse true)
      if b'.isEmpty then (least, a ++ b)
      else
        let (least, middle) :=
          if a'.length ≤ b'.length then
            Merge.run least (fun y x => decide (y < x)) false a' b'.reverse
          else
            let (least, reversed) :=
              Merge.run least (fun y x => decide (x < y)) true b' a'.reverse
            (least, reversed.reverse)
        (least, start ++ middle ++ stop.reverse)

end SnippetBench.Report
