import Metrology.Sorting.Merge

/-!
# Sorting with a comparison that may fail

A stable sort that asks only whether one element is less than another, and stops at the first
comparison that fails. The list is cut into runs from left to right, and the runs are merged in the
order of a nearly balanced tree: the boundary between two runs lies as deep in the tree as the
binary digits of the runs' middles, as fractions of the list, agree.
-/

namespace Metrology.Sorting

variable {β ε : Type}

/-- A run that waits to be merged. -/
structure Waiting (β : Type) where
  run : List β
  /-- The place in the list at which the run starts. -/
  start : Nat
  /-- How deep the boundary in front of the run lies. -/
  depth : Nat

/-- The waiting runs, the last one first, and the threshold for the next merge. -/
structure Pile (β : Type) where
  runs : List (Waiting β)
  threshold : Nat

/-- How deep the boundary lies between a run that starts at `start` and the next one: the number of
binary digits in which their middles agree. -/
def boundaryDepth (total start left right : Nat) : Nat :=
  let middle := 2 * start + left
  let next := middle + left + right
  (List.range (total.log2 + 2)).findIdx fun k =>
    middle * Nat.pow 2 k / total != next * Nat.pow 2 k / total

namespace Pile

variable (lt : β → β → Except ε Bool)

/-- Merge the last runs as long as the boundary between them lies deeper than `depth`. -/
def collapse (depth threshold : Nat) : List (Waiting β) → Except ε (Pile β)
  | last :: previous :: rest =>
    if depth < last.depth then do
      let (run, threshold) ← merge lt previous.run last.run threshold
      collapse depth threshold ({ previous with run } :: rest)
    else pure ⟨last :: previous :: rest, threshold⟩
  | runs => pure ⟨runs, threshold⟩
termination_by runs => runs.length

/-- Put a run on a pile of the runs in front of it. -/
def push (total : Nat) (p : Pile β) (run : List β) : Except ε (Pile β) :=
  match p.runs with
  | [] => pure { p with runs := [⟨run, 0, 0⟩] }
  | last :: _ => do
    let depth := boundaryDepth total last.start last.run.length run.length
    let p ← collapse lt depth p.threshold p.runs
    return { p with runs := ⟨run, last.start + last.run.length, depth⟩ :: p.runs }

/-- Cut a list into runs and put them on a pile. -/
def pushAll (total : Nat) (p : Pile β) : List β → Except ε (Pile β)
  | [] => pure p
  | a :: r => do
    let run ← firstRun lt (leastRun total) a r
    let p ← p.push lt total run
    pushAll total p (r.drop (run.length - 1))
termination_by xs => xs.length
decreasing_by
  simp only [List.length_cons, List.length_drop]
  omega

/-- Merge all runs: the last two, or the two in front of the last if that is the longest of the
three. -/
def mergeAll (threshold : Nat) : List (Waiting β) → Except ε (List β)
  | [] => pure []
  | [w] => pure w.run
  | [last, previous] => do
    return (← merge lt previous.run last.run threshold).1
  | last :: previous :: first :: rest => do
    if first.run.length < last.run.length then
      let (run, threshold) ← merge lt first.run previous.run threshold
      mergeAll threshold (last :: { first with run } :: rest)
    else
      let (run, threshold) ← merge lt previous.run last.run threshold
      mergeAll threshold ({ previous with run } :: first :: rest)
termination_by runs => runs.length

end Pile

def sort (lt : β → β → Except ε Bool) (xs : List β) : Except ε (List β) := do
  let p ← Pile.pushAll lt xs.length ⟨[], bulkSize⟩ xs
  Pile.mergeAll lt p.threshold p.runs

end Metrology.Sorting
