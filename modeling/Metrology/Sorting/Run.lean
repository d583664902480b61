import Metrology.Sorting.Search

/-!
# Runs

A run is a sorted part of a list. The longest beginning of a list that goes up is a run, and so is
one that goes strictly down, turned round. A short run is lengthened by putting the elements behind
it into their places.
-/

namespace Metrology.Sorting

variable {β ε : Type} (lt : β → β → Except ε Bool)

/-- The elements behind `a` up to where they first go down. -/
def takeUp (a : β) : List β → Except ε (List β)
  | [] => pure []
  | b :: r => do
    if ← lt b a then pure [] else return b :: (← takeUp b r)

/-- The elements behind `a` up to where they first do not go down. -/
def takeDown (a : β) : List β → Except ε (List β)
  | [] => pure []
  | b :: r => do
    if ← lt b a then return b :: (← takeDown b r) else pure []

/-- The longest run at the beginning of the list `a :: r`. -/
def naturalRun (a : β) (r : List β) : Except ε (List β) :=
  match r with
  | [] => pure [a]
  | b :: r => do
    if ← lt b a then return (a :: b :: (← takeDown lt b r)).reverse
    else return a :: b :: (← takeUp lt b r)

/-- Put an element into its place in a run, behind all elements that are not greater. -/
def insert (run : List β) (x : β) : Except ε (List β) := do
  let i ← bisect .front (fun y => return !(← lt x y)) run
  return run.take i ++ x :: run.drop i

/-- A run at the beginning of the list `a :: r`, of at least `least` elements if the list has so
many. -/
def firstRun (least : Nat) (a : β) (r : List β) : Except ε (List β) := do
  let run ← naturalRun lt a r
  ((r.drop (run.length - 1)).take (least - run.length)).foldlM (insert lt) run

/-- The least length of the runs of a list: all of a list of fewer than 64 elements, otherwise from
32 to 64, so that the number of runs is at most slightly less than a power of two. -/
def leastRun (length : Nat) : Nat :=
  let parts := Nat.pow 2 (length.log2 - 5)
  (length + parts - 1) / parts

end Metrology.Sorting
