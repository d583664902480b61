import Metrology.Sorting.Run

/-!
# Merging two runs

Two neighbouring runs become one; of equal elements those of the left run come first. What is in
place already at either end stays there. The rest is merged from the end of the shorter run's side:
a short left run from the front, a short right run from the back. Elements are taken one by one
until one run wins several times in a row; then they are taken in bulk as long as that pays.
-/

namespace Metrology.Sorting

variable {β ε : Type}

/-- How many wins in a row, or elements in one bulk, make bulks worth while at first. -/
def bulkSize : Nat := 7

/-- How elements are being taken from two runs. -/
inductive Pace where
  /-- One by one. So many of the last ones in a row came from the late run, or from the early
  one. -/
  | single (late early : Nat)
  /-- In bulk, from the left run and the right run in turns: the sizes of the bulks of this turn. -/
  | bulk (sizes : List Nat)
deriving DecidableEq, Repr

/-- The pace for the next step. It takes `threshold` wins in a row to change to bulks. Every turn of
bulks that pays makes that easier, and changing back to single elements makes it harder. -/
def Pace.next (threshold : Nat) : Pace → Pace × Nat
  | .single late early =>
    if threshold ≤ late ∨ threshold ≤ early then (.bulk [], threshold)
    else (.single late early, threshold)
  | .bulk [n, k] =>
    if bulkSize ≤ n ∨ bulkSize ≤ k then (.bulk [], max 1 (threshold - 1))
    else (.single 0 0, threshold + 1)
  | pace => (pace, threshold)

/-- Is the next bulk taken from the late run? From the front, that is the left run, and from the
back, the right one; the left run has the first turn. -/
def End.lateTurn : End → List Nat → Bool
  | .front, sizes => sizes.isEmpty
  | .back, sizes => !sizes.isEmpty

/-- Does `y` of the early run come before `x` of the late run, as seen from the given end? Equal
elements of the left run stand further to the front. -/
def End.wins (e : End) (lt : β → β → Except ε Bool) (y x : β) : Except ε Bool :=
  match e with
  | .front => lt y x
  | .back => lt x y

variable (lt : β → β → Except ε Bool)

/-- Put elements in front of a merged run. -/
def prepend (xs : List β) (r : List β × Nat) : List β × Nat := (xs ++ r.1, r.2)

/-- Merge what is left of two runs, as seen from the given end. The last element of all is that of
the late run. The result comes with the threshold for the next merge. -/
def mergeRest (e : End) (late early : List β) (pace : Pace) (threshold : Nat) :
    Except ε (List β × Nat) :=
  match late, early with
  | x :: x' :: xs, y :: ys =>
    match pace.next threshold with
    | (.single n k, threshold) => do
      if ← e.wins lt y x then
        return prepend [y] (← mergeRest e (x :: x' :: xs) ys (.single 0 (k + 1)) threshold)
      else
        return prepend [x] (← mergeRest e (x' :: xs) (y :: ys) (.single (n + 1) 0) threshold)
    | (.bulk sizes, threshold) =>
      if e.lateTurn sizes then do
        let n ← gallop e (fun z => return !(← e.wins lt y z)) (x :: x' :: xs)
        let bulk := (x :: x' :: xs).take n
        let rest := (x :: x' :: xs).drop n
        if rest.length ≤ 1 then return (bulk ++ y :: ys ++ rest, threshold)
        else
          return prepend (bulk ++ [y]) (← mergeRest e rest ys (.bulk (sizes ++ [n])) threshold)
      else do
        let n ← gallop e (fun z => e.wins lt z x) (y :: ys)
        let bulk := (y :: ys).take n
        let rest := (y :: ys).drop n
        if rest.isEmpty then return (bulk ++ x :: x' :: xs, threshold)
        else
          return prepend (bulk ++ [x])
            (← mergeRest e (x' :: xs) rest (.bulk (sizes ++ [n])) threshold)
  | _, _ => pure (early ++ late, threshold)
termination_by late.length + early.length
decreasing_by
  all_goals simp only [List.length_cons, List.length_drop]
  all_goals omega

/-- Merge two runs as seen from the given end. The first element of all is that of the early run,
the last element that of the late one. -/
def mergeFrom (e : End) (late early : List β) (threshold : Nat) : Except ε (List β × Nat) :=
  match early with
  | [] => pure (late, threshold)
  | y :: ys => do return prepend [y] (← mergeRest lt e late ys (.single 0 0) threshold)

def merge (left right : List β) (threshold : Nat) : Except ε (List β × Nat) :=
  match right with
  | [] => pure (left, threshold)
  | y :: _ => do
    let n ← gallop .front (fun x => return !(← lt y x)) left
    let rest := left.drop n
    match rest.getLast? with
    | none => pure (left ++ right, threshold)
    | some x =>
      let k ← gallop .back (fun z => return !(← lt z x)) right.reverse
      let start := right.take (right.length - k)
      let (merged, threshold) ←
        if rest.length ≤ start.length then mergeFrom lt .front rest start threshold
        else do
          let (backwards, threshold) ← mergeFrom lt .back start.reverse rest.reverse threshold
          pure (backwards.reverse, threshold)
      pure (left.take n ++ merged ++ right.drop (right.length - k), threshold)

end Metrology.Sorting
