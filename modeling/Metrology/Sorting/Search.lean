/-!
# Searching with a test that may fail

A test holds for a beginning of a list and for nothing behind it. How long that beginning is, is
found by halving, or by going forward in growing steps first if it is expected to be short. A list
may also be given backwards, its last element first; then the halves are those of the list itself.
-/

namespace Metrology.Sorting

/-- The end of a list at which work on it begins. -/
inductive End where
  | front
  /-- The list is given backwards. -/
  | back
deriving DecidableEq, Repr

/-- The middle of the places from `lo` up to and without `hi`. Of two middle places it is the one
further back in the list that is meant. -/
def End.middle : End → Nat → Nat → Nat
  | .front, lo, hi => lo + (hi - lo) / 2
  | .back, lo, hi => hi - 1 - (hi - lo) / 2

theorem End.le_middle (e : End) {lo hi : Nat} (h : lo < hi) : lo ≤ e.middle lo hi := by
  cases e <;> simp only [End.middle] <;> omega

theorem End.middle_lt (e : End) {lo hi : Nat} (h : lo < hi) : e.middle lo hi < hi := by
  cases e <;> simp only [End.middle] <;> omega

variable {β ε : Type} (e : End) (passes : β → Except ε Bool) (xs : List β)

/-- How many elements pass, at least `lo` and at most `hi`: by halving. -/
def search (lo hi : Nat) (h : hi ≤ xs.length) : Except ε Nat :=
  if hlo : lo < hi then
    let mid := e.middle lo hi
    have le_mid : lo ≤ mid := e.le_middle hlo
    have mid_lt : mid < hi := e.middle_lt hlo
    have : mid < xs.length := by omega
    do
      if ← passes xs[mid] then search (mid + 1) hi h
      else search lo mid (by omega)
  else pure lo
termination_by hi - lo

/-- How many elements pass: by halving all of the list. -/
def bisect : Except ε Nat := search e passes xs 0 xs.length (Nat.le_refl _)

/-- How many elements pass, more than `known`: the places `next`, `2 · next + 1`, … are tried until
one does not pass, and the last gap is halved. -/
def widen (known next : Nat) : Except ε Nat :=
  if h : next < xs.length then do
    if ← passes xs[next] then widen next (2 * next + 1)
    else search e passes xs (known + 1) next (by omega)
  else search e passes xs (known + 1) xs.length (Nat.le_refl _)
termination_by xs.length - next

/-- How many elements pass, tried from the first one on in growing steps. -/
def gallop : Except ε Nat :=
  match xs with
  | [] => pure 0
  | x :: _ => do
    if ← passes x then widen e passes xs 0 1 else pure 0

end Metrology.Sorting
