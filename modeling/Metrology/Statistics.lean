import Metrology.Measurement.Basic
import Metrology.Fault

/-!
# Statistics

Mean, median and mode of the magnitudes of measurements, as they are written and whatever their
units. They are put together from numerical functions that are given from outside; one set of such
functions is defined here.
-/

namespace Metrology

variable {α : Type} [Magnitude α]

namespace Statistics

/-- Count, mean, median and mode of some magnitudes. -/
structure Summary (α : Type) where
  count : Nat
  mean : α
  median : α
  mode : α

/-! ### Statistics of measurements -/

/-- The numerical functions that statistics are put together from. -/
structure Numerics (α : Type) where
  mean : List α → α
  median : List α → α
  /-- The different values in ascending order, each with the number of times that it occurs. -/
  unique : List α → List (α × Nat)
  /-- The index of the greatest number. -/
  argmax : List Nat → Nat

/-- The value that occurs most often. -/
def Numerics.mode (lib : Numerics α) (xs : List α) : Result α α :=
  let values := lib.unique xs
  let i := lib.argmax (values.map Prod.snd)
  match values[i]? with
  | some r => pure r.1
  | none => throw (.noElement i values.length)

/-- The magnitudes of measurements, of which there must be some. -/
def magnitudes (ms : List (Measurement α)) : Result α (List α) :=
  if ms.isEmpty then throw .noMeasurements else pure (ms.map Measurement.magnitude)

section Measurements

variable (lib : Numerics α) (ms : List (Measurement α))

def meanOf : Result α α := do return lib.mean (← magnitudes ms)

def medianOf : Result α α := do return lib.median (← magnitudes ms)

def modeOf : Result α α := do lib.mode (← magnitudes ms)

def summarize : Result α (Summary α) := do
  let xs ← magnitudes ms
  return ⟨xs.length, lib.mean xs, lib.median xs, ← lib.mode xs⟩

end Measurements

/-! ### Sums -/

def sumFrom (x : α) (xs : List α) : α := xs.foldl (· + ·) x

/-- Eight running sums, added up in pairs once all blocks are in. -/
structure Lanes (α : Type) where
  (a b c d e f g h : α)

/-- Add each full block of eight to the running sums, then add up the sums and the elements that
are left over. -/
def Lanes.sum (l : Lanes α) : List α → α
  | a :: b :: c :: d :: e :: f :: g :: h :: r =>
    sum ⟨l.a + a, l.b + b, l.c + c, l.d + d, l.e + e, l.f + f, l.g + g, l.h + h⟩ r
  | r => sumFrom (((l.a + l.b) + (l.c + l.d)) + ((l.e + l.f) + (l.g + l.h))) r

/-- The sum of at most 128 magnitudes: one by one if there are fewer than eight, otherwise in eight
running sums. -/
def sumBlock : List α → α
  | a :: b :: c :: d :: e :: f :: g :: h :: r => Lanes.sum ⟨a, b, c, d, e, f, g, h⟩ r
  | r => sumFrom (-0.0) r

/-- The sum of magnitudes by halves, each but the last a multiple of eight, down to blocks of at
most 128. Halving keeps rounding errors small. -/
def sum (xs : List α) : α :=
  if _ : xs.length ≤ 128 then sumBlock xs
  else
    let half := xs.length / 2 / 8 * 8
    sum (xs.take half) + sum (xs.drop half)
termination_by xs.length
decreasing_by
  · simp only [List.length_take]
    omega
  · simp only [List.length_drop]
    omega

def mean (xs : List α) : α := (0.0 + sum xs) / Magnitude.ofNat xs.length

/-! ### Order statistics -/

/-- Put a magnitude behind all those of a sorted list that are not greater. -/
def insert (x : α) : List α → List α
  | [] => [x]
  | y :: ys => if x < y then x :: y :: ys else y :: insert x ys

def sort (xs : List α) : List α := xs.foldl (fun ys x => insert x ys) []

/-- The middle magnitude, or the mean of the middle two. -/
def median (xs : List α) : α :=
  let n := xs.length
  mean (((sort xs).drop ((n - 1) / 2)).take (if n % 2 = 0 then 2 else 1))

/-- Each value of a sorted list with the number of its repetitions, in order. -/
def runs : List α → List (α × Nat)
  | [] => []
  | x :: xs =>
    match runs xs with
    | (y, n) :: rest => if x == y then (x, n + 1) :: rest else (x, 1) :: (y, n) :: rest
    | [] => [(x, 1)]

/-- The index of the first of the greatest numbers. -/
def argmax (ns : List Nat) : Nat := ns.findIdx fun n => ns.all (· ≤ n)

/-- Sums by halves and in running sums, and sorting by insertion. -/
def Numerics.plain : Numerics α where
  mean := Statistics.mean
  median := Statistics.median
  unique xs := runs (sort xs)
  argmax := Statistics.argmax

end Statistics

end Metrology
