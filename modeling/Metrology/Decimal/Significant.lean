import Metrology.Decimal.Binary64

/-!
# Significant digits

The digits of a positive number, chosen by exact arithmetic on natural numbers. A choice of `k`
digits is a point of the decimal grid whose step is one unit of the `k`-th digit. `rounded` takes
the nearest point of a given grid; `shortest` takes the coarsest grid on which some point still
reads back as the same double, and on it the nearest such point. Ties go to the even digit.
-/

namespace Metrology.Decimal

/-- A positive decimal number `d₁.d₂d₃… · 10 ^ exponent`: its digits read as one number, which
does not end in a zero, and the exponent of its first digit. -/
structure Significand where
  digits : Nat
  exponent : Int
deriving Repr, DecidableEq

/-- How many decimal digits a number has. -/
def digitCount (n : Nat) : Nat := (Nat.toDigits 10 n).length

/-- The exponent of the first digit of the positive number `num / den`. -/
def leadingExponent (num den : Nat) : Int :=
  if den ≤ num then digitCount (num / den) - 1 else -digitCount ((den - 1) / num)

/-- Drop the zeros at the end of a number's digits. -/
def dropZeros (n : Nat) : Nat :=
  if h : n ≠ 0 ∧ n % 10 = 0 then dropZeros (n / 10) else n
termination_by n
decreasing_by omega

/-- A fraction for `m · 2 ^ q`. -/
def fraction (m : Nat) (q : Int) : Nat × Nat :=
  (m * Nat.pow 2 q.toNat, Nat.pow 2 (-q).toNat)

/-- A fraction for the number `num / den` in units of `10 ^ step`. -/
def inUnits (num den : Nat) (step : Int) : Nat × Nat :=
  (num * Nat.pow 10 (-step).toNat, den * Nat.pow 10 step.toNat)

/-- The significand that stands for `d · 10 ^ step`. -/
def Significand.ofUnits (d : Nat) (step : Int) : Significand :=
  ⟨dropZeros d, step + digitCount d - 1⟩

/-! ### A fixed number of digits -/

/-- The natural number nearest to `num / den`; a tie goes to the even one. -/
def roundDiv (num den : Nat) : Nat :=
  let d := num / den
  let r := num % den
  if 2 * r < den ∨ (2 * r = den ∧ d % 2 = 0) then d else d + 1

/-- The value `m · 2 ^ q` of a positive number rounded to `k` significant digits. -/
def rounded (k m : Nat) (q : Int) : Significand :=
  let (num, den) := fraction m q
  let step := leadingExponent num den - k + 1
  let (n, d) := inUnits num den step
  .ofUnits (roundDiv n d) step

/-! ### As few digits as read back -/

/-- Does `d · n' / d'` lie where numbers are read as `m · 2 ^ q`? The ends of that interval are
half-way to the neighbouring doubles and belong to it if `m` is even. All three numbers are
measured in the unit `1 / (4 · den)`. -/
def readsBack (m : Nat) (q : Int) (narrowBelow : Bool) (n d : Nat) : Bool :=
  let (num, den) := fraction (4 * m) q
  let (half, _) := fraction 2 q
  let below := num - (if narrowBelow then half / 2 else half)
  let above := num + half
  let point := n * (4 * den)
  if m % 2 = 0 then below * d ≤ point && point ≤ above * d
  else below * d < point && point < above * d

/-- The point of the grid of `k` digits that is nearest to `m · 2 ^ q` among those that read back
as it, if there is one. -/
def pointOn? (m : Nat) (q : Int) (narrowBelow : Bool) (k : Nat) : Option Significand :=
  let (num, den) := fraction m q
  let step := leadingExponent num den - k + 1
  let (n, d) := inUnits num den step
  let (un, ud) := inUnits 1 1 (-step)
  let hits := fun p => readsBack m q narrowBelow (p * un) ud
  let near := roundDiv n d
  let far := if near = n / d then near + 1 else n / d
  if hits near then some (.ofUnits near step)
  else if hits far then some (.ofUnits far step)
  else none

/-- The digits of the positive double `m · 2 ^ q`: as few as read back, and of those the nearest.
Seventeen digits always read back. -/
def shortest (m : Nat) (q : Int) (narrowBelow : Bool) : Significand :=
  ((List.range 17).findSome? fun i => pointOn? m q narrowBelow (i + 1)).getD (rounded 17 m q)

end Metrology.Decimal
