import Metrology.Decimal.Layout
import Metrology.Expression.Operator
import Metrology.Notice
import Metrology.Storage.Basic

/-!
# Random sheets

Lines of three operands and two operators, chosen by a random source, for trying out a reader. The
first operator decides the first two units: a sum or a difference takes both from one dimension, a
product or a quotient pairs a length with a mass. The third operand is always a length, so that
some of the lines mix dimensions and have no value.
-/

namespace Metrology

/-- Two endless streams of random numbers, and how many of each have been used. -/
structure RandomSource where
  integers : Nat → Int
  /-- Numbers from zero up to one. -/
  fractions : Nat → Float
  usedIntegers : Nat
  usedFractions : Nat

namespace Generator

/-- A choice that uses up random numbers. -/
abbrev Random (β : Type) := StateM RandomSource β

/-- A number below the bound. -/
def below (bound : Nat) : Random Nat := fun s =>
  ((s.integers s.usedIntegers % bound).toNat, { s with usedIntegers := s.usedIntegers + 1 })

/-- A magnitude from 1 up to 1000. -/
def magnitude : Random Float := fun s =>
  (1.0 + (1000.0 - 1.0) * s.fractions s.usedFractions,
    { s with usedFractions := s.usedFractions + 1 })

/-- One of the elements of a list; the default if it has none. -/
def pick {β : Type} [Inhabited β] (xs : List β) : Random β := do
  let i ← below xs.length
  return xs[i]?.getD default

/-! ### What to choose from -/

/-- The operators, in the order in which they are drawn. -/
def operators : List Operator := [.add, .sub, .mul, .div]

instance : Inhabited Operator := ⟨.add⟩

/-- The dimensions, in the order in which they are drawn. -/
def dimensions : List Dimension := [.mass, .length, .time, .volume]

instance : Inhabited Dimension := ⟨.mass⟩

/-- The names of the units of a dimension, from the smallest to the largest. -/
def unitNames : Dimension → List String
  | .mass => ["milligrams", "centigrams", "grams", "kilograms"]
  | .length => ["millimeters", "centimeters", "meters", "kilometers"]
  | .time => ["seconds", "minutes", "hours"]
  | .volume => ["milliliters", "centiliters", "liters", "kiloliters"]
  | .compound => []

/-- The units of the first two operands. -/
def firstUnits : Operator → Random (String × String)
  | .add | .sub => do
    let d ← pick dimensions
    let u ← pick (unitNames d)
    return (u, ← pick (unitNames d))
  | .mul | .div => do
    let u ← pick (unitNames .length)
    return (u, ← pick (unitNames .mass))

/-! ### Lines -/

def operandText (x : Float) (unit : String) : String := Decimal.briefText x ++ " " ++ unit

/-- A line. All units are chosen before all magnitudes. -/
def line : Random String := do
  let op₁ ← pick operators
  let op₂ ← pick operators
  let (u₁, u₂) ← firstUnits op₁
  let u₃ ← pick (unitNames .length)
  let x₁ ← magnitude
  let x₂ ← magnitude
  let x₃ ← magnitude
  return String.intercalate " "
    [operandText x₁ u₁, op₁.symbol, operandText x₂ u₂, op₂.symbol, operandText x₃ u₃]

def replicate : Nat → Random (List String)
  | 0 => pure []
  | n + 1 => do
    let l ← line
    return l :: (← replicate n)

/-- How many lines a sheet has unless it is said otherwise. -/
def defaultCount : Int := 687

/-- As many lines as asked for, which must not be a negative number. -/
def lines (count : Int) (source : RandomSource) : Result Float (List String) :=
  if count < 0 then throw (.negativeCount count)
  else pure ((replicate count.toNat).run source).1

/-! ### Files -/

/-- What is reported when a file has been written. -/
def written (count : Nat) (path : String) : Notice :=
  ⟨.info, .generator, "Wrote " ++ toString count ++ " expression line(s) to " ++ path⟩

/-- Write lines to a file and count them. The file is opened, and thereby emptied, before the number
of lines is looked at. -/
def write (files : Storage) (path : String) (count : Int) (source : RandomSource) :
    Result Float Nat × Storage :=
  match files.write path "" with
  | .error f => (throw (.file f), files)
  | .ok opened =>
    match lines count source with
    | .error f => (throw f, opened)
    | .ok ls =>
      match opened.write path (String.join (ls.map (· ++ "\n"))) with
      | .error f => (throw (.file f), opened)
      | .ok full => (pure ls.length, full)

end Generator

end Metrology
