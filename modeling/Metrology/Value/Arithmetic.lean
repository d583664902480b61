import Metrology.Measurement.Arithmetic
import Metrology.Value.Construction

/-!
# Arithmetic of values

The operators between a measurement and any other value. Besides another measurement, a plain
number may scale a measurement from either side or divide it; nothing else is defined. Values of
other forms are never equal to a measurement and never ordered against one.
-/

namespace Metrology

variable {α : Type} [Magnitude α]

inductive Comparison where
  | lt
  | le
  | gt
  | ge
  | eq
  | ne
deriving DecidableEq, Repr

def Comparison.symbol : Comparison → String
  | .lt => "<"
  | .le => "<="
  | .gt => ">"
  | .ge => ">="
  | .eq => "=="
  | .ne => "!="

namespace Value

def asMeasurement : Value α → Result α (Measurement α)
  | .measurement m => pure m
  | v => throw (.misuse (.notAMeasurement v))

/-! ### Operators -/

/-- The fault of an operator between two forms for which it is not defined. Texts have operators of
their own, which refuse measurements in their own words. -/
def unsupported (op : Operator) (left right : Value α) : Fault α :=
  .misuse <|
    match op, left.asText?, right.asText? with
    | .add, some _, _ => .notAppended right
    | .mul, some _, _ => .notACount right
    | .mul, none, some _ => .notACount left
    | _, _, _ => .unsupported op.symbol left right

def divideByNumber (m : Measurement α) (x : α) : Result α (Measurement α) :=
  if x == 0.0 then throw (.zeroDivisor m .number)
  else Measurement.ofMagnitude (m.magnitude / x) m.unit

/-- Combine two values, at least one of them a measurement. -/
def combine (op : Operator) (left right : Value α) : Result α (Measurement α) :=
  match left, op, right, left.number?, right.number? with
  | .measurement a, .add, .measurement b, _, _ => a.add b
  | .measurement a, .sub, .measurement b, _, _ => a.sub b
  | .measurement a, .mul, .measurement b, _, _ => a.mul b
  | .measurement a, .div, .measurement b, _, _ => a.div b
  | .measurement a, .mul, _, _, some x => do a.scale (← x)
  | .measurement a, .div, _, _, some x => do divideByNumber a (← x)
  | _, .mul, .measurement b, some x, _ => do b.scale (← x)
  | _, _, _, _, _ => throw (unsupported op left right)

/-! ### Comparisons -/

/-- Compare two values, at least one of them a measurement. -/
def compare (c : Comparison) (left right : Value α) : Result α Bool :=
  match c, left, right with
  | .lt, .measurement a, .measurement b => a.lt b
  | .le, .measurement a, .measurement b => a.le b
  | .gt, .measurement a, .measurement b => a.gt b
  | .ge, .measurement a, .measurement b => a.ge b
  | .eq, .measurement a, .measurement b => a.eq b
  | .ne, .measurement a, .measurement b => do return !(← a.eq b)
  | .eq, _, _ => pure false
  | .ne, _, _ => pure true
  | c, _, _ => throw (.misuse (.unordered c.symbol left right))

end Value

/-! ### Scaling -/

/-- A measurement scaled by any value. Truth values count as one and zero. -/
def Measurement.scaleBy (m : Measurement α) (k : Value α) : Result α (Measurement α) :=
  match k.number?, k with
  | some x, _ => do m.scale (← x)
  | none, .truth b => m.scale (if b then 1.0 else 0.0)
  | none, .text _ | none, .operator _ => throw (.misuse (.notACount (.real m.magnitude)))
  | none, .measurement n => do
    let product ← n.scale m.magnitude
    throw (.misuse (.notANumber (.measurement product)))
  | none, k => throw (.misuse (.unsupported "*" (.real m.magnitude) k))

end Metrology
