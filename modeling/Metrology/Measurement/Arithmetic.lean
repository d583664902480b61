import Metrology.Measurement.Conversion

/-!
# Arithmetic of measurements

Sums, differences and comparisons take operands with the same base unit and are computed in it.
Products and quotients of one dimension stay in the common base unit; those of different dimensions
combine the magnitudes as they are and join the units.
-/

namespace Metrology.Measurement

variable {α : Type} [Magnitude α]

/-- Both operands in their base units, which must be of one dimension and of one name. -/
def inCommonBase (a b : Measurement α) :
    Result α (Measurement α × Measurement α) :=
  if a.unit.dimension = b.unit.dimension then do
    let x ← a.inBase
    let y ← b.inBase
    if x.unit.name = y.unit.name then return (x, y)
    else throw (.incompatible a.unit.name b.unit.name (.bases x.unit.name y.unit.name))
  else throw (.incompatible a.unit.name b.unit.name
    (.dimensions a.unit.dimension b.unit.dimension))

/-! ### The four operations -/

/-- The sum, in the left operand's base unit. -/
def add (a b : Measurement α) : Result α (Measurement α) := do
  let (x, y) ← a.inCommonBase b
  ofMagnitude (x.magnitude + y.magnitude) x.unit

/-- The difference, in the left operand's base unit. -/
def sub (a b : Measurement α) : Result α (Measurement α) := do
  let (x, y) ← a.inCommonBase b
  ofMagnitude (x.magnitude - y.magnitude) x.unit

def mul (a b : Measurement α) : Result α (Measurement α) :=
  if a.unit.dimension = b.unit.dimension then do
    let (x, y) ← a.inCommonBase b
    ofMagnitude (x.magnitude * y.magnitude) x.unit
  else ofMagnitude (a.magnitude * b.magnitude) (a.unit.join .times b.unit)

/-- The quotient. The divisor may be zero neither as it stands nor in its base unit. -/
def div (a b : Measurement α) : Result α (Measurement α) :=
  if b.magnitude == 0.0 then throw (.zeroDivisor a (.measurement b))
  else if a.unit.dimension = b.unit.dimension then do
    let (x, y) ← a.inCommonBase b
    if y.magnitude == 0.0 then throw (.zeroDivisor a (.inBaseUnits b))
    else ofMagnitude (x.magnitude / y.magnitude) x.unit
  else ofMagnitude (a.magnitude / b.magnitude) (a.unit.join .per b.unit)

def neg (a : Measurement α) : Result α (Measurement α) := ofMagnitude (-a.magnitude) a.unit

def scale (a : Measurement α) (k : α) : Result α (Measurement α) :=
  ofMagnitude (a.magnitude * k) a.unit

/-! ### Comparison -/

def lt (a b : Measurement α) : Result α Bool := do
  let (x, y) ← a.inCommonBase b
  return x.magnitude < y.magnitude

/-- Is the left quantity at most the right one? -/
def le (a b : Measurement α) : Result α Bool := do
  let (x, y) ← a.inCommonBase b
  return x.magnitude ≤ y.magnitude

def gt (a b : Measurement α) : Result α Bool := do
  let (x, y) ← a.inCommonBase b
  return x.magnitude > y.magnitude

/-- Is the left quantity at least the right one? -/
def ge (a b : Measurement α) : Result α Bool := do
  let (x, y) ← a.inCommonBase b
  return x.magnitude ≥ y.magnitude

def eq (a b : Measurement α) : Result α Bool := do
  let (x, y) ← a.inCommonBase b
  return x.magnitude == y.magnitude

end Metrology.Measurement
