import Metrology.Unit.Base

/-!
# Conversion of measurements

A measurement is converted to its base unit component by component, and to any other unit with the
same base unit by way of it. Every magnitude on the way to the base unit has to be finite.
-/

namespace Metrology

variable {α : Type} [Magnitude α]

/-- The measurement with a magnitude and a unit. -/
def Measurement.ofMagnitude (x : α) (u : Unit α) : Result α (Measurement α) :=
  match ofMagnitude? x u with
  | some m => pure m
  | none => throw (.notFinite x)

/-! ### To the base unit -/

mutual

/-- A magnitude in this unit as a measurement in the base unit. -/
def Unit.measureInBase : Unit α → α → Result α (Measurement α)
  | .simple u, x => do Measurement.ofMagnitude (u.toBase x) (.simple (← u.base))
  | .compound c, x => do
    let y ← c.measureInBase x
    Measurement.ofMagnitude y (.compound (← c.base))

/-- A magnitude in this compound, converted along its components. One unit of each component after
the first is converted to its base unit on its own. -/
def Compound.measureInBase : Compound α → α → Result α α
  | .single u, x => do return (← u.measureInBase x).magnitude
  | .snoc c j u, x => do
    let y ← c.measureInBase x
    j.apply y (← u.measureInBase 1.0).magnitude

end

namespace Measurement

/-- The magnitude in the base unit, whether finite or not. -/
def baseMagnitude (m : Measurement α) : Result α α := m.unit.toBase m.magnitude

/-- The same quantity in the base unit. -/
def inBase (m : Measurement α) : Result α (Measurement α) := m.unit.measureInBase m.magnitude

/-! ### To another unit -/

/-- The same quantity in a compatible unit. -/
def convert (m : Measurement α) (u : Unit α) : Result α (Measurement α) := do
  if ← m.unit.isCompatible u then
    let x ← m.baseMagnitude
    ofMagnitude (← u.fromBase x) u
  else throw (.incompatible m.unit.name u.name .noCommonBase)

end Measurement

/-- One unit in base form, divided by one unit of another converted from base form. -/
def Unit.conversionFactor (u v : Unit α) : Result α α := do
  if ← u.isCompatible v then
    let x ← u.toBase 1.0
    divide x (← v.fromBase 1.0)
  else throw (.incompatible u.name v.name .noCommonBase)

end Metrology
