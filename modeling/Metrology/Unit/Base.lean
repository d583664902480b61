import Metrology.Fault
import Metrology.Unit.Basic

/-!
# Base units

Every unit has a base unit: the root of a simple unit's family, and the compound of the components'
base units for a compound. Magnitudes are converted to it and back along the unit's structure. The
first component of a compound converts the magnitude, every further one contributes the factor of
one unit of it.
-/

namespace Metrology

variable {α : Type} [Magnitude α]

/-- The quotient, unless the divisor is zero. -/
def divide (x y : α) : Result α α :=
  if y == 0.0 then throw .zeroDivision else pure (x / y)

/-- Join a factor to a magnitude. -/
def Join.apply : Join → α → α → Result α α
  | .times, x, y => pure (x * y)
  | .per, x, y => divide x y

/-! ### Simple units -/

namespace SimpleUnit

def ofKind (k : Kind α) : Result α (SimpleUnit α) :=
  match ofKind? k with
  | some u => pure u
  | none => throw (.misuse (.notConcrete k.profile.name))

def base (u : SimpleUnit α) : Result α (SimpleUnit α) := ofKind u.kind.family

/-- Convert a magnitude in this unit to the family's root. -/
def toBase (u : SimpleUnit α) (x : α) : α := x * u.scale

/-- Convert a magnitude in the family's root to this unit. -/
def fromBase (u : SimpleUnit α) (x : α) : α := x / u.scale

end SimpleUnit

/-! ### All units -/

mutual

def Unit.base : Unit α → Result α (Unit α)
  | .simple u => do return .simple (← u.base)
  | .compound c => do return .compound (← c.base)

/-- The compound of the components' base units, with the same signs. -/
def Compound.base : Compound α → Result α (Compound α)
  | .single u => do return .single (← u.base)
  | .snoc c j u => do
    let c ← c.base
    return c.snoc j (← u.base)

end

mutual

/-- Convert a magnitude in this unit to its base unit. -/
def Unit.toBase : Unit α → α → Result α α
  | .simple u, x => pure (u.toBase x)
  | .compound c, x => c.toBase x

/-- Convert a magnitude along the components, from left to right. -/
def Compound.toBase : Compound α → α → Result α α
  | .single u, x => u.toBase x
  | .snoc c j u, x => do
    let y ← c.toBase x
    j.apply y (← u.toBase 1.0)

end

mutual

/-- Convert a magnitude in the base unit to this unit. -/
def Unit.fromBase : Unit α → α → Result α α
  | .simple u, x => pure (u.fromBase x)
  | .compound c, x => c.fromBase x

/-- Convert a magnitude back along the components, from left to right. -/
def Compound.fromBase : Compound α → α → Result α α
  | .single u, x => u.fromBase x
  | .snoc c j u, x => do
    let y ← c.fromBase x
    j.apply y (← u.fromBase 1.0)

end

/-! ### Compatibility -/

/-- Can magnitudes in the two units be combined? They must measure the same thing, and their base
units must have the same name. -/
def Unit.isCompatible (u v : Unit α) : Result α Bool :=
  if u.dimension = v.dimension then do
    let b ← u.base
    return b.name == (← v.base).name
  else pure false

end Metrology
