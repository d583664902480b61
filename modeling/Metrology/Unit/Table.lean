import Metrology.Unit.Base
import Metrology.Unit.BuiltIn

/-!
# Tables of units

A table gives the unit that a name stands for. Names are exact, each has one entry, and the order
of the entries is that of the units they were taken from.
-/

namespace Metrology

variable {α : Type} [Magnitude α]

/-- Units by name, in order. -/
abbrev UnitTable (α : Type) := List (String × SimpleUnit α)

namespace UnitTable

def find? (t : UnitTable α) (name : String) : Option (SimpleUnit α) := t.lookup name

def names (t : UnitTable α) : List String := t.map Prod.fst

/-- Enter a unit under a further name, which must be new. -/
def insert (t : UnitTable α) (name : String) (u : SimpleUnit α) : Result α (UnitTable α) :=
  if name ∈ t.names then throw (.nameTaken name) else pure (t ++ [(name, u)])

/-- Enter the unit of a kind under all of its names. -/
def insertKind (t : UnitTable α) (k : Kind α) : Result α (UnitTable α) := do
  let u ← SimpleUnit.ofKind k
  u.names.foldlM (fun t name => t.insert name u) t

/-- The table of the units of the given kinds. -/
def ofKinds (ks : List (Kind α)) : Result α (UnitTable α) := ks.foldlM insertKind []

def builtIn : UnitTable α := SimpleUnit.builtIn.flatMap fun u => u.names.map fun name => (name, u)

end UnitTable

/-- The built-in units of one dimension, from the smallest to the largest. -/
def Dimension.units (d : Dimension) : List (SimpleUnit α) :=
  SimpleUnit.builtIn.filter fun u => u.dimension = d

end Metrology
