import Metrology.Magnitude
import Metrology.Unit.Basic

/-!
# Measurements

A measurement is a finite magnitude in a unit.
-/

namespace Metrology

/-- A finite magnitude in a unit. -/
structure Measurement (α : Type) [Magnitude α] where
  magnitude : α
  unit : Unit α
  /-- The magnitude is a number and not infinite. -/
  finite : Magnitude.isFinite magnitude = true

namespace Measurement

variable {α : Type} [Magnitude α]

/-- The measurement with a magnitude and a unit, if the magnitude is finite. -/
def ofMagnitude? (x : α) (u : Unit α) : Option (Measurement α) :=
  if h : Magnitude.isFinite x = true then some ⟨x, u, h⟩ else none

theorem ofMagnitude?_eq_some_iff {x : α} {u : Unit α} {m : Measurement α} :
    ofMagnitude? x u = some m ↔ m.magnitude = x ∧ m.unit = u := by
  unfold ofMagnitude?
  split
  · constructor
    · rintro ⟨⟩
      exact ⟨rfl, rfl⟩
    · rintro ⟨rfl, rfl⟩
      rfl
  · next h =>
    refine ⟨nofun, ?_⟩
    rintro ⟨rfl, rfl⟩
    exact absurd m.finite h

def isNonnegative (m : Measurement α) : Bool := (0.0 : α) ≤ m.magnitude

end Measurement

end Metrology
