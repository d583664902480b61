import Metrology.Measurement.Arithmetic
import Metrology.Sorting.Basic

/-!
# Collections of measurements

Measurements in a collection without repetitions are told apart by their keys: the magnitude and
the unit's name in base form. Only those whose keys look alike are compared at all. Sorting puts the
smaller quantity first.
-/

namespace Metrology.Measurement

variable {α : Type} [Magnitude α]

/-- The magnitude and the name of the unit in base form. -/
def key (m : Measurement α) : Result α (α × String) := do
  let b ← m.inBase
  return (b.magnitude, b.unit.name)

/-- Do two keys look alike? The magnitudes are told apart by their digests only, so that keys may
look alike and differ. -/
def alike (k l : α × String) : Bool := Magnitude.digest k.1 == Magnitude.digest l.1 && k.2 == l.2

/-- Is an equal measurement among those seen before? Only those with keys alike are compared. -/
def isAmong (m : Measurement α) (k : α × String) :
    List ((α × String) × Measurement α) → Result α Bool
  | [] => pure false
  | (l, e) :: r =>
    if alike l k then do
      if ← e.eq m then pure true else m.isAmong k r
    else m.isAmong k r

/-- The measurements that equal none of those seen before, in order. -/
def distinctFrom (seen : List ((α × String) × Measurement α)) :
    List (Measurement α) → Result α (List (Measurement α))
  | [] => pure []
  | m :: r => do
    let k ← m.key
    if ← m.isAmong k seen then distinctFrom seen r
    else do
      let rest ← distinctFrom (seen ++ [(k, m)]) r
      pure (m :: rest)

/-- The first of each set of equal measurements, in order. -/
def distinct (ms : List (Measurement α)) : Result α (List (Measurement α)) := distinctFrom [] ms

def sort (ms : List (Measurement α)) : Result α (List (Measurement α)) := Sorting.sort lt ms

end Metrology.Measurement
