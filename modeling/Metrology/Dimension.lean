/-!
# Dimensions

What a unit measures. All units joined from others share the one dimension `compound`; whether two
of them fit together is decided by their base units.
-/

namespace Metrology

/-- What a unit measures. -/
inductive Dimension where
  | mass
  | length
  | time
  | volume
  | compound
deriving DecidableEq, Repr

def Dimension.name : Dimension → String
  | .mass => "Mass"
  | .length => "Length"
  | .time => "Time"
  | .volume => "Volume"
  | .compound => "Compound"

end Metrology
