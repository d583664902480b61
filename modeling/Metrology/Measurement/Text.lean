import Metrology.Decimal.Layout
import Metrology.Value
import Metrology.Text.Quoted

/-!
# Measurements and values as text

A measurement is written as its magnitude and its unit's name, which is also the form in which
measurements are read. Messages show other values in a form that tells texts from numbers.
-/

namespace Metrology

/-- The unit with its kind and factor, or the quoted name of a compound. -/
def Unit.describe : Unit Float → String
  | .simple u =>
    u.kind.profile.name ++ "(" ++ u.symbol ++ " = " ++ Decimal.briefText u.scale ++ " " ++
      u.kind.family.profile.symbol ++ ")"
  | .compound c => "CompoundUnit(" ++ Text.quoted c.name ++ ")"

namespace Measurement

def text (m : Measurement Float) : String := Decimal.exactText m.magnitude ++ " " ++ m.unit.name

/-- The magnitude and the unit's quoted name. -/
def describe (m : Measurement Float) : String :=
  "Measurement(" ++ Decimal.exactText m.magnitude ++ ", " ++ Text.quoted m.unit.name ++ ")"

end Measurement

def Operator.label : Operator → String
  | .add => "ADD"
  | .sub => "SUB"
  | .mul => "MUL"
  | .div => "DIV"

def Dimension.label : Dimension → String
  | .mass => "MASS"
  | .length => "LENGTH"
  | .time => "TIME"
  | .volume => "VOLUME"
  | .compound => "COMPOUND"

/-- The value in a form that shows what it is. -/
def Value.describe : Value Float → String
  | .int n => toString n
  | .real x => Decimal.exactText x
  | .text s => Text.quoted s
  | .truth b => if b then "True" else "False"
  | .nothing => "None"
  | .operator op => "<Operator." ++ op.label ++ ": " ++ Text.quoted op.symbol ++ ">"
  | .dimension d => "<Dimension." ++ d.label ++ ": " ++ Text.quoted d.name ++ ">"
  | .measurement m => m.describe
  | .unit u => u.describe

end Metrology
