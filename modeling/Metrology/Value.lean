import Metrology.Decimal.Literal
import Metrology.Expression.Operator
import Metrology.Measurement.Basic

/-!
# Values

What a caller may hand over where a number, a unit, an operator or a measurement is expected. The
operations that take a value say which of its forms they accept, and name the form in the message
if they do not.
-/

namespace Metrology

/-- What a caller may hand over. -/
inductive Value (α : Type) [Magnitude α] where
  | int (n : Int)
  | real (x : α)
  | text (s : String)
  | truth (b : Bool)
  | nothing
  | operator (op : Operator)
  | dimension (d : Dimension)
  | measurement (m : Measurement α)
  | unit (u : Unit α)

/-- Can the value be shown in a message? A whole number with too many digits cannot. -/
def Value.isShowable {α : Type} [Magnitude α] : Value α → Bool
  | .int n => Decimal.isWritable n
  | _ => true

/-- The name of the value's form in messages; a simple unit goes by the name of its kind. -/
def Value.typeName {α : Type} [Magnitude α] : Value α → String
  | .int _ => "int"
  | .real _ => "float"
  | .text _ => "str"
  | .truth _ => "bool"
  | .nothing => "NoneType"
  | .operator _ => "Operator"
  | .dimension _ => "Dimension"
  | .measurement _ => "Measurement"
  | .unit (.simple u) => u.kind.profile.name
  | .unit (.compound _) => "CompoundUnit"

end Metrology
