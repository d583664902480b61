import Metrology.Decimal.Layout
import Metrology.Measurement.Basic

/-!
# Comma-separated reports

A row for each measurement, with its magnitude to six digits and the name of its unit. A field that
holds a comma, a quote or a line feed stands between quotes, with the quotes in it doubled.
-/

namespace Metrology.Report

/-- Must a field with this character be quoted? -/
def needsQuotes (c : Char) : Bool := c == ',' || c == '"' || c == '\n'

def csvField (s : String) : String :=
  if s.toList.any needsQuotes then
    String.ofList ('"' :: s.toList.flatMap (fun c => if c = '"' then [c, c] else [c]) ++ ['"'])
  else s

def csvRow (fields : List String) : String := String.intercalate "," (fields.map csvField) ++ "\n"

def csvFields (m : Measurement Float) : List String :=
  [Decimal.briefText m.magnitude, m.unit.name]

/-- A heading and the rows of measurements. -/
def csv (ms : List (Measurement Float)) : String :=
  String.join (csvRow ["Magnitude", "Unit"] :: ms.map fun m => csvRow (csvFields m))

end Metrology.Report
