import Metrology.Expression.Evaluation
import Metrology.Measurement.Reading

/-!
# Lines of expressions

A line holds operands, each a magnitude and a unit, with operators between them; all of these are
words, so a unit in a line is written without blanks. Lines are read from left to right, and within
an operand the unit is checked before the magnitude.
-/

namespace Metrology

/-- The operands and the operators of a line, in order. -/
abbrev LineParts := List (Measurement Float) × List Operator

namespace Line

/-- Read an operand from its two words, of which the first is token number `token` of the line. -/
def readOperand (line : String) (token : Nat) (magnitude unit : String) :
    Result Float (Measurement Float) :=
  if isValidUnitName unit then Measurement.read (magnitude ++ " " ++ unit)
  else throw (.unreadable line (.unknownUnitAt (token + 1) unit))

/-- Read operands and operators from the words of a line, of which the first is token number
`token`. -/
def readWords (line : String) (token : Nat) : List String → Result Float LineParts
  | [] | [_] => throw (.unreadable line (.pairExpectedAt token))
  | [x, u] => do return ([← readOperand line token x u], [])
  | x :: u :: s :: rest => do
    let m ← readOperand line token x u
    match Operator.ofSymbol? s with
    | none => throw (.unreadable line (.operatorExpected (token + 2) s))
    | some op => do
      let (ms, ops) ← readWords line (token + 3) rest
      return (m :: ms, op :: ops)

def read (line : String) : Result Float LineParts :=
  match Text.words line with
  | [] => throw (.unreadable line .noExpression)
  | ws => readWords line 1 ws

def evaluate (line : String) : Result Float (LineParts × Measurement Float) := do
  let parts ← read line
  return (parts, ← Expression.evaluate parts.1 (parts.2.map .operator))

end Line

end Metrology
