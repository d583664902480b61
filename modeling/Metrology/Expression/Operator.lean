/-!
# Operators

The four operators of expressions. Multiplication and division bind more tightly than addition and
subtraction.
-/

namespace Metrology

/-- An operator between two measurements. -/
inductive Operator where
  | add
  | sub
  | mul
  | div
deriving DecidableEq, Repr

namespace Operator

def symbol : Operator → String
  | .add => "+"
  | .sub => "-"
  | .mul => "*"
  | .div => "/"

/-- How tightly the operator binds. -/
def precedence : Operator → Nat
  | .add | .sub => 1
  | .mul | .div => 2

/-- The operator that a symbol stands for. -/
def ofSymbol? (s : String) : Option Operator :=
  if s = "+" then some .add
  else if s = "-" then some .sub
  else if s = "*" then some .mul
  else if s = "/" then some .div
  else none

@[simp] theorem ofSymbol?_symbol (op : Operator) : ofSymbol? op.symbol = some op := by
  cases op <;> decide

theorem ofSymbol?_eq_some_iff {s : String} {op : Operator} :
    ofSymbol? s = some op ↔ s = op.symbol := by
  constructor
  · unfold ofSymbol?
    repeat' split
    all_goals rintro ⟨⟩
    all_goals assumption
  · rintro rfl
    exact ofSymbol?_symbol op

end Operator

end Metrology
