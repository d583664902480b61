import Metrology.Measurement.Arithmetic
import Metrology.Value.Construction

/-!
# Evaluation of expressions

An expression is a list of operands and a list of the operators between them. It is evaluated in
one pass from left to right with two stacks. An incoming operator first reduces the operators on
the stack that bind at least as tightly; reducing an operator replaces the two topmost operands by
their combination. Operators are checked only when the pass comes to them, so a fault of an earlier
reduction comes before a fault of a later operator.
-/

namespace Metrology

variable {α : Type} [Magnitude α]

namespace Operator

def apply : Operator → Measurement α → Measurement α → Result α (Measurement α)
  | .add, a, b => a.add b
  | .sub, a, b => a.sub b
  | .mul, a, b => a.mul b
  | .div, a, b => a.div b

/-- The operator that a value is or whose symbol it is. A measurement is looked up among the
symbols in vain; if it has no base form because of a division by zero, that is the fault. -/
def ofValue (v : Value α) : Result α Operator :=
  match v.lookup, v.asText?.bind ofSymbol? with
  | .error .zeroDivision, _ => throw .zeroDivision
  | _, some op => pure op
  | _, none => throw (.showing v (.malformed (.notAnOperator v)))

end Operator

/-- The two stacks of an evaluation, their topmost elements first. -/
structure Stacks (α : Type) [Magnitude α] where
  operands : List (Measurement α)
  operators : List Operator

namespace Stacks

/-- Reduce an operator: combine the two topmost operands. -/
def reduce (op : Operator) : List (Measurement α) → Result α (List (Measurement α))
  | right :: left :: rest => do return (← op.apply left right) :: rest
  | _ => throw (.malformed (.tooFewOperands op))

/-- Reduce the topmost operators as long as they bind at least as tightly as `level`. -/
def reduceDownTo (level : Nat) (operands : List (Measurement α)) :
    List Operator → Result α (Stacks α)
  | [] => pure ⟨operands, []⟩
  | op :: rest =>
    if level ≤ op.precedence then do reduceDownTo level (← reduce op operands) rest
    else pure ⟨operands, op :: rest⟩

/-- Take in an operator and the operand behind it, if there is one. -/
def push (s : Stacks α) (v : Value α) (operand : Option (Measurement α)) : Result α (Stacks α) := do
  let op ← Operator.ofValue v
  let s ← reduceDownTo op.precedence s.operands s.operators
  return ⟨operand.toList ++ s.operands, op :: s.operators⟩

/-- Take in all operators and the operands behind them. -/
def pushAll (s : Stacks α) : List (Value α) → List (Measurement α) → Result α (Stacks α)
  | [], _ => pure s
  | v :: vs, ms => do pushAll (← s.push v ms.head?) vs ms.tail

end Stacks

namespace Expression

/-- Evaluate `m₀ v₁ m₁ v₂ m₂ …`. -/
def evaluate (operands : List (Measurement α)) (operators : List (Value α)) :
    Result α (Measurement α) :=
  match operands with
  | [] => throw (.malformed .noOperands)
  | m :: ms => do
    let s ← (Stacks.mk [m] []).pushAll operators ms
    let s ← Stacks.reduceDownTo 0 s.operands s.operators
    match s.operands with
    | [result] =>
      if operators.length < ms.length then
        throw (.malformed (.unbalanced operands.length operators.length))
      else pure result
    | _ => throw (.malformed (.unbalanced operands.length operators.length))

/-- Separate operands and operators that take turns, beginning with an operand at the given
position. -/
def separate (position : Nat) : List (Value α) →
    Result α (List (Measurement α) × List (Value α))
  | [] => pure ([], [])
  | [.measurement m] => pure ([m], [])
  | .measurement _ :: .measurement n :: _ =>
    throw (.malformed (.operatorExpected (position + 1) n))
  | .measurement m :: v :: rest => do
    let (ms, vs) ← separate (position + 2) rest
    return (m :: ms, v :: vs)
  | v :: _ => throw (.showing v (.malformed (.operandExpected position v)))

/-- Evaluate `m₀ v₁ m₁ v₂ m₂ …`, given as one list. -/
def evaluateTokens (tokens : List (Value α)) : Result α (Measurement α) := do
  let (ms, vs) ← separate 0 tokens
  evaluate ms vs

end Expression

end Metrology
