import Metrology.Measurement.Conversion
import Metrology.Unit.Reading

/-!
# Units and measurements from values

A measurement is made from a number and a unit or its name, a compound from units and signs. Where
a text is expected, an operator stands for its symbol; where a sign is expected, a dimension stands
for its name too.
-/

namespace Metrology

variable {α : Type} [Magnitude α]

namespace Value

def number? : Value α → Option (Result α α)
  | .int n => some <|
    match Magnitude.ofInt? n with
    | some x => pure x
    | none => throw .tooLarge
  | .real x => some (pure x)
  | _ => none

def asText? : Value α → Option String
  | .text s => some s
  | .operator op => some op.symbol
  | _ => none

/-- A constant of an enumeration is replaced by the text that it stands for. -/
def plain : Value α → Value α
  | .operator op => .text op.symbol
  | .dimension d => .text d.name
  | v => v

/-- Look the value up among other values. A measurement is looked up by its base form, which it may
not have; every other value can be looked up. -/
def lookup (v : Value α) : Result α PUnit :=
  match v with
  | .measurement m => do
    let _ ← m.inBase
    pure ⟨⟩
  | _ => pure ⟨⟩

end Value

/-! ### Measurements -/

/-- The unit that a value is or names. -/
def Unit.ofValue (v : Value α) : Result α (Unit α) :=
  match v.asText?, v with
  | some name, _ => Unit.read name
  | none, .unit u => pure u
  | none, _ => throw (.misuse (.notAUnit v))

/-- The measurement with a magnitude and a unit. The magnitude is checked first. -/
def Measurement.ofValues (magnitude unit : Value α) : Result α (Measurement α) :=
  match magnitude.number? with
  | none => throw (.misuse (.notANumber magnitude))
  | some r => do
    let x ← r
    if Magnitude.isFinite x then Measurement.ofMagnitude x (← Unit.ofValue unit)
    else throw (.notFinite x)

/-! ### Compounds -/

def Join.ofValue (v : Value α) : Result α Join := do
  let v := v.plain
  v.lookup
  match v.asText?.bind Join.ofSign? with
  | some j => pure j
  | none => throw (.showing v (.notASign v))

def Unit.ofComponent : Value α → Result α (Unit α)
  | .unit u => pure u
  | v => throw (.misuse (.notAComponent v))

/-- The compound of the given components with the given signs between them. The signs are checked
before the components, and their number before either. -/
def Compound.ofValues (components signs : List (Value α)) : Result α (Compound α) :=
  match components with
  | [] => throw .noComponents
  | first :: rest =>
    if signs.length = rest.length then do
      let js ← signs.mapM Join.ofValue
      let u ← Unit.ofComponent first
      let us ← rest.mapM Unit.ofComponent
      return (Compound.single u).append (js.zip us)
    else throw (.signCount components.length signs.length)

end Metrology
