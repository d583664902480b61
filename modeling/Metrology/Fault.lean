import Metrology.Value

/-!
# Faults

Everything that can go wrong, one constructor for each cause, with what the message will show. The
faults of `isMeasuring` are the ones that bad measurements, units and expressions lead to; a reader
of many lines may skip such a line and go on. The others point at a misuse of the library, at a
limit of its numbers or at the files.
-/

namespace Metrology

/-- Why a text cannot be read as a unit, a measurement or an expression. Tokens are counted from
one. -/
inductive Misreading where
  /-- There is no magnitude followed by a unit. -/
  | pairExpected
  | notANumber (word : String)
  /-- The magnitude is infinite or no number. -/
  | notFinite (word : String)
  | unknownUnit (name : String)
  /-- The name of a compound has no token at all. -/
  | noUnit
  /-- A sign stands where a component should. -/
  | unitExpected (token : Nat) (found : String)
  /-- A component stands where a sign should. -/
  | signExpected (token : Nat) (found : String)
  /-- The last sign has nothing behind it. -/
  | openEnded
  | noExpression
  /-- The line ends inside a magnitude and its unit. -/
  | pairExpectedAt (token : Nat)
  /-- The unit of an operand is not known. -/
  | unknownUnitAt (token : Nat) (name : String)
  /-- Something else stands where an operator should. -/
  | operatorExpected (token : Nat) (found : String)
deriving DecidableEq, Repr

/-- Why two measurements or units do not fit together. -/
inductive Mismatch where
  | dimensions (left right : Dimension)
  | bases (left right : String)
  /-- They have no base unit in common. -/
  | noCommonBase
deriving DecidableEq, Repr

inductive Malformation (α : Type) [Magnitude α] where
  | noOperands
  /-- The value is not one of the four operators. -/
  | notAnOperator (v : Value α)
  /-- An operator finds fewer than two operands. -/
  | tooFewOperands (op : Operator)
  /-- There are not as many operators as the operands need. -/
  | unbalanced (operands operators : Nat)
  /-- A position for an operand, counted from zero, holds something else. -/
  | operandExpected (position : Nat) (found : Value α)
  /-- A position for an operator holds an operand. -/
  | operatorExpected (position : Nat) (found : Measurement α)

/-- What a measurement cannot be divided by. -/
inductive ZeroDivisor (α : Type) [Magnitude α] where
  | number
  /-- A measurement of magnitude zero. -/
  | measurement (m : Measurement α)
  /-- A measurement whose magnitude is zero once it is converted to its base unit. -/
  | inBaseUnits (m : Measurement α)

/-- A value of a form that an operation does not take. -/
inductive Misuse (α : Type) [Magnitude α] where
  /-- A kind of unit without a symbol or a dimension stands for a unit. -/
  | notConcrete (kind : String)
  | notAComponent (v : Value α)
  | notANumber (v : Value α)
  | notAUnit (v : Value α)
  | notAMeasurement (v : Value α)
  /-- The operator is not defined between the two forms. -/
  | unsupported (symbol : String) (left right : Value α)
  | unordered (symbol : String) (left right : Value α)
  /-- Something is added to a text. -/
  | notAppended (v : Value α)
  /-- A text is multiplied by something. -/
  | notACount (v : Value α)

inductive FileFault where
  | notFound (path : String)
  | isDirectory (path : String)
  | notADirectory (path : String)
  /-- The path, or a name on it, has too many bytes. -/
  | nameTooLong (path : String)
  /-- The path holds the character that ends paths, so that it names nothing. -/
  | notAPath
deriving DecidableEq, Repr

/-- A cause of failure. -/
inductive Fault (α : Type) [Magnitude α] where
  | unknownUnit (name : String)
  | unreadable (text : String) (why : Misreading)
  | noComponents
  /-- A compound does not have one sign fewer than components. -/
  | signCount (components signs : Nat)
  /-- The value is not a sign of a compound. -/
  | notASign (v : Value α)
  /-- Two units that do not fit together. -/
  | incompatible (left right : String) (why : Mismatch)
  | zeroDivisor (dividend : Measurement α) (divisor : ZeroDivisor α)
  | malformed (why : Malformation α)
  /-- A magnitude that is infinite or no number. -/
  | notFinite (x : α)
  /-- A conversion factor has become zero, and a magnitude is divided by it. -/
  | zeroDivision
  /-- A whole number is beyond the range of magnitudes. -/
  | tooLarge
  /-- A whole number that a message is to show has too many digits. -/
  | tooManyDigits
  | misuse (why : Misuse α)
  /-- A new kind of unit has a factor that is not positive. -/
  | scaleNotPositive (kind : String) (scale : α)
  /-- A table of units would have two entries of one name. -/
  | nameTaken (name : String)
  | noMeasurements
  /-- A list of the given size has no element with the index. -/
  | noElement (index size : Nat)
  /-- A negative number of lines is asked for. -/
  | negativeCount (count : Int)
  | notLoaded (path : String)
  /-- A field of a measurement is assigned to. -/
  | frozenMeasurement (field : String)
  /-- A field of a compound unit is assigned to. -/
  | frozenCompound
  | file (why : FileFault)
  /-- A file's bytes are not a text. -/
  | undecodable
  /-- The console refuses to show something. -/
  | notShown (why : String)

/-- A fault whose message shows a value. If the value cannot be shown, that is the fault. -/
def Fault.showing {α : Type} [Magnitude α] (v : Value α) (f : Fault α) : Fault α :=
  if v.isShowable then f else .tooManyDigits

/-- Does the fault lie in the measurements, units or expressions themselves? -/
def Fault.isMeasuring {α : Type} [Magnitude α] : Fault α → Bool
  | .unknownUnit _ | .unreadable .. | .noComponents | .signCount .. | .notASign _
  | .incompatible .. | .zeroDivisor .. | .malformed _ | .notFinite _ => true
  | _ => false

/-- Does the fault lie in the files? A path that names nothing is a misuse. -/
def Fault.isFile {α : Type} [Magnitude α] : Fault α → Bool
  | .file .notAPath => false
  | .file _ => true
  | _ => false

/-- A result, or the fault that prevented it. -/
abbrev Result (α : Type) [Magnitude α] (β : Type) := Except (Fault α) β

end Metrology
