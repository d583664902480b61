import Metrology.Fault
import Metrology.Measurement.Text

/-!
# Messages

The wording of every fault.
-/

namespace Metrology

def Misreading.message : Misreading → String
  | .pairExpected => "expected '<magnitude> <unit>'"
  | .notANumber word => "magnitude " ++ Text.quoted word ++ " is not a number"
  | .notFinite word => "magnitude " ++ Text.quoted word ++ " is not finite"
  | .unknownUnit name => "Unknown unit: " ++ Text.quoted name
  | .noUnit => "empty unit name"
  | .unitExpected token found =>
    "expected a unit at token " ++ toString token ++ ", got " ++ Text.quoted found
  | .signExpected token found =>
    "expected '*' or '/' at token " ++ toString token ++ ", got " ++ Text.quoted found
  | .openEnded => "unit name ends with an operator"
  | .noExpression => "empty expression"
  | .pairExpectedAt token => "expected '<magnitude> <unit>' at token " ++ toString token
  | .unknownUnitAt token name =>
    "unknown unit " ++ Text.quoted name ++ " at token " ++ toString token
  | .operatorExpected token found =>
    "invalid operator " ++ Text.quoted found ++ " at token " ++ toString token

/-- Why two units do not fit together. -/
def Mismatch.message : Mismatch → String
  | .dimensions l r => l.name ++ " vs " ++ r.name
  | .bases l r => "base units " ++ Text.quoted l ++ " vs " ++ Text.quoted r
  | .noCommonBase => "no common base unit"

def Malformation.message : Malformation Float → String
  | .noOperands => "Invalid expression: no operands"
  | .notAnOperator v => "Invalid operator: " ++ v.describe
  | .tooFewOperands op => "Invalid expression: not enough operands for operator " ++ op.symbol
  | .unbalanced operands operators =>
    "Invalid expression: " ++ toString operands ++ " operands for " ++ toString operators ++
      " operators"
  | .operandExpected position found =>
    "Invalid expression: expected a measurement at position " ++ toString position ++ ", got " ++
      found.describe
  | .operatorExpected position found =>
    "Invalid expression: expected an operator at position " ++ toString position ++ ", got " ++
      found.text

/-- What a measurement cannot be divided by. -/
def ZeroDivisor.message (dividend : Measurement Float) : ZeroDivisor Float → String
  | .number => "Cannot divide " ++ dividend.text ++ " by zero"
  | .measurement m =>
    "Cannot divide " ++ dividend.text ++ " by a zero measurement (" ++ m.text ++ ")"
  | .inBaseUnits m =>
    "Cannot divide " ++ dividend.text ++ " by " ++ m.text ++ ": zero in base units"

/-- Which form of value is not taken. -/
def Misuse.message : Misuse Float → String
  | .notConcrete kind => kind ++ " is not a concrete unit"
  | .notAComponent v => "Compound-unit components must be Unit instances, got " ++ v.typeName
  | .notANumber v => "Magnitude must be a number, got " ++ v.typeName
  | .notAUnit v => "Unit must be a Unit or a unit name, got " ++ v.typeName
  | .notAMeasurement v => "Expected a Measurement operand, got " ++ v.typeName
  | .unsupported symbol left right =>
    "unsupported operand type(s) for " ++ symbol ++ ": '" ++ left.typeName ++ "' and '" ++
      right.typeName ++ "'"
  | .unordered symbol left right =>
    "'" ++ symbol ++ "' not supported between instances of '" ++ left.typeName ++ "' and '" ++
      right.typeName ++ "'"
  | .notAppended v => "can only concatenate str (not \"" ++ v.typeName ++ "\") to str"
  | .notACount v => "can't multiply sequence by non-int of type '" ++ v.typeName ++ "'"

/-- What is wrong with a file, with the system's number for it. -/
def FileFault.message : FileFault → String
  | .notFound path => "[Errno 2] No such file or directory: " ++ Text.quoted path
  | .isDirectory path => "[Errno 21] Is a directory: " ++ Text.quoted path
  | .notADirectory path => "[Errno 20] Not a directory: " ++ Text.quoted path
  | .nameTooLong path => "[Errno 36] File name too long: " ++ Text.quoted path
  | .notAPath => "embedded null byte"

/-- Why a whole number is not written. -/
def tooManyDigitsMessage : String :=
  "Exceeds the limit (" ++ toString Decimal.maxIntDigits ++
    " digits) for integer string conversion; use sys.set_int_max_str_digits() to increase the limit"

def Fault.message : Fault Float → String
  | .unknownUnit name => "Unknown unit: " ++ Text.quoted name
  | .unreadable text why => "Cannot parse " ++ Text.quoted text ++ ": " ++ why.message
  | .noComponents => "A compound unit needs at least one component unit"
  | .signCount components signs =>
    "A compound unit with " ++ toString components ++ " component(s) needs " ++
      toString (components - 1) ++ " operator(s), got " ++ toString signs
  | .notASign v => "Invalid compound-unit operator " ++ v.describe ++ "; expected '*' or '/'"
  | .incompatible left right why =>
    "Incompatible units: " ++ Text.quoted left ++ " and " ++ Text.quoted right ++ " (" ++
      why.message ++ ")"
  | .zeroDivisor dividend divisor => divisor.message dividend
  | .malformed why => why.message
  | .notFinite x => "Magnitude must be a finite number, got " ++ Decimal.exactText x
  | .zeroDivision => "float division by zero"
  | .tooLarge => "int too large to convert to float"
  | .tooManyDigits => tooManyDigitsMessage
  | .misuse why => why.message
  | .scaleNotPositive kind scale =>
    kind ++ ".SCALE_TO_BASE must be > 0, got " ++ Decimal.exactText scale
  | .nameTaken name => "Unit name " ++ Text.quoted name ++ " is registered twice"
  | .noMeasurements => "No measurements to compute statistics."
  | .noElement index size =>
    "index " ++ toString index ++ " is out of bounds for axis 0 with size " ++ toString size
  | .negativeCount count =>
    if Decimal.isWritable count then "Line count must be non-negative, got " ++ toString count
    else tooManyDigitsMessage
  | .notLoaded path => "No file loaded to process: call read_file() on " ++ path ++ " first"
  | .frozenMeasurement field => "cannot assign to field " ++ Text.quoted field
  | .frozenCompound => "CompoundUnit is immutable"
  | .file why => why.message
  | .undecodable => "the file is not a text"
  | .notShown why => why

end Metrology
