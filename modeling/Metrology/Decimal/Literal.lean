import Metrology.Decimal.Digit
import Metrology.Text.Blank

/-!
# Number literals

The grammar of a number in a text: an optional sign, then either a name of a value that is not a
finite number, or digits with an optional point and an optional exponent. The digits may be those
of any script, and a single low line may stand between two digits.
-/

namespace Metrology.Decimal

/-- What the text of a number says. -/
inductive Literal where
  | nan
  | infinite (negative : Bool)
  /-- The number `± digits · 10 ^ exponent`. -/
  | finite (negative : Bool) (digits : Nat) (exponent : Int)
deriving Repr, DecidableEq

/-! ### Digits -/

/-- Digits from the front of a text, with low lines between them, read behind the digits that
`value` stands for: their value, how many there were, and the rest. -/
def takeDigits (value count : Nat) : List Char → Nat × Nat × List Char
  | [] => (value, count, [])
  | '_' :: c :: r =>
    match digit? c with
    | some d => if count = 0 then (value, count, '_' :: c :: r)
      else takeDigits (10 * value + d) (count + 1) r
    | none => (value, count, '_' :: c :: r)
  | c :: r =>
    match digit? c with
    | some d => takeDigits (10 * value + d) (count + 1) r
    | none => (value, count, c :: r)

/-- An optional sign: is it a minus, and the rest. -/
def takeSign : List Char → Bool × List Char
  | '-' :: r => (true, r)
  | '+' :: r => (false, r)
  | r => (false, r)

/-! ### The parts of a number -/

/-- An exponent that takes up the whole text; no text at all is the exponent zero. -/
def exponent? : List Char → Option Int
  | [] => some 0
  | c :: r =>
    if c = 'e' ∨ c = 'E' then
      let (negative, r) := takeSign r
      match takeDigits 0 0 r with
      | (e, _ + 1, []) => some (if negative then -e else e)
      | _ => none
    else none

/-- Digits with an optional point and an optional exponent, and nothing else. -/
def unsigned? (negative : Bool) (s : List Char) : Option Literal :=
  let (whole, n, r) := takeDigits 0 0 s
  let (digits, k, m, r) : Nat × Nat × Nat × List Char :=
    match r with
    | '.' :: r =>
      let (ds, m, r) := takeDigits 0 0 r
      (whole * Nat.pow 10 m + ds, m, n + m, r)
    | r => (whole, 0, n, r)
  if m = 0 then none else (exponent? r).map fun e => .finite negative digits (e - k)

/-- The ASCII letters without their case. -/
def lower (s : List Char) : List Char := s.map Char.toLower

/-- The number that a text without blanks stands for. -/
def literal? (s : List Char) : Option Literal :=
  let (negative, r) := takeSign s
  if lower r = "nan".toList then some .nan
  else if lower r = "inf".toList ∨ lower r = "infinity".toList then some (.infinite negative)
  else unsigned? negative r

/-! ### Blanks around a number -/

/-- The blanks that may stand around a number: all but the information separators. -/
def isPadding (c : Char) : Bool := Text.isBlank c && !(28 ≤ c.toNat && c.toNat ≤ 31)

def dropPadding (s : List Char) : List Char :=
  ((s.dropWhile isPadding).reverse.dropWhile isPadding).reverse

/-! ### The double nearest to a literal -/

/-- The double nearest to `digits · 10 ^ exponent`. Exponents far beyond the range of doubles are
settled without computing the power. -/
def nearest (digits : Nat) (exponent : Int) : Float :=
  let size : Int := exponent + (Nat.toDigits 10 digits).length
  if digits = 0 ∨ size < -400 then 0.0
  else if 400 < size then 1.0 / 0.0
  else Float.ofScientific digits (exponent < 0) exponent.natAbs

/-- The double that a literal stands for. -/
def Literal.toFloat : Literal → Float
  | .nan => 0.0 / 0.0
  | .infinite negative => if negative then -(1.0 / 0.0) else 1.0 / 0.0
  | .finite negative digits exponent =>
    if negative then -(nearest digits exponent) else nearest digits exponent

/-- Read a double from a text, blanks around it ignored. -/
def readFloat? (s : String) : Option Float :=
  (literal? (dropPadding s.toList)).map Literal.toFloat

/-! ### Whole numbers -/

/-- Whole numbers with more digits are neither read nor written. -/
def maxIntDigits : Nat := 4300

/-- Does a whole number have few enough digits to be written? -/
def isWritable (n : Int) : Bool := n.natAbs < Nat.pow 10 maxIntDigits

/-- Read a whole number from a text, blanks around it ignored: an optional sign and digits. -/
def readInt? (s : String) : Option Int :=
  let (negative, r) := takeSign (dropPadding s.toList)
  match takeDigits 0 0 r with
  | (n, k + 1, []) => if k < maxIntDigits then some (if negative then -n else n) else none
  | _ => none

end Metrology.Decimal
