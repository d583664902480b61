import Metrology.Decimal.Significant

/-!
# The layout of a number

How chosen digits become text: written out if the exponent of the first digit is at least `-4` and
below a bound, and otherwise as one digit, the rest of the digits behind a point, and an exponent
of at least two digits with its sign.
-/

namespace Metrology.Decimal

/-- The decisions that two number formats of the library take differently. -/
structure Layout where
  /-- Exponents from here on are written with an exponent mark. -/
  positionalBelow : Int
  /-- Is a whole number written with a point and one zero? -/
  keepsPoint : Bool

/-- Every digit that reading back needs: `1500.0`, `1e-05`, `1e+16`. -/
def Layout.exact : Layout := ⟨16, true⟩

/-- At most six digits, for tables: `1500`, `1e-05`, `1e+06`. -/
def Layout.brief : Layout := ⟨6, false⟩

/-- An exponent with its sign and at least two digits. -/
def exponentText (e : Int) : List Char :=
  let ds := Nat.toDigits 10 e.natAbs
  (if e < 0 then '-' else '+') :: List.replicate (2 - ds.length) '0' ++ ds

/-- Digits in front of a point and, if there are any, digits behind it. -/
def pointed (keepsPoint : Bool) (whole behind : List Char) : List Char :=
  if behind.isEmpty then (if keepsPoint then whole ++ ['.', '0'] else whole)
  else whole ++ '.' :: behind

/-- A positive number in the given layout. -/
def Layout.positive (l : Layout) (s : Significand) : List Char :=
  let ds := Nat.toDigits 10 s.digits
  if s.exponent < -4 ∨ l.positionalBelow ≤ s.exponent then
    pointed false (ds.take 1) (ds.drop 1) ++ 'e' :: exponentText s.exponent
  else if s.exponent < 0 then
    pointed l.keepsPoint ['0'] (List.replicate (-s.exponent - 1).toNat '0' ++ ds)
  else
    let whole := s.exponent.toNat + 1
    pointed l.keepsPoint (ds.take whole ++ List.replicate (whole - ds.length) '0') (ds.drop whole)

/-- A double in the given layout, its digits chosen by `digits`. -/
def Layout.write (l : Layout) (digits : Nat → Int → Bool → Significand) : Parts → List Char
  | .nan => ['n', 'a', 'n']
  | .infinite negative => (if negative then ['-'] else []) ++ ['i', 'n', 'f']
  | .finite negative m q narrowBelow =>
    (if negative then ['-'] else []) ++
      if m = 0 then pointed l.keepsPoint ['0'] [] else l.positive (digits m q narrowBelow)

/-- A double with as few digits as read back. -/
def exactText (x : Float) : String :=
  String.ofList (Layout.exact.write shortest (parts x))

/-- A double rounded to six significant digits. -/
def briefText (x : Float) : String :=
  String.ofList (Layout.brief.write (fun m q _ => rounded 6 m q) (parts x))

end Metrology.Decimal
