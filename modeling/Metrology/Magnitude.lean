import Metrology.Decimal.Binary64

/-!
# Magnitudes

The number in front of a unit. Units, measurements, expressions and statistics are written once
over any type of magnitudes. The library computes with doubles; with rational numbers the same
definitions compute the exact values that the doubles approximate.
-/

namespace Metrology

/-- A type of numbers to measure with. -/
class Magnitude (α : Type) extends
    Add α, Sub α, Mul α, Div α, Neg α, LT α, LE α, BEq α, OfScientific α where
  decidableLT : DecidableLT α
  decidableLE : DecidableLE α
  /-- Is this a number at all, and not infinite? -/
  isFinite : α → Bool
  ofNat : Nat → α
  /-- The magnitude of a whole number, unless that is too large for the type. -/
  ofInt? : Int → Option α
  /-- A number that equal magnitudes share, and few others with them. -/
  digest : α → Int

instance Magnitude.instDecidableLT {α : Type} [Magnitude α] : DecidableLT α :=
  Magnitude.decidableLT

instance Magnitude.instDecidableLE {α : Type} [Magnitude α] : DecidableLE α :=
  Magnitude.decidableLE

/-- The remainder by which doubles are told apart at first sight: the prime number `2 ^ 61 - 1`. As
`2 ^ 61` leaves the remainder one, only the exponent's own remainder matters. -/
def digestModulus : Nat := Nat.pow 2 61 - 1

/-- The digest of a double: the remainder of its size, with its sign. The digest `-1` is not used,
`-2` stands for it too. -/
def Decimal.Parts.digest : Decimal.Parts → Int
  | .nan => 0
  | .infinite negative => if negative then -314159 else 314159
  | .finite negative m q _ =>
    let r : Int := ↑(m * Nat.pow 2 (q % 61).toNat % digestModulus)
    if !negative then r else if r = 1 then -2 else -r

/-- Doubles. -/
instance : Magnitude Float where
  decidableLT := inferInstance
  decidableLE := inferInstance
  isFinite := Float.isFinite
  ofNat := Float.ofNat
  ofInt? n :=
    let x := Float.ofInt n
    if x.isFinite then some x else none
  digest x := (Decimal.parts x).digest

/-- Exact numbers, all of them finite. -/
instance : Magnitude Rat where
  decidableLT := inferInstance
  decidableLE := inferInstance
  isFinite _ := true
  ofNat n := n
  ofInt? n := some n
  digest x := x.num

end Metrology
