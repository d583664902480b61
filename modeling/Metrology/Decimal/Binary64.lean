/-!
# The parts of a double

A finite double is `± m · 2 ^ q` with a natural number `m` below `2 ^ 53`. Everything that prints
a double starts from these parts and computes with natural numbers from there on.
-/

namespace Metrology.Decimal

/-- The value of a double, taken apart. -/
inductive Parts where
  | nan
  | infinite (negative : Bool)
  /-- The number `± m · 2 ^ q`. The double just below it in magnitude is only half as far away
  as the one above if `narrowBelow` holds. -/
  | finite (negative : Bool) (m : Nat) (q : Int) (narrowBelow : Bool)
deriving Repr, DecidableEq

def parts (x : Float) : Parts :=
  let bits : Nat := x.toBits.toNat
  let negative := bits / Nat.pow 2 63 % 2 == 1
  let exponent : Nat := bits / Nat.pow 2 52 % Nat.pow 2 11
  let fraction : Nat := bits % Nat.pow 2 52
  if exponent = 2047 then
    if fraction = 0 then .infinite negative else .nan
  else if exponent = 0 then .finite negative fraction (-1074) false
  else .finite negative (Nat.pow 2 52 + fraction) (exponent - 1075) (fraction == 0 && exponent > 1)

end Metrology.Decimal
