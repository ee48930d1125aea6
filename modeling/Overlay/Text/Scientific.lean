/-!
# Numbers in scientific notation

A number is kept as it is written: a sign, its digits as one natural number, and a power of ten. It
is `finite` when it rounds to a double, that is, when its magnitude is below the least one that
rounds past the greatest double.
-/

namespace Overlay

/-- A number as it is written: a sign, the digits as one number, and the power of ten on it. -/
structure Scientific where
  /-- Is there a minus sign? -/
  negative : Bool
  /-- The digits before and after the point. -/
  digits : Nat
  /-- The power of ten. -/
  exponent : Int
deriving DecidableEq

namespace Scientific

/-- The least magnitude that rounds past the greatest double. -/
def bound : Nat := Nat.pow 2 1024 - Nat.pow 2 970

/-- Does the number lie in the range of a double? The number of digits decides, except for numbers
of the magnitude of the bound itself. -/
def finite (n : Scientific) : Bool :=
  let magnitude := (Nat.toDigits 10 n.digits).length + n.exponent
  if n.digits = 0 || magnitude ≤ 308 then true
  else if magnitude ≥ 310 then false
  else if 0 ≤ n.exponent then n.digits * Nat.pow 10 n.exponent.toNat < bound
  else n.digits < bound * Nat.pow 10 (-n.exponent).toNat

end Scientific

end Overlay
