/-!
# Rounding a double to decimal places

`roundTo x p` is `x` to `p` places after the point, computed in doubles: `x` is multiplied by
`10 ^ p`, rounded to a whole number, a half away from zero, and divided again.  The power of ten is
built by repeated squaring, and is the reciprocal of the positive power if `p` is negative.
-/

namespace Cashbook.Decimal

/-- The product of `acc` and the `n`-th power of `x`, by repeated squaring. -/
def powerFrom (acc x : Float) (n : Nat) : Float :=
  if n = 0 then acc
  else powerFrom (if n % 2 = 1 then acc * x else acc) (x * x) (n / 2)
termination_by n

/-- The power of ten with the exponent `p`. -/
def powerOfTen (p : Int) : Float :=
  let r := powerFrom 1 10 p.natAbs
  if p < 0 then 1 / r else r

/-- The double `x` to `p` places after the point. -/
def roundTo (x : Float) (p : Int) : Float :=
  let factor := powerOfTen p
  (x * factor).round / factor

end Cashbook.Decimal
