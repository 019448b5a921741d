import Cashbook.Text.Numeral

/-!
# Doubles with a fixed number of places

`fixed places x` writes the double `x` with as many digits after the point as `places` says.  The
digits are those of the exact value of the double, rounded to the last place, a half to the even
neighbour.

A double is `mantissa · 2 ^ exponent` with a sign, or an infinity, or not a number; `Parts.ofFloat`
takes it apart, so that the rounding is done in natural numbers.
-/

namespace Cashbook.Decimal

/-- What a double is. -/
inductive Parts
  /-- Not a number. -/
  | nan
  /-- An infinity. -/
  | infinite (negative : Bool)
  /-- The number `mantissa · 2 ^ exponent`, with a sign. -/
  | finite (negative : Bool) (mantissa : Nat) (exponent : Int)
  deriving DecidableEq, Repr

/-- The parts of the double with the given bits. -/
def Parts.ofBits (bits : Nat) : Parts :=
  let negative : Bool := bits / Nat.pow 2 63 = 1
  let field : Nat := bits / Nat.pow 2 52 % Nat.pow 2 11
  let fraction : Nat := bits % Nat.pow 2 52
  if field = 2047 then if fraction = 0 then .infinite negative else .nan
  else if field = 0 then .finite negative fraction (-1074)
  else .finite negative (Nat.pow 2 52 + fraction) (field - 1075)

/-- The parts of a double. -/
def Parts.ofFloat (x : Float) : Parts := .ofBits x.toBits.toNat

/-- The whole number nearest to `num / den`, a half going to the even neighbour. -/
def roundDiv (num den : Nat) : Nat :=
  let q := num / den
  let r := num % den
  if den < 2 * r then q + 1
  else if 2 * r = den then q + q % 2
  else q

/-- A quotient that is whole is not rounded. -/
theorem roundDiv_mul (n : Nat) {den : Nat} (h : 0 < den) : roundDiv (n * den) den = n := by
  simp only [roundDiv, Nat.mul_div_cancel n h, Nat.mul_mod_left]
  split
  case isTrue h1 => omega
  case isFalse h1 =>
    split
    case isTrue h2 => omega
    case isFalse h2 => rfl

/-- The number `mantissa · 2 ^ exponent` in units of `10 ^ -places`, rounded. -/
def scaled (places mantissa : Nat) (exponent : Int) : Nat :=
  if exponent < 0 then roundDiv (mantissa * Nat.pow 10 places) (Nat.pow 2 exponent.natAbs)
  else mantissa * Nat.pow 10 places * Nat.pow 2 exponent.natAbs

/-- The digits of a number of units of `10 ^ -places`, with a point before the last `places`. -/
def pointed (places n : Nat) : List Char :=
  Nat.toDigits 10 (n / Nat.pow 10 places) ++
    if places = 0 then [] else '.' :: Text.padded places (n % Nat.pow 10 places)

/-- A double with `places` digits after the point; with `signed`, a plus sign stands before what is
not negative. -/
def fixedChars (signed : Bool) (places : Nat) (x : Float) : List Char :=
  let sign (negative : Bool) := if negative then ['-'] else if signed then ['+'] else []
  match Parts.ofFloat x with
  | .nan => "NaN".toList
  | .infinite negative => sign negative ++ "inf".toList
  | .finite negative mantissa exponent =>
      sign negative ++ pointed places (scaled places mantissa exponent)

end Cashbook.Decimal
