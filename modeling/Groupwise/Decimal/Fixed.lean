import Groupwise.Decimal
import Groupwise.Text.Digits

/-!
# Decimals with fixed places

A float is rounded from its exact value, and a value half-way between two decimals goes to the even
one.
-/

namespace Groupwise.Decimal

/-- The quotient rounded to the nearest whole number, half-way to the even one. -/
def roundDiv (num den : Nat) : Nat :=
  let q := num / den
  match compare (2 * (num % den)) den with
  | .lt => q
  | .gt => q + 1
  | .eq => if q % 2 = 0 then q else q + 1

/-- A float that is finite and not negative, with two places. -/
def twoPlaces (x : Float) : String :=
  let (num, den) := (Binary.ofFloat x).overPowerOfTen (-2)
  let n := roundDiv num den
  natText (n / 100) ++ "." ++ natText (n / 10 % 10) ++ natText (n % 10)

end Groupwise.Decimal
