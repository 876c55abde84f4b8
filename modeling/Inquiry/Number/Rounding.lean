/-!
# Rounding quotients

Decimals and binary floating-point numbers keep a bounded number of digits. Both round an exact
quotient to the nearest whole number of units in the last place, a half going to the even neighbour.
-/

namespace Inquiry.Number

/-- The quotient rounded to the nearest whole number, a half to the even neighbour. -/
def roundDiv (n d : Nat) : Nat :=
  if 2 * (n % d) < d then n / d
  else if d < 2 * (n % d) then n / d + 1
  else n / d + n / d % 2

/-- The quotient rounded to the nearest whole number, a half upwards. -/
def roundDivUp (n d : Nat) : Nat :=
  if 2 * (n % d) < d then n / d else n / d + 1

end Inquiry.Number
