/-!
# Rounding

A quotient of whole numbers rounded to the nearest whole number, a tie going to the even one.
-/

namespace GpioBroker

namespace Decimal

/-- A quotient rounded to the nearest whole number, a tie going to the even one. -/
def roundDiv (num den : Nat) : Nat :=
  let below := num / den
  let rest := num % den
  if 2 * rest < den then below
  else if den < 2 * rest then below + 1
  else if below % 2 = 0 then below else below + 1

end Decimal

end GpioBroker
