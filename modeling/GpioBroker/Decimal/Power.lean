/-!
# Powers

The powers of two and of ten that exact numbers are scaled by.
-/

namespace GpioBroker

namespace Decimal

/-- A power of two. -/
def twoTo (n : Nat) : Nat := Nat.pow 2 n

/-- A power of ten. -/
def tenTo (n : Nat) : Nat := Nat.pow 10 n

end Decimal

end GpioBroker
