import GpioBroker.Decimal.Shortest
import GpioBroker.Text.Draft

/-!
# Rounded decimals

The decimal text of a number with a fixed count of places or of significant digits.  The number is
an exact quotient of whole numbers and is rounded once, to the nearest decimal, a tie going to the
even digit.  Only as many places are worked out as a number can have: the places behind them are a
run of zeros.
-/

namespace GpioBroker

namespace Decimal

/-- The nearest whole number to the value of an interval, counted in units of a power of ten. -/
def Interval.rounded (i : Interval) (power : Int) : Nat :=
  if power < 0 then roundDiv (i.value * tenTo power.natAbs) i.den
  else roundDiv i.value (i.den * tenTo power.natAbs)

/-- The text of digits of which some stand behind the point; a bare point is kept on demand. -/
def pointed (digits : List Char) (places : Nat) (keepsPoint : Bool) : String :=
  let padded := List.replicate (places + 1 - digits.length) '0' ++ digits
  let whole := padded.take (padded.length - places)
  let fraction := padded.drop (padded.length - places)
  String.ofList whole ++ (if places = 0 && !keepsPoint then "" else ".") ++ String.ofList fraction

/-- The text of an exponent: its sign and at least two digits. -/
def exponentText (mark : Char) (exponent : Int) : String :=
  let digits := toString exponent.natAbs
  mark.toString ++ (if exponent < 0 then "-" else "+") ++
    (if digits.length < 2 then "0" ++ digits else digits)

/-- The significant digits of a finite number, one before the point and some behind it, and the
power of ten of the first. -/
def scientificDigits (x : Binary64) (places : Nat) : List Char × Int :=
  if x.isZero then (List.replicate (places + 1) '0', 0)
  else
    let i := Interval.ofBinary64 x
    let exponent := i.magnitude - 1
    let digits := Nat.toDigits 10 (i.rounded (exponent - places))
    if digits.length ≤ places + 1 then (digits, exponent)
    else (digits.take (places + 1), exponent + 1)

/-- Without the zeros at the end. -/
def withoutTrailingZeros (cs : List Char) : List Char :=
  (cs.reverse.dropWhile (· == '0')).reverse

/-- The positional text of a finite number without its sign. -/
def fixed (x : Binary64) (places : Nat) (keepsPoint : Bool) : Draft :=
  let exact := min places Binary64.mostPlaces
  let digits := Nat.toDigits 10 ((Interval.ofBinary64 x).rounded (-(exact : Int)))
  [.written (pointed digits exact keepsPoint), .run '0' (places - exact)]

/-- The text of a finite number with an exponent, without its sign. -/
def scientific (mark : Char) (x : Binary64) (places : Nat) (keepsPoint : Bool) : Draft :=
  let exact := min places Binary64.mostPlaces
  let (digits, exponent) := scientificDigits x exact
  [.written (pointed digits exact keepsPoint), .run '0' (places - exact),
    .written (exponentText mark exponent)]

/-- The text of a finite number with a count of significant digits, without its sign: positional
unless its exponent is below -4 or reaches the count, and without zeros at the end of the fraction
unless the point is kept. -/
def general (mark : Char) (x : Binary64) (count : Nat) (keepsPoint : Bool) : Draft :=
  let count := max count 1
  let exact := min count Binary64.mostPlaces
  let zeros := Stretch.run '0' (if keepsPoint then count - exact else 0)
  let (digits, exponent) := scientificDigits x (exact - 1)
  if -4 ≤ exponent ∧ exponent < count then
    let places := (exact - 1 - exponent).toNat
    let kept :=
      if keepsPoint then digits
      else
        let whole := digits.take (digits.length - places)
        whole ++ withoutTrailingZeros (digits.drop (digits.length - places))
    [.written (pointed kept (places - (digits.length - kept.length)) keepsPoint), zeros]
  else
    let kept := if keepsPoint then digits else digits.take 1 ++ withoutTrailingZeros (digits.drop 1)
    [.written (pointed kept (kept.length - 1) keepsPoint), zeros,
      .written (exponentText mark exponent)]

end Decimal

end GpioBroker
