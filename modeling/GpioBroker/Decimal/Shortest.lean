import GpioBroker.Decimal.Binary64

/-!
# Shortest decimals

The decimal text of a double-precision number: the fewest digits that read back as the same number,
and of those the nearest to it, a tie going to the even digit.  The search tries one digit count
after the other on the exact interval of reals that round to the number.  A text is positional from
`0.0001` up to sixteen digits before the point, always with a point, and otherwise has an exponent
with a sign and at least two digits.
-/

namespace GpioBroker

namespace Decimal

/-- The reals that round to one double-precision number, over a common denominator. -/
structure Interval where
  low : Nat
  value : Nat
  high : Nat
  den : Nat
  /-- Whether the two ends round to the number too. -/
  closed : Bool

/-- The interval of a positive finite number. -/
def Interval.ofBinary64 (x : Binary64) : Interval :=
  let m := x.significand
  let closed := m % 2 == 0
  let low := if x.isBoundary then 4 * m - 1 else 4 * m - 2
  if x.scale < 2 then ⟨low, 4 * m, 4 * m + 2, twoTo (2 - x.scale).toNat, closed⟩
  else
    let unit := twoTo (x.scale - 2).toNat
    ⟨low * unit, 4 * m * unit, (4 * m + 2) * unit, 1, closed⟩

/-- Whether `digits * 10 ^ power` lies in the interval. -/
def Interval.contains (i : Interval) (digits : Nat) (power : Int) : Bool :=
  let p := if power < 0 then digits * i.den else digits * i.den * tenTo power.natAbs
  let s := if power < 0 then tenTo power.natAbs else 1
  if i.closed then i.low * s ≤ p && p ≤ i.high * s else i.low * s < p && p < i.high * s

/-- The power of ten just above a positive ratio, found from a bound on it. -/
def magnitudeFrom (num den : Nat) : Nat → Int → Int
  | 0, e => e
  | fuel + 1, e =>
    let below :=
      if e < 1 then num * tenTo (1 - e).natAbs < den else num < den * tenTo (e - 1).natAbs
    if below then magnitudeFrom num den fuel (e - 1) else e

/-- The number of digits before the point; negative or zero when the number is below one tenth. -/
def Interval.magnitude (i : Interval) : Int := magnitudeFrom i.value i.den 700 310

/-- The nearest decimal of one digit count inside the interval, a tie going to the even digit. -/
def Interval.nearest? (i : Interval) (power : Int) : Option Nat :=
  let num := if power < 0 then i.value * tenTo power.natAbs else i.value
  let den := if power < 0 then i.den else i.den * tenTo power.natAbs
  let below := num / den
  let above := below + 1
  let rest := num % den
  match i.contains below power && below != 0, i.contains above power with
  | true, true =>
    if 2 * rest < den then some below
    else if den < 2 * rest then some above
    else if below % 2 = 0 then some below else some above
  | true, false => some below
  | false, true => some above
  | false, false => none

/-- The first digit count, from `count` on, that has a decimal inside the interval. -/
def Interval.shortestFrom (i : Interval) : Nat → Nat → Nat × Int
  | 0, count => (i.value / i.den, i.magnitude - count)
  | fuel + 1, count =>
    let power := i.magnitude - count
    match i.nearest? power with
    | some digits => (digits, power)
    | none => i.shortestFrom fuel (count + 1)

/-- The digits and the power of ten of the shortest decimal of a positive finite number. -/
def shortest (x : Binary64) : Nat × Int := (Interval.ofBinary64 x).shortestFrom 17 1

/-- The digits of a number without its trailing zeros, most significant first. -/
def significantDigits (n : Nat) : List Char :=
  ((Nat.toDigits 10 n).reverse.dropWhile (· == '0')).reverse

/-- Lays out digits whose point stands after `point` of them. -/
def layout (digits : List Char) (point : Int) : String :=
  if -4 < point ∧ point ≤ 16 then
    if point ≤ 0 then
      "0." ++ String.ofList (List.replicate point.natAbs '0' ++ digits)
    else
      let whole := digits.take point.natAbs
      let padded := whole ++ List.replicate (point.natAbs - whole.length) '0'
      let rest := digits.drop point.natAbs
      String.ofList padded ++ "." ++ (if rest.isEmpty then "0" else String.ofList rest)
  else
    let exponent := point - 1
    let size := toString exponent.natAbs
    let mantissa := match digits with
      | [] => "0"
      | [d] => d.toString
      | d :: rest => d.toString ++ "." ++ String.ofList rest
    mantissa ++ "e" ++ (if exponent < 0 then "-" else "+") ++
      (if size.length < 2 then "0" ++ size else size)

/-- The decimal text of a number without its sign. -/
def magnitudeText (x : Binary64) : String :=
  if x.isUndefined then "nan"
  else if !x.isFinite then "inf"
  else if x.isZero then "0.0"
  else
    let (n, power) := shortest x
    let digits := Nat.toDigits 10 n
    layout (significantDigits n) (digits.length + power)

end Decimal

/-- The shortest decimal text that reads back as the number. -/
def Binary64.text (x : Binary64) : String :=
  if x.negative && !x.isUndefined then "-" ++ Decimal.magnitudeText x else Decimal.magnitudeText x

end GpioBroker
