import GpioBroker.Decimal.Power
import GpioBroker.Decimal.Rounding

/-!
# Binary floating-point numbers

A double-precision number is its 64 bits.  A finite one is decoded into a sign, a whole significand
and a power of two, so that all later work on it is exact arithmetic on whole numbers.  The nearest
number to a decimal one is found by exact arithmetic too: the decimal is a quotient, which is
rounded once, to a whole significand, a tie going to the even one.
-/

namespace GpioBroker

/-- A double-precision number, given by its bits. -/
structure Binary64 where
  bits : UInt64
deriving DecidableEq, Repr, Inhabited

namespace Binary64

open Decimal (twoTo tenTo)

/-- The bits of the positive infinity. -/
def infinityBits : Nat := 2047 * twoTo 52

/-- The bits of the number nearest to a quotient of positive whole numbers.  The power of two gives
the significand its fifty-three bits, or is the least one.  A significand is added to the exponent
bits with its leading bit, so that a carry goes into the exponent, and too large a number is
infinite. -/
def ratioBits (num den : Nat) : Nat :=
  let guess : Int := (num.log2 : Int) - den.log2 - 52
  let isShort := num * twoTo (-guess).toNat < twoTo 52 * den * twoTo guess.toNat
  let scale := max (if isShort then guess - 1 else guess) (-1074)
  let significand := Decimal.roundDiv (num * twoTo (-scale).toNat) (den * twoTo scale.toNat)
  min ((scale + 1074).toNat * twoTo 52 + significand) infinityBits

/-- The bits of the number nearest to a decimal one that is not negative.  Powers of ten beyond the
range of all numbers are not worked out. -/
def decimalBits (mantissa : Nat) (exponent : Int) : Nat :=
  if mantissa = 0 ∨ exponent + mantissa.log2 < -324 then 0
  else if 309 ≤ exponent then infinityBits
  else ratioBits (mantissa * tenTo exponent.toNat) (tenTo (-exponent).toNat)

/-- The number of some bits below the sign. -/
def ofMagnitude (negative : Bool) (bits : Nat) : Binary64 :=
  ⟨UInt64.ofNat bits ||| (if negative then 0x8000000000000000 else 0)⟩

/-- The number nearest to a decimal one. -/
def ofScientific (mantissa : Nat) (negative : Bool) (exponent : Int) : Binary64 :=
  ofMagnitude negative (decimalBits mantissa exponent)

/-- An infinite number. -/
def infinity (negative : Bool) : Binary64 := ofMagnitude negative infinityBits

/-- The number that stands for no number. -/
def undefined : Binary64 := ofMagnitude false (infinityBits + twoTo 51)

/-- The most places that the exact decimal of a finite number has: the least positive one is an odd
multiple of the 1074th power of one half.  It has no more significant digits either. -/
def mostPlaces : Nat := 1074

/-- Whether the sign bit is set. -/
def negative (x : Binary64) : Bool := x.bits ≥ 0x8000000000000000

/-- The eleven exponent bits. -/
def exponentField (x : Binary64) : Nat := (x.bits.toNat / twoTo 52) % twoTo 11

/-- The fifty-two fraction bits. -/
def fractionField (x : Binary64) : Nat := x.bits.toNat % twoTo 52

/-- Whether the number is neither infinite nor undefined. -/
def isFinite (x : Binary64) : Bool := x.exponentField != 2047

/-- Whether the bits stand for no number at all. -/
def isUndefined (x : Binary64) : Bool := x.exponentField == 2047 && x.fractionField != 0

/-- The whole significand of a finite number. -/
def significand (x : Binary64) : Nat :=
  if x.exponentField = 0 then x.fractionField else x.fractionField + twoTo 52

/-- The power of two that the significand of a finite number is scaled by. -/
def scale (x : Binary64) : Int := (max x.exponentField 1 : Nat) - 1075

/-- The distance to the neighbour below is half the distance to the neighbour above. -/
def isBoundary (x : Binary64) : Bool := x.fractionField == 0 && x.exponentField > 1

/-- Whether the number is a zero of either sign. -/
def isZero (x : Binary64) : Bool := x.isFinite && x.significand == 0

/-- Whether the number is finite and has no fraction. -/
def isWhole (x : Binary64) : Bool :=
  x.isFinite && (0 ≤ x.scale || x.significand % twoTo x.scale.natAbs == 0)

/-- The whole part of a finite number, cut off toward zero. -/
def truncated (x : Binary64) : Int :=
  let magnitude : Nat :=
    if x.scale < 0 then x.significand / twoTo x.scale.natAbs
    else x.significand * twoTo x.scale.natAbs
  if x.negative then -(magnitude : Int) else magnitude

/-- The number as a quotient of whole numbers: by zero if it is infinite, and zero by zero if it is
undefined. -/
def quotient (x : Binary64) : Int × Nat :=
  if x.isUndefined then (0, 0)
  else
    let size : Nat :=
      if !x.isFinite then 1 else x.significand * (if 0 < x.scale then twoTo x.scale.natAbs else 1)
    (if x.negative then -(size : Int) else size,
      if !x.isFinite then 0 else if x.scale < 0 then twoTo x.scale.natAbs else 1)

end Binary64

end GpioBroker
