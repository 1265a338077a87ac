/-!
IEEE 754 binary64 numbers as their 64 bits. Every operation is exact arithmetic on natural numbers
followed by one rounding, `ofRatio`, to the nearest number with ties to the even one.
-/

namespace ApiBridge

/-- The quotient rounded to the nearest natural number, a tie to the even one. -/
def roundHalfEven (numerator denominator : Nat) : Nat :=
  let quotient := numerator / denominator
  let rest := numerator % denominator
  if 2 * rest < denominator then quotient
  else if denominator < 2 * rest then quotient + 1
  else quotient + quotient % 2

structure Binary64 where
  bits : UInt64
  deriving DecidableEq, Repr, Inhabited

namespace Binary64

def signBit : Nat := Nat.pow 2 63

/-- The weight of the leading bit of a normal significand, which the bits leave out. -/
def hiddenBit : Nat := Nat.pow 2 52

/-- The pattern with the given sign and with `magnitude` as its lower 63 bits. -/
def ofFields (negative : Bool) (magnitude : Nat) : Binary64 :=
  ⟨UInt64.ofNat (if negative then signBit + magnitude else magnitude)⟩

def zero (negative : Bool) : Binary64 := ofFields negative 0

def infinity (negative : Bool) : Binary64 := ofFields negative (2047 * hiddenBit)

def nan : Binary64 := ofFields false (2047 * hiddenBit + hiddenBit / 2)

def negative (x : Binary64) : Bool := signBit ≤ x.bits.toNat

def exponentField (x : Binary64) : Nat := x.bits.toNat / hiddenBit % 2048

def fraction (x : Binary64) : Nat := x.bits.toNat % hiddenBit

def isFinite (x : Binary64) : Bool := x.exponentField < 2047

def isNaN (x : Binary64) : Bool := x.exponentField == 2047 && x.fraction != 0

def significand (x : Binary64) : Nat :=
  if x.exponentField = 0 then x.fraction else hiddenBit + x.fraction

/-- The spacing of the numbers around a finite `x`, as a power of two above the least number. -/
def shift (x : Binary64) : Nat := x.exponentField - 1

/-- The size of a finite number in units of the least positive one, `2 ^ -1074`. -/
def units (x : Binary64) : Nat := x.significand * Nat.pow 2 x.shift

def unitsPerOne : Nat := Nat.pow 2 1074

/-- The number nearest to a quotient, a tie to the even one; infinity past the largest number.
With `s` the spacing chosen so that the rounded significand `m` has at most 53 bits, the bits of
the result are `s * 2 ^ 52 + m` in the subnormal, normal and carrying cases alike. -/
def ofRatio (negative : Bool) (numerator denominator : Nat) : Binary64 :=
  let scaled := numerator * unitsPerOne
  let quotient := scaled / denominator
  let shift := if quotient = 0 then 0 else quotient.log2 - 52
  let magnitude := shift * hiddenBit + roundHalfEven scaled (denominator * Nat.pow 2 shift)
  ofFields negative (min magnitude (2047 * hiddenBit))

def ofNat (n : Nat) : Binary64 := ofRatio false n 1

def ofInt (i : Int) : Binary64 := ofRatio (i < 0) i.natAbs 1

/-- The number nearest to `digits * 10 ^ exponent`. The bounds keep the powers small: below
`10 ^ -330` everything rounds to zero, and from `10 ^ 310` on to infinity. -/
def ofDecimal (negative : Bool) (digits : Nat) (exponent : Int) : Binary64 :=
  let places : Int := (Nat.toDigits 10 digits).length
  if digits = 0 then zero negative
  else if exponent + places < -330 then zero negative
  else if 311 < exponent + places then infinity negative
  else if 0 ≤ exponent then ofRatio negative (digits * Nat.pow 10 exponent.toNat) 1
  else ofRatio negative digits (Nat.pow 10 (-exponent).toNat)

def signedUnits (x : Binary64) : Int :=
  let size : Nat := if x.isFinite then x.units else Nat.pow 2 2200
  if x.negative then -(size : Int) else size

/-- Numerical order; false when either side is not a number. -/
def lt (x y : Binary64) : Bool := !x.isNaN && !y.isNaN && decide (x.signedUnits < y.signedUnits)

def le (x y : Binary64) : Bool := !x.isNaN && !y.isNaN && decide (x.signedUnits ≤ y.signedUnits)

def same (x y : Binary64) : Bool := !x.isNaN && !y.isNaN && x.signedUnits == y.signedUnits

def neg (x : Binary64) : Binary64 := ofFields (!x.negative) (x.bits.toNat % signBit)

def isZero (x : Binary64) : Bool := x.isFinite && x.units == 0

def mul (x y : Binary64) : Binary64 :=
  let sign := x.negative != y.negative
  if x.isNaN || y.isNaN then nan
  else if x.isFinite && y.isFinite then
    ofRatio sign (x.units * y.units) (unitsPerOne * unitsPerOne)
  else if x.isZero || y.isZero then nan
  else infinity sign

def div (x y : Binary64) : Binary64 :=
  let sign := x.negative != y.negative
  if x.isNaN || y.isNaN then nan
  else if !x.isFinite then if y.isFinite then infinity sign else nan
  else if !y.isFinite then zero sign
  else if y.units = 0 then if x.units = 0 then nan else infinity sign
  else ofRatio sign x.units y.units

/-- The sum of two finite numbers; the zero sum of opposite numbers is positive. -/
def add (x y : Binary64) : Binary64 :=
  let total := x.signedUnits + y.signedUnits
  ofRatio (total < 0 || (total == 0 && x.negative && y.negative)) total.natAbs unitsPerOne

def hasFraction (x : Binary64) : Bool := x.units % unitsPerOne != 0

def truncate (x : Binary64) : Int :=
  let whole : Nat := x.units / unitsPerOne
  if x.negative then -(whole : Int) else whole

def ceil (x : Binary64) : Int :=
  if x.hasFraction && !x.negative then x.truncate + 1 else x.truncate

/-- The whole part brought into the range from `low` to `high`; zero for a NaN. -/
def clamp (low high : Int) (x : Binary64) : Int :=
  if x.isNaN then 0
  else if !x.isFinite then if x.negative then low else high
  else max low (min high x.truncate)

end Binary64

end ApiBridge
