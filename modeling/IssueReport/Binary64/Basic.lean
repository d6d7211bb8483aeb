/-!
Numbers in the 64-bit binary floating-point format, kept as their bits and computed exactly on
natural numbers. Magnitudes are counted in units of the least one. Every operation forms the exact
ratio and rounds it to the nearest number, a tie going to the even significand.
-/

namespace IssueReport

structure Binary64 where
  bits : UInt64
  deriving DecidableEq, Repr

namespace Binary64

/-- The bit of the sign. The bits below it are those of the magnitude. -/
def signBit : Nat := 0x8000000000000000

/-- The bit above those of a significand, which normal numbers have without its being kept. -/
def hiddenBit : Nat := 0x10000000000000

def infinityBits : Nat := 2047 * hiddenBit

/-- The number of least magnitudes in one. -/
def unit : Nat := Nat.pow 2 1074

def isNegative (number : Binary64) : Bool :=
  signBit ≤ number.bits.toNat

def magnitudeBits (number : Binary64) : Nat :=
  number.bits.toNat % signBit

def isInfinite (number : Binary64) : Bool :=
  number.magnitudeBits = infinityBits

def isZero (number : Binary64) : Bool :=
  number.magnitudeBits = 0

def ofParts (negative : Bool) (magnitude : Nat) : Binary64 :=
  ⟨UInt64.ofNat ((if negative then signBit else 0) + magnitude)⟩

def neg (number : Binary64) : Binary64 :=
  ofParts (!number.isNegative) number.magnitudeBits

/-- The significand of a finite magnitude: subnormal numbers have no hidden bit. -/
def significand (number : Binary64) : Nat :=
  if number.magnitudeBits / hiddenBit = 0 then number.magnitudeBits % hiddenBit
  else hiddenBit + number.magnitudeBits % hiddenBit

/-- The exponent of a finite magnitude, counted from the smallest one. -/
def exponent (number : Binary64) : Nat :=
  number.magnitudeBits / hiddenBit - 1

/-- The number of least magnitudes in a finite magnitude. -/
def units (number : Binary64) : Nat :=
  number.significand * Nat.pow 2 number.exponent

/-- `dividend / divisor` rounded to the nearest natural number, a half to the even one. -/
def divideToEven (dividend divisor : Nat) : Nat :=
  let quotient := dividend / divisor
  let twice := 2 * (dividend % divisor)
  if twice < divisor then quotient
  else if divisor < twice then quotient + 1
  else quotient + quotient % 2

/-- The bits of the magnitude nearest to `numerator / denominator`. The significand is cut to 53
digits at the exponent that leaves the leading one in place; a carry out of it moves into the
exponent field by itself. -/
def roundRatio (numerator denominator : Nat) : Nat :=
  let scaled := numerator * unit
  let shift := Nat.log2 (scaled / denominator) - 52
  min infinityBits (shift * hiddenBit + divideToEven scaled (denominator * Nat.pow 2 shift))

def ofNat (number : Nat) : Binary64 :=
  ofParts false (roundRatio number 1)

def ofInt (number : Int) : Binary64 :=
  ofParts (decide (number < 0)) (roundRatio number.natAbs 1)

def mul (left right : Binary64) : Binary64 :=
  ofParts (left.isNegative != right.isNegative)
    (roundRatio (left.units * right.units) (unit * unit))

def div (left right : Binary64) : Binary64 :=
  ofParts (left.isNegative != right.isNegative)
    (roundRatio left.units right.units)

end Binary64

end IssueReport
