import IssueReport.Json.Reader
import IssueReport.Json.Value
/-!
Reading JSON numbers. Digits are gathered into a significand as long as it fits 64 bits; the digits
after that only count. A number without point and exponent whose digits all fit is an integer, if it
also fits with its sign. Any other number is a float: the rounded significand, scaled by rounded
powers of ten. A float too large to be represented is malformed.
-/

namespace IssueReport.Json

variable {Reason : Type}

def significandLimit : Nat := 0x10000000000000000

/-- Appends digits to a significand while it stays below the limit, and gives the digits left. -/
def absorb (significand : Nat) : List UInt8 → Nat × List UInt8
  | [] => (significand, [])
  | digit :: digits =>
      let next := significand * 10 + Byte.digitValue digit
      if next < significandLimit then absorb next digits else (significand, digit :: digits)

def powerOfTen (power : Nat) : Binary64 :=
  Binary64.ofNat (Nat.pow 10 power)

def greatestPower : Nat := 308

/-- A float times a power of ten, or nothing if it is too large. A power below the least step is
reached in several steps, until the number is zero. -/
def scale (number : Binary64) (power : Int) : Option Binary64 :=
  if number.isZero then some number
  else if 0 ≤ power then
    if power ≤ greatestPower then
      let product := number.mul (powerOfTen power.toNat)
      if product.isInfinite then none else some product
    else none
  else if -power ≤ greatestPower then some (number.div (powerOfTen (-power).toNat))
  else scale (number.div (powerOfTen greatestPower)) (power + greatestPower)
termination_by (-power).toNat
decreasing_by
  simp only [greatestPower] at *
  omega

def digits (input : Input) : List UInt8 × Input :=
  (input.takeWhile Byte.isDigit, input.dropWhile Byte.isDigit)

/-- An exponent with more digits than this bound allows is treated as unbounded. -/
def exponentLimit : Nat := 0x80000000

def exponentValue (digits : List UInt8) : Nat :=
  digits.foldl (fun value digit => min exponentLimit (value * 10 + Byte.digitValue digit)) 0

def floatOf (positive : Bool) (significand : Nat) (power : Int) : Reader Reason Number :=
  fun rest =>
    match scale (Binary64.ofNat significand) power with
    | some scaled => .ok (.float (if positive then scaled else scaled.neg), rest)
    | none => .error .malformed

def exponentPart (positive : Bool) (significand : Nat) (power : Int) : Reader Reason Number :=
  fun input =>
    let (upwards, unsigned) :=
      match input with
      | Byte.plus :: rest => (true, rest)
      | Byte.minus :: rest => (false, rest)
      | _ => (true, input)
    let (written, rest) := digits unsigned
    if written.isEmpty then
      if unsigned.isEmpty then .error .ended else .error .malformed
    else
      let exponent := exponentValue written
      if exponent = exponentLimit then
        if significand ≠ 0 ∧ upwards then .error .malformed
        else .ok (.float (if positive then Binary64.ofNat 0 else (Binary64.ofNat 0).neg), rest)
      else
        floatOf positive significand (if upwards then power + exponent else power - exponent) rest

def afterDigits (positive : Bool) (significand : Nat) (power : Int) : Reader Reason Number
  | Byte.letterE :: rest => exponentPart positive significand power rest
  | Byte.capitalE :: rest => exponentPart positive significand power rest
  | rest => floatOf positive significand power rest

def fractionPart (positive : Bool) (significand : Nat) (power : Int) : Reader Reason Number :=
  fun input =>
    let (written, rest) := digits input
    if written.isEmpty then
      if input.isEmpty then .error .ended else .error .malformed
    else
      let (whole, dropped) := absorb significand written
      afterDigits positive whole (power - (written.length - dropped.length)) rest

/-- The number of an integer literal whose digits all fit. If it is too far below zero, and for a
zero with a sign, it is a float. -/
def integerOf (positive : Bool) (significand : Nat) : Number :=
  if positive then .integer significand
  else if 0 < significand ∧ significand ≤ signedLimit then .integer (-significand)
  else .float (Binary64.ofNat significand).neg

def afterWhole (positive : Bool) (significand : Nat) (dropped : Nat) : Reader Reason Number
  | Byte.point :: rest => fractionPart positive significand dropped rest
  | Byte.letterE :: rest => exponentPart positive significand dropped rest
  | Byte.capitalE :: rest => exponentPart positive significand dropped rest
  | rest =>
      if dropped = 0 then .ok (integerOf positive significand, rest)
      else floatOf positive significand dropped rest

def unsignedNumber (positive : Bool) : Reader Reason Number :=
  fun input =>
    match input with
    | [] => .error .ended
    | byte :: after =>
        let (written, rest) := digits input
        if written.isEmpty then .error .malformed
        else if byte = Byte.zero ∧ (after.head?.any Byte.isDigit) then .error .malformed
        else
          let (significand, dropped) := absorb 0 written
          afterWhole positive significand dropped.length rest

def readNumber : Reader Reason Number
  | Byte.minus :: rest => unsignedNumber false rest
  | input => unsignedNumber true input

def startsNumber (byte : UInt8) : Bool :=
  byte = Byte.minus || Byte.isDigit byte

end IssueReport.Json
