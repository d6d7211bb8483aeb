import IssueReport.Binary64.Basic
/-!
The shortest decimal text of a floating-point number: the fewest digits that read back as the
number and, of those, the ones nearest to it.
-/

namespace IssueReport.Binary64

/-! ### Digits -/

/-- The numbers that round to a given one, and that number itself, as numerators over one
denominator. The ends belong to the interval if the significand is even. -/
structure Interval where
  low : Nat
  centre : Nat
  high : Nat
  denominator : Nat
  closed : Bool

/-- Half a unit lies to each side, a quarter below the first significand of a binade. -/
def interval (number : Binary64) : Interval :=
  let scale := Nat.pow 2 number.exponent
  let below := if number.significand = hiddenBit ∧ 0 < number.exponent then 1 else 2
  { low := (4 * number.significand - below) * scale
    centre := 4 * number.significand * scale
    high := (4 * number.significand + 2) * scale
    denominator := 4 * unit
    closed := number.significand % 2 = 0 }

def Interval.contains (range : Interval) (digits : Nat) (power : Int) : Bool :=
  let value := digits * Nat.pow 10 power.toNat * range.denominator
  let low := range.low * Nat.pow 10 (-power).toNat
  let high := range.high * Nat.pow 10 (-power).toNat
  if range.closed then low ≤ value && value ≤ high else low < value && value < high

def leadingPower (numerator denominator : Nat) : Int :=
  if denominator ≤ numerator then
    ((Nat.toDigits 10 (numerator / denominator)).length : Int) - 1
  else
    - (Nat.toDigits 10 ((denominator + numerator - 1) / numerator - 1)).length

/-- The decimal with the given number of digits that lies in the interval, the nearest if its two
neighbours both do. -/
def Interval.atLength? (range : Interval) (leading : Int) (length : Nat) : Option (Nat × Int) :=
  let power := leading - (length : Int) + 1
  let numerator := range.centre * Nat.pow 10 (-power).toNat
  let denominator := range.denominator * Nat.pow 10 power.toNat
  let below := numerator / denominator
  let nearest := divideToEven numerator denominator
  let other := if nearest = below then below + 1 else below
  if range.contains nearest power then some (nearest, power)
  else if range.contains other power then some (other, power)
  else none

/-- The shortest digits of a positive finite number with the power of ten of the last one. Of
seventeen digits there is always one decimal in the interval. -/
def shortest (number : Binary64) : Nat × Int :=
  let range := number.interval
  let leading := leadingPower range.centre range.denominator
  (((List.range 17).map (· + 1)).findSome? (range.atLength? leading)).getD (0, 0)

/-- Digits without the zeros at their end, which pass to the power. -/
def normalise (digits : List Char) (power : Int) : List Char × Int :=
  let zeros := (digits.reverse.takeWhile (· = '0')).length
  (digits.take (digits.length - zeros), power + zeros)

/-! ### Text -/

/-- How digits become text: the powers of ten of the leading digit that are written positionally,
and the signs of the exponents. -/
structure Layout where
  leastPositional : Int
  greatestPositional : Int
  plusSign : List Char

/-- Positional from `0.00001` to sixteen digits before the point, and always with a point;
otherwise with an exponent that carries its sign. -/
def messageLayout : Layout := ⟨-5, 15, ['+']⟩

def digitsText (style : Layout) (digits : List Char) (power : Int) : List Char :=
  let leading := power + (digits.length : Int) - 1
  if style.leastPositional ≤ leading ∧ leading ≤ style.greatestPositional then
    if leading < 0 then
      '0' :: '.' :: List.replicate (-leading - 1).toNat '0' ++ digits
    else
      let whole := digits.take (leading.toNat + 1)
      let fraction := digits.drop (leading.toNat + 1)
      whole ++ List.replicate (leading.toNat + 1 - whole.length) '0' ++
        '.' :: (if fraction.isEmpty then ['0'] else fraction)
  else
    let fraction := digits.drop 1
    digits.take 1 ++ (if fraction.isEmpty then [] else '.' :: fraction) ++
      'e' :: (if leading < 0 then ['-'] else style.plusSign) ++ Nat.toDigits 10 leading.natAbs

def toText (number : Binary64) (style : Layout) : String :=
  let sign := if number.isNegative then ['-'] else []
  if number.isZero then String.ofList (sign ++ ['0', '.', '0'])
  else
    let (value, power) := number.shortest
    let (digits, power) := normalise (Nat.toDigits 10 value) power
    String.ofList (sign ++ digitsText style digits power)

end IssueReport.Binary64
