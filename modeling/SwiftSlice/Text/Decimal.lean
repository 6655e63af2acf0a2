/-
Decimal text of binary floating-point numbers. A number is held as the 64 bits of
its encoding, so that everything below is exact arithmetic on naturals. A finite
number is `significand * 2 ^ exponent`; the reals that round to it form an
interval, and its text has the fewest digits of which some decimal lies in that
interval, and among those the decimal nearest to the number.
-/

namespace SwiftSlice.Text

/-- A binary64 number as its bits. -/
structure Binary64 where
  bits : UInt64
deriving DecidableEq, Repr

namespace Binary64

/-- The sign bit. -/
def isNegative (number : Binary64) : Bool :=
  number.bits.toNat / Nat.pow 2 63 == 1

/-- The biased exponent. -/
def biased (number : Binary64) : Nat :=
  number.bits.toNat / Nat.pow 2 52 % Nat.pow 2 11

/-- The stored part of the significand. -/
def fraction (number : Binary64) : Nat :=
  number.bits.toNat % Nat.pow 2 52

def isNan (number : Binary64) : Bool :=
  number.biased == 2047 && number.fraction != 0

def isInfinite (number : Binary64) : Bool :=
  number.biased == 2047 && number.fraction == 0

def isFinite (number : Binary64) : Bool :=
  number.biased != 2047

/-- The whole significand of a finite number. -/
def significand (number : Binary64) : Nat :=
  if number.biased == 0 then number.fraction else number.fraction + Nat.pow 2 52

/-- The power of two that the significand of a finite number is scaled by. -/
def exponent (number : Binary64) : Int :=
  (if number.biased == 0 then 1 else (number.biased : Int)) - 1075

/-- The integer that a finite number equals, if it is one. -/
def toInt? (number : Binary64) : Option Int :=
  if !number.isFinite then none
  else
    let magnitude? : Option Nat :=
      if 0 ≤ number.exponent then some (number.significand * Nat.pow 2 number.exponent.toNat)
      else
        let unit := Nat.pow 2 (-number.exponent).toNat
        if number.significand % unit == 0 then some (number.significand / unit) else none
    magnitude?.map fun magnitude => if number.isNegative then -(magnitude : Int) else magnitude

end Binary64

/-! ### Shortest digits -/

/-- An interval of reals around a value, as numerators over one denominator. -/
structure Rounding where
  low : Nat
  value : Nat
  high : Nat
  denominator : Nat
  closed : Bool
deriving Repr

/-- Holds of a numerator inside the interval. -/
def Rounding.contains (rounding : Rounding) (numerator : Nat) : Bool :=
  if rounding.closed then rounding.low ≤ numerator && numerator ≤ rounding.high
  else rounding.low < numerator && numerator < rounding.high

/-- The reals that round to a finite positive number, in quarters of its last place. -/
def Binary64.rounding (number : Binary64) : Rounding :=
  let significand := number.significand
  let below := if significand == Nat.pow 2 52 && number.biased > 1 then 1 else 2
  let scale := number.exponent - 2
  let up := Nat.pow 2 scale.toNat
  { low := (4 * significand - below) * up
    value := 4 * significand * up
    high := (4 * significand + 2) * up
    denominator := Nat.pow 2 (-scale).toNat
    closed := significand % 2 == 0 }

/-- The least `power` with `value < 10 ^ power` above the given start, by at most `fuel` steps. -/
def powerAbove (value denominator : Nat) : Nat → Int → Int
  | 0, power => power
  | fuel + 1, power =>
    let below :=
      if 0 ≤ power then value < Nat.pow 10 power.toNat * denominator
      else value * Nat.pow 10 (-power).toNat < denominator
    if below then power else powerAbove value denominator fuel (power + 1)

/-- The decimal with `count` digits in the interval that is nearest to the value, if there is one. -/
def digitsOf? (rounding : Rounding) (power : Int) (count : Nat) : Option Nat :=
  let unit := power - count
  let scaleUp := Nat.pow 10 (-unit).toNat
  let unitValue := Nat.pow 10 unit.toNat * rounding.denominator
  let value := rounding.value * scaleUp
  let lower := value / unitValue
  let scaled : Rounding :=
    { rounding with low := rounding.low * scaleUp, value, high := rounding.high * scaleUp }
  let lowerFits := scaled.contains (lower * unitValue)
  let upperFits := scaled.contains ((lower + 1) * unitValue)
  if lowerFits && upperFits then
    let lowerGap := value - lower * unitValue
    let upperGap := (lower + 1) * unitValue - value
    if lowerGap < upperGap || (lowerGap == upperGap && lower % 2 == 0) then some lower
    else some (lower + 1)
  else if lowerFits then some lower
  else if upperFits then some (lower + 1)
  else none

/-- The shortest digits of a finite positive number, with the power of ten of its first place. -/
def shortest (number : Binary64) : List Char × Int :=
  let rounding := number.rounding
  let power := powerAbove rounding.value rounding.denominator 640 (-324)
  let (digits, count) := ((List.range 17).findSome? fun count =>
    (digitsOf? rounding power (count + 1)).map (·, count + 1)).getD (0, 1)
  let places := Nat.toDigits 10 digits
  ((places.reverse.dropWhile (· == '0')).reverse, power + (places.length - count : Int))

/-- A number in plain notation from `0.0001` up to below `10 ^ 16`, and with an exponent of at
least two digits elsewhere. -/
def Binary64.text (number : Binary64) : String :=
  let sign := if number.isNegative then "-" else ""
  if number.isNan then "nan"
  else if number.isInfinite then sign ++ "inf"
  else if number.significand == 0 then sign ++ "0.0"
  else
    let (digits, power) := shortest number
    if -4 < power && power ≤ 16 then
      if power ≤ 0 then
        sign ++ "0." ++ String.ofList (List.replicate (-power).toNat '0' ++ digits)
      else
        let whole := digits.take power.toNat
        let padded := whole ++ List.replicate (power.toNat - whole.length) '0'
        let rest := digits.drop power.toNat
        sign ++ String.ofList padded ++ "." ++ (if rest.isEmpty then "0" else String.ofList rest)
    else
      let power := power - 1
      let mark := if power < 0 then "e-" else "e+"
      let places := Nat.toDigits 10 power.natAbs
      let tail := if digits.length ≤ 1 then "" else "." ++ String.ofList (digits.drop 1)
      sign ++ String.ofList (digits.take 1) ++ tail ++ mark ++
        String.ofList (List.replicate (2 - places.length) '0' ++ places)

end SwiftSlice.Text
