import Criteria.Number.Decimal

/-!
# Double-precision numbers

The zeros, the finite numbers and the infinities of the binary64 format.  A number is a sign and a
magnitude: the lower 63 bits of its word, which grow with the absolute value.  Absolute values are
counted in units of `2 ^ -1074`, the smallest positive number, so that all of them are natural
numbers and rounding is integer division.
-/

namespace Criteria

/-- The magnitude of the infinities; every finite magnitude is smaller. -/
def infiniteMagnitude : Nat :=
  2047 * powerOfTwo 52

/-- A binary64 number other than a NaN. -/
structure Double where
  negative : Bool
  magnitude : Nat
  magnitude_le : magnitude ≤ infiniteMagnitude
deriving DecidableEq, Repr

namespace Double

/-- The word of the number: the sign bit, then the magnitude. -/
def bits (number : Double) : Nat :=
  (if number.negative then powerOfTwo 63 else 0) + number.magnitude

/-- How many units there are in the number one: a unit is the least positive double. -/
def unitsPerOne : Nat :=
  powerOfTwo 1074

/-- Whether a double is one of the two infinities. -/
def isInfinite (number : Double) : Bool :=
  number.magnitude == infiniteMagnitude

/-- The absolute value of a finite magnitude, in units of `2 ^ -1074`. -/
def unitsOf (magnitude : Nat) : Nat :=
  let exponent := magnitude / powerOfTwo 52
  let fraction := magnitude % powerOfTwo 52
  if exponent = 0 then fraction else (powerOfTwo 52 + fraction) * powerOfTwo (exponent - 1)

/--
The magnitude nearest to `numerator / denominator`; a tie goes to the even one.

The quotient is cut to 53 significant bits, or to whole units if it is small, and rounded there.
A carry out of the last place runs into the exponent by itself, and what rounds beyond the largest
finite magnitude is infinite.
-/
def nearestMagnitude (numerator denominator : Nat) : Nat :=
  let scaled := numerator * unitsPerOne
  let shift := (scaled / denominator).log2 + 1 - 53
  let place := denominator * powerOfTwo shift
  let kept := scaled / place
  let remainder := scaled % place
  let roundsUp := place < 2 * remainder || (place == 2 * remainder && kept % 2 == 1)
  min infiniteMagnitude (shift * powerOfTwo 52 + kept + if roundsUp then 1 else 0)

/-- The number of the given sign that is nearest to `numerator / denominator`. -/
def nearest (negative : Bool) (numerator denominator : Nat) : Double :=
  ⟨negative, nearestMagnitude numerator denominator, Nat.min_le_left _ _⟩

/-- The infinity of a sign. -/
def infinity (negative : Bool) : Double :=
  ⟨negative, infiniteMagnitude, Nat.le_refl _⟩

/-- The zero of a sign; there are two of them. -/
def zero (negative : Bool) : Double :=
  ⟨negative, 0, Nat.zero_le _⟩

/--
The number nearest to a decimal number.  What has its leading digit at `10 ^ 309` or above is beyond
the finite numbers, and what has it at `10 ^ -325` or below is nearest to zero, so that powers of
ten with a large exponent need not be formed.
-/
def ofDecimal (number : Decimal) : Double :=
  if number.coefficient = 0 then zero number.negative
  else if 309 ≤ number.adjusted then infinity number.negative
  else if number.adjusted ≤ -325 then zero number.negative
  else if 0 ≤ number.exponent then
    nearest number.negative (number.coefficient * powerOfTen number.exponent.toNat) 1
  else
    nearest number.negative number.coefficient (powerOfTen (-number.exponent).toNat)

/-- The integer that the number is, if it is one. -/
def toInteger? (number : Double) : Option Int :=
  let units := unitsOf number.magnitude
  if number.isInfinite || units % unitsPerOne != 0 then none
  else
    let whole : Int := units / unitsPerOne
    some (if number.negative then -whole else whole)

/-- The bits of a double in 16 hexadecimal digits. -/
def hexText (number : Double) : List Char :=
  let digits := Nat.toDigits 16 number.bits
  List.replicate (16 - digits.length) '0' ++ digits

end Double

end Criteria
