import Criteria.Number.Double

/-!
# Shortest decimal text of a double

Among the decimal numbers that read back as a given double, the ones with the fewest digits are
short enough to show, and the nearest of those is the right one to show.
-/

namespace Criteria

namespace Double

/-- A ratio of natural numbers times a power of ten, as a ratio. -/
def scaleByTen (numerator denominator : Nat) (exponent : Int) : Nat × Nat :=
  if 0 ≤ exponent then (numerator * powerOfTen exponent.toNat, denominator)
  else (numerator, denominator * powerOfTen (-exponent).toNat)

/-- Whether `digits · 10 ^ exponent` reads back as the magnitude. -/
def readsBack (magnitude digits : Nat) (exponent : Int) : Bool :=
  let (numerator, denominator) := scaleByTen digits 1 exponent
  nearestMagnitude numerator denominator == magnitude

/-- The exponent of the leading decimal digit of a positive ratio. -/
def leadingExponent (numerator denominator : Nat) : Int :=
  if denominator ≤ numerator then digitCount (numerator / denominator) - 1
  else -(digitCount (denominator / numerator) : Int)

/--
On the grid of multiples of `10 ^ exponent`, the nearer of the two neighbours of the magnitude that
read back as it.  If both are equally near, the even one comes first.
-/
def neighbour? (magnitude : Nat) (exponent : Int) : Option Nat :=
  let (numerator, denominator) := scaleByTen (unitsOf magnitude) unitsPerOne (-exponent)
  let below := numerator / denominator
  let remainder := numerator % denominator
  let prefersUpper :=
    denominator < 2 * remainder || (denominator == 2 * remainder && below % 2 == 1)
  let candidates := if prefersUpper then [below + 1, below] else [below, below + 1]
  candidates.find? (readsBack magnitude · exponent)

/--
The shortest decimal of a positive finite magnitude: digits and exponent.  One digit is tried, then
two, and so on; seventeen digits always suffice.
-/
def shortest (magnitude : Nat) : Nat × Int :=
  let leading := leadingExponent (unitsOf magnitude) unitsPerOne
  let found := (List.range 17).findSome? fun (places : Nat) =>
    (neighbour? magnitude (leading - places)).map fun digits => (digits, leading - places)
  found.getD (0, 0)

/-- The digits without trailing zeros, and the exponent that makes up for them. -/
def withoutTrailingZeros : Nat → Nat → Int → Nat × Int
  | 0, digits, exponent => (digits, exponent)
  | fuel + 1, digits, exponent =>
      if digits % 10 = 0 ∧ digits ≠ 0 then withoutTrailingZeros fuel (digits / 10) (exponent + 1)
      else (digits, exponent)

/--
Digits with their exponent, as a double is written: positional from `10 ^ -4` up to `10 ^ 16`, with
a digit on either side of the point, and otherwise with an exponent of at least two digits.
-/
def writtenText (digits : Nat) (exponent : Int) : List Char :=
  let leading := exponent + digitCount digits - 1
  if -4 ≤ leading ∧ leading < 16 then
    if 0 ≤ exponent then
      decimalText digits ++ List.replicate exponent.toNat '0' ++ ['.', '0']
    else Decimal.pointedText digits (-exponent).toNat
  else
    Decimal.leadingText digits ++
      'e' :: (if leading < 0 then '-' else '+') :: paddedText 2 leading.natAbs

/-- The shortest text that reads back as the number. -/
def text (number : Double) : List Char :=
  let unsigned :=
    if number.isInfinite then ['i', 'n', 'f']
    else if number.magnitude = 0 then ['0', '.', '0']
    else
      let (digits, exponent) := shortest number.magnitude
      let (digits, exponent) := withoutTrailingZeros 20 digits exponent
      writtenText digits exponent
  if number.negative then '-' :: unsigned else unsigned

end Double

end Criteria
