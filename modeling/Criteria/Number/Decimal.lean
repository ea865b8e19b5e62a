import Criteria.Machine
import Criteria.Number.Digits
import Criteria.Number.Power

/-!
# Decimal numbers

A decimal number keeps its sign, its coefficient and its exponent, so that `1`, `1.0` and `1.00`
are three numbers of one value, and a zero has a sign.
-/

namespace Criteria

/-- The number `± coefficient · 10 ^ exponent`. -/
structure Decimal where
  negative : Bool
  coefficient : Nat
  exponent : Int
deriving DecidableEq, Repr

namespace Decimal

/-- The exponent of the leading digit of the coefficient. -/
def adjusted (number : Decimal) : Int :=
  number.exponent + digitCount number.coefficient - 1

/-- How many digits of the coefficient stand after the point. -/
def places (number : Decimal) : Nat :=
  (-number.exponent).toNat

/-- An integer with the sign of the number. -/
def signed (number : Decimal) (absolute : Nat) : Int :=
  if number.negative then -(absolute : Int) else absolute

/--
Whether the number is an integer: all of its digits after the point are zeros.  A number with more
places than digits is none, so that powers of ten with a large exponent need not be formed.
-/
def isIntegral (number : Decimal) : Bool :=
  number.coefficient == 0 || 0 ≤ number.exponent ||
    (number.places < digitCount number.coefficient &&
      number.coefficient % powerOfTen number.places == 0)

/-- Whether there is room for the number as an integer; zero needs none. -/
def fits [Machine] (number : Decimal) : Bool :=
  number.coefficient == 0 || number.adjusted < Machine.digits

/-- An integral number as an integer, if there is room for it. -/
def toInteger? [Machine] (number : Decimal) : Option Int :=
  if !number.fits then none
  else if number.coefficient = 0 then some 0
  else
    some <| number.signed <|
      if 0 ≤ number.exponent then number.coefficient * powerOfTen number.exponent.toNat
      else number.coefficient / powerOfTen number.places

/-- The exponent part of scientific notation; its sign is always written. -/
def exponentText (exponent : Int) : List Char :=
  'E' :: (if exponent < 0 then '-' else '+') :: decimalText exponent.natAbs

/-- The coefficient with a point before its last `places` digits. -/
def pointedText (coefficient places : Nat) : List Char :=
  let digits := decimalText coefficient
  if places = 0 then digits
  else if places < digits.length then
    digits.take (digits.length - places) ++ '.' :: digits.drop (digits.length - places)
  else
    '0' :: '.' :: (List.replicate (places - digits.length) '0' ++ digits)

/-- The coefficient with a point after its first digit, if there are more digits. -/
def leadingText (coefficient : Nat) : List Char :=
  match decimalText coefficient with
  | first :: second :: rest => first :: '.' :: second :: rest
  | digits => digits

/--
The canonical text.  It is positional when the exponent is not positive and at most six zeros would
have to be put in front of the digits, and scientific otherwise.
-/
def text (number : Decimal) : List Char :=
  let unsigned :=
    if number.exponent ≤ 0 ∧ -6 ≤ number.adjusted then
      pointedText number.coefficient number.places
    else
      leadingText number.coefficient ++
        if number.adjusted = 0 then [] else exponentText number.adjusted
  if number.negative then '-' :: unsigned else unsigned

end Decimal

end Criteria
