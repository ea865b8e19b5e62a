import Criteria.Number.Decimal
import Criteria.Text.Blank
import Criteria.Text.Digit

/-!
# Numerals

A numeral is a written number: a sign, digits of any script with an optional point, and an optional
exponent.  Two readings of numerals are given.  The strict one asks for a digit after a point and
is what a numeric criterion is held to.  The lenient one also lets a point end the digits and skips
underscores, and yields the number.
-/

namespace Criteria

open Criteria.Text

/-- The parts of a numeral. -/
structure Numeral where
  negative : Bool
  whole : List Nat
  hasPoint : Bool
  fraction : List Nat
  exponent : Int
deriving DecidableEq, Repr

namespace Numeral

/-- An optional sign: whether it is a minus sign, and what follows it. -/
def readSign : List Char → Bool × List Char
  | '+' :: rest => (false, rest)
  | '-' :: rest => (true, rest)
  | rest => (false, rest)

/-- The exponent part up to the end of the text; nothing at all is the exponent zero. -/
def readExponent? : List Char → Option Int
  | [] => some 0
  | mark :: rest =>
      if mark = 'e' ∨ mark = 'E' then
        let (negative, unsigned) := readSign rest
        match spanDigits unsigned with
        | ([], _) => none
        | (digits, []) =>
            let magnitude : Int := valueOfDigits digits
            some (if negative then -magnitude else magnitude)
        | (_, _ :: _) => none
      else none

/-- The point and the digits after it: whether there is one, its digits, and what follows. -/
def readFraction : List Char → Bool × List Nat × List Char
  | '.' :: rest => (true, spanDigits rest)
  | rest => (false, [], rest)

/-- Reads a whole text as a numeral; there has to be a digit before the exponent. -/
def read? (text : List Char) : Option Numeral :=
  let (negative, unsigned) := readSign text
  let (whole, afterWhole) := spanDigits unsigned
  let (hasPoint, fraction, afterFraction) := readFraction afterWhole
  if whole.isEmpty && fraction.isEmpty then none
  else
    (readExponent? afterFraction).map fun exponent =>
      { negative, whole, hasPoint, fraction, exponent }

/-- Whether a numeral has a point without digits after it. -/
def endsWithPoint (numeral : Numeral) : Bool :=
  numeral.hasPoint && numeral.fraction.isEmpty

/-- The number that a numeral writes: its digits as coefficient, its places off the exponent. -/
def toDecimal (numeral : Numeral) : Decimal where
  negative := numeral.negative
  coefficient := valueOfDigits (numeral.whole ++ numeral.fraction)
  exponent := numeral.exponent - numeral.fraction.length

end Numeral

/-- Whether a text, outer blanks aside, is a numeral whose point is followed by a digit. -/
def isNumeric (text : String) : Bool :=
  match Numeral.read? (trim text.toList) with
  | some numeral => !numeral.endsWithPoint
  | none => false

namespace Decimal

/-- The largest exponent of a leading digit that a number may have. -/
def greatestAdjusted : Int :=
  999999999999999999

/-- The smallest exponent that a number may have. -/
def leastExponent : Int :=
  -1999999999999999997

/-- Whether the exponents of a number are within the bounds of decimal numbers. -/
def isExpressible (number : Decimal) : Bool :=
  number.adjusted ≤ greatestAdjusted && leastExponent ≤ number.exponent

/-- Reads a number: outer blanks and all underscores aside, the text is a numeral. -/
def read? (text : String) : Option Decimal :=
  let written := (trim text.toList).filter (· ≠ '_')
  ((Numeral.read? written).map Numeral.toDecimal).filter isExpressible

end Decimal

end Criteria
