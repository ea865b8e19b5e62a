/-!
# Decimal digits of a natural number

A natural number and the list of its decimal digits, most significant digit first.
-/

namespace Criteria

/-- The number that a list of digits spells. -/
def valueOfDigits (digits : List Nat) : Nat :=
  digits.foldl (fun value digit => 10 * value + digit) 0

/-- The digits of `number` in front of `tail`, as far as the fuel goes. -/
def digitsWithin : Nat → Nat → List Nat → List Nat
  | 0, _, tail => tail
  | fuel + 1, number, tail =>
      if number < 10 then number :: tail
      else digitsWithin fuel (number / 10) (number % 10 :: tail)

/-- The decimal digits of a number, without leading zeros. -/
def digitsOf (number : Nat) : List Nat :=
  digitsWithin (number + 1) number []

/-- How many decimal digits a number has; zero has one. -/
def digitCount (number : Nat) : Nat :=
  (digitsOf number).length

def digitCharacter (digit : Nat) : Char :=
  Char.ofNat (48 + digit)

/-- A number in decimal digits. -/
def decimalText (number : Nat) : List Char :=
  (digitsOf number).map digitCharacter

/-- A number in decimal, with leading zeros up to the given width. -/
def paddedText (width number : Nat) : List Char :=
  List.replicate (width - digitCount number) '0' ++ decimalText number

/-- An integer in decimal digits, after a sign if it is negative. -/
def integerText (number : Int) : List Char :=
  if number < 0 then '-' :: decimalText number.natAbs else decimalText number.natAbs

/-- Digits are put in front of whatever stands behind them. -/
theorem digitsWithin_append
    (fuel number : Nat) (tail : List Nat) :
    digitsWithin fuel number tail = digitsWithin fuel number [] ++ tail := by
  induction fuel generalizing number tail with
  | zero => rfl
  | succ fuel hypothesis =>
      simp only [digitsWithin]
      split
      · rfl
      · rw [hypothesis (number / 10) (number % 10 :: tail),
          hypothesis (number / 10) [number % 10], List.append_assoc, List.singleton_append]

/-- With enough fuel the digits spell the number. -/
theorem valueOfDigits_digitsWithin
    (fuel number : Nat) (enough : number < fuel) :
    valueOfDigits (digitsWithin fuel number []) = number := by
  induction fuel generalizing number with
  | zero => omega
  | succ fuel hypothesis =>
      simp only [digitsWithin]
      split
      · simp [valueOfDigits]
      · rename_i large
        have shorter := hypothesis (number / 10) (by omega)
        rw [digitsWithin_append]
        simp only [valueOfDigits, List.foldl_append, List.foldl_cons, List.foldl_nil] at shorter ⊢
        rw [shorter]
        omega

/-- The digits of a number spell it. -/
@[simp]
theorem valueOfDigits_digitsOf (number : Nat) :
    valueOfDigits (digitsOf number) = number :=
  valueOfDigits_digitsWithin (number + 1) number (Nat.lt_succ_self number)

end Criteria
