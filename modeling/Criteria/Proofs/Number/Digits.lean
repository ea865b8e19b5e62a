import Mathlib.Data.Nat.Digits.Lemmas
import Criteria.Number.Digits
import Criteria.Number.Power

/-!
# Digits and size

The digits of a number are those of its positional notation to the base ten.  Hence a number with so
many digits lies between two powers of ten, and a list of digits gives, as a number, its digits back
but for leading zeros.  A number that is padded to a width keeps its value and has at least that
many digits.
-/

namespace Criteria

/-- Computed in either way, a power of ten is the same. -/
theorem powerOfTen_eq (exponent : Nat) : powerOfTen exponent = 10 ^ exponent :=
  rfl

theorem powerOfTwo_eq (exponent : Nat) : powerOfTwo exponent = 2 ^ exponent :=
  rfl

theorem valueOfDigits_append_singleton (digits : List Nat) (digit : Nat) :
    valueOfDigits (digits ++ [digit]) = 10 * valueOfDigits digits + digit := by
  rw [valueOfDigits, List.foldl_append]
  rfl

/-- Reading digits from the most significant one on gives their positional value. -/
theorem valueOfDigits_eq_ofDigits (digits : List Nat) :
    valueOfDigits digits = Nat.ofDigits 10 digits.reverse := by
  induction digits using List.reverseRecOn with
  | nil => rfl
  | append_singleton digits digit hypothesis =>
      rw [valueOfDigits_append_singleton, hypothesis, List.reverse_append, List.reverse_singleton,
        List.singleton_append, Nat.ofDigits_cons, Nat.add_comm]

/-- Digits in front count as many powers of ten as digits follow them. -/
theorem valueOfDigits_append (first second : List Nat) :
    valueOfDigits (first ++ second) =
      valueOfDigits first * 10 ^ second.length + valueOfDigits second := by
  rw [valueOfDigits_eq_ofDigits, valueOfDigits_eq_ofDigits, valueOfDigits_eq_ofDigits,
    List.reverse_append, Nat.ofDigits_append, List.length_reverse, Nat.add_comm, Nat.mul_comm]

/-- The number without its leading zeros is the same. -/
theorem valueOfDigits_dropWhile_zero (digits : List Nat) :
    valueOfDigits (digits.dropWhile (· = 0)) = valueOfDigits digits := by
  induction digits with
  | nil => rfl
  | cons digit rest hypothesis =>
      by_cases zero : digit = 0
      · rw [List.dropWhile_cons_of_pos (by simpa using zero), hypothesis, zero]
        rfl
      · rw [List.dropWhile_cons_of_neg (by simpa using zero)]

/-- With enough fuel the digits are those of the positional notation. -/
theorem digitsWithin_eq_digits
    {fuel number : Nat} (positive : number ≠ 0) (enough : number < fuel) :
    digitsWithin fuel number [] = (Nat.digits 10 number).reverse := by
  induction fuel generalizing number with
  | zero => omega
  | succ fuel hypothesis =>
      rw [digitsWithin]
      split
      · rename_i small
        rw [Nat.digits_of_lt 10 number positive small, List.reverse_singleton]
      · rename_i large
        have shorter :
            digitsWithin fuel (number / 10) [] = (Nat.digits 10 (number / 10)).reverse :=
          hypothesis (by omega) (by omega)
        rw [digitsWithin_append, shorter,
          Nat.digits_def' (by decide) (Nat.pos_of_ne_zero positive), List.reverse_cons]

/-- The digits are those of the library, the most significant first. -/
theorem digitsOf_eq_digits {number : Nat} (positive : number ≠ 0) :
    digitsOf number = (Nat.digits 10 number).reverse :=
  digitsWithin_eq_digits positive (Nat.lt_succ_self number)

theorem digitCount_eq_length_digits {number : Nat} (positive : number ≠ 0) :
    digitCount number = (Nat.digits 10 number).length := by
  rw [digitCount, digitsOf_eq_digits positive, List.length_reverse]

/-- A number is smaller than the power of ten with as many zeros as it has digits. -/
theorem lt_pow_digitCount (number : Nat) : number < 10 ^ digitCount number := by
  by_cases zero : number = 0
  · rw [zero]
    decide
  · rw [digitCount_eq_length_digits zero]
    exact Nat.lt_base_pow_length_digits (by decide)

theorem pow_digitCount_le {number : Nat} (positive : number ≠ 0) :
    10 ^ digitCount number ≤ 10 * number := by
  rw [digitCount_eq_length_digits positive]
  exact Nat.base_pow_length_digits_le 10 number (by decide) positive

/-- Digits give a number with the same digits, leading zeros aside. -/
theorem digitsOf_valueOfDigits
    {digits : List Nat} (proper : ∀ digit ∈ digits, digit < 10)
    (positive : valueOfDigits digits ≠ 0) :
    digitsOf (valueOfDigits digits) = digits.dropWhile (· = 0) := by
  rw [← valueOfDigits_dropWhile_zero] at positive ⊢
  have still : ∀ digit ∈ digits.dropWhile (· = 0), digit < 10 := fun digit member =>
    proper digit ((List.dropWhile_sublist _).subset member)
  have leading : ∀ nonempty : digits.dropWhile (· = 0) ≠ [],
      (digits.dropWhile (· = 0)).head nonempty ≠ 0 := fun nonempty =>
    of_decide_eq_false (List.head_dropWhile_not (· = 0) nonempty)
  generalize digits.dropWhile (· = 0) = kept at positive still leading ⊢
  rw [digitsOf_eq_digits positive, valueOfDigits_eq_ofDigits, Nat.digits_ofDigits 10 (by decide),
    List.reverse_reverse]
  · simpa using still
  · intro nonempty
    rw [List.getLast_reverse]
    exact leading (by simpa using nonempty)

/-! ## Digits that are written -/

theorem digitsOf_zero : digitsOf 0 = [0] :=
  rfl

theorem lt_ten_of_mem_digitsOf {number digit : ℕ} (member : digit ∈ digitsOf number) :
    digit < 10 := by
  by_cases zero : number = 0
  · rw [zero, digitsOf_zero, List.mem_singleton] at member
    omega
  · rw [digitsOf_eq_digits zero, List.mem_reverse] at member
    exact Nat.digits_lt_base (by decide) member

theorem digitsOf_ne_nil (number : ℕ) : digitsOf number ≠ [] := by
  by_cases zero : number = 0
  · rw [zero, digitsOf_zero]
    exact List.cons_ne_nil 0 []
  · rw [digitsOf_eq_digits zero, Ne, List.reverse_eq_nil_iff]
    exact Nat.digits_ne_nil_iff_ne_zero.mpr zero

theorem digitCount_pos (number : ℕ) : 0 < digitCount number :=
  List.length_pos_of_ne_nil (digitsOf_ne_nil number)

theorem length_decimalText (number : ℕ) : (decimalText number).length = digitCount number :=
  List.length_map _

/-- A number below a power of ten has no more digits than the power has zeros. -/
theorem digitCount_le_of_lt_pow
    {number width : ℕ} (positive : 0 < width) (small : number < 10 ^ width) :
    digitCount number ≤ width := by
  by_cases zero : number = 0
  · rw [zero]
    exact positive
  · have bound : 10 ^ digitCount number < 10 ^ (width + 1) := by
      have lower := pow_digitCount_le zero
      rw [Nat.pow_succ]
      omega
    exact Nat.lt_succ_iff.mp ((Nat.pow_lt_pow_iff_right (by decide)).mp bound)

/-- The digits of a number, with leading zeros up to the given width. -/
def paddedDigits (width number : ℕ) : List ℕ :=
  List.replicate (width - digitCount number) 0 ++ digitsOf number

theorem paddedDigits_of_le {width number : ℕ} (enough : width ≤ digitCount number) :
    paddedDigits width number = digitsOf number := by
  rw [paddedDigits, Nat.sub_eq_zero_of_le enough, List.replicate_zero, List.nil_append]

theorem paddedDigits_succ {width number : ℕ} (short : digitCount number ≤ width) :
    paddedDigits (width + 1) number = 0 :: paddedDigits width number := by
  rw [paddedDigits, paddedDigits, Nat.succ_sub short, List.replicate_succ, List.cons_append]

theorem paddedText_eq (width number : ℕ) :
    paddedText width number = (paddedDigits width number).map digitCharacter := by
  rw [paddedText, paddedDigits, List.map_append, List.map_replicate]
  rfl

/-- Padding never shortens a number. -/
theorem length_paddedDigits (width number : ℕ) :
    (paddedDigits width number).length = max width (digitCount number) := by
  rw [paddedDigits, List.length_append, List.length_replicate, ← digitCount]
  omega

theorem length_paddedDigits_of_lt
    {width number : ℕ} (positive : 0 < width) (small : number < 10 ^ width) :
    (paddedDigits width number).length = width := by
  rw [length_paddedDigits, max_eq_left (digitCount_le_of_lt_pow positive small)]

theorem lt_ten_of_mem_paddedDigits
    {width number digit : ℕ} (member : digit ∈ paddedDigits width number) : digit < 10 := by
  rcases List.mem_append.mp member with zero | written
  · rw [List.eq_of_mem_replicate zero]
    decide
  · exact lt_ten_of_mem_digitsOf written

/-- Leading zeros do not count. -/
theorem valueOfDigits_paddedDigits (width number : ℕ) :
    valueOfDigits (paddedDigits width number) = number := by
  have zeros (count : ℕ) : valueOfDigits (List.replicate count 0) = 0 := by
    induction count with
    | zero => rfl
    | succ count hypothesis =>
        rw [List.replicate_succ', valueOfDigits_append_singleton, hypothesis]
  rw [paddedDigits, valueOfDigits_append, zeros, Nat.zero_mul, Nat.zero_add,
    valueOfDigits_digitsOf]

end Criteria
