/-!
# Powers of two and of ten

The bases in which numbers are stored and written.
-/

namespace Criteria

/-- A power of two, computed by the arithmetic of large numbers. -/
def powerOfTwo (exponent : Nat) : Nat :=
  Nat.pow 2 exponent

/-- A power of ten, computed by the arithmetic of large numbers. -/
def powerOfTen (exponent : Nat) : Nat :=
  Nat.pow 10 exponent

@[simp]
theorem powerOfTwo_zero : powerOfTwo 0 = 1 :=
  rfl

@[simp]
theorem powerOfTen_zero : powerOfTen 0 = 1 :=
  rfl

end Criteria
