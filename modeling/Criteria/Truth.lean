/-!
# Truth values

The three truth values of comparisons with missing data.  Falsity lies below the unknown and the
unknown below truth; conjunction is the lower of two values and disjunction the higher.
-/

namespace Criteria

/-- The truth values of three-valued logic. -/
inductive Truth where
  | false
  | unknown
  | true
deriving DecidableEq, Repr

namespace Truth

/-- The conjunction: false as soon as one side is. -/
def and : Truth → Truth → Truth
  | .false, _ => .false
  | _, .false => .false
  | .true, .true => .true
  | _, _ => .unknown

/-- The disjunction: true as soon as one side is. -/
def or : Truth → Truth → Truth
  | .true, _ => .true
  | _, .true => .true
  | .false, .false => .false
  | _, _ => .unknown

@[simp]
theorem true_and (value : Truth) : and .true value = value := by
  cases value <;> rfl

@[simp]
theorem and_true (value : Truth) : and value .true = value := by
  cases value <;> rfl

@[simp]
theorem false_or (value : Truth) : or .false value = value := by
  cases value <;> rfl

@[simp]
theorem or_false (value : Truth) : or value .false = value := by
  cases value <;> rfl

@[simp]
theorem true_or (value : Truth) : or .true value = .true := by
  cases value <;> rfl

@[simp]
theorem or_true (value : Truth) : or value .true = .true := by
  cases value <;> rfl

theorem and_assoc (first second third : Truth) :
    and (and first second) third = and first (and second third) := by
  cases first <;> cases second <;> cases third <;> rfl

@[simp]
theorem and_self (value : Truth) : and value value = value := by
  cases value <;> rfl

theorem and_eq_true_iff (left right : Truth) :
    and left right = .true ↔ left = .true ∧ right = .true := by
  cases left <;> cases right <;> simp [and]

theorem or_assoc (first second third : Truth) :
    or (or first second) third = or first (or second third) := by
  cases first <;> cases second <;> cases third <;> rfl

end Truth

end Criteria
