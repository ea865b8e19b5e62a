import Criteria.Error

/-!
# Operations

The kinds of comparison that a criterion may ask for.
-/

namespace Criteria

/-- What a filter does with the values of its column. -/
inductive Operation where
  | equal
  | notEqual
  | greaterThan
  | lessThan
  | like
  | notLike
  /-- The column holds one of several values. -/
  | oneOf
  /-- The column is compared with a truth value, given as a token. -/
  | truth
deriving DecidableEq, Repr

namespace Operation

/-- All operations, in the order in which messages list them. -/
def all : List Operation :=
  [.equal, .notEqual, .greaterThan, .lessThan, .like, .notLike, .oneOf, .truth]

/-- The name of an operation in records and messages. -/
def name : Operation → String
  | .equal => "EQUAL"
  | .notEqual => "NOT_EQUAL"
  | .greaterThan => "GREATER_THAN"
  | .lessThan => "LESS_THAN"
  | .like => "LIKE"
  | .notLike => "NOT_LIKE"
  | .oneOf => "IN"
  | .truth => "WITH"

/-- The operation of a name, if there is one. -/
def ofName? (text : String) : Option Operation :=
  all.find? fun operation => operation.name == text

/-- Whether the operation may compare with another column instead of a value. -/
def comparesColumns (operation : Operation) : Bool :=
  operation == .equal || operation == .notEqual

/-- Whether the value of the operation is not held to the format of its column. -/
def isUnformatted (operation : Operation) : Bool :=
  operation == .truth || operation == .oneOf

@[simp]
theorem mem_all (operation : Operation) : operation ∈ all := by
  cases operation <;> decide

end Operation

end Criteria
