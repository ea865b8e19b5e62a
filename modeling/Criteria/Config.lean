import Criteria.Calendar.Date

/-!
# Configuration

What may change from one request to the next without changing what a filter means.
-/

namespace Criteria

/-- What a call looks up at its moment: two settings and the date. -/
structure Config where
  /-- Whether messages show columns by their field names. -/
  camelize : Bool
  /-- Whether a compiled predicate is reported. -/
  logPredicates : Bool
  today : Date
deriving DecidableEq, Repr

end Criteria
