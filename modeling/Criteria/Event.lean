import Criteria.Json.Basic
import Criteria.Level

/-!
# Events

What a selection reports about itself.
-/

namespace Criteria

/-- What a selection has to report. -/
inductive Event where
  /-- It was built on a table, of so many filters. -/
  | built (table : String) (filters : Nat)
  /-- Its validation failed, with so many messages. -/
  | rejected (table : String) (errors : Nat)
  /-- Its predicate was compiled; the text is given. -/
  | compiled (predicate : String)
deriving DecidableEq, Repr

namespace Event

/-- The title under which an event is written. -/
def title : Event → String
  | .built _ _ => "Built filter set"
  | .rejected _ _ => "Filter validation failed"
  | .compiled _ => "Compiled filter predicate"

/-- How important an event is. -/
def level : Event → Level
  | .built _ _ => .debug
  | .rejected _ _ => .info
  | .compiled _ => .debug

/-- What is written with an event. -/
def fields : Event → List (String × Json)
  | .built table filters => [("table", .string table), ("filter_count", .integer filters)]
  | .rejected table errors => [("table", .string table), ("error_count", .integer errors)]
  | .compiled predicate => [("predicate", .string predicate)]

end Event

end Criteria
