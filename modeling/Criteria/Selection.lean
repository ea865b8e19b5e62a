import Criteria.Event
import Criteria.Predicate.OfFilter
import Criteria.Statement

/-!
# Selections

A selection is a list of filters on one table, taken as one unit.  It is validated once: either all
of its filters are valid, or it fails for good with one error.  A valid selection is compiled once,
from left to right, into a predicate that can then restrict any number of statements.

Every call takes the configuration of the moment, and gives its answer, the selection as it is
afterwards, and the events to report.
-/

namespace Criteria

/-- How far a selection has come, with what it has to remember. -/
inductive Stage where
  | unvalidated
  | validated
  | invalid (messages : List String)
  | compiled (predicate : Predicate)
  | applied (predicate : Predicate)
deriving Repr

namespace Stage

/-- The name of a stage, without what is remembered in it. -/
def name : Stage → String
  | .unvalidated => "unvalidated"
  | .validated => "validated"
  | .invalid _ => "invalid"
  | .compiled _ => "compiled"
  | .applied _ => "applied"

/-- The predicate that a stage remembers, if it does. -/
def predicate? : Stage → Option Predicate
  | .compiled predicate => some predicate
  | .applied predicate => some predicate
  | _ => none

end Stage

/-- The filters of one request on one table. -/
structure Selection where
  table : Table
  filters : List Filter
  stage : Stage

/-- What a call gives: its answer, the selection afterwards, and the events to report. -/
structure Outcome (α : Type) where
  answer : Except Error α
  selection : Selection
  events : List Event

namespace Selection

/-! ## Construction -/

/-- Refuses a column that the table does not have. -/
def checkColumn (table : Table) (column : Column) : Except Error Unit :=
  if table.hasColumn column.name then .ok ()
  else .error (.unknownColumn column.name (some table.name))

/-- The filter of a criterion; its column, its other column, then its type are checked. -/
def filterOn (table : Table) (criterion : Criterion) : Except Error Filter := do
  checkColumn table criterion.column
  if let some other := criterion.otherColumn? then
    checkColumn table other
  Filter.ofCriterion criterion

/-- The selection of some criteria, and its first event. -/
def build (table : Table) (criteria : List Criterion) : Except Error (Selection × List Event) := do
  let filters ← criteria.mapM (filterOn table)
  .ok (⟨table, filters, .unvalidated⟩, [.built table.name filters.length])

/-- The selection of some payloads; all of them are read before the first is checked. -/
def ofPayloads (table : Table) (payloads : List Payload) :
    Except Error (Selection × List Event) := do
  let criteria ← payloads.mapM table.criterion
  build table criteria

/-- The selection of some records; all of them are read before the first is checked. -/
def ofRecords (table : Table) (records : List Json) : Except Error (Selection × List Event) := do
  let criteria ← records.mapM fun record => (Criterion.ofJson record).mapError Error.malformed
  build table criteria

/-! ## Validation -/

/-- The messages of the invalid filters in their order, each message once. -/
def errorMessages (filters : List Filter) (config : Config) : List String :=
  (filters.filterMap fun filter => filter.errorMessage config).eraseDups

/-- Validates all filters, if that has not been done; a selection found invalid stays so. -/
def validate (selection : Selection) (config : Config) : Outcome Unit :=
  match selection.stage with
  | .invalid messages => ⟨.error (.invalidFilters messages), selection, []⟩
  | .unvalidated =>
      let messages := errorMessages selection.filters config
      if messages.isEmpty then ⟨.ok (), { selection with stage := .validated }, []⟩
      else
        ⟨.error (.invalidFilters messages), { selection with stage := .invalid messages },
          [.rejected selection.table.name messages.length]⟩
  | _ => ⟨.ok (), selection, []⟩

/-! ## Compilation -/

/-- Joins the predicates of filters to what stands before them, counting positions. -/
def compileOnto [Machine] (table : Table) (before : Predicate) (position : Nat) :
    List Filter → Except Error Predicate
  | [] => .ok before
  | filter :: rest => do
      let predicate ← filter.predicate table position
      compileOnto table (before.join filter.criterion.isOr predicate) (position + 1) rest

/-- The predicate of some filters, from left to right. -/
def compile [Machine] (table : Table) (filters : List Filter) : Except Error Predicate :=
  compileOnto table .unrestricted 0 filters

/--
The report of a predicate, if it is asked for.  The predicate is written for it, if it can be.
-/
def report (table : Table) (config : Config) (predicate : Predicate) :
    Except Error (List Event) :=
  if config.logPredicates then
    (Sql.write table.name predicate).map fun written => [.compiled written.sql]
  else .ok []

/--
The predicate of the selection, which is validated first and compiled if that is still to do.  It is
kept before it is reported, so that a report that fails is not made up for later.
-/
def predicate [Machine] (selection : Selection) (config : Config) : Outcome Predicate :=
  let checked := selection.validate config
  match checked.answer with
  | .error error => ⟨.error error, checked.selection, checked.events⟩
  | .ok () =>
      match checked.selection.stage.predicate? with
      | some predicate => ⟨.ok predicate, checked.selection, checked.events⟩
      | none =>
          match compile selection.table selection.filters with
          | .error error => ⟨.error error, checked.selection, checked.events⟩
          | .ok predicate =>
              let compiled := { selection with stage := .compiled predicate }
              match report selection.table config predicate with
              | .error error => ⟨.error error, compiled, checked.events⟩
              | .ok events => ⟨.ok predicate, compiled, checked.events ++ events⟩

/-- The statement, restricted by the predicate of the selection. -/
def apply [Machine] (selection : Selection) (config : Config) (statement : Statement) :
    Outcome Statement :=
  let compiled := selection.predicate config
  match compiled.answer with
  | .error error => ⟨.error error, compiled.selection, compiled.events⟩
  | .ok predicate =>
      ⟨.ok (statement.restrict predicate),
        { compiled.selection with stage := .applied predicate }, compiled.events⟩

end Selection

end Criteria
