import Criteria.Operation
import Criteria.Table

/-!
# Criteria

A criterion is what a client asks for: a column, an operation, and what to compare with.  It comes
as a record with its columns spelled out, or as a payload that only names columns of a table.
-/

namespace Criteria

/-- What a client asks for on one column, before anything is checked. -/
structure Criterion where
  column : Column
  operation : Operation
  /-- Whether the criterion is an alternative to everything before it. -/
  isOr : Bool
  value? : Option String
  values? : Option (List String)
  otherColumn? : Option Column
deriving DecidableEq, Repr

/-- What a record holds under a name: a plain value, or a column put there by the caller. -/
inductive Entry where
  | json (value : Json)
  | column (column : Column)
deriving Repr

namespace Entry

/-- Whether an entry says explicitly that nothing is given. -/
def isNull : Entry → Bool
  | .json .null => true
  | _ => false

/-- Reads a plain value; a column is none. -/
def read {α : Type} (readJson : Json → Checked α) (otherwise : Cause) : Entry → Checked α
  | .json value => readJson value
  | .column _ => Checked.fail otherwise

/-- Reads an entry that may be null, which stands for nothing given. -/
def readOptional {α : Type} (readEntry : Entry → Checked α) (entry : Entry) :
    Checked (Option α) :=
  if entry.isNull then .ok none else (readEntry entry).map some

/-- Reads a column from its record, unless the entry is a column already. -/
def readColumn : Entry → Checked Column
  | .json value => Column.ofJson value
  | .column given => .ok given

/-- Reads a list of strings; a column counts as a list of its two parts, which are no strings. -/
def readStrings : Entry → Checked (List String)
  | .json (.array items) => Checked.collect Json.readString 0 items
  | .json _ => Checked.fail .notList
  | .column _ => .error [⟨[.index 0], .notString⟩, ⟨[.index 1], .notString⟩]

end Entry

/-- A record whose columns may be put there by the caller. -/
abbrev Payload := List (String × Entry)

namespace Payload

/-- The spelling under which a field is given, the first one winning, and what is there. -/
def select? (payload : Payload) : List String → Option (String × Entry)
  | [] => none
  | name :: others =>
      match payload.lookup name with
      | some entry => some (name, entry)
      | none => select? payload others

/-- Reads a field that has to be there. -/
def readRequired {α : Type} (payload : Payload) (name : String) (read : Entry → Checked α) :
    Checked α :=
  Checked.within (.name name) <|
    match payload.lookup name with
    | some entry => read entry
    | none => Checked.fail .missing

/-- Reads a field that has a default, under any of its spellings. -/
def readDefault {α : Type} (payload : Payload) (names : List String) (absent : α)
    (read : Entry → Checked α) : Checked α :=
  match payload.select? names with
  | some (name, entry) => Checked.within (.name name) (read entry)
  | none => .ok absent

end Payload

namespace Criterion

/-- The names under which it is given whether a criterion is an alternative, the preferred first. -/
def isOrNames : List String := ["isOr", "is_or"]

/-- The names under which a list of values is given, the preferred first. -/
def valuesNames : List String := ["arrayValues", "array_values"]

/-- The names under which another column is given, the preferred first. -/
def otherColumnNames : List String := ["columnValue", "column_value"]

/-- Reads a criterion from a payload.  All entries are read before any failure is reported. -/
def ofPayload (payload : Payload) : Checked Criterion :=
  let column := payload.readRequired "field" Entry.readColumn
  let choices := Operation.all.map Operation.name
  let operation := payload.readRequired "operation"
    (Entry.read (Json.readChoice Operation.all Operation.name) (.notChoice choices))
  let isOr := payload.readDefault isOrNames false (Entry.read Json.readFlag .notBoolean)
  let value? := payload.readDefault ["value"] none
    (Entry.readOptional (Entry.read Json.readString .notString))
  let values? := payload.readDefault valuesNames none (Entry.readOptional Entry.readStrings)
  let otherColumn? :=
    payload.readDefault otherColumnNames none (Entry.readOptional Entry.readColumn)
  match column, operation, isOr, value?, values?, otherColumn? with
  | .ok column, .ok operation, .ok isOr, .ok value?, .ok values?, .ok otherColumn? =>
      .ok { column, operation, isOr, value?, values?, otherColumn? }
  | column, operation, isOr, value?, values?, otherColumn? =>
      .error (Checked.failures column ++ Checked.failures operation ++ Checked.failures isOr ++
        Checked.failures value? ++ Checked.failures values? ++ Checked.failures otherColumn?)

/-- Reads a criterion from a JSON object with its columns spelled out. -/
def ofJson : Json → Checked Criterion
  | .object entries => ofPayload (entries.map fun (name, value) => (name, .json value))
  | _ => Checked.fail (.notRecord "FilterSpec")

/-- The record of a criterion, with names in either of their two spellings. -/
def toJson (criterion : Criterion) (underscores : Bool) : Json :=
  let spelling (names : List String) : String :=
    (if underscores then names.getLast? else names.head?).getD ""
  .object
    [("field", criterion.column.toJson),
      ("operation", .string criterion.operation.name),
      (spelling isOrNames, .bool criterion.isOr),
      ("value", (criterion.value?.map Json.string).getD .null),
      (spelling valuesNames,
        (criterion.values?.map fun values => Json.array (values.map Json.string)).getD .null),
      (spelling otherColumnNames, (criterion.otherColumn?.map Column.toJson).getD .null)]

end Criterion

/-- The column of a table that an entry of a payload means. -/
def Table.resolve (table : Table) : Entry → Except Error Column
  | .column column => .ok column
  | .json (.array _) => .error (.compositeName .array)
  | .json (.object _) => .error (.compositeName .object)
  | .json (.string name) =>
      match table.find? name with
      | some column => .ok column
      | none => .error (.unknownColumn name none)
  | .json scalar => .error (.unknownColumn scalar.display none)

/-- Replaces what a payload has under a name, if that is not null, by the column it means. -/
def Table.resolveUnder (table : Table) (name : String) (payload : Payload) : Except Error Payload :=
  match payload.lookup name with
  | none | some (.json .null) => .ok payload
  | some entry => do
      let column ← table.resolve entry
      .ok (Json.setEntry name (.column column) payload)

/--
Reads a criterion from a payload that names columns of a table.  The columns are looked up first,
the one to filter on before the one to compare with, under either of its spellings.
-/
def Table.criterion (table : Table) (payload : Payload) : Except Error Criterion := do
  let column ← table.resolve ((payload.lookup "field").getD (.json .null))
  let payload := Json.setEntry "field" (.column column) payload
  let payload ← table.resolveUnder "columnValue" payload
  let payload ← table.resolveUnder "column_value" payload
  (Criterion.ofPayload payload).mapError .malformed

end Criteria
