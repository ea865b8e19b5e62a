import Criteria.Criterion
import Criteria.Proofs.Success

/-!
# The columns of a criterion

A client who sends a payload names columns, and the table says what they are.  A field of a payload
may have two spellings, of which one counts, and either of them may be null.  `columns_of_criterion`
says that a criterion read from such a payload has the columns that the table finds for the names in
it: whatever else a client writes into a payload, none of it becomes a column.
-/

namespace Criteria

/-- What stands under the first of some names that is there. -/
def firstUnder {α : Type} (names : List String) (entries : List (String × α)) : Option α :=
  names.findSome? fun name => entries.lookup name

/-! ## Readers of fields -/

theorem Checked.within_eq_ok_iff {α : Type} {key : Key} {checked : Checked α} {value : α} :
    Checked.within key checked = .ok value ↔ checked = .ok value := by
  cases checked with
  | error failures => simp [Checked.within]
  | ok read => simp [Checked.within]

namespace Payload

/-- The payload of a JSON object: no column was put there by the caller. -/
def ofEntries (entries : List (String × Json)) : Payload :=
  entries.map fun (name, value) => (name, .json value)

/-- The entries of a payload that comes from a record are those of the record. -/
theorem lookup_ofEntries (entries : List (String × Json)) (name : String) :
    List.lookup name (ofEntries entries) = (entries.lookup name).map Entry.json := by
  induction entries with
  | nil => rfl
  | cons entry rest induction =>
      rcases entry with ⟨key, value⟩
      change List.lookup name ((key, Entry.json value) :: ofEntries rest) = _
      rw [List.lookup_cons, List.lookup_cons]
      cases name == key with
      | true => rfl
      | false => exact induction

variable {α : Type} {payload : Payload}

theorem readRequired_eq_ok_iff {name : String} {read : Entry → Checked α} {value : α} :
    payload.readRequired name read = .ok value ↔
      ∃ entry, List.lookup name payload = some entry ∧ read entry = .ok value := by
  rw [readRequired, Checked.within_eq_ok_iff]
  cases List.lookup name payload with
  | none => simp [Checked.fail]
  | some entry => simp

/-- A field with a default is read from its first spelling that is there. -/
theorem readDefault_eq_ok_iff
    {names : List String} {absent : α} {read : Entry → Checked α} {value : α} :
    payload.readDefault names absent read = .ok value ↔
      (firstUnder names payload = none ∧ value = absent) ∨
        ∃ entry, firstUnder names payload = some entry ∧ read entry = .ok value := by
  unfold readDefault firstUnder
  induction names with
  | nil => simp [select?, eq_comm]
  | cons name others induction =>
      rw [select?, List.findSome?_cons]
      cases found : List.lookup name payload with
      | none => exact induction
      | some entry => simp [Checked.within_eq_ok_iff]

end Payload

/-- A criterion is read exactly if each of its fields is. -/
theorem Criterion.ofPayload_eq_ok_iff {payload : Payload} {criterion : Criterion} :
    Criterion.ofPayload payload = .ok criterion ↔
      payload.readRequired "field" Entry.readColumn = .ok criterion.column ∧
        payload.readRequired "operation"
            (Entry.read (Json.readChoice Operation.all Operation.name)
              (.notChoice (Operation.all.map Operation.name))) = .ok criterion.operation ∧
        payload.readDefault isOrNames false (Entry.read Json.readFlag .notBoolean) =
          .ok criterion.isOr ∧
        payload.readDefault ["value"] none
            (Entry.readOptional (Entry.read Json.readString .notString)) = .ok criterion.value? ∧
        payload.readDefault valuesNames none (Entry.readOptional Entry.readStrings) =
          .ok criterion.values? ∧
        payload.readDefault otherColumnNames none (Entry.readOptional Entry.readColumn) =
          .ok criterion.otherColumn? := by
  simp only [Criterion.ofPayload]
  constructor
  · intro read
    split at read
    · cases read
      simp_all
    · cases read
  · rintro ⟨column, operation, isOr, value, values, otherColumn⟩
    simp only [column, operation, isOr, value, values, otherColumn]

/-! ## Columns of a table -/

/-- What can be wrong with a payload by itself: nothing is said of the table, nor of types. -/
inductive Error.IsOfReading : Error → Prop where
  | unknownColumn (name : String) : IsOfReading (.unknownColumn name none)
  | compositeName (composite : Composite) : IsOfReading (.compositeName composite)
  | malformed (failures : List Failure) : IsOfReading (.malformed failures)

namespace Table

variable {table : Table}

/-- A column that is found is one of the table, and it was looked for by one of its two names. -/
theorem find?_eq_some {text : String} {column : Column} (found : table.find? text = some column) :
    column ∈ table.columns ∧ (column.name = text ∨ column.fieldName = text) := by
  rw [find?, Option.or_eq_some_iff] at found
  rcases found with byName | ⟨_, byFieldName⟩
  · exact ⟨List.mem_of_find?_eq_some byName, Or.inl (by simpa using List.find?_some byName)⟩
  · exact ⟨List.mem_of_find?_eq_some byFieldName,
      Or.inr (by simpa using List.find?_some byFieldName)⟩

/-- A plain value means a column exactly if it is a text that the table finds a column for. -/
theorem resolve_json_eq_ok_iff {value : Json} {column : Column} :
    table.resolve (.json value) = .ok column ↔
      ∃ text, value = .string text ∧ table.find? text = some column := by
  cases value with
  | string text =>
      cases found : table.find? text with
      | none => simp [resolve, found]
      | some present => simp [resolve, found]
  | null | bool truth | integer number | real number | array items | object entries =>
      simp [resolve]

/-- What cannot be resolved is reported as a fault of what was read. -/
theorem resolve_eq_error {entry : Entry} {error : Error}
    (failed : table.resolve entry = .error error) : error.IsOfReading := by
  unfold resolve at failed
  split at failed
  case h_1 column => cases failed
  case h_4 text =>
    cases found : table.find? text with
    | none =>
        rw [found] at failed
        cases failed
        exact .unknownColumn text
    | some column =>
        rw [found] at failed
        cases failed
  case h_5 =>
    cases failed
    exact .unknownColumn _
  all_goals
    cases failed
    exact .compositeName _

/-- What a payload holds for a plain value after columns were looked up: a null stays as it is. -/
inductive Resolved (table : Table) : Option Json → Option Entry → Prop where
  | absent : Resolved table none none
  | null : Resolved table (some .null) (some (.json .null))
  | found {text : String} {column : Column} (found : table.find? text = some column) :
      Resolved table (some (.string text)) (some (.column column))

/-- Looking up the column under a name replaces what is there, and nothing else. -/
theorem resolveUnder_eq_ok
    {name : String} {payload result : Payload} {value? : Option Json}
    (plain : List.lookup name payload = value?.map .json)
    (looked : table.resolveUnder name payload = .ok result) :
    table.Resolved value? (List.lookup name result) ∧
      ∀ other, other ≠ name → List.lookup other result = List.lookup other payload := by
  unfold resolveUnder at looked
  split at looked
  case h_1 missing =>
    cases looked
    rw [missing] at plain ⊢
    cases value? with
    | none => exact ⟨.absent, fun _ _ => rfl⟩
    | some value => cases plain
  case h_2 isNull =>
    cases looked
    rw [isNull] at plain ⊢
    cases value? with
    | none => cases plain
    | some value =>
        cases plain
        exact ⟨.null, fun _ _ => rfl⟩
  case h_3 entry notNull present =>
    rcases bind_eq_ok_iff.mp looked with ⟨column, resolved, equal⟩
    cases equal
    rw [present] at plain
    cases value? with
    | none => cases plain
    | some value =>
        cases plain
        rcases resolve_json_eq_ok_iff.mp resolved with ⟨text, rfl, found⟩
        refine ⟨?_, ?_⟩
        · rw [Json.lookup_setEntry, if_pos rfl]
          exact .found found
        · intro other different
          rw [Json.lookup_setEntry, if_neg different]

theorem Resolved.firstUnder
    {names : List String} {entries : List (String × Json)} {payload : Payload}
    (resolved : ∀ name ∈ names, table.Resolved (entries.lookup name) (List.lookup name payload)) :
    table.Resolved (firstUnder names entries) (firstUnder names payload) := by
  induction names with
  | nil => exact .absent
  | cons name others induction =>
      rcases List.forall_mem_cons.mp resolved with ⟨first, rest⟩
      unfold Criteria.firstUnder at induction ⊢
      rw [List.findSome?_cons, List.findSome?_cons]
      generalize entries.lookup name = value? at first
      generalize List.lookup name payload = entry? at first
      cases first with
      | absent => exact induction rest
      | null => exact .null
      | found present => exact .found present

/-- The column that a table has for the text under the first of some names that is there. -/
def columnUnder (table : Table) (names : List String) (entries : List (String × Json)) :
    Option Column :=
  match Criteria.firstUnder names entries with
  | some (.string text) => table.find? text
  | _ => none

theorem columnUnder_of_readDefault
    {names : List String} {entries : List (String × Json)} {payload : Payload}
    (resolved : ∀ name ∈ names, table.Resolved (entries.lookup name) (List.lookup name payload))
    {column? : Option Column}
    (read : payload.readDefault names none (Entry.readOptional Entry.readColumn) = .ok column?) :
    table.columnUnder names entries = column? := by
  have first := Resolved.firstUnder resolved
  rw [Payload.readDefault_eq_ok_iff] at read
  unfold columnUnder
  generalize Criteria.firstUnder names entries = value? at first
  generalize Criteria.firstUnder names payload = entry? at first read
  cases first with
  | absent =>
      rcases read with ⟨_, rfl⟩ | ⟨entry, impossible, _⟩
      · rfl
      · cases impossible
  | null =>
      rcases read with ⟨impossible, _⟩ | ⟨entry, same, read⟩
      · cases impossible
      · cases same
        cases read
        rfl
  | found present =>
      rcases read with ⟨impossible, _⟩ | ⟨entry, same, read⟩
      · cases impossible
      · cases same
        cases read
        exact present

/--
A criterion that is read from plain entries has the columns that the table finds for the names in
them: one for the field, and one to compare with if the first spelling of that field is a name.
-/
theorem columns_of_criterion
    {entries : List (String × Json)} {criterion : Criterion}
    (read : table.criterion (.ofEntries entries) = .ok criterion) :
    table.columnUnder ["field"] entries = some criterion.column ∧
      table.columnUnder Criterion.otherColumnNames entries = criterion.otherColumn? := by
  rcases bind_eq_ok_iff.mp read with ⟨column, columnOk, read⟩
  rcases bind_eq_ok_iff.mp read with ⟨second, secondOk, read⟩
  rcases bind_eq_ok_iff.mp read with ⟨third, thirdOk, read⟩
  rcases Criterion.ofPayload_eq_ok_iff.mp (mapError_eq_ok_iff.mp read) with
    ⟨fieldOk, _, _, _, _, otherOk⟩
  have plain (name : String) (different : name ≠ "field") :
      List.lookup name (Json.setEntry "field" (.column column) (Payload.ofEntries entries)) =
        (entries.lookup name).map Entry.json := by
    rw [Json.lookup_setEntry, if_neg different, Payload.lookup_ofEntries]
  rcases resolveUnder_eq_ok (plain "columnValue" (by decide)) secondOk with
    ⟨secondResolved, secondSame⟩
  have plainSecond : List.lookup "column_value" second =
      (entries.lookup "column_value").map Entry.json := by
    rw [secondSame _ (by decide), plain _ (by decide)]
  rcases resolveUnder_eq_ok plainSecond thirdOk with ⟨thirdResolved, thirdSame⟩
  rw [← thirdSame "columnValue" (by decide)] at secondResolved
  refine ⟨?_, ?_⟩
  · rcases Payload.readRequired_eq_ok_iff.mp fieldOk with ⟨entry, present, readColumn⟩
    rw [thirdSame _ (by decide), secondSame _ (by decide), Json.lookup_setEntry, if_pos rfl,
      Option.some.injEq] at present
    subst present
    cases readColumn
    rw [Payload.lookup_ofEntries] at columnOk
    cases field : entries.lookup "field" with
    | none =>
        rw [field] at columnOk
        rcases resolve_json_eq_ok_iff.mp columnOk with ⟨text, impossible, _⟩
        cases impossible
    | some value =>
        rw [field] at columnOk
        rcases resolve_json_eq_ok_iff.mp columnOk with ⟨text, rfl, found⟩
        simp [columnUnder, Criteria.firstUnder, field, found]
  · apply columnUnder_of_readDefault _ otherOk
    simp only [Criterion.otherColumnNames, List.forall_mem_cons]
    exact ⟨secondResolved, thirdResolved, by simp⟩

theorem resolveUnder_eq_error {name : String} {payload : Payload} {error : Error}
    (failed : table.resolveUnder name payload = .error error) : error.IsOfReading := by
  unfold resolveUnder at failed
  split at failed
  · cases failed
  · cases failed
  · rcases bind_eq_error_iff.mp failed with resolveFailed | ⟨column, _, impossible⟩
    · exact resolve_eq_error resolveFailed
    · cases impossible

/-- A payload that gives no criterion is reported as a fault of what was read. -/
theorem criterion_eq_error {payload : Payload} {error : Error}
    (failed : table.criterion payload = .error error) : error.IsOfReading := by
  rcases bind_eq_error_iff.mp failed with fieldFailed | ⟨column, _, failed⟩
  · exact resolve_eq_error fieldFailed
  rcases bind_eq_error_iff.mp failed with secondFailed | ⟨second, _, failed⟩
  · exact resolveUnder_eq_error secondFailed
  rcases bind_eq_error_iff.mp failed with thirdFailed | ⟨third, _, failed⟩
  · exact resolveUnder_eq_error thirdFailed
  cases read : Criterion.ofPayload third with
  | error failures =>
      rw [read] at failed
      cases failed
      exact .malformed failures
  | ok criterion =>
      rw [read] at failed
      cases failed

/-- Where a payload names a column that is not found, the error does not speak of the table. -/
theorem criterion_eq_unknownColumn
    {payload : Payload} {name : String} {table? : Option String}
    (failed : table.criterion payload = .error (.unknownColumn name table?)) : table? = none := by
  cases criterion_eq_error failed
  rfl

end Table

end Criteria
