import Criteria.Proofs.Criterion.Columns
import Criteria.Proofs.FirstOccurrence

/-!
# What counts in a record

A record is read through six fields, some of which have two spellings.  Under each field only the
first spelling that is there is looked at, and in a record of a column only its name and its type.
Records that agree on this are read alike, with the same failures, whatever else they hold; and what
was read is written as a record that is read as the same again, in either spelling
(`record_rereads`).
-/

namespace Criteria

/-! ## Values that are read alike -/

/-- Values that no reader of a field tells apart: the same, or records of one column. -/
inductive Json.Alike : Json → Json → Prop where
  | same (value : Json) : Alike value value
  | columns {first second : List (String × Json)}
      (name : first.lookup "name" = second.lookup "name")
      (type : first.lookup "type" = second.lookup "type") :
      Alike (.object first) (.object second)

/-- Records that agree on the two fields of a column are read alike. -/
theorem Column.ofJson_eq_of_alike {first second : Json} (alike : first.Alike second) :
    ofJson first = ofJson second := by
  cases alike with
  | same => rfl
  | columns name type => simp only [ofJson, Json.readField, name, type]

namespace Entry

variable {α : Type}

/-- The reader gives the same for values that are alike. -/
def Respects (read : Entry → Checked α) : Prop :=
  ∀ first second : Json, first.Alike second → read (.json first) = read (.json second)

theorem respects_readColumn : Respects readColumn :=
  fun _ _ alike => Column.ofJson_eq_of_alike alike

/-- A reader that refuses every object takes no notice of what is in it. -/
theorem respects_read {readJson : Json → Checked α} {otherwise : Cause}
    (objects : ∀ first second, readJson (.object first) = readJson (.object second)) :
    Respects (read readJson otherwise) := by
  intro _ _ alike
  cases alike with
  | same => rfl
  | columns => exact objects _ _

theorem respects_readChoice (choices : List α) (nameOf : α → String) (otherwise : Cause) :
    Respects (read (Json.readChoice choices nameOf) otherwise) :=
  respects_read fun _ _ => rfl

theorem respects_readFlag (otherwise : Cause) : Respects (read Json.readFlag otherwise) :=
  respects_read fun _ _ => rfl

theorem respects_readString (otherwise : Cause) : Respects (read Json.readString otherwise) :=
  respects_read fun _ _ => rfl

/-- A list of strings is read alike from lists that are alike. -/
theorem respects_readStrings : Respects readStrings := by
  intro _ _ alike
  cases alike with
  | same => rfl
  | columns => rfl

theorem Respects.readOptional {read : Entry → Checked α} (respects : Respects read) :
    Respects (readOptional read) := by
  intro _ _ alike
  have same := respects _ _ alike
  cases alike with
  | same => rfl
  | columns =>
      change (read _).map some = (read _).map some
      rw [same]

end Entry

/-! ## Fields and their spellings -/

/-- Under the first of some names that is there, both records have values that are alike. -/
def AgreeUnder (first second : List (String × Json)) : List String → Prop
  | [] => True
  | name :: others =>
      Option.Rel Json.Alike (first.lookup name) (second.lookup name) ∧
        (first.lookup name = none → AgreeUnder first second others)

section AgreeUnder

variable {first second : List (String × Json)}

theorem rel_alike_of_eq {left right : Option Json} (same : left = right) :
    Option.Rel Json.Alike left right := by
  subst same
  cases left with
  | none => exact .none
  | some value => exact .some (.same value)

theorem agreeUnder_of_lookup_eq {names : List String}
    (same : ∀ name ∈ names, first.lookup name = second.lookup name) :
    AgreeUnder first second names := by
  induction names with
  | nil => trivial
  | cons name others induction =>
      rcases List.forall_mem_cons.mp same with ⟨here, later⟩
      exact ⟨rel_alike_of_eq here, fun _ => induction later⟩

/-- Once a name is there, the names after it do not count. -/
theorem agreeUnder_cons_of_isSome {name : String} {others : List String}
    (same : first.lookup name = second.lookup name) (given : (first.lookup name).isSome = true) :
    AgreeUnder first second (name :: others) := by
  refine ⟨rel_alike_of_eq same, ?_⟩
  intro missing
  rw [missing] at given
  cases given

end AgreeUnder

namespace Payload

variable {α : Type} {first second : List (String × Json)} {read : Entry → Checked α}
  (respects : Entry.Respects read)

include respects

/-- Entries that agree under some names are read alike under them. -/
theorem readDefault_eq_of_agreeUnder
    {names : List String} (agree : AgreeUnder first second names) (absent : α) :
    (ofEntries first).readDefault names absent read =
      (ofEntries second).readDefault names absent read := by
  unfold readDefault
  induction names with
  | nil => rfl
  | cons name others induction =>
      rcases agree with ⟨here, later⟩
      rw [select?, select?, lookup_ofEntries, lookup_ofEntries]
      generalize first.lookup name = left at here later
      generalize second.lookup name = right at here
      cases here with
      | none => exact induction (later rfl)
      | some alike =>
          simp only [Option.map_some]
          rw [respects _ _ alike]

theorem readRequired_eq_of_agreeUnder {name : String} (agree : AgreeUnder first second [name]) :
    (ofEntries first).readRequired name read = (ofEntries second).readRequired name read := by
  unfold readRequired
  rw [lookup_ofEntries, lookup_ofEntries]
  have here := agree.1
  generalize first.lookup name = left at here
  generalize second.lookup name = right at here
  cases here with
  | none => rfl
  | some alike =>
      simp only [Option.map_some]
      rw [respects _ _ alike]

end Payload

namespace Criterion

/-- The fields of a record, each with its spellings; the first one that is there counts. -/
def fields : List (List String) :=
  [["field"], ["operation"], isOrNames, ["value"], valuesNames, otherColumnNames]

theorem ofJson_object (entries : List (String × Json)) :
    ofJson (.object entries) = ofPayload (.ofEntries entries) :=
  rfl

/-- Records that agree on every field are read alike. -/
theorem ofJson_eq_of_agree {first second : List (String × Json)}
    (agree : ∀ names ∈ fields, AgreeUnder first second names) :
    ofJson (.object first) = ofJson (.object second) := by
  simp only [fields, List.forall_mem_cons] at agree
  rcases agree with ⟨column, operation, isOr, value, values, otherColumn, _⟩
  have columnSame := Payload.readRequired_eq_of_agreeUnder Entry.respects_readColumn column
  have operationSame :=
    Payload.readRequired_eq_of_agreeUnder
      (Entry.respects_readChoice Operation.all Operation.name
        (.notChoice (Operation.all.map Operation.name))) operation
  have isOrSame :=
    Payload.readDefault_eq_of_agreeUnder (Entry.respects_readFlag .notBoolean) isOr false
  have valueSame :=
    Payload.readDefault_eq_of_agreeUnder
      (Entry.respects_readString .notString).readOptional value none
  have valuesSame :=
    Payload.readDefault_eq_of_agreeUnder Entry.respects_readStrings.readOptional values none
  have otherColumnSame :=
    Payload.readDefault_eq_of_agreeUnder Entry.respects_readColumn.readOptional otherColumn none
  simp only [ofJson_object, ofPayload, columnSame, operationSame, isOrSame, valueSame, valuesSame,
    otherColumnSame]

end Criterion

/-! ## Records are read again -/

/-- A choice is read from its name, if no two choices have one name. -/
theorem Json.readChoice_name
    {α : Type} {choices : List α} {nameOf : α → String} (distinct : (choices.map nameOf).Nodup)
    {choice : α} (member : choice ∈ choices) :
    readChoice choices nameOf (.string (nameOf choice)) = .ok choice := by
  simp only [readChoice, find?_key_eq_some distinct member]

theorem Checked.collect_readString (position : ℕ) (values : List String) :
    collect Json.readString position (values.map Json.string) = .ok values := by
  induction values generalizing position with
  | nil => rfl
  | cons value rest induction =>
      rw [List.map_cons, collect, induction]
      rfl

theorem ColumnType.mem_all (type : ColumnType) : type ∈ all := by
  cases type <;> decide

theorem Column.ofJson_toJson (column : Column) : ofJson column.toJson = .ok column := by
  have name : Json.readField "name" Json.readString
      [("name", .string column.name), ("type", .string column.type.name)] = .ok column.name := rfl
  have type : Json.readField "type" (Json.readChoice ColumnType.all ColumnType.name)
      [("name", .string column.name), ("type", .string column.type.name)] = .ok column.type := by
    exact Checked.within_eq_ok_iff.mpr
      (Json.readChoice_name (by decide) (ColumnType.mem_all column.type))
  simp only [toJson, ofJson, name, type]

namespace Criterion

/-- Each field is written under a spelling that is read, as a value that is read as what it was. -/
theorem ofJson_toJson (criterion : Criterion) (underscores : Bool) :
    ofJson (criterion.toJson underscores) = .ok criterion := by
  unfold toJson
  rw [ofJson_object, ofPayload_eq_ok_iff]
  simp only [Payload.readRequired_eq_ok_iff, Payload.readDefault_eq_ok_iff]
  refine ⟨?column, ?operation, .inr ?isOr, .inr ?value, .inr ?values, .inr ?otherColumn⟩
  case column => exact ⟨_, rfl, criterion.column.ofJson_toJson⟩
  case operation =>
    have distinct : (Operation.all.map Operation.name).Nodup := by decide
    exact ⟨_, rfl, Json.readChoice_name distinct (Operation.mem_all criterion.operation)⟩
  case isOr =>
    refine ⟨.json (.bool criterion.isOr), ?_, rfl⟩
    cases underscores <;> rfl
  case value =>
    refine ⟨.json ((criterion.value?.map Json.string).getD .null), ?_, ?_⟩
    · cases underscores <;> rfl
    · cases criterion.value? <;> rfl
  case values =>
    refine ⟨.json ((criterion.values?.map fun values =>
      Json.array (values.map Json.string)).getD .null), ?_, ?_⟩
    · cases underscores <;> rfl
    · cases criterion.values? with
      | none => rfl
      | some values =>
          change (Checked.collect Json.readString 0 (values.map Json.string)).map some = _
          rw [Checked.collect_readString]
          rfl
  case otherColumn =>
    refine ⟨.json ((criterion.otherColumn?.map Column.toJson).getD .null), ?_, ?_⟩
    · cases underscores <;> rfl
    · cases criterion.otherColumn? with
      | none => rfl
      | some column =>
          change (Column.ofJson column.toJson).map some = _
          rw [Column.ofJson_toJson]
          rfl

/-! ## What does not count -/

/-- Entries under other names than those of fields make no difference, wherever they stand. -/
theorem ofJson_append_of_notMem
    {before added after : List (String × Json)}
    (foreign : ∀ entry ∈ added, ∀ names ∈ fields, entry.1 ∉ names) :
    ofJson (.object (before ++ added ++ after)) = ofJson (.object (before ++ after)) := by
  apply ofJson_eq_of_agree
  intro names field
  apply agreeUnder_of_lookup_eq
  intro name member
  have absent : added.lookup name = none := by
    rw [List.lookup_eq_none_iff]
    intro entry present
    rw [bne_iff_ne]
    rintro rfl
    exact foreign entry present names field member
  simp only [List.lookup_append, absent, Option.or_none]

/-- Under the second spelling of a field whose first one is there, anything may stand. -/
theorem ofJson_setEntry_of_isSome
    {preferred other : String} (spellings : [preferred, other] ∈ fields)
    {entries : List (String × Json)} (given : (entries.lookup preferred).isSome = true)
    (value : Json) :
    ofJson (.object (Json.setEntry other value entries)) = ofJson (.object entries) := by
  -- No name is a spelling of two fields, nor twice of one.
  have eachDistinct : ∀ names ∈ fields, names.Nodup := by decide
  have apart : ∀ names ∈ fields, ∀ others ∈ fields, names ≠ others →
      ∀ name ∈ names, name ∉ others := by decide
  have kept (name : String) (different : name ≠ other) :
      (Json.setEntry other value entries).lookup name = entries.lookup name := by
    rw [Json.lookup_setEntry, if_neg different]
  apply ofJson_eq_of_agree
  intro names field
  by_cases same : names = [preferred, other]
  · subst same
    have different : preferred ≠ other := by simpa using eachDistinct _ field
    apply agreeUnder_cons_of_isSome (kept preferred different)
    rw [kept preferred different]
    exact given
  · apply agreeUnder_of_lookup_eq
    intro name member
    apply kept
    rintro rfl
    exact apart names field _ spellings same name member (by simp)

/--
What was read from a record is read again from the record that is written of it, under either
spelling of its fields.  Records that agree on all fields are read alike, or fail alike: it makes no
difference what stands under other names, nor what stands under the second spelling of a field
whose first one is there.
-/
theorem record_rereads :
    (∀ json criterion, ofJson json = .ok criterion →
        ∀ underscores, ofJson (criterion.toJson underscores) = .ok criterion) ∧
      (∀ first second, (∀ names ∈ fields, AgreeUnder first second names) →
        ofJson (.object first) = ofJson (.object second)) ∧
      (∀ before added after : List (String × Json),
        (∀ entry ∈ added, ∀ names ∈ fields, entry.1 ∉ names) →
          ofJson (.object (before ++ added ++ after)) = ofJson (.object (before ++ after))) ∧
      ∀ preferred other, [preferred, other] ∈ fields →
        ∀ entries : List (String × Json), (entries.lookup preferred).isSome = true →
          ∀ value,
            ofJson (.object (Json.setEntry other value entries)) = ofJson (.object entries) :=
  ⟨fun _ criterion _ => ofJson_toJson criterion, fun _ _ => ofJson_eq_of_agree,
    fun _ _ _ => ofJson_append_of_notMem,
    fun _ _ spellings _ given => ofJson_setEntry_of_isSome spellings given⟩

/-- A word for a truth value, and what does not count: a note, a unit, two second spellings. -/
def lenientRecord : List (String × Json) :=
  [("is_or", .string "maybe"), ("isOr", .string "ON"), ("note", .array []),
    ("operation", .string "IN"), ("column_value", .integer 3), ("columnValue", .null),
    ("field", .object [("unit", .string "years"), ("type", .string "integer"),
      ("name", .string "age")]),
    ("arrayValues", .array [.string "1", .string ""])]

/-- What is read stays the same, written again, stripped, or with more of what is ignored. -/
theorem record_rereads_lenient :
    ofJson (.object
        [("field", .object [("name", .string "age"), ("type", .string "integer")]),
          ("operation", .string "IN"), ("is_or", .bool true), ("value", .null),
          ("array_values", .array [.string "1", .string ""]), ("column_value", .null)]) =
        ofJson (.object lenientRecord) ∧
      ofJson (.object
          [("field", .object [("name", .string "age"), ("type", .string "integer")]),
            ("operation", .string "IN"), ("isOr", .string "ON"), ("columnValue", .null),
            ("arrayValues", .array [.string "1", .string ""])]) =
          ofJson (.object lenientRecord) ∧
        ofJson (.object (lenientRecord ++ [("note", .null)])) = ofJson (.object lenientRecord) ∧
          ofJson (.object (Json.setEntry "array_values" (.integer 0) lenientRecord)) =
            ofJson (.object lenientRecord) := by
  have read : ofJson (.object lenientRecord) =
      .ok ⟨⟨"age", .integer⟩, .oneOf, true, none, some ["1", ""], none⟩ := by
    rfl
  rcases record_rereads with ⟨again, alike, foreign, shadowed⟩
  refine ⟨?_, ?_, ?_, ?_⟩
  · rw [read]
    exact again _ _ read true
  · apply alike
    simp only [fields, List.forall_mem_cons]
    refine ⟨⟨.some (.columns rfl rfl), nofun⟩, agreeUnder_of_lookup_eq ?_,
      agreeUnder_cons_of_isSome rfl rfl, agreeUnder_of_lookup_eq ?_,
      agreeUnder_cons_of_isSome rfl rfl, agreeUnder_cons_of_isSome rfl rfl, nofun⟩
    · exact List.forall_mem_singleton.mpr rfl
    · exact List.forall_mem_singleton.mpr rfl
  · have added := foreign lenientRecord [("note", .null)] [] (by decide)
    rwa [List.append_nil, List.append_nil] at added
  · exact shadowed "arrayValues" "array_values" (by decide) lenientRecord rfl (.integer 0)

end Criterion

end Criteria
