import Criteria.Proofs.Filter.Compilation
import Criteria.Proofs.Filter.Violations
import Criteria.Proofs.Text.CaseFolding

/-!
# The words for true and false

A filter on truth values takes a word.  Compilation looks only for the words for true and treats any
other word as one for false; it is validation that keeps all other words out, and the missing one.
`boolean_words` says which texts fold into which word, and that the two together are right: the form
that asks for a truth value at all stands for the words for false and for nothing else.

The words may be written in any mixture of upper and lower case.  One character outside ASCII counts
besides: the long s, in the word false.
-/

namespace Criteria

open Criteria.Text

/-! ## The texts that are words -/

/-- The text is the word once its letters of ASCII are in lower case. -/
def IsCaseVariant (word text : String) : Prop :=
  text.toList.map Char.toLower = word.toList

instance (word text : String) : Decidable (IsCaseVariant word text) :=
  inferInstanceAs (Decidable (_ = _))

/-- The text is one of the two words for true, in upper or lower case. -/
def IsTrueWord (text : String) : Prop :=
  IsCaseVariant "t" text ∨ IsCaseVariant "true" text

/-- The text is one of the words for false; one of them may be written with a long s. -/
def IsFalseWord (text : String) : Prop :=
  IsCaseVariant "f" text ∨ IsCaseVariant "false" text ∨ IsCaseVariant "falſe" text

instance (text : String) : Decidable (IsTrueWord text) :=
  inferInstanceAs (Decidable (_ ∨ _))

instance (text : String) : Decidable (IsFalseWord text) :=
  inferInstanceAs (Decidable (_ ∨ _))

/-- No word is for both. -/
theorem IsTrueWord.not_isFalseWord {text : String} (isTrue : IsTrueWord text) :
    ¬ IsFalseWord text := by
  unfold IsTrueWord IsFalseWord IsCaseVariant at *
  rcases isTrue with same | same <;> rw [same] <;> decide

variable {text : String}

/-- A text folds into one of these words exactly if it is the word in upper or lower case. -/
theorem foldText_eq_iff_isCaseVariant {word : String} (listed : word ∈ ["t", "f", "true"]) :
    foldText text.toList = word.toList ↔ IsCaseVariant word text := by
  have plain : ∀ word ∈ ["t", "f", "true"],
      IsPlain word.toList ∧ 's' ∉ word.toList ∧ 'k' ∉ word.toList := by
    decide +kernel
  rcases plain word listed with ⟨plain, noS, noK⟩
  exact foldText_eq_iff_map_toLower plain noS noK

/-- The long s stands for the s of the word false. -/
theorem foldText_eq_false_iff :
    foldText text.toList = "false".toList ↔
      IsCaseVariant "false" text ∨ IsCaseVariant "falſe" text := by
  unfold IsCaseVariant
  constructor
  · rw [foldText_eq_iff_forall₂ (by decide)]
    generalize text.toList = characters
    -- Each letter of the word has a character of the text, and only that of the s leaves a choice.
    rintro (_ | ⟨f, _ | ⟨a, _ | ⟨l, _ | ⟨s, _ | ⟨e, _ | _⟩⟩⟩⟩⟩)
    simp only [List.map_cons, List.map_nil, f.toLower_eq (by decide) (by decide),
      a.toLower_eq (by decide) (by decide), l.toLower_eq (by decide) (by decide),
      e.toLower_eq (by decide) (by decide)]
    rcases s with same | ⟨_, rfl⟩ | ⟨isK, _⟩
    · exact .inl (by rw [same]; rfl)
    · exact .inr rfl
    · cases isK
  · rintro (lowered | lowered)
    · rw [← foldText_map_toLower, lowered]
      decide
    · rw [← foldText_map_toLower, lowered]
      decide

theorem foldsInto_cons_iff {word : String} {words : List String} :
    foldsInto (word :: words) text = true ↔
      foldText text.toList = word.toList ∨ foldsInto words text = true := by
  rw [foldsInto, List.any_cons, Bool.or_eq_true, beq_iff_eq]
  rfl

theorem not_foldsInto_nil : ¬ foldsInto [] text = true :=
  Bool.false_ne_true

theorem isTrueToken_iff : isTrueToken text = true ↔ IsTrueWord text := by
  rw [isTrueToken, trueTokens, foldsInto_cons_iff, foldsInto_cons_iff,
    foldText_eq_iff_isCaseVariant (by decide), foldText_eq_iff_isCaseVariant (by decide),
    or_iff_left not_foldsInto_nil, IsTrueWord]

theorem isBooleanToken_iff : isBooleanToken text = true ↔ IsTrueWord text ∨ IsFalseWord text := by
  rw [isBooleanToken, booleanTokens, foldsInto_cons_iff, foldsInto_cons_iff, foldsInto_cons_iff,
    foldsInto_cons_iff, foldText_eq_iff_isCaseVariant (by decide),
    foldText_eq_iff_isCaseVariant (by decide), foldText_eq_iff_isCaseVariant (by decide),
    foldText_eq_false_iff, or_iff_left not_foldsInto_nil, IsTrueWord, IsFalseWord]
  tauto

/-! ## Filters that take a word -/

/-- The truth value of a comparison with a column that holds a truth value or is empty. -/
def Truth.ofHeld (held? : Option Bool) : Comparison → Truth
  | .truth _ expected =>
      match held? with
      | some held => if held = expected then .true else .false
      | none => .unknown
  | .value _ _ _ | .column _ _ _ | .among _ _ => .unknown

section Held

variable (position : Nat) (column : String) (held? : Option Bool)

theorem Predicate.meaning_truth_eq_true_iff :
    (leaf position (.truth column true)).meaning (Truth.ofHeld held?) = .true ↔
      held? = some true := by
  rcases held? with _ | (held | held) <;> simp [meaning, Truth.ofHeld]

/-- A truth value equals true or false, unless it is missing. -/
theorem Predicate.meaning_anyTruth_eq_true_iff :
    (any [leaf position (.truth column true), leaf position (.truth column false)]).meaning
        (Truth.ofHeld held?) = .true ↔
      held? ≠ none := by
  rcases held? with _ | (held | held) <;> simp [meaning, meaningAny, Truth.ofHeld, Truth.or]

end Held

namespace Filter

variable {filter : Filter}

/-- A filter that asks for a truth value is valid exactly if its value is one of the words. -/
theorem isValid_iff_of_truth (asks : filter.criterion.operation = .truth) :
    filter.IsValid ↔ ∃ word ∈ filter.criterion.value?, IsTrueWord word ∨ IsFalseWord word := by
  simp only [Option.mem_def, ← isBooleanToken_iff]
  constructor
  · exact fun valid => valid.token asks
  · rintro ⟨word, given, isToken⟩
    constructor
    case operation => exact .inr asks
    case token => exact fun _ => ⟨word, given, isToken⟩
    case values => simp [asks]
    case operand => simp [asks, Operation.comparesColumns]
    case value => simp [given]
    case format => simp [asks, Operation.isUnformatted]

/-- The violation is reported exactly of values that are none of the words. -/
theorem breaks_booleanTokenInvalid_iff (asks : filter.criterion.operation = .truth) :
    filter.Breaks .booleanTokenInvalid ↔
      ∀ text ∈ filter.criterion.value?, ¬ (IsTrueWord text ∨ IsFalseWord text) := by
  simp only [Breaks, asks, true_and, ← isBooleanToken_iff, Bool.not_eq_true]

/-- What a filter that takes a word comes to with the word. -/
structure Means (filter : Filter) (predicate : Predicate) (position : Nat) (word : String) :
    Prop where
  true_iff :
    predicate = .leaf position (.truth filter.criterion.column.name true) ↔ IsTrueWord word
  false_iff :
    predicate =
        .any [.leaf position (.truth filter.criterion.column.name true),
          .leaf position (.truth filter.criterion.column.name false)] ↔
      IsFalseWord word
  /-- A word for true selects what is true, a word for false whatever is not empty. -/
  selects_iff : ∀ held?, predicate.meaning (Truth.ofHeld held?) = .true ↔
    (IsTrueWord word ∧ held? = some true) ∨ (IsFalseWord word ∧ held? ≠ none)

/-- What a word asks of the column, in three-valued logic. -/
theorem means_of_word [Machine] {table : Table} {position : Nat} {word : String}
    (asks : filter.criterion.operation = .truth)
    (found : table.hasColumn filter.criterion.column.name = true)
    (given : filter.criterion.value? = some word) (known : IsTrueWord word ∨ IsFalseWord word) :
    ∃ predicate, filter.predicate table position = .ok predicate ∧
      filter.Means predicate position word := by
  refine ⟨_, predicate_of_token found asks given position, ?_⟩
  rcases known with isTrue | isFalse
  · have notFalse := isTrue.not_isFalseWord
    rw [tokenComparisons, if_pos (isTrueToken_iff.mpr isTrue)]
    constructor
    case true_iff => exact iff_of_true rfl isTrue
    case false_iff => exact iff_of_false Predicate.noConfusion notFalse
    case selects_iff =>
      intro held?
      rw [Predicate.ofComparisons, Predicate.meaning_truth_eq_true_iff]
      simp only [isTrue, notFalse, true_and, false_and, or_false]
  · have notTrue : ¬ IsTrueWord word := fun isTrue => isTrue.not_isFalseWord isFalse
    rw [tokenComparisons, if_neg fun token => notTrue (isTrueToken_iff.mp token)]
    constructor
    case true_iff => exact iff_of_false Predicate.noConfusion notTrue
    case false_iff => exact iff_of_true rfl isFalse
    case selects_iff =>
      intro held?
      have selects := Predicate.meaning_anyTruth_eq_true_iff position
        filter.criterion.column.name held?
      simp only [isFalse, notTrue, true_and, false_and, false_or]
      exact selects

/--
Which texts are words, and what a filter comes to that takes one: it is valid exactly if it has a
word, it is reported for its word exactly if it has none, and the predicate of a valid one tells the
words for true from those for false.
-/
theorem boolean_words [Machine] :
    (∀ text, isTrueToken text = true ↔ IsTrueWord text) ∧
      (∀ text, isBooleanToken text = true ↔ IsTrueWord text ∨ IsFalseWord text) ∧
      ∀ (filter : Filter) (config : Config), filter.criterion.operation = .truth →
        (filter.validate config = [] ↔
            ∃ word ∈ filter.criterion.value?, IsTrueWord word ∨ IsFalseWord word) ∧
          (.booleanTokenInvalid ∈ filter.violationKinds config ↔
            ∀ text ∈ filter.criterion.value?, ¬ (IsTrueWord text ∨ IsFalseWord text)) ∧
          (filter.validate config = [] →
            ∃ word ∈ filter.criterion.value?, ∀ (table : Table) (position : Nat),
              table.hasColumn filter.criterion.column.name = true →
                ∃ predicate, filter.predicate table position = .ok predicate ∧
                  filter.Means predicate position word) := by
  refine ⟨fun _ => isTrueToken_iff, fun _ => isBooleanToken_iff, fun filter config asks => ?_⟩
  have validIff := isValid_iff_of_truth asks
  rw [validate_eq_nil_iff, mem_violationKinds_iff, breaks_booleanTokenInvalid_iff asks]
  refine ⟨validIff, Iff.rfl, fun valid => ?_⟩
  rcases validIff.mp valid with ⟨word, given, known⟩
  exact ⟨word, given, fun table position found => means_of_word asks found given known⟩

/-- A filter that takes a word for a truth value, with a text for the word. -/
def wordFilter (text : String) : Filter :=
  ⟨⟨⟨"active", .boolean⟩, .truth, false, some text, none, none⟩, .boolean⟩

/-- A table with a column of truth values. -/
def wordTable : Table :=
  ⟨"people", [⟨"active", .boolean⟩]⟩

/-- The case of letters does not matter, the long s is one, and another word is reported. -/
theorem boolean_words_mixed :
    Filter.predicate (wordFilter "TrUe") wordTable 3 = .ok (.leaf 3 (.truth "active" true)) ∧
      Filter.predicate (wordFilter "fALſE") wordTable 3 =
        .ok (.any [.leaf 3 (.truth "active" true), .leaf 3 (.truth "active" false)]) ∧
      .booleanTokenInvalid ∈ (wordFilter "no").violationKinds ⟨true, false, ⟨2024, 5, 6⟩⟩ := by
  rcases boolean_words with ⟨_, _, words⟩
  have compiled (text : String) (known : IsTrueWord text ∨ IsFalseWord text) :
      ∃ predicate, (wordFilter text).predicate wordTable 3 = .ok predicate ∧
        (wordFilter text).Means predicate 3 text := by
    rcases words (wordFilter text) ⟨true, false, ⟨2024, 5, 6⟩⟩ rfl with ⟨validIff, _, compiles⟩
    rcases compiles (validIff.mpr ⟨text, rfl, known⟩) with ⟨word, given, means⟩
    cases given
    exact means wordTable 3 rfl
  refine ⟨?_, ?_, ?_⟩
  · have isTrue : IsTrueWord "TrUe" := by decide
    rcases compiled "TrUe" (.inl isTrue) with ⟨_, compiled, means⟩
    rw [compiled, means.true_iff.mpr isTrue]
    rfl
  · have isFalse : IsFalseWord "fALſE" := by decide
    rcases compiled "fALſE" (.inr isFalse) with ⟨_, compiled, means⟩
    rw [compiled, means.false_iff.mpr isFalse]
    rfl
  · rcases words (wordFilter "no") ⟨true, false, ⟨2024, 5, 6⟩⟩ rfl with ⟨_, reportedIff, _⟩
    refine reportedIff.mpr fun text given => ?_
    cases given
    decide

end Filter

end Criteria
