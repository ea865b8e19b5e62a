import Criteria.Proofs.Text.CaseMapping
import Criteria.Text.Uppercase

/-!
# What is a word in upper case

Read backwards, the table of upper-casing says what becomes an upper-case letter of ASCII: the
letter itself, its lower case, for I the i without a dot, and for S the long s
(`uppercase_eq_singleton_iff`).  Nothing but the underscore has an underscore in its upper case
(`underscore_notMem_uppercase`).  Ligatures become several letters; a word in which these do not
stand side by side is the upper case of its spellings letter by letter and of nothing else
(`uppercaseText_eq_iff_forall₂`).
-/

namespace Criteria.Text

variable {character letter : Char}

/-! ## Letters -/

theorem uppercase_toUpper_ofNat :
    ∀ point ∈ lowerPoints, uppercase (Char.ofNat point).toUpper = uppercase (Char.ofNat point) := by
  decide

theorem uppercase_ofNat :
    ∀ point ∈ upperPoints, uppercase (Char.ofNat point) = [Char.ofNat point] := by
  decide

/-- Upper-casing makes no difference between the cases of ASCII. -/
theorem uppercase_toUpper (character : Char) :
    uppercase character.toUpper = uppercase character := by
  cases lower : character.isLower with
  | true =>
      have raised := uppercase_toUpper_ofNat character.toNat (mem_lowerPoints lower)
      rwa [Char.ofNat_toNat] at raised
  | false => rw [toUpper_of_not_isLower lower]

theorem uppercase_of_isUpper (upper : letter.isUpper = true) : uppercase letter = [letter] := by
  have raised := uppercase_ofNat letter.toNat (mem_upperPoints upper)
  rwa [Char.ofNat_toNat] at raised

/-- The letter in upper or lower case, the i without a dot for I, or the long s for S. -/
def IsCapitalOf (letter character : Char) : Prop :=
  character.toUpper = letter ∨ (letter = 'I' ∧ character = 'ı') ∨ (letter = 'S' ∧ character = 'ſ')

instance (letter character : Char) : Decidable (IsCapitalOf letter character) :=
  inferInstanceAs (Decidable (_ ∨ _))

theorem isCapitalOf_of_mem_sources :
    ∀ point ∈ upperPoints, ∀ source ∈ uppercaseMapping.sources point,
      IsCapitalOf (Char.ofNat point) (Char.ofNat source) := by
  decide

/-- The characters whose upper case is a letter are those that it is the capital of. -/
theorem uppercase_eq_singleton_iff (upper : letter.isUpper = true) :
    uppercase character = [letter] ↔ IsCapitalOf letter character := by
  constructor
  · intro raised
    have notNull : letter ≠ '\x00' := by
      rintro rfl
      cases upper
    exact CaseMapping.variant_of_image_eq notNull (mem_upperPoints upper)
      isCapitalOf_of_mem_sources raised
  · rintro (same | ⟨rfl, rfl⟩ | ⟨rfl, rfl⟩)
    · rw [← uppercase_toUpper, same, uppercase_of_isUpper upper]
    · decide
    · decide

/-! ## Underscores -/

theorem underscore_notMem_expansions :
    ∀ expansion ∈ uppercaseMapping.expansions, '_' ∉ expansion.2.map Char.ofNat := by
  decide

theorem sources_underscore : uppercaseMapping.sources '_'.toNat = ['_'.toNat] := by
  decide

/-- Only the underscore has one in its upper case. -/
theorem underscore_notMem_uppercase (other : character ≠ '_') : '_' ∉ uppercase character := by
  intro member
  unfold uppercase at member
  rcases uppercaseMapping.image_cases character with
    ⟨expansion, listed, several⟩ | ⟨letter, single⟩
  · rw [several] at member
    exact underscore_notMem_expansions expansion listed member
  · rw [single, List.mem_singleton] at member
    subst member
    have source := CaseMapping.toNat_mem_sources (by decide) single
    rw [sources_underscore, List.mem_singleton] at source
    exact other (Char.toNat_inj.mp source)

/-! ## Words -/

/-- A word of upper-case letters of ASCII is its own upper case. -/
theorem uppercaseText_of_isUpper {word : List Char}
    (upper : word.all Char.isUpper = true) : uppercaseText word = word := by
  induction word with
  | nil => rfl
  | cons letter rest hypothesis =>
      rw [List.all_cons, Bool.and_eq_true] at upper
      rw [uppercaseText, List.flatMap_cons, ← uppercaseText, uppercase_of_isUpper upper.1,
        hypothesis upper.2]
      rfl

/-- A text is raised to a word exactly if it is raised to it letter by letter. -/
theorem uppercaseText_eq_iff_forall₂ {text word : List Char}
    (upper : word.all Char.isUpper = true) (spares : uppercaseMapping.Spares word) :
    uppercaseText text = word ↔ List.Forall₂ IsCapitalOf word text :=
  CaseMapping.flatMap_image_eq_iff_forall₂
    (fun letter member _ => uppercase_eq_singleton_iff (List.all_eq_true.mp upper letter member))
    spares

end Criteria.Text
