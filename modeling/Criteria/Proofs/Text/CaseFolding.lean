import Criteria.Proofs.Text.CaseMapping
import Criteria.Text.CaseFolding

/-!
# What folds into a word

Read backwards, the table of case folding says what folds into a lower-case letter of ASCII: the
letter itself, its upper case, for s the long s, and for k the sign of the kelvin
(`fold_eq_singleton_iff`).  A word in which no stretch comes from a single character is folded into
letter by letter (`foldText_eq_iff_forall₂`).
-/

namespace Criteria.Text

/-! ## What folds into a letter -/

variable {character letter : Char}

theorem fold_toLower_ofNat :
    ∀ point ∈ upperPoints, fold (Char.ofNat point).toLower = fold (Char.ofNat point) := by
  decide

theorem fold_ofNat : ∀ point ∈ lowerPoints, fold (Char.ofNat point) = [Char.ofNat point] := by
  decide

/-- Folding makes no difference between the cases of ASCII. -/
theorem fold_toLower (character : Char) : fold character.toLower = fold character := by
  cases upper : character.isUpper with
  | true =>
      have folded := fold_toLower_ofNat character.toNat (mem_upperPoints upper)
      rwa [Char.ofNat_toNat] at folded
  | false => rw [toLower_of_not_isUpper upper]

theorem fold_of_isLower (lower : letter.isLower = true) : fold letter = [letter] := by
  have folded := fold_ofNat letter.toNat (mem_lowerPoints lower)
  rwa [Char.ofNat_toNat] at folded

theorem foldText_map_toLower (text : List Char) :
    foldText (text.map Char.toLower) = foldText text := by
  simp only [foldText, List.flatMap_map, fold_toLower]

/-- The letter in lower or upper case, the long s for s, or the sign of the kelvin for k. -/
def IsVariantOf (letter character : Char) : Prop :=
  character.toLower = letter ∨ (letter = 's' ∧ character = 'ſ') ∨
    (letter = 'k' ∧ character = '\u212A')

instance (letter character : Char) : Decidable (IsVariantOf letter character) :=
  inferInstanceAs (Decidable (_ ∨ _))

/-- But for s and k, a letter varies in its case only. -/
theorem IsVariantOf.toLower_eq (variant : IsVariantOf letter character)
    (noS : letter ≠ 's') (noK : letter ≠ 'k') : character.toLower = letter := by
  rcases variant with same | ⟨isS, _⟩ | ⟨isK, _⟩
  · exact same
  · exact absurd isS noS
  · exact absurd isK noK

theorem isVariantOf_of_mem_sources :
    ∀ point ∈ lowerPoints, ∀ source ∈ foldingMapping.sources point,
      IsVariantOf (Char.ofNat point) (Char.ofNat source) := by
  decide

/-- The characters that fold into a letter are its variants. -/
theorem fold_eq_singleton_iff (lower : letter.isLower = true) :
    fold character = [letter] ↔ IsVariantOf letter character := by
  constructor
  · intro folded
    have notNull : letter ≠ '\x00' := by
      rintro rfl
      cases lower
    exact CaseMapping.variant_of_image_eq notNull (mem_lowerPoints lower)
      isVariantOf_of_mem_sources folded
  · rintro (same | ⟨rfl, rfl⟩ | ⟨rfl, rfl⟩)
    · rw [← fold_toLower, same, fold_of_isLower lower]
    · decide
    · decide

/-! ## What folds into a word -/

/-- A word of lower-case letters into which no stretch comes from a single character. -/
structure IsPlain (word : List Char) : Prop where
  lower : word.all Char.isLower = true
  unexpanded : ∀ expansion ∈ foldingExpansions, ¬ expansion.2.map Char.ofNat <:+: word

instance (word : List Char) : Decidable (IsPlain word) :=
  decidable_of_iff (_ ∧ _)
    ⟨fun both => ⟨both.1, both.2⟩, fun plain => ⟨plain.lower, plain.unexpanded⟩⟩

/-- Plain words are folded into letter by letter. -/
theorem foldText_eq_iff_forall₂ {text word : List Char} (plain : IsPlain word) :
    foldText text = word ↔ List.Forall₂ IsVariantOf word text :=
  CaseMapping.flatMap_image_eq_iff_forall₂
    (fun letter member _ => fold_eq_singleton_iff (List.all_eq_true.mp plain.lower letter member))
    plain.unexpanded

/-- Without s and k only the upper case folds to another letter. -/
theorem foldText_eq_iff_map_toLower
    {text word : List Char} (plain : IsPlain word) (noS : 's' ∉ word) (noK : 'k' ∉ word) :
    foldText text = word ↔ text.map Char.toLower = word := by
  rw [foldText_eq_iff_forall₂ plain]
  constructor
  · intro variants
    clear plain
    induction variants with
    | nil => rfl
    | @cons letter character _ _ variant _ hypothesis =>
        rw [List.mem_cons, not_or] at noS noK
        have lowered := variant.toLower_eq (Ne.symm noS.1) (Ne.symm noK.1)
        rw [List.map_cons, lowered, hypothesis noS.2 noK.2]
  · rintro rfl
    rw [List.forall₂_map_left_iff, List.forall₂_same]
    exact fun _ _ => .inl rfl

end Criteria.Text
