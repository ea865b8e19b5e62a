import Mathlib.Data.List.Forall2
import Mathlib.Data.List.Infix
import Criteria.Text.CaseMapping

/-!
# Case mappings backwards

Every run of a case mapping has at most one code point that it sends to a given one.  So the mapping
can be read backwards: `CaseMapping.sources` holds all that may become a given letter
(`CaseMapping.toNat_mem_sources`).

Some characters become several letters.  They play no part in a word in which those letters do not
stand side by side, and a text becomes such a word letter by letter
(`CaseMapping.flatMap_image_eq_iff_forall₂`).
-/

namespace Criteria.Text

/-! ## One character -/

/-- The code point that the run would send to the given one. -/
def CaseRun.source (run : CaseRun) (image : Nat) : Nat :=
  run.first + (image - run.image)

theorem CaseRun.source_send {run : CaseRun} {point : Nat} (covered : run.covers point = true) :
    run.source (run.send point) = point := by
  simp only [covers, Bool.and_eq_true, decide_eq_true_eq] at covered
  unfold source send
  omega

/-- Only its own code point yields a character; the invalid ones yield the null character. -/
theorem eq_toNat_of_ofNat {image : Nat} {letter : Char} (notNull : letter ≠ '\x00')
    (same : Char.ofNat image = letter) : image = letter.toNat := by
  subst same
  by_cases valid : image.isValidChar
  · rw [Char.ofNat, dif_pos valid]
    rfl
  · rw [Char.ofNat, dif_neg valid] at notNull
    exact absurd rfl notNull

namespace CaseMapping

variable {mapping : CaseMapping} {point image : Nat}

/-- A code point becomes several, or it moves with a run, or it stays where it is. -/
theorem points_cases (mapping : CaseMapping) (point : Nat) :
    (point, mapping.points point) ∈ mapping.expansions ∨
      (∃ run ∈ mapping.runs, run.covers point = true ∧
        mapping.points point = [run.send point]) ∨
      mapping.points point = [point] := by
  unfold points
  cases expanded : mapping.expansions.lookup point with
  | some images =>
      rcases List.lookup_eq_some_iff.mp expanded with ⟨before, after, listed, _⟩
      rw [listed]
      exact .inl (List.mem_append_right before List.mem_cons_self)
  | none =>
      cases moved : mapping.runs.find? (·.covers point) with
      | none => exact .inr (.inr rfl)
      | some run =>
          refine .inr (.inl ⟨run, List.mem_of_find?_eq_some moved, ?_, rfl⟩)
          simpa using List.find?_some moved

/-- The code points that may have the given one as their image. -/
def sources (mapping : CaseMapping) (image : Nat) : List Nat :=
  image :: ((mapping.expansions.filter fun expansion => expansion.2 == [image]).map (·.1) ++
    (mapping.runs.filter fun run =>
      run.covers (run.source image) && run.send (run.source image) == image).map (·.source image))

/-- The sources of a code point are all that can be mapped to it. -/
theorem mem_sources (same : mapping.points point = [image]) : point ∈ mapping.sources image := by
  rcases mapping.points_cases point with expanded | ⟨run, member, covered, sent⟩ | stays
  · rw [same] at expanded
    refine List.mem_cons_of_mem image (List.mem_append_left _ (List.mem_map.mpr ?_))
    exact ⟨_, List.mem_filter.mpr ⟨expanded, beq_self_eq_true _⟩, rfl⟩
  · rw [same, List.singleton_inj] at sent
    subst sent
    have source := CaseRun.source_send covered
    refine List.mem_cons_of_mem _ (List.mem_append_right _ (List.mem_map.mpr ?_))
    refine ⟨run, List.mem_filter.mpr ⟨member, ?_⟩, source⟩
    rw [source, covered, beq_self_eq_true]
    rfl
  · rw [same, List.singleton_inj] at stays
    subst stays
    exact List.mem_cons_self

theorem toNat_mem_sources {character letter : Char} (notNull : letter ≠ '\x00')
    (same : mapping.image character = [letter]) :
    character.toNat ∈ mapping.sources letter.toNat := by
  rcases List.map_eq_singleton_iff.mp same with ⟨image, points, yields⟩
  rw [eq_toNat_of_ofNat notNull yields] at points
  exact mem_sources points

/-- What holds of all sources of the given code points holds of what becomes such a letter. -/
theorem variant_of_image_eq {variant : Char → Char → Prop} {points : List Nat}
    {character letter : Char} (notNull : letter ≠ '\x00') (listed : letter.toNat ∈ points)
    (complete : ∀ point ∈ points, ∀ source ∈ mapping.sources point,
      variant (Char.ofNat point) (Char.ofNat source))
    (same : mapping.image character = [letter]) : variant letter character := by
  have source := complete letter.toNat listed _ (toNat_mem_sources notNull same)
  rwa [Char.ofNat_toNat, Char.ofNat_toNat] at source

/-- A character becomes a single one, or it is one of those that become several. -/
theorem image_cases (mapping : CaseMapping) (character : Char) :
    (∃ expansion ∈ mapping.expansions, mapping.image character = expansion.2.map Char.ofNat) ∨
      ∃ letter, mapping.image character = [letter] := by
  unfold image
  rcases mapping.points_cases character.toNat with expanded | ⟨run, _, _, sent⟩ | stays
  · exact .inl ⟨_, expanded, rfl⟩
  · exact .inr ⟨Char.ofNat (run.send character.toNat), by rw [sent]; rfl⟩
  · exact .inr ⟨Char.ofNat character.toNat, by rw [stays]; rfl⟩

/-! ## Words -/

/-- No stretch of the word comes from a single character. -/
def Spares (mapping : CaseMapping) (word : List Char) : Prop :=
  ∀ expansion ∈ mapping.expansions, ¬ expansion.2.map Char.ofNat <:+: word

instance (mapping : CaseMapping) (word : List Char) : Decidable (mapping.Spares word) :=
  inferInstanceAs (Decidable
    (∀ expansion ∈ mapping.expansions, ¬ expansion.2.map Char.ofNat <:+: word))

theorem Spares.tail {letter : Char} {rest : List Char} (spares : mapping.Spares (letter :: rest)) :
    mapping.Spares rest :=
  fun expansion member inside =>
    spares expansion member (inside.trans (List.suffix_cons letter rest).isInfix)

/-- A text becomes a word letter by letter, if no stretch of it comes from a single character. -/
theorem flatMap_image_eq_iff_forall₂ {variant : Char → Char → Prop} {text word : List Char}
    (letters : ∀ letter ∈ word, ∀ character,
      mapping.image character = [letter] ↔ variant letter character)
    (spares : mapping.Spares word) :
    text.flatMap mapping.image = word ↔ List.Forall₂ variant word text := by
  induction text generalizing word with
  | nil =>
      rw [List.forall₂_nil_right_iff]
      exact eq_comm
  | cons character rest hypothesis =>
      rw [List.flatMap_cons]
      constructor
      · rintro rfl
        rcases mapping.image_cases character with ⟨expansion, member, several⟩ | ⟨letter, single⟩
        · rw [several] at spares
          exact absurd (List.prefix_append _ _).isInfix (spares expansion member)
        · rw [single, List.singleton_append] at letters spares ⊢
          have variant := (letters letter List.mem_cons_self character).mp single
          have others := List.forall_mem_of_forall_mem_cons letters
          exact .cons variant ((hypothesis others spares.tail).mp rfl)
      · intro variants
        cases variants with
        | @cons letter _ _ _ variant others =>
            have single := (letters letter List.mem_cons_self character).mpr variant
            have following := List.forall_mem_of_forall_mem_cons letters
            rw [single, (hypothesis following spares.tail).mpr others]
            rfl

end CaseMapping

/-! ## The letters of ASCII -/

/-- The upper-case letters of ASCII. -/
def upperPoints : List Nat :=
  List.range' 65 26

/-- The lower-case letters of ASCII. -/
def lowerPoints : List Nat :=
  List.range' 97 26

variable {character letter : Char}

theorem mem_upperPoints (upper : letter.isUpper = true) : letter.toNat ∈ upperPoints := by
  have bounds : 'A'.val ≤ letter.val ∧ letter.val ≤ 'Z'.val := of_decide_eq_true upper
  rw [upperPoints, List.mem_range'_1]
  exact ⟨bounds.1, Nat.lt_succ_of_le bounds.2⟩

theorem mem_lowerPoints (lower : letter.isLower = true) : letter.toNat ∈ lowerPoints := by
  rcases Bool.and_eq_true_iff.mp lower with ⟨least, most⟩
  have bounds : 'a'.val ≤ letter.val ∧ letter.val ≤ 'z'.val :=
    ⟨of_decide_eq_true least, of_decide_eq_true most⟩
  rw [lowerPoints, List.mem_range'_1]
  exact ⟨bounds.1, Nat.lt_succ_of_le bounds.2⟩

theorem toLower_of_not_isUpper (other : character.isUpper = false) :
    character.toLower = character :=
  dif_neg (of_decide_eq_false other)

theorem toUpper_of_not_isLower (other : character.isLower = false) :
    character.toUpper = character := by
  refine dif_neg fun bounds => ?_
  have lower : character.isLower = true :=
    Bool.and_eq_true_iff.mpr ⟨decide_eq_true bounds.1, decide_eq_true bounds.2⟩
  rw [other] at lower
  cases lower

end Criteria.Text
