import Mathlib.Tactic.SplitIfs
import Criteria.Json.Printer
import Criteria.Json.Reader

/-!
# Strings in JSON

A character can be written inside a string in several ways (`Spells`): as it stands, by a letter
after a backslash, by the digits of its unit, or by those of a pair of units.  The writer chooses
one of them for each character (`spells_escape`), and whichever it is, the character is read back
(`Spells.readCharacters?`).  So the text of a list of strings is read back as the list, item by
item, and two lists never have the same text (`read?_render_strings`).
-/

namespace Criteria.Json

/-- Whether a character is one of the printable characters of ASCII. -/
def IsVisible (character : Char) : Prop :=
  0x20 ≤ character.toNat ∧ character.toNat < 0x7F

instance (character : Char) : Decidable (IsVisible character) :=
  inferInstanceAs (Decidable (_ ∧ _))

/-! ## The digits of a unit -/

theorem unitEscape.digit_mod (value : Nat) : digit (value % 16) = digit value := by
  simp only [digit, Nat.mod_mod]

theorem hexDigit?_digit (value : Nat) : hexDigit? (unitEscape.digit value) = some (value % 16) := by
  have digits : ∀ small < 16, hexDigit? (unitEscape.digit small) = some small := by decide
  rw [← unitEscape.digit_mod, digits _ (Nat.mod_lt _ (by decide))]

theorem isVisible_digit (value : Nat) : IsVisible (unitEscape.digit value) := by
  have digits : ∀ small < 16, IsVisible (unitEscape.digit small) := by decide
  rw [← unitEscape.digit_mod]
  exact digits _ (Nat.mod_lt _ (by decide))

theorem isVisible_of_mem_unitEscape {unit : Nat} :
    ∀ character ∈ unitEscape unit, IsVisible character := by
  simp only [unitEscape, List.forall_mem_cons, isVisible_digit, true_and]
  exact ⟨by decide, by decide, nofun⟩

/-- The four digits of a unit tell which one it is. -/
theorem unit?_digits {unit : Nat} (bounded : unit < 0x10000) :
    unit? (unitEscape.digit (unit / 4096)) (unitEscape.digit (unit / 256))
      (unitEscape.digit (unit / 16)) (unitEscape.digit unit) = some unit := by
  simp only [unit?, hexDigit?_digit, Option.bind_eq_bind, Option.bind_some, Option.some.injEq]
  omega

/-! ## The spellings of a character -/

/-- The ways to write a character inside a string with printable characters of ASCII. -/
inductive Spells (character : Char) : List Char → Prop where
  | plain (visible : IsVisible character) (noMark : character ≠ '"') (noEscape : character ≠ '\\') :
      Spells character [character]
  | letter {letter : Char} (stands : shortEscape? letter = some character) :
      Spells character ['\\', letter]
  | unit (single : character.toNat < 0x10000) : Spells character (unitEscape character.toNat)
  | pair {lead trail : Nat} (isLead : isLeadUnit lead = true) (isTrail : isTrailUnit trail = true)
      (joined : pairCharacter lead trail = character) :
      Spells character (unitEscape lead ++ unitEscape trail)

theorem isLeadUnit_iff {unit : Nat} : isLeadUnit unit = true ↔ 0xD800 ≤ unit ∧ unit < 0xDC00 := by
  simp [isLeadUnit]

theorem isTrailUnit_iff {unit : Nat} :
    isTrailUnit unit = true ↔ 0xDC00 ≤ unit ∧ unit < 0xE000 := by
  simp [isTrailUnit]

/-- The unit of a character by itself is none that begins a pair. -/
theorem isLeadUnit_toNat (character : Char) : isLeadUnit character.toNat = false := by
  rw [← Bool.not_eq_true, isLeadUnit_iff]
  have valid : character.toNat < 0xD800 ∨ 0xDFFF < character.toNat ∧ character.toNat < 0x110000 :=
    character.valid
  omega

/-- A character beyond the units is that of a pair of them. -/
theorem spells_pair {character : Char} (beyond : 0x10000 ≤ character.toNat) :
    Spells character
      (unitEscape (0xD800 + (character.toNat - 0x10000) / 1024) ++
        unitEscape (0xDC00 + (character.toNat - 0x10000) % 1024)) := by
  have valid : character.toNat < 0xD800 ∨ 0xDFFF < character.toNat ∧ character.toNat < 0x110000 :=
    character.valid
  refine .pair (isLeadUnit_iff.mpr ?_) (isTrailUnit_iff.mpr ?_) ?_
  · omega
  · omega
  · have whole : 0x10000 + (0xD800 + (character.toNat - 0x10000) / 1024 - 0xD800) * 1024 +
        (0xDC00 + (character.toNat - 0x10000) % 1024 - 0xDC00) = character.toNat := by
      omega
    rw [pairCharacter, whole, Char.ofNat_toNat]

/-- What a character is escaped to spells it. -/
theorem spells_escape (character : Char) : Spells character (escape character) := by
  unfold escape
  split_ifs with mark backslash newline carriageReturn tab backspace formFeed visible single
  · exact .letter (by rw [mark]; rfl)
  · exact .letter (by rw [backslash]; rfl)
  · exact .letter (by rw [newline]; rfl)
  · exact .letter (by rw [carriageReturn]; rfl)
  · exact .letter (by rw [tab]; rfl)
  · exact .letter (by rw [backspace]; rfl)
  · exact .letter (by rw [formFeed]; rfl)
  · exact .plain visible mark backslash
  · exact .unit single
  · exact spells_pair (Nat.le_of_not_lt single)

/-- The letters that stand for a character after a backslash. -/
theorem mem_of_shortEscape? {letter character : Char}
    (stands : shortEscape? letter = some character) :
    letter ∈ ['"', '\\', '/', 'b', 'f', 'n', 'r', 't'] := by
  unfold shortEscape? at stands
  split at stands
  all_goals first | decide | cases stands

/-- Every character is spelled in visible characters. -/
theorem Spells.isVisible {character : Char} {text : List Char} (spells : Spells character text) :
    ∀ written ∈ text, IsVisible written := by
  cases spells with
  | plain visible => exact List.forall_mem_singleton.mpr visible
  | letter stands =>
      have letters :
          ['"', '\\', '/', 'b', 'f', 'n', 'r', 't'].all (fun letter => decide (IsVisible letter)) =
            true := by
        decide
      have visible := List.all_eq_true.mp letters _ (mem_of_shortEscape? stands)
      exact List.forall_mem_cons.mpr
        ⟨by decide, List.forall_mem_singleton.mpr (of_decide_eq_true visible)⟩
  | unit => exact isVisible_of_mem_unitEscape
  | pair =>
      exact List.forall_mem_append.mpr ⟨isVisible_of_mem_unitEscape, isVisible_of_mem_unitEscape⟩

/-! ## Reading one character -/

/-- Before what was read a character is put. -/
def prepend (character : Char) (read : Option (List Char × List Char)) :
    Option (List Char × List Char) :=
  read.map fun (characters, after) => (character :: characters, after)

/-- If a text begins with an escape by units, its digits can be read. -/
def StartsWhole (text : List Char) : Prop :=
  ∀ a b c d rest, text = '\\' :: 'u' :: a :: b :: c :: d :: rest → (unit? a b c d).isSome = true

theorem startsWhole_cons {first : Char} {rest : List Char} (other : first ≠ '\\') :
    StartsWhole (first :: rest) := by
  intro a b c d after same
  exact absurd (List.cons.inj same).1 other

theorem startsWhole_unitEscape {unit : Nat} (bounded : unit < 0x10000) (rest : List Char) :
    StartsWhole (unitEscape unit ++ rest) := by
  intro a b c d after same
  cases same
  rw [unit?_digits bounded]
  rfl

theorem Spells.startsWhole {character : Char} {text : List Char} (spells : Spells character text)
    (rest : List Char) : StartsWhole (text ++ rest) := by
  cases spells with
  | plain _ _ noEscape => exact startsWhole_cons noEscape
  | letter stands =>
      intro a b c d after same
      cases same
      cases stands
  | unit single => exact startsWhole_unitEscape single rest
  | pair isLead =>
      rw [List.append_assoc]
      exact startsWhole_unitEscape (by have := isLeadUnit_iff.mp isLead; omega) _

theorem readCharacters?_plain {character : Char} (visible : IsVisible character)
    (noMark : character ≠ '"') (noEscape : character ≠ '\\') (rest : List Char) :
    readCharacters? (character :: rest) = prepend character (readCharacters? rest) := by
  have printable : ¬ (character = '\\' ∨ character.toNat < 32) := by
    rw [not_or]
    exact ⟨noEscape, Nat.not_lt.mpr visible.1⟩
  rw [readCharacters?.eq_6 _ _ noMark (by simp [noEscape]) (by simp [noEscape])
    (by simp [noEscape]), if_neg printable]
  rfl

theorem readCharacters?_letter {letter character : Char}
    (stands : shortEscape? letter = some character) (rest : List Char) :
    readCharacters? ('\\' :: letter :: rest) = prepend character (readCharacters? rest) := by
  have noUnit : letter ≠ 'u' := by
    rintro rfl
    cases stands
  rw [readCharacters?.eq_5 _ _ (by simp [noUnit]) (by simp [noUnit]), stands]
  rfl

/-- Whether or not another escape by units follows, a unit by itself is one character. -/
theorem readCharacters?_unit {unit : Nat} (bounded : unit < 0x10000)
    (alone : isLeadUnit unit = false) {rest : List Char} (whole : StartsWhole rest) :
    readCharacters? (unitEscape unit ++ rest) =
      prepend (Char.ofNat unit) (readCharacters? rest) := by
  by_cases follows :
      ∃ e f g h after, rest = '\\' :: 'u' :: e :: f :: g :: h :: after
  · rcases follows with ⟨e, f, g, h, after, rfl⟩
    rcases Option.isSome_iff_exists.mp (whole e f g h after rfl) with ⟨next, read⟩
    simp only [unitEscape, List.cons_append, List.nil_append]
    rw [readCharacters?.eq_3, unit?_digits bounded, read]
    simp only [alone, Bool.false_and, Bool.false_eq_true, if_false]
    rfl
  · simp only [unitEscape, List.cons_append, List.nil_append]
    rw [readCharacters?.eq_4 _ _ _ _ _ fun e f g h after same => follows ⟨e, f, g, h, after, same⟩,
      unit?_digits bounded]
    rfl

/-- Two escapes that belong together are read as one character. -/
theorem readCharacters?_pair {lead trail : Nat} (isLead : isLeadUnit lead = true)
    (isTrail : isTrailUnit trail = true) (rest : List Char) :
    readCharacters? (unitEscape lead ++ (unitEscape trail ++ rest)) =
      prepend (pairCharacter lead trail) (readCharacters? rest) := by
  have leadBounded : lead < 0x10000 := by have := isLeadUnit_iff.mp isLead; omega
  have trailBounded : trail < 0x10000 := by have := isTrailUnit_iff.mp isTrail; omega
  simp only [unitEscape, List.cons_append, List.nil_append]
  rw [readCharacters?.eq_3, unit?_digits leadBounded, unit?_digits trailBounded]
  simp only [isLead, isTrail, Bool.and_self, if_true]
  rfl

/-- However a character is spelled, it is read. -/
theorem Spells.readCharacters? {character : Char} {text : List Char}
    (spells : Spells character text) {rest : List Char} (whole : StartsWhole rest) :
    readCharacters? (text ++ rest) = prepend character (readCharacters? rest) := by
  cases spells with
  | plain visible noMark noEscape => exact readCharacters?_plain visible noMark noEscape rest
  | letter stands => exact readCharacters?_letter stands rest
  | unit single =>
      rw [readCharacters?_unit single (isLeadUnit_toNat character) whole, Char.ofNat_toNat]
  | pair isLead isTrail joined =>
      rw [List.append_assoc, readCharacters?_pair isLead isTrail, joined]

/-! ## Reading strings -/

theorem startsWhole_escaped (characters rest : List Char) :
    StartsWhole (characters.flatMap escape ++ '"' :: rest) := by
  cases characters with
  | nil => exact startsWhole_cons (by decide)
  | cons character others =>
      rw [List.flatMap_cons, List.append_assoc]
      exact (spells_escape character).startsWhole _

/-- Characters are read back from what they are escaped to, up to the closing quotation mark. -/
theorem readCharacters?_escaped (characters rest : List Char) :
    readCharacters? (characters.flatMap escape ++ '"' :: rest) = some (characters, rest) := by
  induction characters with
  | nil => exact readCharacters?.eq_2 rest
  | cons character others hypothesis =>
      rw [List.flatMap_cons, List.append_assoc,
        (spells_escape character).readCharacters? (startsWhole_escaped others rest), hypothesis]
      rfl

theorem isVisible_of_mem_stringText (value : String) :
    ∀ written ∈ stringText value, IsVisible written := by
  intro written member
  simp only [stringText, List.mem_cons, List.mem_append, List.mem_flatMap, List.not_mem_nil,
    or_false] at member
  rcases member with rfl | ⟨character, _, member⟩ | rfl
  · decide
  · exact (spells_escape character).isVisible written member
  · decide

theorem skipSpace_stringText (value : String) (rest : List Char) :
    skipSpace (stringText value ++ rest) = stringText value ++ rest :=
  List.dropWhile_cons_of_neg (by decide)

/-- A string is read from its text, wherever the text begins after the blanks. -/
theorem readValue?_stringText {text rest : List Char} {value : String}
    (begins : skipSpace text = stringText value ++ rest) (fuel : Nat) :
    readValue? (fuel + 1) text = some (.string value, rest) := by
  rw [readValue?.eq_2, begins]
  simp only [stringText, List.cons_append, List.append_assoc, List.nil_append]
  rw [readCharacters?_escaped]
  simp

/-! ## Reading lists of strings -/

theorem itemsText_strings_cons (value : String) (values : List String) :
    itemsText ((value :: values).map string) =
      stringText value ++
        if values = [] then [] else ',' :: ' ' :: itemsText (values.map string) := by
  cases values with
  | nil => simp [itemsText, text]
  | cons next others => simp [itemsText, text]

theorem isVisible_of_mem_itemsText (values : List String) :
    ∀ written ∈ itemsText (values.map string), IsVisible written := by
  induction values with
  | nil => nofun
  | cons value values hypothesis =>
      rw [itemsText_strings_cons, List.forall_mem_append]
      refine ⟨isVisible_of_mem_stringText value, ?_⟩
      split_ifs
      · nofun
      · exact List.forall_mem_cons.mpr ⟨by decide, List.forall_mem_cons.mpr ⟨by decide, hypothesis⟩⟩

theorem length_le_length_itemsText (values : List String) :
    values.length ≤ (itemsText (values.map string)).length := by
  induction values with
  | nil => exact Nat.zero_le _
  | cons value values hypothesis =>
      rw [itemsText_strings_cons]
      split_ifs with last
      · simp [last, stringText]
      · simp only [stringText, List.length_append, List.length_cons, List.length_nil]
        omega

/-- The items of a list are read one by one, with enough fuel for each of them. -/
theorem readItems?_strings {values : List String} (nonempty : values ≠ []) {text after : List Char}
    (begins : skipSpace text = itemsText (values.map string) ++ ']' :: after) {fuel : Nat}
    (enough : values.length < fuel) :
    readItems? fuel text = some (values.map string, after) := by
  induction values generalizing text fuel with
  | nil => exact absurd rfl nonempty
  | cons value values hypothesis =>
      obtain ⟨fuel, rfl⟩ : ∃ less, fuel = less + 2 := ⟨fuel - 2, by
        rw [List.length_cons] at enough
        omega⟩
      rw [itemsText_strings_cons, List.append_assoc] at begins
      rw [readItems?.eq_2, readValue?_stringText begins]
      by_cases last : values = []
      · subst last
        rfl
      · have next : skipSpace (' ' :: (itemsText (values.map string) ++ ']' :: after)) =
            itemsText (values.map string) ++ ']' :: after := by
          obtain ⟨head, others, rfl⟩ := List.exists_cons_of_ne_nil last
          rw [itemsText_strings_cons, List.append_assoc]
          exact skipSpace_stringText head _
        rw [List.length_cons] at enough
        have read := hypothesis last next (by omega : values.length < fuel + 1)
        rw [if_neg last]
        have separated (rest : List Char) : skipSpace (',' :: rest) = ',' :: rest :=
          List.dropWhile_cons_of_neg (by decide)
        simp only [List.cons_append, separated]
        rw [read]
        rfl

theorem skipSpace_openBracket (rest : List Char) : skipSpace ('[' :: rest) = '[' :: rest :=
  List.dropWhile_cons_of_neg (by decide)

/-- A list that begins with a string is read item by item. -/
theorem readValue?_openBracket {rest items : List Char} (begins : skipSpace rest = '"' :: items)
    (fuel : Nat) :
    readValue? (fuel + 1) ('[' :: rest) =
      (readItems? fuel ('"' :: items)).map fun (items, after) => (array items, after) := by
  rw [readValue?.eq_2, skipSpace_openBracket]
  simp only [begins]
  rfl

/-- A list of strings is read back from its text. -/
theorem readValue?_strings (values : List String) {fuel : Nat} (enough : values.length < fuel) :
    readValue? (fuel + 1) ('[' :: (itemsText (values.map string) ++ [']'])) =
      some (array (values.map string), []) := by
  cases values with
  | nil =>
      rw [readValue?.eq_2, skipSpace_openBracket]
      rfl
  | cons value others =>
      have begins : skipSpace (itemsText ((value :: others).map string) ++ [']']) =
          itemsText ((value :: others).map string) ++ [']'] := by
        rw [itemsText_strings_cons, List.append_assoc]
        exact skipSpace_stringText value _
      obtain ⟨items, marked⟩ :
          ∃ items, itemsText ((value :: others).map string) ++ [']'] = '"' :: items := by
        rw [itemsText_strings_cons]
        exact ⟨_, rfl⟩
      rw [readValue?_openBracket (begins.trans marked), ← marked,
        readItems?_strings (List.cons_ne_nil value others) begins enough]
      rfl

theorem toList_render_strings (values : List String) :
    (array (values.map string)).render.toList =
      '[' :: (itemsText (values.map string) ++ [']']) := by
  rw [render, String.toList_ofList, text]

/-- A list of strings is read back from its text. -/
theorem read?_render_strings (values : List String) :
    read? (array (values.map string)).render = some (array (values.map string)) := by
  have enough : values.length < ('[' :: (itemsText (values.map string) ++ [']'])).length := by
    have fits := length_le_length_itemsText values
    simp only [List.length_cons, List.length_append]
    omega
  rw [read?, toList_render_strings, readValue?_strings values enough]
  rfl

/-- The text of a list of strings has only visible characters. -/
theorem isVisible_of_mem_render_strings (values : List String) :
    ∀ written ∈ (array (values.map string)).render.toList, IsVisible written := by
  rw [toList_render_strings, List.forall_mem_cons, List.forall_mem_append,
    List.forall_mem_singleton]
  exact ⟨by decide, isVisible_of_mem_itemsText values, by decide⟩

/-- Lists of strings with the same text are the same list. -/
theorem render_strings_inj {first second : List String} :
    (array (first.map string)).render = (array (second.map string)).render ↔ first = second := by
  constructor
  · intro same
    have read := (read?_render_strings first).symm.trans
      ((congrArg read? same).trans (read?_render_strings second))
    have items : first.map string = second.map string := by simpa using read
    exact (List.map_inj_right fun _ _ => string.inj).mp items
  · rintro rfl
    rfl

end Criteria.Json
