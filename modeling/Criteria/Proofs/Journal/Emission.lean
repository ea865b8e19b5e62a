import Mathlib.Tactic.Tauto
import Criteria.Journal
import Criteria.Proofs.Success

/-!
# What becomes of an event

Once there is a place to write to, an event is refused, suppressed or emitted.  It is refused for
what it says (`IsRefused`), whatever its level and whatever the thresholds.  Otherwise it is emitted
exactly if its level reaches the threshold of its logger (`emit_eq_ok_iff`), which is that of the
journal except for the loggers of the library that runs the statements (`threshold_eq_ite`).
-/

namespace Criteria

/-! ## Entries by name -/

theorem Json.lookup_singleton (field : String × Json) (name : String) :
    [field].lookup name = if name = field.1 then some field.2 else none := by
  rw [List.lookup_cons, List.lookup_nil]
  split_ifs with same
  · rw [same, beq_self_eq_true]
  · rw [beq_false_of_ne same]

/-- Of several fields of one name the last one counts. -/
theorem Json.lookup_foldl_setEntry (fields entries : List (String × Json)) (name : String) :
    (fields.foldl (fun entries (name, value) => Json.setEntry name value entries) entries).lookup
        name =
      (fields.reverse.lookup name).or (entries.lookup name) := by
  induction fields generalizing entries with
  | nil => rfl
  | cons field rest hypothesis =>
      rw [List.foldl_cons, hypothesis, Json.lookup_setEntry, List.reverse_cons, List.lookup_append,
        Option.or_assoc, lookup_singleton]
      split_ifs <;> rfl

theorem Json.lookup_filter {entries : List (String × Json)} {name : String} (keep : String → Bool)
    (kept : keep name = true) :
    (entries.filter fun entry => keep entry.1).lookup name = entries.lookup name := by
  induction entries with
  | nil => rfl
  | cons first rest hypothesis =>
      rw [List.filter_cons, List.lookup_cons]
      by_cases same : name = first.1
      · rw [← same, kept, if_pos rfl, List.lookup_cons, ← same, beq_self_eq_true]
      · rw [beq_false_of_ne same]
        split_ifs
        · rw [List.lookup_cons, beq_false_of_ne same, hypothesis]
        · exact hypothesis

/-! ## Calls -/

/-- An open signature with nothing missing fits unless a name is taken already. -/
theorem Signature.exists_bind_eq_ok_iff {signature : Signature} {positional : List Json}
    {named : List (String × Json)} (isOpen : signature.isOpen = true)
    (complete : signature.parameters.length ≤ positional.length) :
    (∃ arguments, signature.bind positional named = .ok arguments) ↔
      ∀ entry ∈ named, entry.1 ∉ signature.taken positional.length := by
  have nothing : signature.missing positional.length named = [] := by
    rw [Signature.missing, List.drop_eq_nil_of_le complete]
    rfl
  have mismatch (entry : String × Json) :
      signature.mismatchOf? positional.length entry.1 = none ↔
        entry.1 ∉ signature.taken positional.length := by
    rw [Signature.mismatchOf?, isOpen]
    simp
  simp only [← mismatch, ← List.findSome?_eq_none_iff]
  rw [Signature.bind]
  split
  · next found => simp [found]
  · next fits => simp [fits, isOpen, nothing]

namespace Journal

/-! ## Thresholds by name -/

/-- The logger has this name, or a name below it. -/
def IsWithin (parent logger : String) : Prop :=
  logger = parent ∨ ∃ rest, logger = parent ++ "." ++ rest

theorem isWithin_iff_prefix {parent logger : String} :
    IsWithin parent logger ↔ logger = parent ∨ (parent ++ ".").toList <+: logger.toList := by
  refine or_congr_right ⟨?_, ?_⟩
  · rintro ⟨rest, rfl⟩
    exact ⟨rest.toList, String.toList_append.symm⟩
  · rintro ⟨rest, split⟩
    refine ⟨String.ofList rest, String.toList_inj.mp ?_⟩
    rw [String.toList_append, String.toList_ofList, split]

instance (parent logger : String) : Decidable (IsWithin parent logger) :=
  decidable_of_iff' _ isWithin_iff_prefix

/-- The loggers of the library are those below its name. -/
theorem isQuiet_iff_isWithin {logger : String} :
    isQuiet logger = true ↔ IsWithin libraryName logger := by
  rw [isQuiet, Bool.or_eq_true, beq_iff_eq, List.isPrefixOf_iff_prefix, isWithin_iff_prefix]

variable {journal : Journal} {logger : String}

/-- The library keeps its own loggers quiet; all others follow the journal. -/
theorem threshold_eq_ite (journal : Journal) (logger : String) :
    journal.threshold logger =
      if IsWithin libraryName logger then Level.warning.number else journal.rootLevel.value :=
  if_congr isQuiet_iff_isWithin rfl rfl

/-! ## What an event says -/

/-- What is said under a name: by the last field of this name, or else by the context. -/
def said (journal : Journal) (fields : List (String × Json)) (name : String) : Json :=
  ((fields.reverse.lookup name).or (journal.context.lookup name)).getD .null

/-- The fields by name, of two with one name the last one. -/
def distinctFields (fields : List (String × Json)) : List (String × Json) :=
  fields.foldl (fun entries (name, value) => Json.setEntry name value entries) []

theorem lookup_distinctFields (fields : List (String × Json)) (name : String) :
    (distinctFields fields).lookup name = fields.reverse.lookup name := by
  rw [distinctFields, Json.lookup_foldl_setEntry, List.lookup_nil, Option.or_none]

/-- The context says something only where the event says nothing itself. -/
theorem lookup_foldl_addEntry (context entries : List (String × Json)) (name : String) :
    (context.foldl addEntry entries).lookup name =
      (entries.lookup name).or (context.lookup name) := by
  induction context generalizing entries with
  | nil => rw [List.foldl_nil, List.lookup_nil, Option.or_none]
  | cons first rest hypothesis =>
      rw [List.foldl_cons, hypothesis, ← List.singleton_append, List.lookup_append,
        ← Option.or_assoc]
      refine congrArg (Option.or · (rest.lookup name)) ?_
      rw [addEntry]
      split_ifs with present
      · rw [Json.lookup_singleton]
        split_ifs with same
        · rw [same, Option.or_of_isSome present]
        · rw [Option.or_none]
      · rw [List.lookup_append]

/-- The names of what the journal writes itself, or does not write. -/
def ownNames : List String :=
  ["event", "level", "logger", "timestamp", "exc_info"]

theorem entry_entries {name : String} (other : name ∉ ownNames) (level : Level)
    (title timestamp : String) (fields : List (String × Json)) :
    entry (journal.entries logger level title timestamp (distinctFields fields)) name =
      journal.said fields name := by
  simp only [ownNames, List.mem_cons, List.not_mem_nil, or_false, not_or] at other
  rcases other with ⟨noEvent, noLevel, noLogger, noTimestamp, written⟩
  have kept : (!unwritten.contains name) = true := by
    simp [unwritten, written]
  rw [entry, entries, Json.lookup_filter (fun name => !unwritten.contains name) kept,
    Json.lookup_setEntry, if_neg noTimestamp, Json.lookup_setEntry, if_neg noLogger,
    Json.lookup_setEntry, if_neg noLevel, lookup_foldl_addEntry, Json.lookup_setEntry,
    if_neg noEvent, lookup_distinctFields, said]

/-! ## Refusal -/

/-- The names of the parameters of the calls that pass an event on. -/
def parameterNames : List String :=
  ["self", "event", "method_name"]

/-- People are shown only texts on lines of their own. -/
def IsAttachable : Json → Prop
  | .null | .string _ => True
  | _ => False

/-- Something about what the event says is not taken. -/
inductive IsRefused (journal : Journal) (fields : List (String × Json)) : Prop
  /-- A field has the name of a parameter. -/
  | parameter (name : String) (given : name ∈ fields.map (·.1)) (taken : name ∈ parameterNames)
  /-- The logger's name is to come from a value that has none. -/
  | source (named : journal.said fields "_record" ≠ .null)
  /-- People are to be shown as text what is none. -/
  | attachment (people : journal.renderer = .console) (name : String)
      (attached : name ∈ attachments) (unreadable : ¬ IsAttachable (journal.said fields name))

/-- Both calls that pass an event on take its fields exactly if none is a parameter's. -/
theorem exists_binds_eq_ok_iff (level : Level) (title : String) {fields : List (String × Json)} :
    ((∃ arguments, (levelSignature level).bind [.string title] fields = .ok arguments) ∧
        ∃ arguments,
          relaySignature.bind [.string level.name, .string title] fields = .ok arguments) ↔
      ∀ name ∈ fields.map (·.1), name ∉ parameterNames := by
  rw [Signature.exists_bind_eq_ok_iff rfl (Nat.le_refl _),
    Signature.exists_bind_eq_ok_iff rfl (Nat.le_refl _), List.forall_mem_map, ← forall₂_and]
  refine forall₂_congr fun field _ => ?_
  simp only [Signature.taken, Signature.receiver, levelSignature, relaySignature, parameterNames,
    List.length_cons, List.length_nil, Nat.zero_add, Nat.reduceAdd, List.map_cons, List.map_nil,
    List.take_succ_cons, List.take_nil, List.mem_cons, List.not_mem_nil, or_false, not_or]
  tauto

/-- Fields are refused exactly if one is named like a parameter. -/
theorem checkFields_eq_ok_iff {level : Level} {title : String} {fields : List (String × Json)} :
    checkFields level title fields = .ok () ↔ ∀ name ∈ fields.map (·.1), name ∉ parameterNames := by
  rw [← exists_binds_eq_ok_iff level title, checkFields, forM_eq_ok_iff,
    List.forall_mem_cons, List.forall_mem_singleton]
  dsimp only
  cases (levelSignature level).bind [.string title] fields <;>
    cases relaySignature.bind [.string level.name, .string title] fields <;> simp

theorem checkSource_eq_ok_iff {entries : List (String × Json)} :
    checkSource entries = .ok () ↔ entry entries "_record" = .null := by
  rw [checkSource]
  cases entry entries "_record" <;> simp

theorem checkAttachments_eq_ok_iff {entries : List (String × Json)} :
    checkAttachments entries = .ok () ↔
      ∀ name ∈ attachments, IsAttachable (entry entries name) := by
  rw [checkAttachments, forM_eq_ok_iff]
  refine forall₂_congr fun name _ => ?_
  cases entry entries name <;> simp [IsAttachable]

theorem mem_names_distinctFields_iff {fields : List (String × Json)} {name : String} :
    name ∈ (distinctFields fields).map (·.1) ↔ name ∈ fields.map (·.1) := by
  have named (entries : List (String × Json)) :
      name ∈ entries.map (·.1) ↔ (entries.lookup name).isSome = true := by
    rw [List.lookup_isSome_iff, List.mem_map]
    simp
  rw [named, lookup_distinctFields, ← named, List.map_reverse, List.mem_reverse]

/-! ## Events one by one -/

/-- What becomes of the entries of an event that is not refused. -/
def emission (journal : Journal) (logger : String) (level : Level)
    (entries : List (String × Json)) : Emission :=
  if level.number < journal.threshold logger then .suppressed
  else
    match journal.renderer with
    | .console => .shown
    | .json => .line ((Json.object entries).render ++ "\n")

/-- An event is written exactly if it reaches the threshold of its logger. -/
theorem emission_ne_suppressed_iff {level : Level} {entries : List (String × Json)} :
    journal.emission logger level entries ≠ .suppressed ↔
      journal.threshold logger ≤ level.number := by
  rw [emission]
  split_ifs with below
  · exact iff_of_false (fun other => other rfl) (Nat.not_le_of_lt below)
  · refine iff_of_true ?_ (Nat.le_of_not_lt below)
    cases journal.renderer <;> nofun

variable {level : Level} {title timestamp : String} {fields : List (String × Json)}

/-- An event is checked for what it says, whatever its logger and its level. -/
theorem not_isRefused_iff (logger : String) (level : Level) (title timestamp : String)
    (fields : List (String × Json)) :
    ¬ journal.IsRefused fields ↔
      let entries := journal.entries logger level title timestamp (distinctFields fields)
      checkFields level title (distinctFields fields) = .ok () ∧ checkSource entries = .ok () ∧
        (journal.renderer = .console → checkAttachments entries = .ok ()) := by
  have attached (name : String) (member : name ∈ attachments) : name ∉ ownNames := by
    revert name
    decide
  dsimp only
  rw [checkFields_eq_ok_iff, checkSource_eq_ok_iff, checkAttachments_eq_ok_iff,
    entry_entries (by decide)]
  simp only [mem_names_distinctFields_iff]
  constructor
  · intro taken
    refine ⟨fun name given parameter => taken (.parameter name given parameter),
      by_contra fun named => taken (.source named), fun people name member => ?_⟩
    rw [entry_entries (attached name member)]
    exact by_contra fun unreadable => taken (.attachment people name member unreadable)
  · rintro ⟨untaken, nameless, readable⟩ (⟨name, given, parameter⟩ | named |
      ⟨people, name, member, unreadable⟩)
    · exact untaken name given parameter
    · exact named nameless
    · have shown := readable people name member
      rw [entry_entries (attached name member)] at shown
      exact unreadable shown

theorem emit_eq_bind (settled : journal.handlers ≠ 0) :
    journal.emit logger level title timestamp fields =
      let entries := journal.entries logger level title timestamp (distinctFields fields)
      checkFields level title (distinctFields fields) >>= fun _ =>
        checkSource entries >>= fun _ =>
          (if journal.renderer = .console then checkAttachments entries else .ok ()) >>= fun _ =>
            .ok (journal.emission logger level entries) := by
  rw [emit, if_neg settled]
  unfold emission
  by_cases below : level.number < journal.threshold logger
  · simp only [if_pos below]
    split_ifs <;> rfl
  · simp only [if_neg below]
    cases journal.renderer <;> rfl

/-- What becomes of an event: nothing if it is refused, and else what its level says. -/
theorem emit_eq_ok_iff (settled : journal.handlers ≠ 0) {outcome : Emission} :
    journal.emit logger level title timestamp fields = .ok outcome ↔
      ¬ journal.IsRefused fields ∧
        journal.emission logger level
          (journal.entries logger level title timestamp (distinctFields fields)) = outcome := by
  rw [not_isRefused_iff logger level title timestamp, emit_eq_bind settled]
  simp only [bind_eq_ok_iff, Except.ok.injEq]
  constructor
  · rintro ⟨_, fieldsOk, _, sourceOk, _, attachmentsOk, told⟩
    refine ⟨⟨fieldsOk, sourceOk, fun people => ?_⟩, told⟩
    rwa [if_pos people] at attachmentsOk
  · rintro ⟨⟨fieldsOk, sourceOk, attachmentsOk⟩, told⟩
    refine ⟨(), fieldsOk, (), sourceOk, (), ?_, told⟩
    split_ifs with people
    · exact attachmentsOk people
    · rfl

/-- A journal that is set up fails exactly on events that are refused. -/
theorem exists_emit_eq_error_iff (settled : journal.handlers ≠ 0) :
    (∃ error, journal.emit logger level title timestamp fields = .error error) ↔
      journal.IsRefused fields := by
  simp [exists_eq_error_iff, emit_eq_ok_iff settled]

end Journal

end Criteria
