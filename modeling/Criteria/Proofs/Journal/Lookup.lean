import Criteria.Journal

/-!
# What is found under a name

A journal looks a threshold up by name among all names of a library, most of which are names of
other things.  A setup fails exactly under the names of things that are no thresholds
(`Journal.exists_requested_eq_error_iff`).
-/

namespace Criteria

namespace Lookup

variable [Machine]

/-- Under the name of a threshold that threshold is found, and nothing else. -/
theorem found?_of_threshold? {name : String} {number : Nat}
    (known : Level.threshold? name = some number) :
    found? name = some (.threshold (.number number)) := by
  rw [found?, known]

/-- A thing that is no threshold, or a text that is not the name of one. -/
def IsOther : Lookup → Prop
  | .text content => Level.threshold? content = none
  | .thing _ => True
  | .threshold _ | .nothing => False

end Lookup

namespace Journal

variable [Machine]

/-- A threshold is asked for in vain exactly under the names of other things. -/
theorem exists_requested_eq_error_iff (before : Threshold) {name : String} :
    (∃ error, requested before name = .error error) ↔ (Lookup.ofName name).IsOther := by
  rw [requested]
  cases found : Lookup.ofName name with
  | threshold value => simp [Lookup.IsOther]
  | nothing => simp [Lookup.IsOther]
  | thing shown => simp [Lookup.IsOther]
  | text content =>
      cases known : Level.threshold? content with
      | none => simp [Lookup.IsOther, known]
      | some value => simp [Lookup.IsOther, known]

/-- A first setup under the name of a threshold sets it. -/
theorem exists_setup_of_found? {journal : Journal} {name : String} {threshold : Threshold}
    (first : journal.handlers = 0) (debug : Bool)
    (found : Lookup.found? name = some (.threshold threshold)) :
    ∃ later, journal.setup debug name = .ok later ∧ later.rootLevel = threshold := by
  have requested : requested journal.rootLevel name = .ok threshold := by
    rw [Journal.requested, Lookup.ofName, found]
    rfl
  rw [setup, if_pos first, requested]
  exact ⟨_, rfl, rfl⟩

end Journal

end Criteria
