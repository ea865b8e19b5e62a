import Criteria.Error
import Criteria.Json.Printer
import Criteria.Threshold

/-!
# The journal

Events are written to a journal as lines.  Setting it up chooses how lines are written and, the
first time only, from which level on.  The library that runs the statements has a threshold of its
own, so that it stays quiet unless something is wrong.
-/

namespace Criteria

/-- How lines are written: as records, or for people to read. -/
inductive Renderer where
  | json
  | console
deriving DecidableEq, Repr

/-- What is remembered between one event and the next. -/
structure Journal where
  /-- The threshold of all loggers that have none of their own. -/
  rootLevel : Threshold
  /-- The threshold that is set for the loggers of the engine, once it is set. -/
  engineLevel? : Option Nat
  /-- How many places lines are written to. -/
  handlers : Nat
  /-- How lines are written; before the first setup they are for people. -/
  renderer : Renderer
  /-- The fields that every event carries. -/
  context : List (String × Json)

/-- What becomes of an event: it is left out, shown to people, or written as a line. -/
inductive Emission where
  | suppressed
  | shown
  | line (text : String)
deriving DecidableEq, Repr

namespace Journal

/-- The journal that there is before anyone sets it up. -/
def fresh : Journal where
  rootLevel := .number 30
  engineLevel? := none
  handlers := 0
  renderer := .console
  context := []

/-- The root threshold that is asked for by name, given the one before. -/
def requested [Machine] (before : Threshold) (level : String) : Except Error Threshold :=
  match Lookup.ofName level with
  | .threshold value => .ok value
  | .nothing => .ok before
  | .text content =>
      match Level.threshold? content with
      | some value => .ok (.number value)
      | none => .error (.notLevelName content)
  | .thing shown => .error (.notLevel shown)

/-- Sets the journal up; only the first time does the level count. -/
def setup [Machine] (journal : Journal) (debug : Bool) (level : String) : Except Error Journal := do
  let rootLevel ←
    if journal.handlers = 0 then requested journal.rootLevel level else .ok journal.rootLevel
  .ok { journal with
    rootLevel
    handlers := if journal.handlers = 0 then 1 else journal.handlers
    engineLevel? := some Level.warning.number
    renderer := if debug then .console else .json }

/-- Gives all later events these fields, in place of those that they were given before. -/
def bind (journal : Journal) (fields : List (String × Json)) : Journal :=
  { journal with
    context := fields.foldl (fun context (name, value) => Json.setEntry name value context) [] }

/-- The name above all loggers of the library that runs the statements. -/
def libraryName : String :=
  "sqlalchemy"

/-- Whether a logger is the library's or one below it, by its dotted name. -/
def isQuiet (logger : String) : Bool :=
  logger == libraryName || (libraryName ++ ".").toList.isPrefixOf logger.toList

/-- The number that an event of a logger has to reach. -/
def threshold (journal : Journal) (logger : String) : Nat :=
  if isQuiet logger then Level.warning.number else journal.rootLevel.value

/-- Adds an entry, unless there is one of that name. -/
def addEntry (entries : List (String × Json)) (entry : String × Json) : List (String × Json) :=
  if (entries.lookup entry.1).isSome then entries else entries ++ [entry]

/-- The names under which a field is not written: what went wrong is written elsewhere. -/
def unwritten : List String :=
  ["exc_info"]

/-- The entries of an event: its fields, its title, the context, and what the journal adds. -/
def entries (journal : Journal) (logger : String) (level : Level) (title timestamp : String)
    (fields : List (String × Json)) : List (String × Json) :=
  let titled := Json.setEntry "event" (.string title) fields
  let inContext := journal.context.foldl addEntry titled
  let loggerName := if logger = "" then "root" else logger
  let stamped :=
    Json.setEntry "timestamp" (.string timestamp)
      (Json.setEntry "logger" (.string loggerName)
        (Json.setEntry "level" (.string level.name) inContext))
  stamped.filter fun entry => !unwritten.contains entry.1

/-- The signature of the call for events of a level. -/
def levelSignature (level : Level) : Signature :=
  ⟨"BoundLogger." ++ level.name, [⟨"event", false⟩], true⟩

/-- The signature of the call that passes an event on, with the name of its level. -/
def relaySignature : Signature :=
  ⟨"BoundLogger._proxy_to_logger", [⟨"method_name", true⟩, ⟨"event", false⟩], true⟩

/-- Checks the fields of an event: none may have the name of a parameter of the calls. -/
def checkFields (level : Level) (title : String) (fields : List (String × Json)) :
    Except Error Unit := do
  let calls : List (Signature × List Json) :=
    [(levelSignature level, [.string title]),
      (relaySignature, [.string level.name, .string title])]
  calls.forM fun (signature, positional) =>
    match signature.bind positional fields with
    | .ok _ => .ok ()
    | .error mismatch => .error (.mismatch signature mismatch)

/-- The entry of a name; a name without one says nothing. -/
def entry (entries : List (String × Json)) (name : String) : Json :=
  (entries.lookup name).getD .null

/-- Checks the source that may give a logger its name: no value can be one. -/
def checkSource (entries : List (String × Json)) : Except Error Unit :=
  match entry entries "_record" with
  | .null => .ok ()
  | value => .error (.nameless value.kindName)

/-- The entries that people are shown on lines of their own. -/
def attachments : List String :=
  ["stack", "exception"]

/-- Checks what people are shown on lines of its own: it has to be text. -/
def checkAttachments (entries : List (String × Json)) : Except Error Unit :=
  attachments.forM fun name =>
    match entry entries name with
    | .null | .string _ => .ok ()
    | value => .error (.notText value.kindName)

/-- The name of the logger that belongs to an owner, if it can be one. -/
def ownLogger (owner : String) : Except Error String :=
  if owner.toList.contains '\x00' then .error .nullInName else .ok owner

/--
What becomes of an event that a logger is given.  As long as there is no place to write to, every
event is shown to whoever is there.
-/
def emit (journal : Journal) (logger : String) (level : Level) (title timestamp : String)
    (fields : List (String × Json)) : Except Error Emission := do
  let fields := fields.foldl (fun entries (name, value) => Json.setEntry name value entries) []
  if journal.handlers = 0 then .ok .shown
  else
    checkFields level title fields
    let entries := journal.entries logger level title timestamp fields
    checkSource entries
    if journal.renderer = .console then checkAttachments entries
    if level.number < journal.threshold logger then .ok .suppressed
    else
      match journal.renderer with
      | .console => .ok .shown
      | .json => .ok (.line ((Json.object entries).render ++ "\n"))

end Journal

end Criteria
