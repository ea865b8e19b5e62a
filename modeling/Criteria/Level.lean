/-!
# Levels

How important an event is.  Levels have names and numbers, and some names have an older twin.
-/

namespace Criteria

/-- How important an event is, the least important first. -/
inductive Level where
  | debug
  | info
  | warning
  | error
  | critical
deriving DecidableEq, Repr

namespace Level

/-- All levels, from the least important on. -/
def all : List Level :=
  [.debug, .info, .warning, .error, .critical]

/-- The name of a level in events. -/
def name : Level → String
  | .debug => "debug"
  | .info => "info"
  | .warning => "warning"
  | .error => "error"
  | .critical => "critical"

/-- The number of a level, which thresholds are compared with. -/
def number : Level → Nat
  | .debug => 10
  | .info => 20
  | .warning => 30
  | .error => 40
  | .critical => 50

/-- The level of a name, if there is one. -/
def ofName? (text : String) : Option Level :=
  all.find? fun level => level.name == text

/-- The names of thresholds, with the numbers below which events are not written. -/
def thresholds : List (String × Nat) :=
  [("CRITICAL", 50), ("FATAL", 50), ("ERROR", 40), ("WARN", 30), ("WARNING", 30), ("INFO", 20),
    ("DEBUG", 10), ("NOTSET", 0)]

/-- The number of a threshold that has the given name, if there is one. -/
def threshold? (name : String) : Option Nat :=
  thresholds.lookup name

end Level

end Criteria
