import Criteria.Level
import Criteria.Machine
import Criteria.Text.Printable

/-!
# Thresholds

The threshold of a journal is the number from which on events are written.  It is asked for by name,
and looked up among all names of the library that keeps journals.  Few of them are those of
thresholds; a name that is not found at all stands for the threshold of information.
-/

namespace Criteria

/-- From which number on events are written. -/
inductive Threshold where
  | number (value : Nat)
  /-- A switch that is on instead of a number; everything of any importance is written. -/
  | switch
deriving DecidableEq, Repr

/-- What a name may be the name of. -/
inductive Lookup where
  | threshold (value : Threshold)
  /-- Nothing, so that the threshold stays what it is. -/
  | nothing
  /-- A text, which would itself have to be the name of a threshold. -/
  | text (content : String)
  /-- Any other thing, as it is shown. -/
  | thing (shown : String)
deriving DecidableEq, Repr

namespace Threshold

/-- The number that events are compared with. -/
def value : Threshold → Nat
  | .number value => value
  | .switch => 1

end Threshold

namespace Lookup

/-- The names of switches, all of them on. -/
def switches : List String :=
  ["logMultiprocessing", "logProcesses", "logThreads", "raiseExceptions"]

/-- The names of texts that are the same on every machine. -/
def texts : List (String × String) :=
  [("BASIC_FORMAT", "%(levelname)s:%(name)s:%(message)s"), ("__date__", "07 February 2010"),
    ("__name__", "logging"), ("__package__", "logging"), ("__status__", "production"),
    ("__version__", "0.5.1.2")]

/-- The names of texts that tell where the library was found, who wrote it and what it does. -/
def localTexts : List String :=
  ["__author__", "__cached__", "__doc__", "__file__", "_srcfile"]

/-- The names of classes, each with the class that is found under it. -/
def classes : List (String × String) :=
  (["BufferingFormatter", "FileHandler", "Filter", "Filterer", "Formatter", "Handler", "LogRecord",
    "Logger", "LoggerAdapter", "Manager", "NullHandler", "PercentStyle", "PlaceHolder",
    "RootLogger", "StrFormatStyle", "StreamHandler", "StringTemplateStyle",
    "_StderrHandler"].map fun name => (name, "logging." ++ name)) ++
  [("GenericAlias", "types.GenericAlias"), ("Template", "string.Template"),
    ("_logRecordFactory", "logging.LogRecord"), ("_loggerClass", "logging.Logger"),
    ("__class__", "module")]

/-- The names that are meant for use. -/
def publicNames : List String :=
  ["BASIC_FORMAT", "BufferingFormatter", "CRITICAL", "DEBUG", "ERROR", "FATAL", "FileHandler",
    "Filter", "Formatter", "Handler", "INFO", "LogRecord", "Logger", "LoggerAdapter", "NOTSET",
    "NullHandler", "StreamHandler", "WARN", "WARNING", "addLevelName", "basicConfig",
    "captureWarnings", "critical", "debug", "disable", "error", "exception", "fatal",
    "getLevelName", "getLogger", "getLoggerClass", "info", "log", "makeLogRecord",
    "setLoggerClass", "shutdown", "warn", "warning", "getLogRecordFactory",
    "setLogRecordFactory", "lastResort", "raiseExceptions", "getLevelNamesMapping"]

/-- The names of functions that belong to the language and not to any machine. -/
def builtins : List String :=
  ["__dir__", "__format__", "__getstate__", "__reduce__", "__reduce_ex__", "__sizeof__"]

/-- The names of other things that are shown in the same way on every machine. -/
def things : List (String × String) :=
  [("__all__", "[" ++ ", ".intercalate (publicNames.map Text.quoteName) ++ "]"),
    ("__annotations__", "\x7b\x7d"),
    ("_levelToName",
      "\x7b50: 'CRITICAL', 40: 'ERROR', 30: 'WARNING', 20: 'INFO', 10: 'DEBUG', 0: 'NOTSET'\x7d"),
    ("_nameToLevel",
      "\x7b'CRITICAL': 50, 'FATAL': 50, 'ERROR': 40, 'WARN': 30, 'WARNING': 30, 'INFO': 20, " ++
        "'DEBUG': 10, 'NOTSET': 0\x7d"),
    ("_STYLES",
      "\x7b'%': (<class 'logging.PercentStyle'>, '%(levelname)s:%(name)s:%(message)s'), " ++
        "'\x7b': (<class 'logging.StrFormatStyle'>, " ++
        "'\x7blevelname\x7d:\x7bname\x7d:\x7bmessage\x7d'), " ++
        "'$': (<class 'logging.StringTemplateStyle'>, " ++
        "'$\x7blevelname\x7d:$\x7bname\x7d:$\x7bmessage\x7d')\x7d"),
    ("_defaultLastResort", "<_StderrHandler <stderr> (WARNING)>"),
    ("lastResort", "<_StderrHandler <stderr> (WARNING)>"),
    ("root", "<RootLogger root (WARNING)>"), ("atexit", "<module 'atexit' (built-in)>"),
    ("io", "<module 'io' (frozen)>"), ("os", "<module 'os' (frozen)>"),
    ("sys", "<module 'sys' (built-in)>"), ("time", "<module 'time' (built-in)>")]

/-- The names of functions, which are shown with the place where they are kept. -/
def functions : List String :=
  ["_acquireLock", "_addHandlerRef", "_after_at_fork_child_reinit_locks", "_checkLevel",
    "_is_internal_frame", "_register_at_fork_reinit_lock", "_releaseLock", "_removeHandlerRef",
    "_showwarning", "addLevelName", "basicConfig", "captureWarnings", "critical", "currentframe",
    "debug", "disable", "error", "exception", "fatal", "getLevelName", "getLevelNamesMapping",
    "getLogRecordFactory", "getLogger", "getLoggerClass", "info", "log", "makeLogRecord",
    "setLogRecordFactory", "setLoggerClass", "shutdown", "warn", "warning"]

/-- The names of methods of the library as a whole, which are shown with its place. -/
def methods : List String :=
  ["__delattr__", "__eq__", "__ge__", "__getattribute__", "__gt__", "__hash__", "__init__",
    "__init_subclass__", "__le__", "__lt__", "__ne__", "__new__", "__repr__", "__setattr__",
    "__str__", "__subclasshook__"]

/-- The names of other libraries, which are shown with the place where they were found. -/
def libraries : List String :=
  ["collections", "re", "threading", "traceback", "warnings", "weakref"]

/-- The names of parts of the library that have to be loaded by themselves. -/
def parts : List String :=
  ["config", "handlers"]

/-- The names of what the library keeps for itself, or is kept for it. -/
def internals : List String :=
  ["__builtins__", "__dict__", "__loader__", "__path__", "__spec__",
    "_at_fork_reinit_lock_weakset", "_defaultFormatter", "_handlerList", "_handlers", "_lock",
    "_startTime", "_str_formatter"]

/-- Whether a name is that of a thing which is shown differently on different machines. -/
def isLocal [Machine] (name : String) : Bool :=
  functions.contains name || methods.contains name || libraries.contains name ||
    internals.contains name || (parts.contains name && Machine.isLoaded name)

/-- The text of a name, if it is the name of a text. -/
def text? [Machine] (name : String) : Option String :=
  match texts.lookup name with
  | some content => some content
  | none => if localTexts.contains name then some (Machine.shown name) else none

/-- How the thing of a name is shown, if it is the name of a thing of another kind. -/
def thing? [Machine] (name : String) : Option String :=
  match classes.lookup name, things.lookup name with
  | some found, _ => some ("<class '" ++ found ++ "'>")
  | none, some shown => some shown
  | none, none =>
      if builtins.contains name then some ("<built-in function " ++ name ++ ">")
      else if isLocal name then some (Machine.shown name)
      else none

/-- What a name is the name of, if it is the name of anything. -/
def found? [Machine] (name : String) : Option Lookup :=
  match Level.threshold? name with
  | some value => some (.threshold (.number value))
  | none =>
      if switches.contains name then some (.threshold .switch)
      else if name = "_warnings_showwarning" then some .nothing
      else
        match text? name, thing? name with
        | some content, _ => some (.text content)
        | none, some shown => some (.thing shown)
        | none, none => none

/-- What is looked up by name: what is found, or else the threshold of information. -/
def ofName [Machine] (name : String) : Lookup :=
  (found? name).getD (.threshold (.number Level.info.number))

end Lookup

end Criteria
