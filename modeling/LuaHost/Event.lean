/-!
# Events

What a host reports while it works: log entries, announcements of modules and lines that scripts
print. Operations return the events they caused, in order.
-/

namespace LuaHost

/-- How serious a log entry is. -/
inductive Level where
  | trace
  | debug
  | info
  | warn
  | error
  deriving DecidableEq, Repr

/-- The name of a level. -/
def Level.name : Level → String
  | .trace => "trace"
  | .debug => "debug"
  | .info => "info"
  | .warn => "warn"
  | .error => "error"

/-- All levels, from the least serious. -/
def Level.all : List Level := [.trace, .debug, .info, .warn, .error]

/-- The level with a given name. -/
def Level.ofName? (name : String) : Option Level :=
  Level.all.find? fun level => level.name == name

/-- One log entry: a message with named fields. -/
structure LogEntry where
  level : Level
  message : String
  fields : List (String × String) := []
  deriving DecidableEq, Repr

/-- A hook of the module lifecycle. -/
inductive Stage where
  | initialization
  | binding
  | shutdown
  deriving DecidableEq, Repr

/-- The name of a stage in logs. -/
def Stage.name : Stage → String
  | .initialization => "initialize"
  | .binding => "register_api"
  | .shutdown => "shutdown"

/-- Something that happened. -/
inductive Event where
  | logged (entry : LogEntry)
  | announced (text : String)
  | printed (line : String)
  deriving DecidableEq, Repr

/-- A log entry as an event. -/
def log (level : Level) (message : String) (fields : List (String × String) := []) : Event :=
  .logged { level, message, fields }

/-- The log entries among events. -/
def Event.logEntry? : Event → Option LogEntry
  | .logged entry => some entry
  | _ => none

end LuaHost
