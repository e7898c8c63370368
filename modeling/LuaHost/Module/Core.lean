import LuaHost.Engine
import LuaHost.Module.Basic

/-!
# Core module

The module that comes up first. Scripts log messages and ask for the time through its table.
-/

namespace LuaHost

/-- The core module. -/
structure CoreModule where
  version : String
  /-- The source that log entries of scripts name. -/
  logTarget : String := "script"
  /-- Whether the module has come up and has not been shut down. -/
  initialized : Bool := false
  deriving DecidableEq, Repr

namespace CoreModule

/-- The name of the module. -/
def name : String := "core"

/-- The global table of the module. -/
def tableName : String := "host"

/-- How many messages scripts have logged since the module came up. -/
def messagesLogged (engine : Engine) : Nat :=
  engine.heap.logged

/-- Sets the count of messages back to zero. -/
def resetCount (engine : Engine) : Engine :=
  ⟨{ engine.heap with logged := 0 }⟩

/-- Puts a function into a table. -/
def bindMethod (engine : Engine) (table : Nat) (name : String) (native : Lua.Native) : Engine :=
  let (function, engine) := engine.makeFunction native
  engine.setField table name function

/-- Refuses an empty log target. -/
def prepare (core : CoreModule) (engine : Engine) : HookResult CoreModule Engine :=
  if core.logTarget.isEmpty then
    { outcome := .failed (.failed "log target cannot be empty"), module := core, shared := engine }
  else
    { outcome := .succeeded, module := { core with initialized := true },
      shared := resetCount engine }

/-- Binds the functions and the version of the module. That fails only for want of a table to bind
them in: a function can always be made, and a field can always be set. -/
def bindApi (core : CoreModule) (engine : Engine) : HookResult CoreModule Engine :=
  let ran := engine.registerTable tableName
  match ran.result with
  | .error error =>
    { outcome := .failed (.engine error), module := core, shared := ran.engine,
      events := ran.events }
  | .ok table =>
    let engine := bindMethod ran.engine table "log" (.log core.logTarget)
    let engine := bindMethod engine table "time" .time
    let engine := bindMethod engine table "now_millis" .nowMillis
    { outcome := .succeeded
      module := core
      shared := engine.setField table "version" (.string core.version)
      events := ran.events ++ [log .debug ("Bound '" ++ tableName ++ "' table")] }

/-- Says how many messages scripts have logged. -/
def shutDown (core : CoreModule) (engine : Engine) : HookResult CoreModule Engine :=
  { outcome := .succeeded
    module := { core with initialized := false }
    shared := engine
    events := [log .info
      ("Core module shutting down after " ++ toString (messagesLogged engine) ++
        " script log message(s)")] }

instance : HostModule CoreModule Engine where
  name _ := name
  priority _ := 0
  deprecated _ := false
  prepare := prepare
  bindApi := bindApi
  shutDown := shutDown

end CoreModule

end LuaHost
