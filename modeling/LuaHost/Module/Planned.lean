import LuaHost.Engine
import LuaHost.Module.Basic

/-!
# Planned modules

Modules whose hooks follow a plan, to try out hosts with: a probe announces each hook and ends it as
planned, a drill only ends it as planned, a bare module has nothing but a name.
-/

namespace LuaHost

/-- The ends of the successive calls of a hook. The last one repeats; without any, the hook
succeeds. -/
structure Plan where
  outcomes : List HookOutcome := []
  deriving DecidableEq, Repr

namespace Plan

/-- How the next call ends. -/
def next (plan : Plan) : HookOutcome :=
  plan.outcomes.headD .succeeded

/-- The plan after one call. -/
def rest (plan : Plan) : Plan :=
  match plan.outcomes with
  | _ :: following :: others => ⟨following :: others⟩
  | _ => plan

end Plan

/-- What a function does that a probe binds. -/
inductive Behavior where
  /-- Fails with an error. -/
  | raise (error : Lua.Error)
  /-- Returns its first argument. -/
  | echo
  /-- Returns a value. -/
  | yield (value : Literal)

/-- Makes a function that behaves in a given way. -/
def Engine.makeBehaving (engine : Engine) : Behavior → Lua.Value × Engine
  | .raise error => engine.makeFunction (.failing error)
  | .echo => engine.makeFunction .echo
  | .yield literal =>
    let (value, engine) := engine.make literal
    engine.makeFunction (.returning value)

/-- What a probe does with the engine. -/
inductive Binding where
  | function (name : String) (behavior : Behavior)
  | global (name : String) (value : Literal)
  | field (table name : String) (value : Literal)
  | method (table name : String) (behavior : Behavior)

/-- Puts a value into a field of a global table, which is made if there is none. -/
def Engine.bindField (engine : Engine) (table name : String) (value : Lua.Value) :
    Ran (Except EngineError Unit) :=
  let ran := engine.registerTable table
  match ran.result with
  | .ok address => { ran with result := .ok (), engine := ran.engine.setField address name value }
  | .error error => { ran with result := .error error }

/-- Does one thing with the engine. -/
def Engine.bind (engine : Engine) : Binding → Ran (Except EngineError Unit)
  | .function name behavior =>
    let (function, engine) := engine.makeBehaving behavior
    let ran := engine.registerFunction name function
    { ran with result := .ok () }
  | .global name literal =>
    let (value, engine) := engine.make literal
    { result := .ok (), engine := engine.setGlobal name value, events := [] }
  | .field table name literal =>
    let (value, engine) := engine.make literal
    engine.bindField table name value
  | .method table name behavior =>
    let (function, engine) := engine.makeBehaving behavior
    engine.bindField table name function

/-- Does several things with the engine, up to the first one that fails. -/
def Engine.bindAll (engine : Engine) : List Binding → Ran (Except EngineError Unit)
  | [] => { result := .ok (), engine, events := [] }
  | binding :: rest =>
    let ran := engine.bind binding
    match ran.result with
    | .error _ => ran
    | .ok () =>
      let more := ran.engine.bindAll rest
      { more with events := ran.events ++ more.events }

/-- A module that does as planned. -/
structure Probe where
  name : String
  priority : Int := HostModule.defaultPriority
  deprecated : Bool := false
  bindings : List Binding := []
  preparing : Plan := {}
  bindingApi : Plan := {}
  shuttingDown : Plan := {}

namespace Probe

/-- What a probe announces in a stage. -/
def announcement (probe : Probe) (stage : Stage) : Event :=
  .announced (stage.name ++ ":" ++ probe.name)

/-- Binds what is planned, then ends as planned. -/
def bindApi (probe : Probe) (engine : Engine) : HookResult Probe Engine :=
  let ran := engine.bindAll probe.bindings
  match ran.result with
  | .error error =>
    { outcome := .failed (.engine error), module := probe, shared := ran.engine,
      events := ran.events }
  | .ok () =>
    { outcome := probe.bindingApi.next
      module := { probe with bindingApi := probe.bindingApi.rest }
      shared := ran.engine
      events := ran.events ++ [probe.announcement .binding] }

instance : HostModule Probe Engine where
  name := Probe.name
  priority := Probe.priority
  deprecated := Probe.deprecated
  prepare probe engine :=
    { outcome := probe.preparing.next
      module := { probe with preparing := probe.preparing.rest }
      shared := engine
      events := [probe.announcement .initialization] }
  bindApi := bindApi
  shutDown probe engine :=
    { outcome := probe.shuttingDown.next
      module := { probe with shuttingDown := probe.shuttingDown.rest }
      shared := engine
      events := [probe.announcement .shutdown] }

end Probe

/-- A module that ends its hooks as planned and takes no notice of what modules share. -/
structure Drill where
  name : String
  priority : Int := HostModule.defaultPriority
  plan : Stage → Plan := fun _ => {}

namespace Drill

/-- Ends the hook of a stage as planned. -/
def call {E : Type} (stage : Stage) (drill : Drill) (shared : E) : HookResult Drill E :=
  { outcome := (drill.plan stage).next
    module :=
      { drill with
        plan := fun other =>
          if other = stage then (drill.plan stage).rest else drill.plan other }
    shared }

instance {E : Type} : HostModule Drill E where
  name := Drill.name
  priority := Drill.priority
  deprecated _ := false
  prepare := call .initialization
  bindApi := call .binding
  shutDown := call .shutdown

end Drill

/-- A module that has a name and does nothing. -/
structure BareModule where
  name : String
  deriving DecidableEq, Repr

instance : HostModule BareModule Engine where
  name := BareModule.name
  priority _ := HostModule.defaultPriority
  deprecated _ := false
  prepare module engine := { outcome := .succeeded, module, shared := engine }
  bindApi module engine := { outcome := .succeeded, module, shared := engine }
  shutDown module engine := { outcome := .succeeded, module, shared := engine }

end LuaHost
