import LuaHost.Config.Basic
import LuaHost.Module.Core
import LuaHost.Module.Registry
import LuaHost.Module.Sum
import LuaHost.Report.Diagnostics
import LuaHost.Text.Quoted

/-!
# Host

A host runs scripts against modules that share one engine. No failure of a script leaves the host:
each one becomes a report, which is logged and handed to the caller.
-/

namespace LuaHost

/-- The current script, with what is needed to report its failures. -/
structure LoadedScript where
  source : Script
  diagnostics : Diagnostics
  deriving DecidableEq, Repr

/-- A host for modules of a type `M`, besides its own ones. -/
structure Host (M : Type) where
  config : HostConfig
  registry : Registry (CoreModule ⊕ M) Engine
  script : Option LoadedScript := none
  ticks : Nat := 0

namespace Host

/-- The hook that is called once per tick, with the seconds that have passed. -/
def tickHook : String := "on_tick"

/-- The hook that is called before modules are shut down. -/
def shutdownHook : String := "on_shutdown"

/-- What reports call the loading of a script. -/
def loadContext : String := "load"

/-- The version that scripts see. -/
def version : String := "0.1.0"

variable {M : Type}

/-- A host with an engine and no modules. -/
def create (config : HostConfig) (engine : Engine) : Host M :=
  { config, registry := { shared := engine } }

/-- The engine. -/
def engine (host : Host M) : Engine :=
  host.registry.shared

/-- The host with another engine. -/
def withEngine (host : Host M) (engine : Engine) : Host M :=
  { host with registry := { host.registry with shared := engine } }

/-- The name of the loaded script. -/
def scriptName? (host : Host M) : Option String :=
  host.script.map fun loaded => loaded.source.name

/-! ### Modules -/

section Modules

variable [HostModule M Engine]

/-- Registers a module, and says whether its name was free. -/
def registerModule (host : Host M) (module : M) : Bool × Host M × List Event :=
  let (accepted, registry, events) := host.registry.register (.inr module)
  (accepted, { host with registry }, events)

/-- Registers the modules of the host itself, unless the configuration disables them. -/
def registerBuiltin (host : Host M) : Host M × List Event :=
  if host.config.moduleEnabled CoreModule.name then
    let core : CoreModule := { version }
    let (_, registry, events) := host.registry.register (.inl core)
    ({ host with registry }, events)
  else
    (host, [log .info "Module disabled by configuration" [("module", CoreModule.name)]])

/-- Brings up all modules. -/
def start (host : Host M) : Host M × List Event :=
  let (registry, events) := host.registry.initializeAll
  let failed := registry.failures.length
  let warning :=
    if failed = 0 then []
    else [log .warn (toString failed ++ " module lifecycle failure(s) during startup")]
  ({ host with registry },
    events ++ warning ++
      [log .info ("Host started with " ++ toString registry.entries.length ++ " module(s): " ++
        Text.quotedList registry.initializationOrder)])

end Modules

/-! ### Scripts -/

/-- Diagnostics of a script that could not be read. -/
def unreadableDiagnostics (host : Host M) (path : String) : Diagnostics :=
  { script := (Path.fileName? path).getD path, path, window := host.config.contextWindow }

/-- Loads and runs the script at a path. A script that cannot be read leaves the loaded one in
place; one that fails replaces it all the same, for it may have defined hooks. -/
def loadScript (host : Host M) (files : FileTree) (path : String) :
    Except Report Unit × Host M × List Event :=
  match Script.read files path with
  | .error error =>
    let (report, events) :=
      (host.unreadableDiagnostics path).report files { message := error.text } loadContext
    (.error report, host, events)
  | .ok source =>
    let diagnostics := { Diagnostics.forScript source with window := host.config.contextWindow }
    let ran := host.engine.load source
    let host := { host.withEngine ran.engine with script := some { source, diagnostics } }
    match ran.result with
    | .ok () =>
      (.ok (), host,
        ran.events ++ [log .info ("Loaded script from " ++ source.path) [("script", source.name)]])
    | .error failure =>
      let (report, events) := diagnostics.report files failure loadContext
      (.error report, host, ran.events ++ events)

/-- Calls a hook of the loaded script, and says whether it has one. -/
def callHook (host : Host M) (files : FileTree) (name : String) (arguments : List Lua.Value) :
    Except Report Bool × Host M × List Event :=
  match host.script with
  | none => (.ok false, host, [])
  | some loaded =>
    let ran := host.engine.callHook name arguments
    let host := host.withEngine ran.engine
    match ran.result with
    | .ok called => (.ok called, host, ran.events)
    | .error failure =>
      let (report, events) := loaded.diagnostics.report files failure name
      (.error report, host, ran.events ++ events)

/-- The report of a call, if it failed. -/
def report? {α : Type} : Except Report α → Option Report
  | .ok _ => none
  | .error report => some report

/-- Runs one tick after some seconds. -/
def tick (host : Host M) (files : FileTree) (seconds : Float) :
    Option Report × Host M × List Event :=
  let (result, host, events) :=
    { host with ticks := host.ticks + 1 }.callHook files tickHook [.number (.float seconds)]
  (report? result, host, events)

/-- Calls the shutdown hook of the script, then shuts all modules down. -/
def stop [HostModule M Engine] (host : Host M) (files : FileTree) :
    Option Report × Host M × List Event :=
  let (result, host, events) := host.callHook files shutdownHook []
  let (registry, more) := host.registry.shutdownAll
  (report? result, { host with registry },
    events ++ more ++ [log .debug ("Host stopped after " ++ toString host.ticks ++ " tick(s)")])

end Host

end LuaHost
