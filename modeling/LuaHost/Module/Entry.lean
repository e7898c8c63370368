import LuaHost.Module.Basic

/-!
# Entries

A module in a registry: what it said of itself when it was registered, and where it is in its
lifecycle. The registry takes it through the lifecycle by calling its hooks. Each call is recorded
together with the events that the hook caused, apart from what the registry itself logs.
-/

namespace LuaHost

/-- A hook failed. -/
structure HookFailure where
  module : String
  stage : Stage
  message : String
  deriving DecidableEq, Repr

/-- The entry that logs a failure of a hook. -/
def HookFailure.logEntry (failure : HookFailure) : LogEntry :=
  { level := .error
    message :=
      "Module lifecycle error in '" ++ failure.module ++ "' during " ++ failure.stage.name ++
      ": " ++ failure.message
    fields := [("module", failure.module), ("stage", failure.stage.name)] }

/-- A hook was called: on the module registered as `module`, and how it ended. -/
structure HookCall where
  module : String
  stage : Stage
  outcome : HookOutcome
  deriving DecidableEq, Repr

/-- The failure of a call, unless the hook succeeded. -/
def HookCall.failure? (call : HookCall) : Option HookFailure :=
  call.outcome.error?.map fun error =>
    { module := call.module, stage := call.stage, message := error.text }

/-- A call without a failure succeeded. -/
theorem HookCall.failure?_eq_none {call : HookCall} :
    call.failure? = none ↔ call.outcome = .succeeded := by
  rcases call with ⟨_, _, outcome⟩
  cases outcome <;> simp [failure?, HookOutcome.error?]

/-- What a registry does: it logs something, or it calls a hook, which causes events of its own. -/
inductive RegistryEvent where
  | logged (entry : LogEntry)
  | called (call : HookCall) (caused : List Event)
  deriving DecidableEq, Repr

namespace RegistryEvent

/-- A log entry of a registry. -/
def log (level : Level) (message : String) (fields : List (String × String) := []) :
    RegistryEvent :=
  .logged { level, message, fields }

/-- What others see of it. -/
def events : RegistryEvent → List Event
  | .logged entry => [.logged entry]
  | .called _ caused => caused

/-- The call, if it is one. -/
def call? : RegistryEvent → Option HookCall
  | .logged _ => none
  | .called call _ => some call

/-- The calls among what a registry does. -/
def calls (trace : List RegistryEvent) : List HookCall :=
  trace.filterMap call?

/-- Who does nothing calls nothing. -/
@[simp] theorem calls_nil : calls [] = [] := rfl

/-- A log entry is no call. -/
@[simp] theorem calls_logged (entry : LogEntry) (trace : List RegistryEvent) :
    calls (.logged entry :: trace) = calls trace := rfl

/-- Nor is one that is made from its parts. -/
@[simp] theorem calls_log (level : Level) (message : String) (fields : List (String × String))
    (trace : List RegistryEvent) : calls (log level message fields :: trace) = calls trace := rfl

/-- A call comes first where it is made first. -/
@[simp] theorem calls_called (call : HookCall) (caused : List Event) (trace : List RegistryEvent) :
    calls (.called call caused :: trace) = call :: calls trace := rfl

/-- The calls of what is done later come later. -/
@[simp] theorem calls_append (trace more : List RegistryEvent) :
    calls (trace ++ more) = calls trace ++ calls more :=
  List.filterMap_append

end RegistryEvent

/-- What a registry does is seen as events. -/
instance : Coe (List RegistryEvent) (List Event) where
  coe trace := trace.flatMap RegistryEvent.events

/-- A module in a registry, with what it said of itself when it was registered. -/
structure Entry (M : Type) where
  module : M
  name : String
  priority : Int
  deprecated : Bool
  state : ModuleState := .registered

/-- The entry of a module that is registered now. -/
def Entry.fresh {M : Type} (E : Type) [HostModule M E] (module : M) : Entry M :=
  { module
    name := HostModule.name E module
    priority := HostModule.priority E module
    deprecated := HostModule.deprecated E module }

/-- What a registry tells of a module. -/
structure ModuleInfo where
  name : String
  priority : Int
  deprecated : Bool
  state : ModuleState
  deriving DecidableEq, Repr

/-- What is told of the module of an entry. -/
def Entry.info {M : Type} (entry : Entry M) : ModuleInfo :=
  { name := entry.name, priority := entry.priority, deprecated := entry.deprecated
    state := entry.state }

/-- What is logged when the module is registered. -/
def Entry.announcement {M : Type} (entry : Entry M) : List RegistryEvent :=
  let warning : List RegistryEvent :=
    if entry.deprecated then
      [.log .warn ("Module '" ++ entry.name ++ "' is deprecated") [("module", entry.name)]]
    else []
  warning ++
    [.log .info "Registered module" [("module", entry.name), ("priority", toString entry.priority)]]

/-- Nothing is called to announce a module. -/
@[simp] theorem Entry.calls_announcement {M : Type} (entry : Entry M) :
    RegistryEvent.calls entry.announcement = [] := by
  unfold announcement
  split <;> rfl

/-- What calling hooks of a registered module leads to. -/
structure Handled (M E : Type) where
  module : M
  state : ModuleState
  shared : E
  trace : List RegistryEvent := []
  failure : Option HookFailure := none

namespace Entry

variable {M E : Type}

/-- The entry afterwards. -/
def after (entry : Entry M) (handled : Handled M E) : Entry M :=
  { entry with module := handled.module, state := handled.state }

/-- Hooks change no name. -/
@[simp] theorem after_name (entry : Entry M) (handled : Handled M E) :
    (entry.after handled).name = entry.name := rfl

/-- Hooks change no priority. -/
@[simp] theorem after_priority (entry : Entry M) (handled : Handled M E) :
    (entry.after handled).priority = entry.priority := rfl

/-- Hooks do not change whether a module is deprecated. -/
@[simp] theorem after_deprecated (entry : Entry M) (handled : Handled M E) :
    (entry.after handled).deprecated = entry.deprecated := rfl

/-- The state is the one that the calls led to. -/
@[simp] theorem after_state (entry : Entry M) (handled : Handled M E) :
    (entry.after handled).state = handled.state := rfl

/-- No hook is called. -/
def idle (entry : Entry M) (shared : E) : Handled M E :=
  { module := entry.module, state := entry.state, shared }

/-- Where no hook is called, the entry stays as it is. -/
@[simp] theorem after_idle (entry : Entry M) (shared : E) :
    entry.after (entry.idle shared) = entry := rfl

variable [HostModule M E]

/-- Calls the hook of a stage. If it fails, the module is marked and the failure noted. -/
def callHook (stage : Stage) (entry : Entry M) (shared : E) : Handled M E :=
  let result := HostModule.runHook stage entry.module shared
  let call : HookCall := { module := entry.name, stage, outcome := result.outcome }
  match call.failure? with
  | none =>
    { module := result.module
      state := entry.state
      shared := result.shared
      trace := [.called call result.events] }
  | some failure =>
    { module := result.module
      state := .failed stage
      shared := result.shared
      trace := [.called call result.events, .logged failure.logEntry]
      failure }

/-- Brings the module up: initialization, then binding if that succeeded. -/
def bringUp (entry : Entry M) (shared : E) : Handled M E :=
  let prepared := entry.callHook .initialization shared
  match prepared.failure with
  | some _ => prepared
  | none =>
    let bound := (entry.after prepared).callHook .binding prepared.shared
    match bound.failure with
    | some _ => { bound with trace := prepared.trace ++ bound.trace }
    | none =>
      { bound with
        state := .initialized
        trace := prepared.trace ++ bound.trace ++
          [.log .info "Module initialized"
            [("module", entry.name), ("priority", toString entry.priority)]] }

/-- Shuts the module down, if it is initialized. -/
def takeDown (entry : Entry M) (shared : E) : Handled M E :=
  if entry.state = .initialized then
    let stopped := entry.callHook .shutdown shared
    match stopped.failure with
    | some _ => stopped
    | none =>
      { stopped with
        state := .shutDown
        trace := stopped.trace ++ [.log .info "Module shut down" [("module", entry.name)]] }
  else entry.idle shared

end Entry

end LuaHost
