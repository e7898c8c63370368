import LuaHost.Module.Entry

/-!
# Registry

The modules of a host. The registry drives them through their lifecycle in the order of their
priorities and keeps the failures of one away from the others. The order, names, priorities and
deprecation marks are those of the moment of registration.
-/

namespace LuaHost

/-- The modules of a host, in the order of their registration, and what they share. -/
structure Registry (M E : Type) where
  shared : E
  entries : List (Entry M) := []
  initialized : Bool := false
  /-- Oldest first. -/
  failures : List HookFailure := []

namespace Registry

variable {M E : Type}

/-! ### Lookup -/

/-- The module that was registered under a name. -/
def find? (registry : Registry M E) (name : String) : Option (Entry M) :=
  registry.entries.find? fun entry => entry.name == name

/-- Whether a name is taken. -/
def contains (registry : Registry M E) (name : String) : Bool :=
  (registry.find? name).isSome

/-- The state of the module with a name. -/
def stateOf (registry : Registry M E) (name : String) : ModuleState :=
  match registry.find? name with
  | some entry => entry.state
  | none => .unregistered

/-- The names of the modules, in the order of their registration. -/
def names (registry : Registry M E) : List String :=
  registry.entries.map Entry.name

/-- What is told of the modules, in the order of their registration. -/
def listing (registry : Registry M E) : List ModuleInfo :=
  registry.entries.map Entry.info

/-- The first module that a choice accepts, in the order of registration. -/
def findAs? {α : Type} (registry : Registry M E) (choose : M → Option α) : Option α :=
  registry.entries.findSome? fun entry => choose entry.module

/-- Changes the module with a name. -/
def modify (registry : Registry M E) (name : String) (change : M → M) : Registry M E :=
  { registry with
    entries := registry.entries.map fun entry =>
      if entry.name = name then { entry with module := change entry.module } else entry }

/-- The registry with one more module. -/
def add (registry : Registry M E) (entry : Entry M) : Registry M E :=
  { registry with entries := registry.entries ++ [entry] }

/-! ### Order -/

/-- The priority of the module at a position. -/
def priorityAt (entries : List (Entry M)) (position : Nat) : Int :=
  (entries[position]?.map Entry.priority).getD 0

/-- Puts a position into an order of positions: after those whose entries do not have a higher
priority. -/
def place (entries : List (Entry M)) (order : List Nat) (position : Nat) : List Nat :=
  order.takeWhile (fun i => priorityAt entries i ≤ priorityAt entries position) ++
    position :: order.dropWhile fun i => priorityAt entries i ≤ priorityAt entries position

/-- The positions of the modules in the order in which they come up: by priority, then by
registration. -/
def order (registry : Registry M E) : List Nat :=
  (List.range registry.entries.length).foldl (place registry.entries) []

/-- The names of the modules in the order in which they come up. -/
def initializationOrder (registry : Registry M E) : List String :=
  registry.order.filterMap fun i => registry.entries[i]?.map Entry.name

/-- The names of the modules in the order in which they are shut down. -/
def shutdownOrder (registry : Registry M E) : List String :=
  registry.initializationOrder.reverse

/-! ### Hooks -/

/-- Does something with the module at a position, and keeps the failure that it may lead to. -/
def handle (act : Entry M → E → Handled M E) (registry : Registry M E) (position : Nat) :
    Registry M E × List RegistryEvent :=
  match registry.entries[position]? with
  | none => (registry, [])
  | some entry =>
    let handled := act entry registry.shared
    ({ registry with
        shared := handled.shared
        entries := registry.entries.set position (entry.after handled)
        failures := registry.failures ++ handled.failure.toList }, handled.trace)

/-- Does something with the modules at several positions, one after the other. -/
def handleAll (act : Entry M → E → Handled M E) :
    Registry M E → List Nat → Registry M E × List RegistryEvent
  | registry, [] => (registry, [])
  | registry, position :: rest =>
    let (registry, trace) := registry.handle act position
    let (registry, more) := handleAll act registry rest
    (registry, trace ++ more)

/-! ### Operations -/

variable [HostModule M E]

/-- Registers a module, and says whether its name was free. If the registry is initialized, the
module is brought up at once; it stays registered if that fails. -/
def register (registry : Registry M E) (module : M) : Bool × Registry M E × List RegistryEvent :=
  let entry := Entry.fresh E module
  if registry.contains entry.name then
    (false, registry,
      [.log .warn ("Module '" ++ entry.name ++ "' is already registered") [("module", entry.name)]])
  else
    let position := registry.entries.length
    let registry := registry.add entry
    if registry.initialized then
      let (registry, trace) := registry.handle Entry.bringUp position
      (true, registry,
        entry.announcement ++
          [.log .debug "Registry already initialized, bringing module up"
            [("module", entry.name)]] ++
          trace)
    else (true, registry, entry.announcement)

/-- The positions of the modules that wait to come up, in their order. -/
def pending (registry : Registry M E) : List Nat :=
  registry.order.filter fun i => registry.entries[i]?.any fun entry => entry.state.isPending

/-- The number of initialized modules. -/
def readyCount (registry : Registry M E) : Nat :=
  (registry.entries.filter fun entry => entry.state == .initialized).length

/-- Brings up all modules that wait. -/
def initializeAll (registry : Registry M E) : Registry M E × List RegistryEvent :=
  if registry.initialized then (registry, [.log .debug "Module registry already initialized"])
  else
    let pending := registry.pending
    let (registry, trace) := registry.handleAll Entry.bringUp pending
    let registry := { registry with initialized := true }
    (registry,
      [.log .info ("Initializing " ++ toString pending.length ++ " module(s)")] ++ trace ++
        [.log .info ("Module initialization complete: " ++ toString registry.readyCount ++ " of " ++
          toString registry.entries.length ++ " ready")])

/-- Shuts down all initialized modules, in the reverse order. -/
def shutdownAll (registry : Registry M E) : Registry M E × List RegistryEvent :=
  if registry.initialized then
    let (registry, trace) := registry.handleAll Entry.takeDown registry.order.reverse
    ({ registry with initialized := false }, trace ++ [.log .info "Module registry shut down"])
  else (registry, [.log .debug "Module registry not initialized, nothing to shut down"])

end Registry

end LuaHost
