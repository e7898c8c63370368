import LuaHost.Proofs.Registry.Names
import LuaHost.Proofs.Registry.States

/-!
# Sweeps over the modules

To bring up all modules or to shut them down is to visit some of them, one after the other. Which
ones is decided by their states before the sweep (`InOrder`), whatever the hooks do meanwhile. Each
visit makes the calls that it should (`Sweeps`): calls of the hooks of the module that is visited,
which find what the visits before have left of what the modules share (`Visited`). The main
statement is `sweeps_of_run`, with what it means for bringing modules up and shutting them down
again at once.
-/

namespace LuaHost

/-- The modules that wait are the registered ones and those that were shut down. -/
lemma ModuleState.isPending_iff {state : ModuleState} :
    state.isPending = true ↔ state = .registered ∨ state = .shutDown := by
  cases state <;> simp [isPending]

/-- The modules that calls have brought up, in the order of the calls. -/
def HookCall.broughtUp (calls : List HookCall) : List String :=
  (calls.filter fun call => call.stage = .binding ∧ call.outcome = .succeeded).map HookCall.module

/-- A startup brings its module up if that is the state it leads to. -/
lemma Startup.broughtUp {name calls after} (startup : Startup name calls after) :
    HookCall.broughtUp calls = if after = .initialized then [name] else [] := by
  cases startup with
  | unprepared fails => simp [HookCall.broughtUp]
  | unbound fails => simp [HookCall.broughtUp, fails]
  | up => rfl

/-- A teardown is one call, of the shutdown hook of its module. -/
lemma Teardown.calls_eq {name calls after} (teardown : Teardown name calls after) :
    ∃ outcome, calls = [⟨name, .shutdown, outcome⟩] := by
  cases teardown with
  | stuck _ => exact ⟨_, rfl⟩
  | down => exact ⟨_, rfl⟩

namespace Registry

variable {M E : Type}

/-- The positions are those of the modules in some states, each once, in the order in which modules
come up. -/
structure InOrder (registry : Registry M E) (p : ModuleState → Prop) (positions : List Nat) :
    Prop where
  ascending : positions.Pairwise (Precedes registry.entries)
  mem_iff : ∀ i, i ∈ positions ↔ ∃ entry, registry.entries[i]? = some entry ∧ p entry.state

/-- The calls of the visit at a position are those of hooks of the module there, and what they lead
to is the module there after the sweep. -/
def Visited [HostModule M E] (registry after : Registry M E) (block : Nat → List HookCall)
    (i : Nat) (found left : E) : Prop :=
  ∃ entry entry', registry.entries[i]? = some entry ∧ after.entries[i]? = some entry' ∧
    Calling entry.name entry.module found (block i) entry'.module left

/-- The modules at some positions are visited one after the other, and no other module is touched.
The calls of each visit, `block`, and the state that it leads to are as `R` says for the name of the
module. They are the calls of its hooks, which find what the visits before have left of what the
modules share. -/
structure Sweeps [HostModule M E] (R : String → List HookCall → ModuleState → Prop)
    (registry after : Registry M E) (positions : List Nat) (calls : List HookCall)
    (block : Nat → List HookCall) : Prop where
  calls_eq : calls = positions.flatMap block
  visited : ∀ i ∈ positions, ∃ entry module state, registry.entries[i]? = some entry ∧
    after.entries[i]? = some { entry with module, state } ∧ R entry.name (block i) state
  untouched : ∀ i ∉ positions, after.entries[i]? = registry.entries[i]?
  threads : Threads (registry.Visited after block) registry.shared positions after.shared

/-- The positions of the modules in some states, in the order in which modules come up. -/
def positionsOf (registry : Registry M E) (p : ModuleState → Bool) : List Nat :=
  registry.order.filter fun i => registry.entries[i]?.any fun entry => p entry.state

/-- The positions of the modules in some states have no others and are in order. -/
lemma inOrder_positionsOf (registry : Registry M E) {p : ModuleState → Bool}
    {q : ModuleState → Prop} (iff : ∀ state, p state = true ↔ q state) :
    registry.InOrder q (registry.positionsOf p) where
  ascending := registry.order_pairwise.filter _
  mem_iff i := by
    rw [positionsOf, List.mem_filter, Option.any_eq_true]
    constructor
    · rintro ⟨_, entry, e, holds⟩
      exact ⟨entry, e, (iff _).mp holds⟩
    · rintro ⟨entry, e, holds⟩
      exact ⟨mem_order_of_some e, entry, e, (iff _).mpr holds⟩

variable [HostModule M E]

/-- A pass over distinct positions of modules sweeps over them. -/
lemma handleAll_sweeps {R : String → List HookCall → ModuleState → Prop}
    (act : Entry M → E → Handled M E) (registry : Registry M E) {positions : List Nat}
    (distinct : positions.Nodup)
    (made : ∀ i ∈ positions, ∃ entry, registry.entries[i]? = some entry ∧ ∀ shared,
      R entry.name (RegistryEvent.calls (act entry shared).trace) (act entry shared).state)
    (calling : ∀ entry shared, Calling entry.name entry.module shared
      (RegistryEvent.calls (act entry shared).trace) (act entry shared).module
      (act entry shared).shared) :
    ∃ block, registry.Sweeps R (registry.handleAll act positions).1 positions
      (RegistryEvent.calls (registry.handleAll act positions).2) block := by
  obtain ⟨seen, entries, trace, threads⟩ := handleAll_spec act registry distinct
  refine ⟨fun i => registry.entries[i]?.toList.flatMap fun entry =>
    RegistryEvent.calls (act entry (seen i)).trace, ?_, ?_, ?_, ?_⟩
  · simp only [trace, RegistryEvent.calls_flatMap]
  · intro i mem
    obtain ⟨entry, e, holds⟩ := made i mem
    refine ⟨entry, (act entry (seen i)).module, (act entry (seen i)).state, e, ?_, ?_⟩
    · rw [entries i, if_pos mem, e]
      rfl
    · rw [e]
      simpa using holds (seen i)
  · intro i left
    rw [entries i, if_neg left]
  · refine threads.imp fun i mem found left step => ?_
    obtain ⟨entry, e, _⟩ := made i mem
    obtain ⟨rfl, rfl⟩ := step
    refine ⟨entry, entry.after (act entry (seen i)), e, ?_, ?_⟩
    · rw [entries i, if_pos mem, e, Option.map_some]
    · simp only [e, Option.map_some, Option.getD_some, Option.toList_some, List.flatMap_singleton]
      exact calling entry (seen i)

namespace Sweeps

variable {registry after : Registry M E} {positions : List Nat} {calls : List HookCall}
  {block : Nat → List HookCall}

/-- The modules that are brought up by a sweep are those that are up afterwards. -/
lemma broughtUp (sweeps : registry.Sweeps Startup after positions calls block) :
    HookCall.broughtUp calls =
      (positions.filter fun i =>
        after.entries[i]?.any fun entry => entry.state = .initialized).filterMap
          fun i => registry.names[i]? := by
  rw [sweeps.calls_eq, HookCall.broughtUp, List.filter_flatMap, List.map_flatMap,
    List.filterMap_filter, List.filterMap_eq_flatMap_toList]
  apply List.flatMap_congr
  intro i mem
  obtain ⟨entry, module, state, e, e', startup⟩ := sweeps.visited i mem
  have name : registry.names[i]? = some entry.name := by
    rw [names, List.getElem?_map, e]
    rfl
  refine startup.broughtUp.trans ?_
  simp only [e', name, Option.any_some, decide_eq_true_eq]
  split <;> rfl

/-- To shut down by a sweep is to call one hook of each module. -/
lemma stopped (sweeps : registry.Sweeps Teardown after positions calls block) :
    (∀ call ∈ calls, call.stage = .shutdown) ∧
      calls.map HookCall.module = positions.filterMap fun i => registry.names[i]? := by
  rw [sweeps.calls_eq]
  constructor
  · intro call mem
    obtain ⟨i, here, called⟩ := List.mem_flatMap.mp mem
    obtain ⟨entry, _, _, _, _, teardown⟩ := sweeps.visited i here
    obtain ⟨outcome, eq⟩ := teardown.calls_eq
    rw [eq] at called
    rw [List.mem_singleton.mp called]
  · rw [List.map_flatMap, List.filterMap_eq_flatMap_toList]
    apply List.flatMap_congr
    intro i mem
    obtain ⟨entry, _, _, e, _, teardown⟩ := sweeps.visited i mem
    obtain ⟨outcome, eq⟩ := teardown.calls_eq
    rw [eq, names, List.getElem?_map, e]
    rfl

end Sweeps

/-- Bringing up all modules sweeps over those that wait. -/
lemma initializeAll_sweeps {registry : Registry M E} (flag : registry.initialized = false) :
    ∃ block, registry.Sweeps Startup registry.initializeAll.1 registry.pending
      (RegistryEvent.calls registry.initializeAll.2) block := by
  have distinct : registry.pending.Nodup := registry.order_nodup.filter _
  have made : ∀ i ∈ registry.pending, ∃ entry, registry.entries[i]? = some entry ∧
      ∀ shared : E, Startup entry.name (RegistryEvent.calls (entry.bringUp shared).trace)
        (entry.bringUp shared).state := by
    intro i mem
    obtain ⟨entry, e, _⟩ := (registry.inOrder_positionsOf fun _ => Iff.rfl).mem_iff i |>.mp mem
    exact ⟨entry, e, fun shared => (entry.bringUp_startup shared).1⟩
  obtain ⟨block, sweeps⟩ :=
    handleAll_sweeps Entry.bringUp registry distinct made Entry.bringUp_calling
  have positions : registry.upPositions = registry.order := if_neg (by simp [flag])
  obtain ⟨result, made⟩ := registry.initializeAll_eq
  rw [positions, ← handleAll_pending] at result made
  rw [result, made]
  exact ⟨block, sweeps.calls_eq, sweeps.visited, sweeps.untouched, sweeps.threads⟩

/-- To shut down those that are up is to visit all modules. -/
lemma handleAll_ready (registry : Registry M E) :
    registry.handleAll Entry.takeDown (registry.positionsOf (· = .initialized)).reverse =
      registry.handleAll Entry.takeDown registry.order.reverse := by
  rw [positionsOf, ← List.filter_reverse]
  rw [handleAll_filter _ registry (List.nodup_reverse.mpr registry.order_nodup)]
  -- Shutting down asks for the state itself, so to ask once more makes no difference.
  congr 1
  funext entry shared
  by_cases ready : entry.state = .initialized
  · simp [ready]
  · simp [ready, Entry.takeDown_of_ne ready]

/-- Shutting down all modules sweeps over those that are up. -/
lemma shutdownAll_sweeps {registry : Registry M E} (flag : registry.initialized = true) :
    ∃ block, registry.Sweeps Teardown registry.shutdownAll.1
      (registry.positionsOf (· = .initialized)).reverse (RegistryEvent.calls registry.shutdownAll.2)
      block := by
  have distinct : (registry.positionsOf (· = .initialized)).reverse.Nodup :=
    List.nodup_reverse.mpr (registry.order_nodup.filter _)
  have made : ∀ i ∈ (registry.positionsOf (· = .initialized)).reverse,
      ∃ entry, registry.entries[i]? = some entry ∧
        ∀ shared : E, Teardown entry.name (RegistryEvent.calls (entry.takeDown shared).trace)
          (entry.takeDown shared).state := by
    intro i mem
    have up := registry.inOrder_positionsOf (p := (· = .initialized)) fun _ => decide_eq_true_iff
    obtain ⟨entry, e, ready⟩ := (up.mem_iff i).mp (List.mem_reverse.mp mem)
    exact ⟨entry, e, fun shared => (entry.takeDown_teardown shared ready).1⟩
  obtain ⟨block, sweeps⟩ :=
    handleAll_sweeps Entry.takeDown registry distinct made Entry.takeDown_calling
  have positions : registry.downPositions = registry.order.reverse := if_pos flag
  obtain ⟨result, made⟩ := registry.shutdownAll_eq
  rw [positions, ← handleAll_ready] at result made
  rw [result, made]
  exact ⟨block, sweeps.calls_eq, sweeps.visited, sweeps.untouched, sweeps.threads⟩

/-- An initialized registry has nothing to bring up. -/
lemma initializeAll_of_initialized {registry : Registry M E} (flag : registry.initialized = true) :
    registry.initializeAll.1 = registry ∧ RegistryEvent.calls registry.initializeAll.2 = [] := by
  rw [initializeAll, if_pos flag]
  exact ⟨rfl, rfl⟩

/-- A registry that is not initialized has nothing to shut down. -/
lemma shutdownAll_of_not_initialized {registry : Registry M E}
    (flag : registry.initialized = false) :
    registry.shutdownAll.1 = registry ∧ RegistryEvent.calls registry.shutdownAll.2 = [] := by
  rw [shutdownAll, if_neg (by simp [flag])]
  exact ⟨rfl, rfl⟩

/-- The modules that are up after bringing up all are those that waited and came up: no other one
was up before, and none of them has been touched. -/
lemma pending_filter_up {registry : Registry M E} (consistent : registry.Consistent)
    (flag : registry.initialized = false) :
    (registry.pending.filter fun i =>
        registry.initializeAll.1.entries[i]?.any fun entry => entry.state = .initialized) =
      registry.initializeAll.1.positionsOf (· = .initialized) := by
  obtain ⟨block, sweeps⟩ := initializeAll_sweeps flag
  have order : registry.initializeAll.1.order = registry.order :=
    order_congr (initializeAll_map (fun _ _ => rfl) registry)
  rw [pending, positionsOf, List.filter_filter, order]
  apply List.filter_congr
  intro i _
  rw [Bool.and_eq_left_iff_imp]
  intro isUp
  by_contra settled
  have left : i ∉ registry.pending := fun waits => settled (List.mem_filter.mp waits).2
  rw [sweeps.untouched i left] at isUp
  obtain ⟨entry, e, state⟩ := (Option.any_eq_true _ _).mp isUp
  have allowed := consistent entry (List.mem_of_getElem? e)
  rw [flag] at allowed
  exact allowed.not_up (of_decide_eq_true state)

/-- The modules that come up in a registry without any that is up are those that can be shut down at
once, in the reverse order. -/
lemma shutdownAll_initializeAll {registry : Registry M E} (consistent : registry.Consistent)
    (flag : registry.initialized = false) :
    (∀ call ∈ RegistryEvent.calls registry.initializeAll.1.shutdownAll.2, call.stage = .shutdown) ∧
      (RegistryEvent.calls registry.initializeAll.1.shutdownAll.2).map HookCall.module =
        (HookCall.broughtUp (RegistryEvent.calls registry.initializeAll.2)).reverse := by
  have flag' : registry.initializeAll.1.initialized = true := by
    rw [registry.initializeAll_eq.1]
  have names : registry.initializeAll.1.names = registry.names :=
    initializeAll_map (fun _ _ => rfl) registry
  obtain ⟨_, up⟩ := initializeAll_sweeps flag
  obtain ⟨_, down⟩ := shutdownAll_sweeps flag'
  refine ⟨down.stopped.1, ?_⟩
  rw [down.stopped.2, up.broughtUp, pending_filter_up consistent flag, names,
    List.filterMap_reverse]

end Registry

namespace History

variable {M E : Type} [HostModule M E]

/-- After every run, bringing up all modules brings up exactly those that wait, in their order, and
leaves the registry initialized; shutting down all modules shuts down exactly those that are up, in
the reverse order, and leaves it not initialized; where the registry is so already, nothing happens.
The calls of a visit are those of the hooks of the module that is visited, and how they end is what
these hooks answer there (`Sweeps`). If all modules are brought up and then shut down at once, those
that came up are shut down, in the reverse order. -/
theorem sweeps_of_run (shared : E) (operations : List (Operation M E)) :
    let registry := (run shared operations).registry
    let up := registry.initializeAll
    let down := registry.shutdownAll
    let upDown := up.1.shutdownAll
    (registry.initialized = false →
      (∃ positions block,
        registry.InOrder (fun state => state = .registered ∨ state = .shutDown) positions ∧
        registry.Sweeps Startup up.1 positions (RegistryEvent.calls up.2) block) ∧
      up.1.initialized = true ∧
      down.1 = registry ∧ RegistryEvent.calls down.2 = [] ∧
      (∀ call ∈ RegistryEvent.calls upDown.2, call.stage = .shutdown) ∧
      (RegistryEvent.calls upDown.2).map HookCall.module =
        (HookCall.broughtUp (RegistryEvent.calls up.2)).reverse) ∧
    (registry.initialized = true →
      (∃ positions block,
        registry.InOrder (fun state => state = .initialized) positions ∧
        registry.Sweeps Teardown down.1 positions.reverse (RegistryEvent.calls down.2) block) ∧
      down.1.initialized = false ∧
      up.1 = registry ∧ RegistryEvent.calls up.2 = []) := by
  intro registry up down upDown
  refine ⟨fun flag => ⟨?_, ?_, ?_, ?_, ?_⟩, fun flag => ⟨?_, ?_, ?_⟩⟩
  · obtain ⟨block, sweeps⟩ := Registry.initializeAll_sweeps flag
    exact ⟨_, block, registry.inOrder_positionsOf fun _ => ModuleState.isPending_iff, sweeps⟩
  · exact congrArg Registry.initialized registry.initializeAll_eq.1
  · exact (Registry.shutdownAll_of_not_initialized flag).1
  · exact (Registry.shutdownAll_of_not_initialized flag).2
  · exact Registry.shutdownAll_initializeAll (run_consistent shared operations) flag
  · obtain ⟨block, sweeps⟩ := Registry.shutdownAll_sweeps flag
    exact ⟨_, block, registry.inOrder_positionsOf fun _ => decide_eq_true_iff, sweeps⟩
  · exact congrArg Registry.initialized registry.shutdownAll_eq.1
  · exact Registry.initializeAll_of_initialized flag

end History

end LuaHost
