import LuaHost.Proofs.Registry.Order
import LuaHost.Proofs.Registry.Pass
import Mathlib.Data.List.Induction

/-!
# Runs of a registry

The histories of a registry under all that can be done to it, in any order. Hooks behave as their
modules do, so a run goes through every mixture of success, failure and panic. Each operation comes
down to one pass over some positions (`register_cases`, `initializeAll_eq`, `shutdownAll_eq`); what
additions of modules, passes and changes from outside keep holds of every run (`run_keeps`).
-/

namespace LuaHost

/-- Something done to a registry. Whoever looks a module up may change it, and between the
operations the host and its scripts may change what the modules share. -/
inductive Operation (M E : Type) where
  | register (module : M)
  | initializeAll
  | shutdownAll
  | modify (name : String) (change : M → M)
  | share (change : E → E)

/-- A registry with what it has done so far and what `register` has answered each time. -/
structure History (M E : Type) where
  registry : Registry M E
  trace : List RegistryEvent := []
  answers : List Bool := []

variable {M E : Type}

namespace History

/-- The calls of hooks so far. -/
def calls (history : History M E) : List HookCall :=
  RegistryEvent.calls history.trace

/-- The calls of the hooks of one module so far. -/
def callsOf (history : History M E) (name : String) : List HookCall :=
  history.calls.filter (·.module = name)

end History

variable [HostModule M E]

/-- One operation, as a history of its own. -/
def Registry.perform (registry : Registry M E) : Operation M E → History M E
  | .register module =>
    let (accepted, registry, trace) := registry.register module
    { registry, trace, answers := [accepted] }
  | .initializeAll =>
    let (registry, trace) := registry.initializeAll
    { registry, trace }
  | .shutdownAll =>
    let (registry, trace) := registry.shutdownAll
    { registry, trace }
  | .modify name change => { registry := registry.modify name change }
  | .share change => { registry := { registry with shared := change registry.shared } }

namespace History

/-- A history and what one more operation adds to it. -/
def perform (history : History M E) (operation : Operation M E) : History M E :=
  let next := history.registry.perform operation
  { registry := next.registry
    trace := history.trace ++ next.trace
    answers := history.answers ++ next.answers }

/-- The calls of one more operation come last. -/
@[simp] lemma perform_calls (history : History M E) (operation : Operation M E) :
    (history.perform operation).calls =
      history.calls ++ (history.registry.perform operation).calls :=
  RegistryEvent.calls_append _ _

/-- The history of a new registry under some operations. -/
def run (shared : E) (operations : List (Operation M E)) : History M E :=
  operations.foldl perform { registry := { shared } }

/-- One more operation comes last. -/
lemma run_concat (shared : E) (operations : List (Operation M E)) (operation : Operation M E) :
    run shared (operations ++ [operation]) = (run shared operations).perform operation := by
  simp [run]

/-- What holds at the start and is kept by each operation holds of every run. -/
lemma run_induction {P : History M E → Prop} (shared : E)
    (start : P { registry := { shared } })
    (step : ∀ history operation, P history → P (history.perform operation))
    (operations : List (Operation M E)) : P (run shared operations) := by
  induction operations using List.reverseRecOn with
  | nil => exact start
  | append_singleton operations operation ih =>
    rw [run_concat]
    exact step _ operation ih

end History

namespace Registry

/-! ### What the operations come down to -/

/-- To bring up those that wait is to visit all modules. -/
lemma handleAll_pending (registry : Registry M E) :
    registry.handleAll Entry.bringUp registry.pending =
      registry.handleAll Entry.bringUpPending registry.order :=
  handleAll_filter (fun entry => entry.state.isPending) registry registry.order_nodup

/-- To bring up a module that was just added is to visit it, for it waits. -/
lemma handle_added (registry : Registry M E) (module : M) :
    (registry.add (.fresh E module)).handle Entry.bringUp registry.entries.length =
    (registry.add (.fresh E module)).handle Entry.bringUpPending registry.entries.length := by
  have waits : (registry.add (.fresh E module)).entries[registry.entries.length]?.any
      (fun entry => entry.state.isPending) = true := by
    rw [add_getElem?]
    rfl
  have h := handle_if Entry.bringUp (fun entry => entry.state.isPending)
    (registry.add (.fresh E module)) registry.entries.length
  rw [if_pos waits] at h
  exact h.symm

/-- The position at which a registered module is visited at once, if the registry is initialized. -/
def latePositions (registry : Registry M E) : List Nat :=
  if registry.initialized then [registry.entries.length] else []

/-- A registration is refused without any effect, or adds the module and may visit it. -/
lemma register_cases (registry : Registry M E) (module : M) :
    (registry.contains (HostModule.name E module) = true ∧
    (registry.register module).1 = false ∧ (registry.register module).2.1 = registry ∧
      RegistryEvent.calls (registry.register module).2.2 = []) ∨
    (registry.contains (HostModule.name E module) = false ∧
      (registry.register module).1 = true ∧
      (registry.register module).2.1 =
        ((registry.add (.fresh E module)).handleAll Entry.bringUpPending registry.latePositions).1 ∧
      RegistryEvent.calls (registry.register module).2.2 =
        RegistryEvent.calls
          ((registry.add (.fresh E module)).handleAll Entry.bringUpPending
            registry.latePositions).2) := by
  have name : (Entry.fresh E module).name = HostModule.name E module := rfl
  unfold register
  cases taken : registry.contains (HostModule.name E module) with
  | true => exact .inl (by simp [name, taken])
  | false =>
    have same : (registry.add (.fresh E module)).initialized = registry.initialized := rfl
    cases flag : registry.initialized with
    | false => exact .inr (by simp [name, taken, same, flag, latePositions])
    | true => exact .inr (by simp [name, taken, same, flag, latePositions, handle_added])

/-- The positions that are visited when all modules are brought up: none, if that has been done. -/
def upPositions (registry : Registry M E) : List Nat :=
  if registry.initialized then [] else registry.order

/-- The positions that are visited when all modules are shut down: none, unless they were brought
up. -/
def downPositions (registry : Registry M E) : List Nat :=
  if registry.initialized then registry.order.reverse else []

/-- Bringing up all modules visits them in their order. -/
lemma initializeAll_eq (registry : Registry M E) :
    registry.initializeAll.1 =
      { (registry.handleAll Entry.bringUpPending registry.upPositions).1 with
        initialized := true } ∧
    RegistryEvent.calls registry.initializeAll.2 =
      RegistryEvent.calls (registry.handleAll Entry.bringUpPending registry.upPositions).2 := by
  unfold initializeAll upPositions
  cases flag : registry.initialized with
  | true =>
    have same : registry = { registry with initialized := true } := by rw [← flag]
    exact ⟨same, rfl⟩
  | false => simp [handleAll_pending]

/-- Bringing up all modules leaves alone what no hook changes. -/
lemma initializeAll_map {α : Type} {f : Entry M → α} (fixed : ∀ entry (handled : Handled M E),
    f (entry.after handled) = f entry) (registry : Registry M E) :
    registry.initializeAll.1.entries.map f = registry.entries.map f := by
  rw [registry.initializeAll_eq.1]
  exact handleAll_map fixed registry registry.upPositions

/-- Shutting down all modules visits them in the reverse order. -/
lemma shutdownAll_eq (registry : Registry M E) :
    registry.shutdownAll.1 =
      { (registry.handleAll Entry.takeDown registry.downPositions).1 with initialized := false } ∧
    RegistryEvent.calls registry.shutdownAll.2 =
      RegistryEvent.calls (registry.handleAll Entry.takeDown registry.downPositions).2 := by
  unfold shutdownAll downPositions
  cases flag : registry.initialized with
  | true => simp
  | false =>
    have same : registry = { registry with initialized := false } := by rw [← flag]
    exact ⟨same, rfl⟩

/-- Shutting down all modules leaves alone what no hook changes. -/
lemma shutdownAll_map {α : Type} {f : Entry M → α} (fixed : ∀ entry (handled : Handled M E),
    f (entry.after handled) = f entry) (registry : Registry M E) :
    registry.shutdownAll.1.entries.map f = registry.entries.map f := by
  rw [registry.shutdownAll_eq.1]
  exact handleAll_map fixed registry registry.downPositions

omit [HostModule M E] in
/-- Changing a module leaves alone what no hook changes. -/
lemma modify_map {α : Type} {f : Entry M → α} (fixed : ∀ entry (handled : Handled M E),
    f (entry.after handled) = f entry) (registry : Registry M E) (name : String) (change : M → M) :
    (registry.modify name change).entries.map f = registry.entries.map f := by
  unfold modify
  rw [List.map_map]
  apply List.map_congr_left
  intro entry _
  rw [Function.comp_apply]
  split
  · exact fixed entry ⟨change entry.module, entry.state, registry.shared, [], none⟩
  · rfl

/-- What no hook changes is left alone by all operations, but registrations add to it. -/
lemma perform_map {α : Type} {f : Entry M → α} (fixed : ∀ entry (handled : Handled M E),
    f (entry.after handled) = f entry) (registry : Registry M E) {operation : Operation M E}
    (other : ∀ module, operation ≠ .register module) :
    (registry.perform operation).registry.entries.map f = registry.entries.map f := by
  cases operation with
  | register module => exact absurd rfl (other module)
  | initializeAll => exact initializeAll_map fixed registry
  | shutdownAll => exact shutdownAll_map fixed registry
  | modify name change => exact modify_map fixed registry name change
  | share change => rfl

omit [HostModule M E] in
/-- Changing a module changes nothing else of its entry. -/
lemma mem_modify {registry : Registry M E} {name change entry}
    (mem : entry ∈ (registry.modify name change).entries) :
    ∃ before ∈ registry.entries, ∃ module, entry = { before with module } := by
  obtain ⟨before, known, eq⟩ := List.mem_map.mp mem
  refine ⟨before, known, ?_⟩
  split at eq
  · exact ⟨_, eq.symm⟩
  · exact ⟨before.module, eq.symm⟩

/-! ### What operations keep -/

/-- What is kept by adding a module, by visits, and by changes of modules, of what they share and of
the flag, is kept by each operation. The property may tell of the calls so far. -/
lemma perform_keeps {P : Registry M E → List HookCall → Prop}
    (add : ∀ registry calls module, registry.contains (HostModule.name E module) = false →
      P registry calls → P (registry.add (.fresh E module)) calls)
    (handle : ∀ (act : Entry M → E → Handled M E) registry calls i,
      Visits act → P registry calls →
        P (registry.handle act i).1 (calls ++ RegistryEvent.calls (registry.handle act i).2))
    (modify : ∀ registry calls name change, P registry calls →
      P (registry.modify name change) calls)
    (rest : ∀ registry calls shared initialized,
      P registry calls → P { registry with shared, initialized } calls)
    {registry} (calls : List HookCall) (operation : Operation M E) (h : P registry calls) :
    P (registry.perform operation).registry (calls ++ (registry.perform operation).calls) := by
  -- Whatever the operation visits, it does so in one pass.
  have pass {act : Entry M → E → Handled M E} (visits : Visits act) {registry} (positions)
      (h : P registry calls) :=
    handleAll_induction (fun registry calls i => handle act registry calls i visits) h positions
  cases operation with
  | register module =>
    change P (registry.register module).2.1 (calls ++
      RegistryEvent.calls (registry.register module).2.2)
    obtain ⟨_, _, same, none⟩ | ⟨free, _, added, visited⟩ := registry.register_cases module
    · rw [same, none, List.append_nil]
      exact h
    · rw [added, visited]
      exact pass .bringUpPending _ (add registry calls module free h)
  | initializeAll =>
    change P registry.initializeAll.1 (calls ++ RegistryEvent.calls registry.initializeAll.2)
    obtain ⟨visited, seen⟩ := registry.initializeAll_eq
    rw [visited, seen]
    exact rest _ _ _ _ (pass .bringUpPending _ h)
  | shutdownAll =>
    change P registry.shutdownAll.1 (calls ++ RegistryEvent.calls registry.shutdownAll.2)
    obtain ⟨visited, seen⟩ := registry.shutdownAll_eq
    rw [visited, seen]
    exact rest _ _ _ _ (pass .takeDown _ h)
  | modify name change =>
    change P (registry.modify name change) (calls ++ [])
    rw [List.append_nil]
    exact modify _ _ name change h
  | share change =>
    change P { registry with shared := change registry.shared } (calls ++ [])
    rw [List.append_nil]
    exact rest _ _ _ _ h

end Registry

/-- What operations keep, in the sense of `Registry.perform_keeps`, holds of every run if it holds
of a new registry. -/
lemma History.run_keeps {P : Registry M E → List HookCall → Prop} {shared : E}
    (start : P { shared } [])
    (step : ∀ registry calls operation, P registry calls →
      P (registry.perform operation).registry (calls ++ (registry.perform operation).calls))
    (operations : List (Operation M E)) :
    P (run shared operations).registry (run shared operations).calls := by
  refine run_induction (P := fun history => P history.registry history.calls) shared
    start ?_ operations
  intro history operation h
  rw [perform_calls]
  exact step _ _ operation h

end LuaHost
