import LuaHost.Proofs.Registry.Run

/-!
# States of modules

Whether a registry is initialized decides in which states its modules can be. An initialized
registry has brought all of them up, as far as their hooks allowed; any other one has none that is
up. The main statement is `states_of_run`: this holds after every run.
-/

namespace LuaHost

/-- The states that a module can be in, by whether the registry is initialized. -/
def ModuleState.Allowed : Bool → ModuleState → Prop
  | true, state => state = .initialized ∨ ∃ stage, state = .failed stage
  | false, state => state = .registered ∨ state = .shutDown ∨ ∃ stage, state = .failed stage

/-- No module of a registry that is not initialized is up. -/
lemma ModuleState.Allowed.not_up {state : ModuleState} (allowed : state.Allowed false) :
    state ≠ .initialized := by
  obtain rfl | rfl | ⟨stage, rfl⟩ := allowed <;> exact nofun

/-- No module of a registry is unknown to it. -/
lemma ModuleState.Allowed.known {state : ModuleState} {initialized}
    (allowed : state.Allowed initialized) :
    state ≠ .unregistered := by
  cases initialized with
  | true => obtain rfl | ⟨stage, rfl⟩ := allowed <;> exact nofun
  | false => obtain rfl | rfl | ⟨stage, rfl⟩ := allowed <;> exact nofun

/-- A startup ends in a state of an initialized registry. -/
lemma Startup.allowed {name calls after} (startup : Startup name calls after) :
    after.Allowed true := by
  cases startup with
  | unprepared _ => exact .inr ⟨_, rfl⟩
  | unbound _ => exact .inr ⟨_, rfl⟩
  | up => exact .inl rfl

/-- A teardown ends in a state of a registry that is not initialized. -/
lemma Teardown.allowed {name calls after} (teardown : Teardown name calls after) :
    after.Allowed false := by
  cases teardown with
  | stuck _ => exact .inr (.inr ⟨_, rfl⟩)
  | down => exact .inr (.inl rfl)

variable {M E : Type} [HostModule M E]

/-- Whatever the state was, bringing up leads to one of an initialized registry. -/
lemma Entry.bringUpPending_allowed {entry : Entry M} {initialized} (shared : E)
    (allowed : entry.state.Allowed initialized) :
    (entry.bringUpPending shared).state.Allowed true := by
  unfold bringUpPending
  split
  case isTrue => exact (entry.bringUp_startup shared).1.allowed
  case isFalse settled =>
    change entry.state.Allowed true
    cases initialized with
    | true => exact allowed
    | false =>
      obtain e | e | failed := allowed
      · rw [e] at settled
        exact absurd rfl settled
      · rw [e] at settled
        exact absurd rfl settled
      · exact .inr failed

/-- Shutting down leads from a state of an initialized registry to one of any other. -/
lemma Entry.takeDown_allowed {entry : Entry M} (shared : E) (allowed : entry.state.Allowed true) :
    (entry.takeDown shared).state.Allowed false := by
  obtain ready | failed := allowed
  · exact (entry.takeDown_teardown shared ready).1.allowed
  · have up : entry.state ≠ .initialized := by
      obtain ⟨stage, e⟩ := failed
      rw [e]
      exact nofun
    rw [takeDown_of_ne up]
    exact .inr (.inr failed)

namespace Registry

/-- All modules are in states that the registry allows. -/
def Consistent (registry : Registry M E) : Prop :=
  ∀ entry ∈ registry.entries, entry.state.Allowed registry.initialized

/-- Registering a module keeps the states consistent. -/
lemma Consistent.register {registry : Registry M E} (h : registry.Consistent) (module : M) :
    (registry.register module).2.1.Consistent := by
  obtain ⟨_, _, same, _⟩ | ⟨_, _, added, _⟩ := registry.register_cases module
  · rw [same]
    exact h
  · rw [added]
    intro entry mem
    rw [handleAll_initialized]
    change entry.state.Allowed registry.initialized
    unfold latePositions at mem
    cases flag : registry.initialized with
    | false =>
      rw [if_neg (by simp [flag]), handleAll_nil] at mem
      obtain old | new := List.mem_append.mp mem
      · exact flag ▸ h entry old
      · rw [List.mem_singleton.mp new]
        exact .inl rfl
    | true =>
      rw [if_pos flag, handleAll_singleton] at mem
      obtain old | rfl := mem_handle_added mem
      · exact flag ▸ h entry old
      · have fresh : (Entry.fresh E module).state.Allowed false := .inl rfl
        exact Entry.bringUpPending_allowed _ fresh

/-- Bringing up all modules keeps the states consistent. -/
lemma Consistent.initializeAll {registry : Registry M E} (h : registry.Consistent) :
    registry.initializeAll.1.Consistent := by
  rw [registry.initializeAll_eq.1]
  intro entry mem
  change entry.state.Allowed true
  unfold upPositions at mem
  cases flag : registry.initialized with
  | true =>
    rw [if_pos flag, handleAll_nil] at mem
    exact flag ▸ h entry mem
  | false =>
    rw [if_neg (by simp [flag])] at mem
    obtain ⟨i, left, e⟩ | ⟨i, before, shared, _, e, rfl⟩ := mem_handleAll registry.order_nodup mem
    · exact absurd (mem_order_of_some e) left
    · exact Entry.bringUpPending_allowed shared (h before (List.mem_of_getElem? e))

/-- Shutting down all modules keeps the states consistent. -/
lemma Consistent.shutdownAll {registry : Registry M E} (h : registry.Consistent) :
    registry.shutdownAll.1.Consistent := by
  rw [registry.shutdownAll_eq.1]
  intro entry mem
  change entry.state.Allowed false
  unfold downPositions at mem
  cases flag : registry.initialized with
  | true =>
    rw [if_pos flag] at mem
    obtain ⟨i, left, e⟩ | ⟨i, before, shared, _, e, rfl⟩ :=
      mem_handleAll (List.nodup_reverse.mpr registry.order_nodup) mem
    · exact absurd (List.mem_reverse.mpr (mem_order_of_some e)) left
    · exact Entry.takeDown_allowed shared (flag ▸ h before (List.mem_of_getElem? e))
  | false =>
    rw [if_neg (by simp [flag]), handleAll_nil] at mem
    exact flag ▸ h entry mem

/-- Every operation keeps the states consistent. -/
lemma Consistent.perform {registry : Registry M E} (h : registry.Consistent)
    (operation : Operation M E) : (registry.perform operation).registry.Consistent := by
  cases operation with
  | register module => exact h.register module
  | initializeAll => exact h.initializeAll
  | shutdownAll => exact h.shutdownAll
  | modify name change =>
    intro entry mem
    obtain ⟨before, known, _, rfl⟩ := mem_modify mem
    exact h before known
  | share change => exact h

end Registry

namespace History

/-- After every run the states are consistent. -/
lemma run_consistent (shared : E) (operations : List (Operation M E)) :
    (run shared operations).registry.Consistent :=
  run_induction (P := fun history => history.registry.Consistent) shared nofun
    (fun _ operation h => h.perform operation) operations

/-- After every run, all modules of an initialized registry are initialized or failed, none of any
other is initialized, and none is unregistered. -/
theorem states_of_run (shared : E) (operations : List (Operation M E)) :
    let registry := (run shared operations).registry
    (registry.initialized = true →
      ∀ entry ∈ registry.entries, entry.state = .initialized ∨
        ∃ stage, entry.state = .failed stage) ∧
    (registry.initialized = false → ∀ entry ∈ registry.entries, entry.state ≠ .initialized) ∧
    ∀ entry ∈ registry.entries, entry.state ≠ .unregistered := by
  intro registry
  have consistent : registry.Consistent := run_consistent shared operations
  refine ⟨fun flag entry mem => ?_, fun flag entry mem => ?_,
    fun entry mem => (consistent entry mem).known⟩
  · have allowed := consistent entry mem
    rw [flag] at allowed
    exact allowed
  · have allowed := consistent entry mem
    rw [flag] at allowed
    exact allowed.not_up

end History

end LuaHost
