import LuaHost.Proofs.Registry.Run

/-!
# Failures of hooks

The failures that a registry keeps are those of the calls it has made, in their order.
-/

namespace LuaHost

/-- The failures of some modules are those of their calls. -/
lemma HookCall.filter_failures (p : String → Bool) (calls : List HookCall) :
    (calls.filterMap failure?).filter (fun failure => p failure.module) =
    (calls.filter fun call => p call.module).filterMap failure? := by
  rw [List.filter_filterMap, List.filterMap_filter]
  apply List.filterMap_congr
  intro call _
  cases e : call.failure? with
  | none => simp
  | some failure =>
    have same : failure.module = call.module := by
      obtain ⟨_, _, rfl⟩ := Option.map_eq_some_iff.mp e
      rfl
    simp [Option.filter, same]

variable {M E : Type}

/-- Handling a module keeps the failures of its calls. -/
lemma Registry.failures_handle {act : Entry M → E → Handled M E} (visits : Visits act)
    (registry : Registry M E) (i : Nat) :
    (registry.handle act i).1.failures =
      registry.failures ++
        (RegistryEvent.calls (registry.handle act i).2).filterMap HookCall.failure? := by
  cases e : registry.entries[i]? with
  | none =>
    rw [handle_of_none e]
    exact (List.append_nil _).symm
  | some entry => rw [handle_of_some e, ← visits.failure]

variable [HostModule M E]

/-- After every run, the failures are those of the calls. -/
lemma History.run_failures (shared : E) (operations : List (Operation M E)) :
    (run shared operations).registry.failures =
    (run shared operations).calls.filterMap HookCall.failure? := by
  refine run_keeps (P := fun registry calls =>
    registry.failures = calls.filterMap HookCall.failure?)
    rfl ?_ operations
  intro registry calls operation h
  refine Registry.perform_keeps
    (P := fun registry calls => registry.failures = calls.filterMap HookCall.failure?)
    ?add ?handle ?modify ?rest calls operation h
  case add => exact fun _ _ _ _ h => h
  case handle =>
    intro act registry calls i visits h
    rw [Registry.failures_handle visits, h, List.filterMap_append]
  case modify => exact fun _ _ _ _ h => h
  case rest => exact fun _ _ _ _ h => h

end LuaHost
