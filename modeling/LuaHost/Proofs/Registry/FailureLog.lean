import LuaHost.Proofs.Registry.Failures
import LuaHost.Proofs.Registry.Lifecycle

/-!
# Log of failures

The failures that a registry keeps and the states of its modules tell the same (`Tells`): a module
has failed in a stage if and only if one failure of it is kept, of that stage. Failures are only
ever added, as hooks fail, and each of them is logged at once (`Reported`). The main statement is
`failures_of_run`.
-/

namespace LuaHost

/-- The entry that a registry logs, if it does so as an error. -/
def RegistryEvent.error? : RegistryEvent → Option LogEntry
  | .logged entry => if entry.level = .error then some entry else none
  | .called .. => none

/-- The entries that a registry logs as errors. -/
def RegistryEvent.errors (trace : List RegistryEvent) : List LogEntry :=
  trace.filterMap error?

/-- A trace and the failures of its calls. A call that fails is followed at once by the entry that
logs the failure, and nothing else is logged as an error. -/
inductive Reported : List RegistryEvent → List HookFailure → Prop where
  | nil :
    Reported [] []
  | logged {entry trace failures} :
    entry.level ≠ .error →
    Reported trace failures →
    Reported (.logged entry :: trace) failures
  | succeeded {call caused trace failures} :
    call.outcome = .succeeded →
    Reported trace failures →
    Reported (.called call caused :: trace) failures
  | failed {call caused failure trace failures} :
    call.failure? = some failure →
    Reported trace failures →
    Reported (.called call caused :: .logged failure.logEntry :: trace) (failure :: failures)

namespace Reported

/-- What is not logged as an error reports no failure. -/
lemma log {level} (quiet : level ≠ .error) (message : String) (fields : List (String × String)) :
    Reported [.log level message fields] [] :=
  .logged quiet .nil

/-- One trace after another reports the failures of both. -/
lemma append {trace failures more later} (h : Reported trace failures) (h' : Reported more later) :
    Reported (trace ++ more) (failures ++ later) := by
  induction h with
  | nil => exact h'
  | logged quiet _ ih => exact .logged quiet ih
  | succeeded ok _ ih => exact .succeeded ok ih
  | failed fails _ ih => exact .failed fails ih

/-- What is not logged as an error adds no failure to a trace. -/
lemma append_log {trace failures level} (h : Reported trace failures) (quiet : level ≠ .error)
    (message : String) (fields : List (String × String)) :
    Reported (trace ++ [.log level message fields]) failures := by
  have more := h.append (.log quiet message fields)
  rw [List.append_nil] at more
  exact more

/-- The failures are those of the calls, in their order. -/
lemma failures_eq {trace failures} (h : Reported trace failures) :
    failures = (RegistryEvent.calls trace).filterMap HookCall.failure? := by
  induction h with
  | nil => rfl
  | logged _ _ ih => exact ih
  | succeeded ok _ ih =>
    rw [RegistryEvent.calls_called, List.filterMap_cons_none (HookCall.failure?_eq_none.mpr ok)]
    exact ih
  | failed fails _ ih =>
    rw [RegistryEvent.calls_called, RegistryEvent.calls_logged,
      List.filterMap_cons_some fails, ← ih]

/-- What is logged as an error are the failures. -/
lemma errors_eq {trace failures} (h : Reported trace failures) :
    RegistryEvent.errors trace = failures.map HookFailure.logEntry := by
  unfold RegistryEvent.errors
  induction h with
  | nil => rfl
  | @logged entry _ _ quiet _ ih =>
    have silent : (RegistryEvent.logged entry).error? = none := if_neg quiet
    rw [List.filterMap_cons_none silent, ih]
  | succeeded _ _ ih => rw [List.filterMap_cons_none rfl, ih]
  | @failed _ _ failure _ _ _ _ ih =>
    have logged : (RegistryEvent.logged failure.logEntry).error? = some failure.logEntry := rfl
    rw [List.filterMap_cons_none rfl, List.filterMap_cons_some logged, ih, List.map_cons]

end Reported

/-! ### What is logged -/

section Trace

variable {M E : Type} [HostModule M E]

namespace Entry

/-- The announcement of a module reports no failure. -/
lemma announcement_reported (entry : Entry M) : Reported entry.announcement [] := by
  unfold announcement
  split
  · exact .append (.log (by decide) _ _) (.log (by decide) _ _)
  · exact .log (by decide) _ _

/-- Calling a hook reports its failure. -/
lemma callHook_reported (stage : Stage) (entry : Entry M) (shared : E) :
    Reported (entry.callHook stage shared).trace (entry.callHook stage shared).failure.toList := by
  unfold callHook
  generalize HostModule.runHook stage entry.module shared = result
  cases e : (⟨entry.name, stage, result.outcome⟩ : HookCall).failure? with
  | none =>
    simp only [e]
    exact .succeeded (HookCall.failure?_eq_none.mp e) .nil
  | some failure =>
    simp only [e]
    exact .failed e .nil

/-- Bringing a module up reports the failure. -/
lemma bringUp_reported (entry : Entry M) (shared : E) :
    Reported (entry.bringUp shared).trace (entry.bringUp shared).failure.toList := by
  have first := callHook_reported .initialization entry shared
  unfold bringUp
  generalize entry.callHook .initialization shared = prepared at first ⊢
  have second := callHook_reported .binding (entry.after prepared) prepared.shared
  cases fails : prepared.failure with
  | some _ =>
    simp only [fails] at first ⊢
    exact first
  | none =>
    simp only [fails] at first ⊢
    generalize (entry.after prepared).callHook .binding prepared.shared = bound at second ⊢
    have both := first.append second
    cases fails' : bound.failure with
    | some _ =>
      simp only [fails'] at both ⊢
      exact both
    | none =>
      simp only [fails'] at both ⊢
      exact both.append_log (by decide) _ _

/-- Shutting a module down reports the failure. -/
lemma takeDown_reported (entry : Entry M) (shared : E) :
    Reported (entry.takeDown shared).trace (entry.takeDown shared).failure.toList := by
  have call := callHook_reported .shutdown entry shared
  unfold takeDown
  split
  case isTrue =>
    generalize entry.callHook .shutdown shared = stopped at call ⊢
    cases fails : stopped.failure with
    | some _ =>
      simp only [fails] at call ⊢
      exact call
    | none =>
      simp only [fails] at call ⊢
      exact call.append_log (by decide) _ _
  case isFalse => exact .nil

end Entry

namespace Registry

variable {act : Entry M → E → Handled M E}

omit [HostModule M E] in
/-- Handling a module keeps what it reports. -/
lemma handle_reported
    (reported : ∀ entry shared, Reported (act entry shared).trace (act entry shared).failure.toList)
    (registry : Registry M E) (i : Nat) :
    ∃ later, (registry.handle act i).1.failures = registry.failures ++ later ∧
      Reported (registry.handle act i).2 later := by
  cases e : registry.entries[i]? with
  | none =>
    rw [handle_of_none e]
    exact ⟨[], (List.append_nil _).symm, .nil⟩
  | some entry =>
    rw [handle_of_some e]
    exact ⟨_, rfl, reported entry registry.shared⟩

omit [HostModule M E] in
/-- A pass keeps what it reports. -/
lemma handleAll_reported
    (reported : ∀ entry shared, Reported (act entry shared).trace (act entry shared).failure.toList)
    (registry : Registry M E) (positions : List Nat) :
    ∃ later, (registry.handleAll act positions).1.failures = registry.failures ++ later ∧
      Reported (registry.handleAll act positions).2 later := by
  induction positions generalizing registry with
  | nil => exact ⟨[], (List.append_nil _).symm, .nil⟩
  | cons i rest ih =>
    obtain ⟨first, kept, trace⟩ := handle_reported reported registry i
    obtain ⟨later, kept', trace'⟩ := ih (registry.handle act i).1
    refine ⟨first ++ later, ?_, trace.append trace'⟩
    rw [kept, List.append_assoc] at kept'
    exact kept'

/-- Every operation keeps what it reports. -/
lemma perform_reported (registry : Registry M E) (operation : Operation M E) :
    ∃ later, (registry.perform operation).registry.failures = registry.failures ++ later ∧
      Reported (registry.perform operation).trace later := by
  cases operation with
  | register module =>
    change ∃ later, (registry.register module).2.1.failures = registry.failures ++ later ∧
      Reported (registry.register module).2.2 later
    have announced := (Entry.fresh E module).announcement_reported
    simp only [register]
    split
    · exact ⟨[], (List.append_nil _).symm, .log (by decide) _ _⟩
    · split
      -- A module that comes late is brought up at once, and may fail in this.
      · obtain ⟨later, kept, trace⟩ := handle_reported Entry.bringUp_reported
          (registry.add (.fresh E module)) registry.entries.length
        exact ⟨later, kept, (announced.append_log (by decide) _ _).append trace⟩
      · exact ⟨[], (List.append_nil _).symm, announced⟩
  | initializeAll =>
    change ∃ later, registry.initializeAll.1.failures = registry.failures ++ later ∧
      Reported registry.initializeAll.2 later
    unfold initializeAll
    split
    · exact ⟨[], (List.append_nil _).symm, .log (by decide) _ _⟩
    · obtain ⟨later, kept, trace⟩ :=
        handleAll_reported Entry.bringUp_reported registry registry.pending
      exact ⟨later, kept, .append_log (.append (.log (by decide) _ _) trace) (by decide) _ _⟩
  | shutdownAll =>
    change ∃ later, registry.shutdownAll.1.failures = registry.failures ++ later ∧
      Reported registry.shutdownAll.2 later
    unfold shutdownAll
    split
    · obtain ⟨later, kept, trace⟩ :=
        handleAll_reported Entry.takeDown_reported registry registry.order.reverse
      exact ⟨later, kept, trace.append_log (by decide) _ _⟩
    · exact ⟨[], (List.append_nil _).symm, .log (by decide) _ _⟩
  | modify name change => exact ⟨[], (List.append_nil _).symm, .nil⟩
  | share change => exact ⟨[], (List.append_nil _).symm, .nil⟩

end Registry

/-- A longer run adds failures, and reports what it adds. -/
lemma History.run_reported (shared : E) (operations more : List (Operation M E)) :
    ∃ later trace,
      (run shared (operations ++ more)).registry.failures =
        (run shared operations).registry.failures ++ later ∧
      (run shared (operations ++ more)).trace = (run shared operations).trace ++ trace ∧
      Reported trace later := by
  induction more using List.reverseRecOn with
  | nil =>
    rw [List.append_nil]
    exact ⟨[], [], (List.append_nil _).symm, (List.append_nil _).symm, .nil⟩
  | append_singleton more operation ih =>
    obtain ⟨later, trace, kept, made, reported⟩ := ih
    rw [← List.append_assoc, run_concat]
    generalize run shared (operations ++ more) = history at kept made
    obtain ⟨latest, kept', reported'⟩ := history.registry.perform_reported operation
    rw [kept, List.append_assoc] at kept'
    refine ⟨later ++ latest, trace ++ (history.registry.perform operation).trace, kept', ?_,
      reported.append reported'⟩
    rw [← List.append_assoc, ← made]
    rfl

end Trace

/-! ### What states tell -/

/-- The failures of a module are none, unless it has failed, or else one, of the stage in which it
has. -/
inductive Tells : List HookFailure → ModuleState → Prop where
  | sound {state} :
    (∀ stage, state ≠ .failed stage) →
    Tells [] state
  | failed (failure : HookFailure) :
    Tells [failure] (.failed failure.stage)

/-- A module has failed in a stage if and only if it has one failure, of that stage. -/
lemma Tells.failed_iff {failures state} (tells : Tells failures state) (stage : Stage) :
    state = .failed stage ↔ ∃ failure, failures = [failure] ∧ failure.stage = stage := by
  cases tells with
  | sound sound => exact ⟨fun failed => absurd failed (sound stage), nofun⟩
  | failed failure =>
    constructor
    · rintro ⟨rfl⟩
      exact ⟨failure, rfl, rfl⟩
    · rintro ⟨_, ⟨rfl⟩, rfl⟩
      rfl

/-- A module has one failure at most. -/
lemma Tells.length_le {failures state} (tells : Tells failures state) : failures.length ≤ 1 := by
  cases tells with
  | sound _ => exact Nat.zero_le 1
  | failed _ => exact Nat.le_refl 1

/-- The failure of a call is one of its module and stage. -/
lemma HookCall.failure?_of_ne (call : HookCall) (fails : call.outcome ≠ .succeeded) :
    ∃ message, call.failure? = some ⟨call.module, call.stage, message⟩ := by
  rcases call with ⟨_, _, outcome⟩
  cases outcome with
  | succeeded => exact absurd rfl fails
  | failed error => exact ⟨_, rfl⟩
  | panicked message => exact ⟨_, rfl⟩

open HookCall

/-- The state that a startup leads to is told by its failures. -/
lemma Startup.tells {name calls after} (startup : Startup name calls after) :
    Tells (calls.filterMap failure?) after := by
  have fine (stage : Stage) : (⟨name, stage, .succeeded⟩ : HookCall).failure? = none := rfl
  cases startup with
  | unprepared fails =>
    obtain ⟨message, e⟩ := failure?_of_ne ⟨name, .initialization, _⟩ fails
    rw [List.filterMap_cons_some e]
    exact .failed _
  | unbound fails =>
    obtain ⟨message, e⟩ := failure?_of_ne ⟨name, .binding, _⟩ fails
    rw [List.filterMap_cons_none (fine _), List.filterMap_cons_some e]
    exact .failed _
  | up => exact .sound nofun

/-- The state that a teardown leads to is told by its failures. -/
lemma Teardown.tells {name calls after} (teardown : Teardown name calls after) :
    Tells (calls.filterMap failure?) after := by
  cases teardown with
  | stuck fails =>
    obtain ⟨message, e⟩ := failure?_of_ne ⟨name, .shutdown, _⟩ fails
    rw [List.filterMap_cons_some e]
    exact .failed _
  | down => exact .sound nofun

/-- Complete cycles have no failures. -/
lemma HookCall.failures_cycles (name : String) (n : Nat) :
    (cycles name n).filterMap failure? = [] := by
  rw [List.filterMap_eq_nil_iff]
  intro call mem
  exact failure?_eq_none.mpr (succeeded_of_mem_cycles mem)

/-- The state of a module is told by the failures of its life. -/
lemma Lived.tells {name calls state} (lived : Lived name calls state) :
    Tells (calls.filterMap failure?) state := by
  cases lived with
  | registered => exact .sound nofun
  | startup startup =>
    rw [List.filterMap_append, failures_cycles]
    exact startup.tells
  | teardown teardown =>
    rw [List.filterMap_append, failures_cycles, List.filterMap_append]
    exact teardown.tells

/-! ### The main statement -/

namespace Registry

variable {M E : Type} {registry : Registry M E} {calls : List HookCall}

/-- The failures of a module tell its state. -/
lemma Coherent.tells (h : registry.Coherent calls) {entry} (mem : entry ∈ registry.entries) :
    Tells ((calls.filterMap failure?).filter (·.module = entry.name)) entry.state := by
  have only := filter_failures (fun name => decide (name = entry.name)) calls
  rw [only]
  exact (h.lived entry mem).tells

/-- Failures are those of known modules. -/
lemma Coherent.failure_known (h : registry.Coherent calls) :
    ∀ failure ∈ calls.filterMap failure?, failure.module ∈ registry.names := by
  intro failure mem
  obtain ⟨call, called, e⟩ := List.mem_filterMap.mp mem
  obtain ⟨_, _, rfl⟩ := Option.map_eq_some_iff.mp e
  exact h.known call called

/-- No two failures are of the same module. -/
lemma Coherent.failures_nodup (h : registry.Coherent calls) :
    ((calls.filterMap failure?).map HookFailure.module).Nodup := by
  rw [List.nodup_iff_count_le_one]
  intro name
  by_cases known : name ∈ registry.names
  · obtain ⟨entry, mem, rfl⟩ := List.mem_map.mp known
    have le := (h.tells mem).length_le
    rw [← List.countP_eq_length_filter] at le
    rw [List.count, List.countP_map]
    exact le
  · rw [List.count_eq_zero.mpr]
    · exact Nat.zero_le 1
    · intro mem
      obtain ⟨failure, kept, rfl⟩ := List.mem_map.mp mem
      exact known (h.failure_known failure kept)

end Registry

namespace History

variable {M E : Type} [HostModule M E]

/-- After every run, a module has one failure at most, has failed in a stage if and only if it has
one of that stage, and there are no failures of others. Whatever is done afterwards adds the
failures of the hooks that fail, in their order, and logs each of them as an error at once and
nothing else. -/
theorem failures_of_run (shared : E) (operations more : List (Operation M E)) :
    let registry := (run shared operations).registry
    (registry.failures.map HookFailure.module).Nodup ∧
    (∀ entry ∈ registry.entries, ∀ stage, entry.state = .failed stage ↔
      ∃ failure, registry.failures.filter (·.module = entry.name) = [failure] ∧
        failure.stage = stage) ∧
    (∀ failure ∈ registry.failures, failure.module ∈ registry.names) ∧
    ∃ later trace,
      (run shared (operations ++ more)).registry.failures = registry.failures ++ later ∧
      (run shared (operations ++ more)).trace = (run shared operations).trace ++ trace ∧
      later = (RegistryEvent.calls trace).filterMap HookCall.failure? ∧
      RegistryEvent.errors trace = later.map HookFailure.logEntry ∧
      Reported trace later := by
  intro registry
  have coherent : registry.Coherent (run shared operations).calls := run_coherent shared operations
  have failures : registry.failures = (run shared operations).calls.filterMap failure? :=
    run_failures shared operations
  refine ⟨?_, ?_, ?_, ?_⟩
  · rw [failures]
    exact coherent.failures_nodup
  · intro entry mem stage
    rw [failures]
    exact (coherent.tells mem).failed_iff stage
  · rw [failures]
    exact coherent.failure_known
  · obtain ⟨later, trace, kept, made, reported⟩ := run_reported shared operations more
    exact ⟨later, trace, kept, made, reported.failures_eq, reported.errors_eq, reported⟩

end History

end LuaHost
