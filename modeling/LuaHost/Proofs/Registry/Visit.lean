import LuaHost.Module.Registry
import Mathlib.Tactic.Common

/-!
# Visits

What a registry can do to one of its modules in one go. It brings the module up (`Startup`), shuts
it down (`Teardown`), or leaves it alone; `Visit` puts the three together with the states in which
they happen. These relations say all about the calls and about the state afterwards, and `Calling`
says that the calls are those of the hooks of the module, and that nothing else changes it:
`Entry.bringUpPending` and `Entry.takeDown` are opened here and nowhere else.
-/

namespace LuaHost

/-- The calls that bring a module up, and the state that they leave it in. -/
inductive Startup (name : String) : List HookCall → ModuleState → Prop where
  | unprepared {outcome} :
    outcome ≠ .succeeded →
    Startup name [⟨name, .initialization, outcome⟩] (.failed .initialization)
  | unbound {outcome} :
    outcome ≠ .succeeded →
    Startup name [⟨name, .initialization, .succeeded⟩, ⟨name, .binding, outcome⟩] (.failed .binding)
  | up :
    Startup name [⟨name, .initialization, .succeeded⟩, ⟨name, .binding, .succeeded⟩] .initialized

/-- A module that was to be brought up does not wait any more. -/
lemma Startup.not_isPending {name calls after} (startup : Startup name calls after) :
    after.isPending = false := by
  cases startup <;> rfl

/-- The calls that shut a module down, and the state that they leave it in. -/
inductive Teardown (name : String) : List HookCall → ModuleState → Prop where
  | stuck {outcome} :
    outcome ≠ .succeeded →
    Teardown name [⟨name, .shutdown, outcome⟩] (.failed .shutdown)
  | down :
    Teardown name [⟨name, .shutdown, .succeeded⟩] .shutDown

/-- The calls of a module in one visit, with its states before and afterwards. -/
inductive Visit (name : String) : ModuleState → List HookCall → ModuleState → Prop where
  | idle {state} :
    Visit name state [] state
  | startup {before calls after} :
    before.isPending = true →
    Startup name calls after →
    Visit name before calls after
  | teardown {calls after} :
    Teardown name calls after →
    Visit name .initialized calls after

/-- The calls of a visit are calls of the module. -/
lemma Visit.named {name before calls after} (visit : Visit name before calls after) :
    ∀ call ∈ calls, call.module = name := by
  intro call mem
  cases visit with
  | idle => cases mem
  | startup _ startup => cases startup <;> grind
  | teardown teardown => cases teardown <;> grind

/-- All calls of a visit are calls of the module. -/
lemma Visit.filter_self {name before calls after} (visit : Visit name before calls after) :
    calls.filter (·.module = name) = calls :=
  List.filter_eq_self.mpr fun call mem => decide_eq_true (visit.named call mem)

/-- No call of a visit is a call of another module. -/
lemma Visit.filter_other {name before calls after other} (visit : Visit name before calls after)
    (ne : other ≠ name) : calls.filter (·.module = other) = [] := by
  rw [List.filter_eq_nil_iff]
  intro call mem e
  exact ne ((of_decide_eq_true e).symm.trans (visit.named call mem))

variable {M E : Type} [HostModule M E]

/-- Hooks of a module are called, one after the other. Each finds the module and what is shared as
the one before left them, and each call tells how the hook ended. -/
inductive Calling (name : String) : M → E → List HookCall → M → E → Prop where
  | done {module shared} :
    Calling name module shared [] module shared
  | call {stage outcome module shared calls module' shared'} :
    (HostModule.runHook stage module shared).outcome = outcome →
    Calling name (HostModule.runHook stage module shared).module
      (HostModule.runHook stage module shared).shared
      calls module' shared' →
    Calling name module shared (⟨name, stage, outcome⟩ :: calls) module' shared'

/-- Some hooks are called, and then others. -/
lemma Calling.append {name : String} {module module' module'' : M} {shared shared' shared'' : E}
    {calls more : List HookCall} (first : Calling name module shared calls module' shared')
    (second : Calling name module' shared' more module'' shared'') :
    Calling name module shared (calls ++ more) module'' shared'' := by
  induction first with
  | done => exact second
  | call outcome _ ih => exact .call outcome (ih second)

namespace Entry

/-- What a called hook leads to. -/
lemma callHook_eq (stage : Stage) (entry : Entry M) (shared : E) :
    let result := HostModule.runHook stage entry.module shared
    let handled := entry.callHook stage shared
    handled.module = result.module ∧ handled.shared = result.shared ∧
      handled.failure = (⟨entry.name, stage, result.outcome⟩ : HookCall).failure? ∧
      RegistryEvent.calls handled.trace = [⟨entry.name, stage, result.outcome⟩] := by
  intro result handled
  unfold handled callHook
  change let call : HookCall := ⟨entry.name, stage, result.outcome⟩; _
  dsimp only
  split
  case h_1 e => exact ⟨rfl, rfl, e.symm, rfl⟩
  case h_2 e => exact ⟨rfl, rfl, e.symm, rfl⟩

/-- To call a hook is to call this one. -/
lemma callHook_calling (stage : Stage) (entry : Entry M) (shared : E) :
    Calling entry.name entry.module shared (RegistryEvent.calls (entry.callHook stage shared).trace)
      (entry.callHook stage shared).module (entry.callHook stage shared).shared := by
  obtain ⟨module, shared', -, calls⟩ := entry.callHook_eq stage shared
  rw [module, shared', calls]
  exact .call rfl .done

/-- A called hook succeeds and leaves the state to the caller, or it fails and the state says so. -/
lemma callHook_cases (stage : Stage) (entry : Entry M) (shared : E) :
    ((entry.callHook stage shared).failure = none ∧
      RegistryEvent.calls (entry.callHook stage shared).trace = [⟨entry.name, stage, .succeeded⟩]) ∨
    ∃ outcome failure, outcome ≠ .succeeded ∧
      (⟨entry.name, stage, outcome⟩ : HookCall).failure? = some failure ∧
      (entry.callHook stage shared).failure = some failure ∧
      (entry.callHook stage shared).state = .failed stage ∧
      RegistryEvent.calls (entry.callHook stage shared).trace = [⟨entry.name, stage, outcome⟩] := by
  unfold callHook
  generalize HostModule.runHook stage entry.module shared = result
  cases e : (⟨entry.name, stage, result.outcome⟩ : HookCall).failure? with
  | none =>
    have ok : result.outcome = .succeeded := HookCall.failure?_eq_none.mp e
    rw [ok] at e
    simp [ok, e]
  | some failure =>
    have fails : result.outcome ≠ .succeeded := by
      intro ok
      rw [HookCall.failure?_eq_none.mpr ok] at e
      cases e
    exact .inr ⟨result.outcome, failure, fails, e, by simp [e]⟩

/-- Bringing a module up calls the hooks that it should, and keeps the failure among them. -/
lemma bringUp_startup (entry : Entry M) (shared : E) :
    Startup entry.name (RegistryEvent.calls (entry.bringUp shared).trace)
      (entry.bringUp shared).state ∧
    (entry.bringUp shared).failure.toList =
      (RegistryEvent.calls (entry.bringUp shared).trace).filterMap HookCall.failure? := by
  unfold bringUp
  generalize e : entry.callHook .initialization shared = prepared
  have first := callHook_cases .initialization entry shared
  rw [e] at first
  obtain ⟨none1, calls1⟩ | ⟨outcome, failure, fails, failure1, some1, state1, calls1⟩ := first
  · simp only [none1]
    generalize e' : (entry.after prepared).callHook .binding prepared.shared = bound
    have second := callHook_cases .binding (entry.after prepared) prepared.shared
    rw [e'] at second
    have fine (stage : Stage) : (⟨entry.name, stage, .succeeded⟩ : HookCall).failure? = none := rfl
    obtain ⟨none2, calls2⟩ | ⟨outcome, failure, fails, failure2, some2, state2, calls2⟩ := second
    · simpa [none2, calls1, calls2, fine] using Startup.up
    · rw [after_name] at failure2
      simpa [some2, calls1, calls2, state2, fine, failure2] using Startup.unbound fails
  · simpa [some1, calls1, state1, failure1] using Startup.unprepared fails

/-- Bringing a module up changes it by its hooks only. -/
lemma bringUp_calling (entry : Entry M) (shared : E) :
    Calling entry.name entry.module shared (RegistryEvent.calls (entry.bringUp shared).trace)
      (entry.bringUp shared).module (entry.bringUp shared).shared := by
  have first := entry.callHook_calling .initialization shared
  unfold bringUp
  generalize entry.callHook .initialization shared = prepared at first ⊢
  dsimp only
  split
  case h_1 => exact first
  case h_2 =>
    have second := (entry.after prepared).callHook_calling .binding prepared.shared
    generalize (entry.after prepared).callHook .binding prepared.shared = bound at second ⊢
    have both := first.append second
    split
    case h_1 => simpa using both
    case h_2 => simpa using both

/-- A module that comes up has had both of its hooks called, and both have succeeded. -/
lemma bringUp_of_initialized {entry : Entry M} {shared : E}
    (up : (entry.bringUp shared).state = .initialized) :
    let prepared := HostModule.runHook .initialization entry.module shared
    let bound := HostModule.runHook .binding prepared.module prepared.shared
    prepared.outcome = .succeeded ∧ bound.outcome = .succeeded ∧
      (entry.bringUp shared).module = bound.module ∧
      (entry.bringUp shared).shared = bound.shared := by
  obtain ⟨startup, -⟩ := entry.bringUp_startup shared
  have calling := entry.bringUp_calling shared
  generalize RegistryEvent.calls (entry.bringUp shared).trace = calls at startup calling
  rw [up] at startup
  generalize (entry.bringUp shared).module = module at calling ⊢
  generalize (entry.bringUp shared).shared = left at calling ⊢
  cases startup with
  | up =>
    cases calling with
    | call prepared calling =>
      cases calling with
      | call bound calling =>
        cases calling with
        | done => exact ⟨prepared, bound, rfl, rfl⟩

/-- Shutting down an initialized module calls its hook, and keeps the failure if it is one. -/
lemma takeDown_teardown (entry : Entry M) (shared : E) (ready : entry.state = .initialized) :
    Teardown entry.name (RegistryEvent.calls (entry.takeDown shared).trace)
      (entry.takeDown shared).state ∧
    (entry.takeDown shared).failure.toList =
      (RegistryEvent.calls (entry.takeDown shared).trace).filterMap HookCall.failure? := by
  unfold takeDown
  rw [if_pos ready]
  generalize e : entry.callHook .shutdown shared = stopped
  have call := callHook_cases .shutdown entry shared
  rw [e] at call
  obtain ⟨none, calls⟩ | ⟨outcome, failure, fails, failure', some, state, calls⟩ := call
  · have fine : (⟨entry.name, .shutdown, .succeeded⟩ : HookCall).failure? = Option.none := rfl
    simpa [none, calls, fine] using Teardown.down
  · simpa [some, calls, state, failure'] using Teardown.stuck fails

/-- Shutting a module down changes it by its hook only. -/
lemma takeDown_calling (entry : Entry M) (shared : E) :
    Calling entry.name entry.module shared (RegistryEvent.calls (entry.takeDown shared).trace)
      (entry.takeDown shared).module (entry.takeDown shared).shared := by
  have called := entry.callHook_calling .shutdown shared
  unfold takeDown
  split
  case isTrue =>
    generalize entry.callHook .shutdown shared = stopped at called ⊢
    dsimp only
    split
    case h_1 => exact called
    case h_2 => simpa using called
  case isFalse => exact .done

/-- A module that is not up is left alone. -/
lemma takeDown_of_ne {entry : Entry M} (down : entry.state ≠ .initialized) (shared : E) :
    entry.takeDown shared = entry.idle shared := by
  rw [takeDown, if_neg down]

/-- Brings the module up, if it waits for that. -/
def bringUpPending (entry : Entry M) (shared : E) : Handled M E :=
  if entry.state.isPending then entry.bringUp shared else entry.idle shared

end Entry

/-- What is done to entries by visits, and all failures of their hooks are kept. -/
structure Visits {M E : Type} (act : Entry M → E → Handled M E) : Prop where
  visit : ∀ entry shared,
    Visit entry.name entry.state (RegistryEvent.calls (act entry shared).trace)
      (act entry shared).state
  failure : ∀ entry shared,
    (act entry shared).failure.toList =
      (RegistryEvent.calls (act entry shared).trace).filterMap HookCall.failure?

/-- Bringing up the modules that wait is done by visits. -/
lemma Visits.bringUpPending : Visits (Entry.bringUpPending : Entry M → E → Handled M E) where
  visit entry shared := by
    unfold Entry.bringUpPending
    split
    case isTrue pending => exact .startup pending (entry.bringUp_startup shared).1
    case isFalse => exact .idle
  failure entry shared := by
    unfold Entry.bringUpPending
    split
    case isTrue => exact (entry.bringUp_startup shared).2
    case isFalse => rfl

/-- Shutting down the modules that are up is done by visits. -/
lemma Visits.takeDown : Visits (Entry.takeDown : Entry M → E → Handled M E) where
  visit entry shared := by
    by_cases ready : entry.state = .initialized
    · rw [ready]
      exact .teardown (entry.takeDown_teardown shared ready).1
    · rw [Entry.takeDown_of_ne ready]
      exact .idle
  failure entry shared := by
    by_cases ready : entry.state = .initialized
    · exact (entry.takeDown_teardown shared ready).2
    · rw [Entry.takeDown_of_ne ready]
      rfl

end LuaHost
