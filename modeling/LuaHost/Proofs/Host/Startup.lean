import LuaHost.Proofs.Host.Run
import LuaHost.Proofs.Registry.FailureLog
import LuaHost.Proofs.Registry.Sweep

/-!
# Warnings about failures at a start

What a host does to its registry comes down to operations of the registry (`perform_registry`), so
after every run the registry is one that it could have come to by itself (`run_registry`). A start
warns about all failures that are kept then, and not only about those of the hooks that it has just
called (`warnsOf_iff`). The main statement is `startupWarning_of_run`: which number a start warns
about after any run, and when this is the number of its own failures. A start after a failed
shutdown warns although nothing fails in it (`startupWarning_outdated`).
-/

namespace LuaHost

/-! ### Failures of a registry -/

/-- A failure of a module tells the stage in which it has failed. -/
lemma Tells.failed_of_mem {failures state failure} (tells : Tells failures state)
    (mem : failure ∈ failures) : state = .failed failure.stage := by
  cases tells with
  | sound _ => cases mem
  | failed _ => rw [List.mem_singleton.mp mem]

namespace Registry

variable {M E : Type}

/-- There are no failures if and only if no module has failed. -/
lemma Coherent.failures_eq_nil_iff {registry : Registry M E} {calls : List HookCall}
    (h : registry.Coherent calls) :
    calls.filterMap HookCall.failure? = [] ↔
      ∀ entry ∈ registry.entries, ∀ stage, entry.state ≠ .failed stage := by
  constructor
  · intro none entry mem stage failed
    obtain ⟨failure, kept, _⟩ := ((h.tells mem).failed_iff stage).mp failed
    rw [none] at kept
    cases kept
  · intro sound
    rw [List.eq_nil_iff_forall_not_mem]
    intro failure mem
    obtain ⟨entry, known, e⟩ := List.mem_map.mp (h.failure_known failure mem)
    have own : failure ∈ (calls.filterMap HookCall.failure?).filter (·.module = entry.name) :=
      List.mem_filter.mpr ⟨mem, decide_eq_true e.symm⟩
    exact sound entry known failure.stage ((h.tells known).failed_of_mem own)

variable [HostModule M E]

/-- The failures of the hooks that are called when all modules are brought up. -/
def newFailures (registry : Registry M E) : List HookFailure :=
  (RegistryEvent.calls registry.initializeAll.2).filterMap HookCall.failure?

/-- Bringing up all modules adds its own failures. -/
lemma initializeAll_failures (registry : Registry M E) :
    registry.initializeAll.1.failures = registry.failures ++ registry.newFailures := by
  obtain ⟨later, kept, reported⟩ := registry.perform_reported .initializeAll
  rw [reported.failures_eq] at kept
  exact kept

/-- A registry that is initialized brings up nothing, so nothing fails. -/
lemma newFailures_of_initialized {registry : Registry M E} (flag : registry.initialized = true) :
    registry.newFailures = [] := by
  rw [newFailures, (initializeAll_of_initialized flag).2]
  rfl

/-- The registry after some operations. -/
def after (registry : Registry M E) (operations : List (Operation M E)) : Registry M E :=
  operations.foldl (fun registry operation => (registry.perform operation).registry) registry

/-- Some operations, and then more. -/
lemma after_append (registry : Registry M E) (operations more : List (Operation M E)) :
    registry.after (operations ++ more) = (registry.after operations).after more :=
  List.foldl_append

end Registry

/-- A run leads to the registry after its operations. -/
lemma History.run_registry {M E : Type} [HostModule M E] (shared : E)
    (operations : List (Operation M E)) :
    (run shared operations).registry = Registry.after { shared } operations := by
  induction operations using List.reverseRecOn with
  | nil => rfl
  | append_singleton operations operation ih =>
    rw [run_concat, Registry.after_append, ← ih]
    rfl

namespace Host

variable {M : Type} [HostModule M Engine]

/-! ### The registry of a host -/

/-- An operation of the host does to its registry what some operations of the registry do. -/
lemma perform_registry (host : Host M) (operation : HostOperation M) :
    ∃ operations, (host.perform operation).host.registry = host.registry.after operations := by
  -- A script that runs may do anything to the engine.
  have ran (engine : Engine) :
      (host.withEngine engine).registry = host.registry.after [.share fun _ => engine] := rfl
  cases operation with
  | registerModule module => exact ⟨[.register (.inr module)], rfl⟩
  | registerBuiltin =>
    change ∃ operations, host.registerBuiltin.1.registry = _
    unfold registerBuiltin
    split
    · exact ⟨[.register (.inl { version })], rfl⟩
    · exact ⟨[], rfl⟩
  | start => exact ⟨[.initializeAll], rfl⟩
  | loadScript files path =>
    change ∃ operations, (host.loadScript files path).2.1.registry = _
    cases text : files.readText path with
    | ok _ =>
      obtain ⟨loaded, engine, _, e⟩ := host.loadScript_of_text text
      rw [e]
      exact ⟨_, ran engine⟩
    | error _ =>
      obtain ⟨_, _, e⟩ := host.loadScript_of_error text
      rw [e]
      exact ⟨[], rfl⟩
  | tick files seconds =>
    obtain ⟨engine, e⟩ :=
      callHook_host { host with ticks := host.ticks + 1 } files tickHook [.number (.float seconds)]
    change ∃ operations,
      (callHook { host with ticks := host.ticks + 1 } files tickHook _).2.1.registry = _
    rw [e]
    exact ⟨_, ran engine⟩
  | callHook files name arguments =>
    obtain ⟨engine, e⟩ := host.callHook_host files name arguments
    change ∃ operations, (host.callHook files name arguments).2.1.registry = _
    rw [e]
    exact ⟨_, ran engine⟩
  | stop files =>
    obtain ⟨engine, e⟩ := host.callHook_host files shutdownHook []
    change ∃ operations, (host.callHook files shutdownHook []).2.1.registry.shutdownAll.1 = _
    rw [e]
    exact ⟨[.share fun _ => engine, .shutdownAll], rfl⟩
  | manage operation => exact ⟨[operation], rfl⟩

/-- After every run of a host, its registry is one that a run of a registry leads to. -/
lemma run_registry (config : HostConfig) (engine : Engine) (operations : List (HostOperation M)) :
    ∃ operations', (run config engine operations).registry =
      (History.run engine operations').registry := by
  induction operations using List.reverseRecOn with
  | nil => exact ⟨[], rfl⟩
  | append_singleton operations operation ih =>
    obtain ⟨before, e⟩ := ih
    obtain ⟨more, e'⟩ := (run config engine operations).perform_registry operation
    refine ⟨before ++ more, ?_⟩
    rw [run_concat, e', e, History.run_registry, History.run_registry, Registry.after_append]

/-- After every run of a host, no failure is kept if and only if no module has failed. -/
lemma run_failures_eq_nil_iff (config : HostConfig) (engine : Engine)
    (operations : List (HostOperation M)) :
    (run config engine operations).registry.failures = [] ↔
      ∀ entry ∈ (run config engine operations).registry.entries, ∀ stage,
        entry.state ≠ .failed stage := by
  obtain ⟨operations', e⟩ := run_registry config engine operations
  rw [e, History.run_failures]
  exact (History.run_coherent engine operations').failures_eq_nil_iff

/-! ### The warning -/

/-- The warning about a number of failures; none if it is zero. -/
def startupWarning (count : Nat) : List Event :=
  if count = 0 then []
  else [log .warn (toString count ++ " module lifecycle failure(s) during startup")]

/-- The number of failures that a start warns about: the warning comes after all that bringing up
the modules causes, and before the last entry of the start. -/
def WarnsOf (host : Host M) (count : Nat) : Prop :=
  ∃ last, host.start.2 =
    host.registry.initializeAll.2.flatMap RegistryEvent.events ++ (startupWarning count ++ [last])

omit [HostModule M Engine] in
/-- A warning tells its number. -/
lemma startupWarning_injective : Function.Injective startupWarning := by
  intro count count' e
  unfold startupWarning at e
  split at e
  case isTrue zero =>
    split at e
    case isTrue zero' => rw [zero, zero']
    case isFalse => cases e
  case isFalse =>
    split at e
    case isTrue => cases e
    case isFalse =>
      simp only [log, List.cons.injEq, Event.logged.injEq, LogEntry.mk.injEq] at e
      obtain ⟨⟨_, text, _⟩, _⟩ := e
      have same : Nat.toDigits 10 count = Nat.toDigits 10 count' := by
        have digits := congrArg String.toList text
        rw [String.toList_append, String.toList_append] at digits
        have := List.append_cancel_right digits
        simpa using this
      rw [← Nat.ofDigitChars_ten_toDigits (n := count), same, Nat.ofDigitChars_ten_toDigits]

/-- A start warns about all failures that are kept after it. -/
lemma warnsOf_iff (host : Host M) (count : Nat) :
    host.WarnsOf count ↔
      count = host.registry.failures.length + host.registry.newFailures.length := by
  have all : host.start.2 = host.registry.initializeAll.2.flatMap RegistryEvent.events ++
      (startupWarning (host.registry.failures.length + host.registry.newFailures.length) ++
        [log .info ("Host started with " ++
          toString host.registry.initializeAll.1.entries.length ++ " module(s): " ++
          Text.quotedList host.registry.initializeAll.1.initializationOrder)]) := by
    rw [← List.length_append, ← Registry.initializeAll_failures, ← List.append_assoc]
    rfl
  constructor
  · rintro ⟨last, e⟩
    rw [all] at e
    obtain ⟨same, _⟩ := List.append_inj' (List.append_cancel_left e) rfl
    exact (startupWarning_injective same).symm
  · rintro rfl
    exact ⟨_, all⟩

/-- A start adds the failures of the hooks that it calls, which are none if the modules are up
already. It warns about all failures that are kept then. So after any run it warns about its own
failures, and keeps quiet if there are none, if and only if no module has failed before. -/
theorem startupWarning_of_run (config : HostConfig) (engine : Engine)
    (operations : List (HostOperation M)) :
    let host := run config engine operations
    let registry := host.registry
    host.start.1.registry.failures = registry.failures ++ registry.newFailures ∧
    (registry.initialized = true → registry.newFailures = []) ∧
    (∀ count, host.WarnsOf count ↔ count = registry.failures.length + registry.newFailures.length) ∧
    (host.WarnsOf registry.newFailures.length ↔
      ∀ entry ∈ registry.entries, ∀ stage, entry.state ≠ .failed stage) := by
  intro host registry
  refine ⟨registry.initializeAll_failures, Registry.newFailures_of_initialized,
    host.warnsOf_iff, ?_⟩
  have sound := run_failures_eq_nil_iff config engine operations
  rw [← sound, host.warnsOf_iff, ← List.length_eq_zero_iff]
  exact Nat.right_eq_add

/-- A module that cannot be shut down. -/
def stuck : Drill :=
  { name := "stuck"
    plan := fun stage => if stage = .shutdown then ⟨[.failed (.failed "busy")]⟩ else {} }

/-- A host that was stopped, in which one shutdown has failed. -/
def stoppedHost : Host Drill :=
  run {} (.create 0) [.registerModule stuck, .start, .stop {}]

/-- Nothing fails when it is started again, but it warns about one failure. -/
theorem startupWarning_outdated :
    stoppedHost.registry.newFailures = [] ∧ stoppedHost.WarnsOf 1 ∧
      ¬ stoppedHost.WarnsOf stoppedHost.registry.newFailures.length := by
  have kept : stoppedHost.registry.failures.length = 1 := by decide +kernel
  have none : stoppedHost.registry.newFailures = [] := by decide +kernel
  have all := stoppedHost.warnsOf_iff
  rw [kept, none] at all
  rw [none]
  exact ⟨rfl, (all 1).mpr rfl, fun quiet => Nat.zero_ne_one ((all 0).mp quiet)⟩

end Host

end LuaHost
