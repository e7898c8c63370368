import LuaHost.Proofs.Module.Core

/-!
# The count of messages

The core module hands scripts a function that logs and counts. Scripts may keep it for as long as
they like, while the module is shut down and brought up again. A registry with a core module and
scripts that run between its operations are followed through everything that happens
(`CoreHistory`), and the count is consistent with that (`Sound`). Where the module comes up, scripts
find the function under `host` (`Bound`). The main statement is `messagesLogged_of_run`: the count
is that of the calls that have returned since the module was last initialized.
-/

namespace LuaHost

open Lua Happening

/-! ### Operations -/

/-- What is done to a registry with a core module, and the calls into its interpreter between
that. -/
inductive CoreOperation where
  | register (core : CoreModule)
  | initializeAll
  | shutdownAll
  | load (script : Script)
  | call (function : Value) (arguments : List Value)
  | atTime (clock : Nat)

/-- A registry with a core module, and what has happened to it. -/
structure CoreHistory where
  registry : Registry CoreModule Engine
  past : List Happening := []

namespace Engine

/-- The calls of functions that log during a call. -/
def logCalls (engine : Engine) (function : Value) (arguments : List Value) : List LogCall :=
  Machine.logCalls
    { heap := engine.heap
      control := .apply function arguments { naming := none, line := 0 }
      stack := [] }
    Machine.stepLimit

/-- The calls of functions that log while a script is loaded. -/
def logCallsOfLoad (engine : Engine) (script : Script) : List LogCall :=
  match Chunk.load engine.heap script.name script.code with
  | .error _ => []
  | .ok (function, heap) => Engine.logCalls ⟨heap⟩ (.function function) []

/-- A call into the interpreter logs and counts the calls that it comes by. -/
lemma call_logs (engine : Engine) (function : Value) (arguments : List Value) :
    Logs (engine.logCalls function arguments) engine.heap
        (engine.call function arguments).engine.heap (engine.call function arguments).events ∧
      ∀ call ∈ engine.logCalls function arguments, engine.heap.Grows [] call.heap := by
  refine ⟨?_, fun call mem => Machine.grows_of_mem_logCalls mem⟩
  obtain ⟨events, e, logs⟩ := Machine.runFrom_logs
    { heap := engine.heap
      control := .apply function arguments { naming := none, line := 0 }
      stack := [] }
    [] Machine.stepLimit
  rw [List.reverse_nil, List.nil_append] at e
  rw [← e] at logs
  exact logs

/-- Loading the text of a script makes a closure. -/
lemma logs_of_chunk {heap after : Heap} {name code : String} {function : Nat}
    (loaded : Chunk.load heap name code = .ok (function, after)) : Logs [] heap after [] := by
  unfold Chunk.load at loaded
  split at loaded
  case h_1 => cases loaded
  case h_2 =>
    split at loaded
    case h_1 => cases loaded
    case h_2 =>
      cases loaded
      exact ⟨.newClosure heap _ _ _, rfl, rfl⟩

/-- So does loading a script. -/
lemma load_logs (engine : Engine) (script : Script) :
    ∃ events, Logs (engine.logCallsOfLoad script) engine.heap
      (engine.load script).engine.heap events ∧
      ∀ call ∈ engine.logCallsOfLoad script, engine.heap.Grows [] call.heap := by
  unfold load logCallsOfLoad
  cases loaded : Chunk.load engine.heap script.name script.code with
  | error _ => exact ⟨[], .of_keeps (.refl _), nofun⟩
  | ok loading =>
    obtain ⟨function, heap⟩ := loading
    have made := logs_of_chunk loaded
    obtain ⟨logs, found⟩ := call_logs ⟨heap⟩ (.function function) []
    exact ⟨_, made.trans logs, fun call mem => made.grows.trans (found call mem)⟩

/-- Loading a script calls functions that log no more often than it takes steps. -/
lemma length_logCallsOfLoad_le (engine : Engine) (script : Script) :
    (engine.logCallsOfLoad script).length ≤ Machine.stepLimit := by
  unfold logCallsOfLoad
  split
  case h_1 => exact Nat.zero_le _
  case h_2 => exact Machine.length_logCalls_le _ _

end Engine

namespace CoreHistory

/-- There is no module yet, or the core module is the only one. -/
inductive Sound (old : Heap) : Registry CoreModule Engine → List Happening → Prop where
  | empty {registry past} :
    registry.entries = [] →
    Tallied old [] registry.shared.heap past →
    Sound old registry past
  | sole {registry past} (entry : Entry CoreModule) :
    registry.entries = [entry] →
    entry.name = CoreModule.name →
    Tallied old entry.module.targets registry.shared.heap past →
    Sound old registry past

namespace Sound

variable {old : Heap} {registry : Registry CoreModule Engine} {past : List Happening}

/-- What is told of the interpreter may change while the module is left alone. -/
lemma of_entries (sound : Sound old registry past) {old' : Heap}
    {registry' : Registry CoreModule Engine} {now : List Happening}
    (same : registry'.entries = registry.entries)
    (goes : ∀ {targets}, Tallied old targets registry.shared.heap past →
      Tallied old' targets registry'.shared.heap now) :
    Sound old' registry' now := by
  cases sound with
  | empty none tallied => exact .empty (same.trans none) (goes tallied)
  | sole entry entries named tallied => exact .sole entry (same.trans entries) named (goes tallied)

/-- Something is told of the interpreter in any case. -/
lemma tallied (sound : Sound old registry past) :
    ∃ targets, Tallied old targets registry.shared.heap past := by
  cases sound with
  | empty none tallied => exact ⟨_, tallied⟩
  | sole entry entries named tallied => exact ⟨_, tallied⟩

/-- There is at most one module. -/
lemma length_entries_le (sound : Sound old registry past) : registry.entries.length ≤ 1 := by
  cases sound with
  | empty none tallied =>
    rw [none]
    exact Nat.zero_le 1
  | sole entry entries named tallied =>
    rw [entries]
    exact Nat.le_refl 1

/-- There is no module if the name of core modules is free. -/
lemma entries_eq_nil (sound : Sound old registry past) {core : CoreModule}
    (free : registry.contains (HostModule.name Engine core) = false) : registry.entries = [] := by
  cases sound with
  | empty none tallied => exact none
  | sole entry entries named tallied =>
    have taken : HostModule.name Engine core ∈ registry.names := by
      rw [Registry.names, entries, List.map_singleton, named]
      exact List.mem_singleton_self _
    exact absurd taken (Registry.not_mem_names free)

/-- The core module goes by its name. -/
lemma find?_sole {entry : Entry CoreModule} (entries : registry.entries = [entry])
    (named : entry.name = CoreModule.name) :
    registry.find? CoreModule.name = some entry := by
  rw [Registry.find?, entries, List.find?_cons_of_pos (by rw [named]; exact beq_self_eq_true _)]

/-- If the core module is not up, no module is. -/
lemma ne_initialized (sound : Sound old registry past)
    (down : registry.stateOf CoreModule.name ≠ .initialized) :
    ∀ entry ∈ registry.entries, entry.state ≠ .initialized := by
  intro entry mem
  cases sound with
  | empty none tallied =>
    rw [none] at mem
    cases mem
  | sole only entries named tallied =>
    rw [entries] at mem
    rw [Registry.stateOf, find?_sole entries named] at down
    rwa [List.mem_singleton.mp mem]

/-- What is done to core modules and keeps their tally. -/
def Tallying (old : Heap) (act : Entry CoreModule → Engine → Handled CoreModule Engine) : Prop :=
  ∀ {entry : Entry CoreModule} {engine : Engine} {past : List Happening},
    Tallied old entry.module.targets engine.heap past →
    entry.name = CoreModule.name → entry.Keeps old past (act entry engine)

/-- To handle the core module is sound. -/
lemma handle {act : Entry CoreModule → Engine → Handled CoreModule Engine}
    (keeps : Tallying old act) (sound : Sound old registry past) (i : Nat) :
    Sound old (registry.handle act i).1
      (past ++ (RegistryEvent.calls (registry.handle act i).2).map .hook) := by
  cases sound with
  | empty none tallied =>
    rw [Registry.handle_of_none (by rw [none]; rfl)]
    exact .empty none ((List.append_nil past).symm ▸ tallied)
  | sole entry entries named tallied =>
    cases i with
    | zero =>
      obtain ⟨target, tally⟩ := keeps tallied named
      have same : (entry.after (act entry registry.shared)).module.targets = entry.module.targets :=
        CoreModule.targets_congr target
      rw [Registry.handle_of_some (by rw [entries]; rfl)]
      exact .sole (entry.after (act entry registry.shared)) (by rw [entries]; rfl) named
        (same.symm ▸ tally)
    | succ i =>
      rw [Registry.handle_of_none (by rw [entries]; rfl)]
      exact .sole entry entries named ((List.append_nil past).symm ▸ tallied)

/-- So it is to handle it at several positions. -/
lemma handleAll {act : Entry CoreModule → Engine → Handled CoreModule Engine}
    (keeps : Tallying old act) (sound : Sound old registry past) (positions : List Nat) :
    Sound old (registry.handleAll act positions).1
      (past ++ (RegistryEvent.calls (registry.handleAll act positions).2).map .hook) := by
  -- The property tells of the hooks that the pass has called so far.
  let P (registry : Registry CoreModule Engine) (calls : List HookCall) : Prop :=
    Sound old registry (past ++ calls.map .hook)
  have start : P registry [] := by
    unfold P
    rwa [List.map_nil, List.append_nil]
  refine Registry.handleAll_induction (P := P) ?_ start positions
  intro registry calls i sound
  have next := handle keeps sound i
  rw [List.append_assoc, ← List.map_append] at next
  exact next

/-- A second core module is refused; the first one may be brought up at once. -/
lemma register (sound : Sound old registry past) (core : CoreModule) :
    Sound old (registry.register core).2.1
      (past ++ (RegistryEvent.calls (registry.register core).2.2).map .hook) := by
  obtain ⟨_, _, same, none⟩ | ⟨free, _, added, visited⟩ := registry.register_cases core
  · rw [same, none, List.map_nil, List.append_nil]
    exact sound
  · rw [added, visited]
    refine handleAll Tallied.bringUpPending ?_ registry.latePositions
    have none := sound.entries_eq_nil free
    cases sound with
    | empty _ tallied =>
      exact .sole (.fresh Engine core) (by rw [Registry.add, none]; rfl) rfl
        (tallied.mono (List.nil_subset _))
    | sole entry entries _ _ =>
      rw [none] at entries
      cases entries

/-- To bring the module up again is sound. -/
lemma initializeAll (sound : Sound old registry past) :
    Sound old registry.initializeAll.1
      (past ++ (RegistryEvent.calls registry.initializeAll.2).map .hook) := by
  obtain ⟨visited, seen⟩ := registry.initializeAll_eq
  rw [visited, seen]
  exact (handleAll Tallied.bringUpPending sound registry.upPositions).of_entries rfl id

/-- To shut the module down is sound. -/
lemma shutdownAll (sound : Sound old registry past) :
    Sound old registry.shutdownAll.1
      (past ++ (RegistryEvent.calls registry.shutdownAll.2).map .hook) := by
  obtain ⟨visited, seen⟩ := registry.shutdownAll_eq
  rw [visited, seen]
  exact (handleAll Tallied.takeDown sound registry.downPositions).of_entries rfl id

end Sound

/-! ### Runs -/

/-- One more operation. -/
def perform (history : CoreHistory) : CoreOperation → CoreHistory
  | .register core =>
    let (_, registry, trace) := history.registry.register core
    { registry, past := history.past ++ (RegistryEvent.calls trace).map .hook }
  | .initializeAll =>
    let (registry, trace) := history.registry.initializeAll
    { registry, past := history.past ++ (RegistryEvent.calls trace).map .hook }
  | .shutdownAll =>
    let (registry, trace) := history.registry.shutdownAll
    { registry, past := history.past ++ (RegistryEvent.calls trace).map .hook }
  | .load script =>
    { registry := { history.registry with shared := (history.registry.shared.load script).engine }
      past := history.past ++ (history.registry.shared.logCallsOfLoad script).map .logCall }
  | .call function arguments =>
    { registry :=
        { history.registry with shared := (history.registry.shared.call function arguments).engine }
      past := history.past ++ (history.registry.shared.logCalls function arguments).map .logCall }
  | .atTime clock =>
    { history with
      registry := { history.registry with shared := history.registry.shared.atTime clock } }

/-- A new registry under some operations. -/
def run (clock : Nat) (operations : List CoreOperation) : CoreHistory :=
  operations.foldl perform { registry := { shared := Engine.create clock } }

/-- The heap of the interpreter. -/
def heap (history : CoreHistory) : Heap :=
  history.registry.shared.heap

/-- Every operation is sound. -/
lemma Sound.perform {old : Heap} {history : CoreHistory}
    (sound : Sound old history.registry history.past) (operation : CoreOperation) :
    Sound old (history.perform operation).registry (history.perform operation).past := by
  cases operation with
  | register core => exact sound.register core
  | initializeAll => exact sound.initializeAll
  | shutdownAll => exact sound.shutdownAll
  | load script =>
    obtain ⟨_, logs, found⟩ := history.registry.shared.load_logs script
    exact sound.of_entries rfl fun tallied => tallied.ran logs found
  | call function arguments =>
    obtain ⟨logs, found⟩ := history.registry.shared.call_logs function arguments
    exact sound.of_entries rfl fun tallied => tallied.ran logs found
  | atTime clock =>
    exact sound.of_entries rfl fun tallied =>
      ⟨tallied.counted, tallied.bound, tallied.called, tallied.kept, tallied.tables⟩

/-- So are several operations. -/
lemma Sound.performAll {old : Heap} {history : CoreHistory}
    (sound : Sound old history.registry history.past) (operations : List CoreOperation) :
    Sound old (operations.foldl CoreHistory.perform history).registry
      (operations.foldl CoreHistory.perform history).past := by
  induction operations generalizing history with
  | nil => exact sound
  | cons operation operations ih => exact ih (sound.perform operation)

/-- A new interpreter has no functions that log. -/
lemma run_sound (clock : Nat) (operations : List CoreOperation) :
    Sound (Engine.create clock).heap (run clock operations).registry
      (run clock operations).past := by
  refine Sound.performAll ?_ operations
  refine .empty rfl ⟨rfl, fun known => ?_, nofun, fun known => known, Nat.le_refl _⟩
  exact absurd known (Library.start_silent clock _ _)

namespace Sound

variable {old : Heap} {registry : Registry CoreModule Engine} {past : List Happening}

/-- Whoever has called a function that logs did so in the name of the core module's target. -/
lemma target_of_mem (sound : Sound old registry past) {call : LogCall}
    (mem : call ∈ logCalls past) :
    (registry.find? CoreModule.name).map (fun entry => entry.module.logTarget) =
      some call.target := by
  cases sound with
  | empty none tallied => cases tallied.called call mem
  | sole entry entries named tallied =>
    have found := find?_sole entries named
    have own := tallied.called call mem
    unfold CoreModule.targets at own
    split at own
    case isTrue => cases own
    case isFalse => rw [found, List.mem_singleton.mp own, Option.map_some]

end Sound

/-- A native function stays what it is, whatever happens to the modules. -/
lemma kept_of_run (clock : Nat) (operations more : List CoreOperation) {address : Nat}
    {native : Native}
    (known : (run clock operations).heap.callable? address = some (.native native)) :
    (run clock (operations ++ more)).heap.callable? address = some (.native native) := by
  have now : Sound (run clock operations).heap (run clock operations).registry
      (run clock operations).past :=
    (run_sound clock operations).of_entries rfl fun tallied => tallied.rebase
  obtain ⟨_, later⟩ := (now.performAll more).tallied
  rw [run, List.foldl_append]
  exact later.kept known

/-! ### Coming up -/

/-- There is at most one module. While it waits its functions can be bound, and while it is up they
are. -/
structure Bound (registry : Registry CoreModule Engine) : Prop where
  sole : registry.entries.length ≤ 1
  waits : ∀ entry ∈ registry.entries, entry.state.isPending = true →
    CoreModule.Bindable registry.shared
  up : ∀ entry ∈ registry.entries, entry.state = .initialized →
    CoreModule.LogBound registry.shared entry.module.logTarget

namespace Bound

variable {registry : Registry CoreModule Engine}

/-- What is said of the only module is said of all. -/
lemma of_sole {entry : Entry CoreModule} (entries : registry.entries = [entry])
    (waits : entry.state.isPending = true → CoreModule.Bindable registry.shared)
    (up : entry.state = .initialized → CoreModule.LogBound registry.shared entry.module.logTarget) :
    Bound registry where
  sole := by
    rw [entries]
    exact Nat.le_refl 1
  waits entry' mem := by
    rw [entries] at mem
    rwa [List.mem_singleton.mp mem]
  up entry' mem := by
    rw [entries] at mem
    rwa [List.mem_singleton.mp mem]

/-- A module is the only one. -/
lemma eq_singleton (bound : Bound registry) {i : Nat} {entry : Entry CoreModule}
    (found : registry.entries[i]? = some entry) : registry.entries = [entry] ∧ i = 0 := by
  obtain ⟨lt, e⟩ := List.getElem?_eq_some_iff.mp found
  have one := bound.sole
  obtain ⟨only, entries⟩ := List.length_eq_one_iff.mp
    (Nat.le_antisymm one (Nat.lt_of_le_of_lt (Nat.zero_le i) lt))
  obtain rfl : i = 0 := by omega
  refine ⟨?_, rfl⟩
  rw [entries] at found ⊢
  cases found
  rfl

/-- The module comes up with its functions bound, or does not come up. -/
lemma handle (bound : Bound registry) (i : Nat) :
    Bound (registry.handle Entry.bringUpPending i).1 := by
  cases found : registry.entries[i]? with
  | none =>
    rw [Registry.handle_of_none found]
    exact bound
  | some entry =>
    obtain ⟨entries, rfl⟩ := bound.eq_singleton found
    have mem : entry ∈ registry.entries := List.mem_of_getElem? found
    rw [Registry.handle_of_some found]
    have after : registry.entries.set 0 (entry.after (entry.bringUpPending registry.shared)) =
        [entry.after (entry.bringUpPending registry.shared)] := by
      rw [entries]
      rfl
    refine of_sole after ?_ ?_
    all_goals rw [Entry.after_state, Entry.bringUpPending]
    · intro waits
      split at waits
      case isTrue =>
        rw [(entry.bringUp_startup registry.shared).1.not_isPending] at waits
        cases waits
      case isFalse idle => exact absurd waits idle
    · intro up
      split at up
      case isTrue pending =>
        dsimp only [Entry.after]
        rw [if_pos pending]
        exact CoreModule.bringUp_logBound (bound.waits entry mem pending) up
      case isFalse idle =>
        rw [if_neg idle]
        exact bound.up entry mem up

/-- So it is when several positions are visited. -/
lemma handleAll (bound : Bound registry) (positions : List Nat) :
    Bound (registry.handleAll Entry.bringUpPending positions).1 :=
  Registry.handleAll_preserves (fun _ i bound => bound.handle i) bound positions

end Bound

/-- Where no module is up, there is nothing to shut down. -/
lemma handleAll_takeDown_of_down {registry : Registry CoreModule Engine}
    (down : ∀ entry ∈ registry.entries, entry.state ≠ .initialized) (positions : List Nat) :
    (registry.handleAll Entry.takeDown positions).1 = registry := by
  refine Registry.handleAll_preserves (P := fun registry' => registry' = registry) ?_ rfl positions
  intro registry' i same
  rw [same]
  cases found : registry.entries[i]? with
  | none => rw [Registry.handle_of_none found]
  | some entry =>
    have there := down entry (List.mem_of_getElem? found)
    obtain ⟨lt, e⟩ := List.getElem?_eq_some_iff.mp found
    rw [Registry.handle_of_some found, Entry.takeDown_of_ne there, Entry.after_idle, ← e,
      List.set_getElem_self]
    simp [Entry.idle]

namespace Sound

variable {old : Heap} {history : CoreHistory}

/-- If no module was up and an operation changes the state of the core module, then its functions
are bound where it is up now, and can be where it waits. -/
lemma bound_perform (sound : Sound old history.registry history.past)
    (bindable : CoreModule.Bindable history.registry.shared)
    (down : ∀ entry ∈ history.registry.entries, entry.state ≠ .initialized)
    {operation : CoreOperation}
    (after : (history.perform operation).registry.stateOf CoreModule.name ≠
      history.registry.stateOf CoreModule.name) :
    Bound (history.perform operation).registry := by
  have now : Bound history.registry := ⟨sound.length_entries_le, fun _ _ _ => bindable,
    fun entry mem up => absurd up (down entry mem)⟩
  cases operation with
  | register core =>
    change Bound (history.registry.register core).2.1
    obtain ⟨_, _, same, _⟩ | ⟨free, _, added, _⟩ := history.registry.register_cases core
    · rw [same]
      exact now
    · rw [added]
      have entries : (history.registry.add (.fresh Engine core)).entries =
          [.fresh Engine core] := by
        rw [Registry.add, sound.entries_eq_nil free]
        rfl
      refine Bound.handleAll (.of_sole entries (fun _ => bindable) fun up => ?_) _
      cases up
  | initializeAll =>
    change Bound history.registry.initializeAll.1
    rw [history.registry.initializeAll_eq.1]
    have all := now.handleAll history.registry.upPositions
    exact ⟨all.sole, all.waits, all.up⟩
  | shutdownAll =>
    change Bound history.registry.shutdownAll.1
    rw [history.registry.shutdownAll_eq.1, handleAll_takeDown_of_down down]
    exact ⟨now.sole, now.waits, now.up⟩
  -- To run a script changes no state.
  | load script => exact absurd rfl after
  | call function arguments => exact absurd rfl after
  | atTime clock => exact absurd rfl after

/-- Whatever brings the core module up, scripts find the function that logs in its name then. -/
lemma logBound_of_perform (sound : Sound old history.registry history.past)
    (bindable : CoreModule.Bindable history.registry.shared) {operation : CoreOperation}
    (before : history.registry.stateOf CoreModule.name ≠ .initialized)
    (after : (history.perform operation).registry.stateOf CoreModule.name = .initialized) :
    ∃ entry, (history.perform operation).registry.find? CoreModule.name = some entry ∧
      CoreModule.LogBound (history.perform operation).registry.shared entry.module.logTarget := by
  have bound : Bound (history.perform operation).registry :=
    sound.bound_perform bindable (sound.ne_initialized before) (after ▸ before.symm)
  unfold Registry.stateOf at after
  split at after
  case h_1 entry found =>
    exact ⟨entry, found, bound.up entry (List.mem_of_find?_eq_some found) after⟩
  case h_2 => cases after

end Sound

/-- An operation calls functions that log no more often than one call of the interpreter has
steps. -/
lemma length_logCalls_perform_le (history : CoreHistory) (operation : CoreOperation) :
    (logCalls (history.perform operation).past).length ≤
      (logCalls history.past).length + Machine.stepLimit := by
  have le_add (calls : List LogCall) (short : calls.length ≤ Machine.stepLimit) :
      (logCalls (history.past ++ calls.map .logCall)).length ≤
        (logCalls history.past).length + Machine.stepLimit := by
    rw [logCalls_append, List.length_append]
    exact Nat.add_le_add_left short _
  cases operation with
  | load script => exact le_add _ (history.registry.shared.length_logCallsOfLoad_le script)
  | call function arguments => exact le_add _ (Machine.length_logCalls_le _ _)
  | atTime clock => exact Nat.le_add_right _ _
  | _ =>
    rw [perform, logCalls_append_hooks]
    exact Nat.le_add_right _ _

/-- So there are not more of these calls than steps altogether. -/
lemma length_logCalls_run_le (clock : Nat) (operations : List CoreOperation) :
    (logCalls (run clock operations).past).length ≤ operations.length * Machine.stepLimit := by
  induction operations using List.reverseRecOn with
  | nil => exact Nat.zero_le _
  | append_singleton operations operation ih =>
    have step := length_logCalls_perform_le (run clock operations) operation
    rw [run, List.foldl_append, List.length_append, List.length_singleton, Nat.succ_mul]
    exact Nat.le_trans step (Nat.add_le_add_right ih _)

/-- In every history the count of messages is that of the calls that have returned since the core
module was last initialized. A call returns if it names a level and has a message: it is counted and
logs one entry, at that level and in the name of the module's target. Otherwise it raises an error
and nothing else happens. This goes for every function that was ever bound, since each one stays
what it is. Whenever the module comes up, `host.log` leads to such a function, unless the variable
`host` pointed to a table that does not exist. A call of the interpreter has so many steps that a 64
bit count could overflow only after 18 million operations. -/
theorem messagesLogged_of_run (clock : Nat) (operations : List CoreOperation) :
    let history := run clock operations
    CoreModule.messagesLogged history.registry.shared =
        ((sinceInitialization history.past).filter LogCall.returned).length ∧
      (∀ call ∈ logCalls history.past,
        (history.registry.find? CoreModule.name).map (fun entry => entry.module.logTarget) =
        some call.target ∧
        (call.returned = true ↔
          ∃ level message, call.text? 0 = some (Level.name level) ∧ call.text? 1 = some message) ∧
        (∀ level message, call.text? 0 = some (Level.name level) → call.text? 1 = some message →
          call.machine.step = .next
            { heap := { call.heap with logged := call.heap.logged + 1 }, control := .deliver [],
              stack := call.stack }
            [log level message [("source", call.target)]]) ∧
        (call.returned = false → ∃ fault line, call.machine.step =
          .next { call.machine with control := .raise fault line } []) ∧
        (∀ name, call.text? 0 = some name → name ∉ ["trace", "debug", "info", "warn", "error"] →
          call.returned = false)) ∧
      (∀ more address native, history.heap.callable? address = some (.native native) →
        (run clock (operations ++ more)).heap.callable? address = some (.native native)) ∧
      (∀ operation,
        (∀ table, history.registry.shared.global CoreModule.tableName = .table table →
          table < history.heap.tables.size) →
        history.registry.stateOf CoreModule.name ≠ .initialized →
        (history.perform operation).registry.stateOf CoreModule.name = .initialized →
        ∃ entry, (history.perform operation).registry.find? CoreModule.name = some entry ∧
          CoreModule.LogBound (history.perform operation).registry.shared entry.module.logTarget) ∧
      CoreModule.messagesLogged history.registry.shared ≤
        operations.length * Machine.stepLimit := by
  intro history
  have sound := run_sound clock operations
  obtain ⟨_, tallied⟩ := sound.tallied
  have globals : Heap.globals < history.heap.tables.size :=
    Nat.lt_of_lt_of_le (Library.globals_lt_start clock) tallied.tables
  refine ⟨tallied.counted,
    fun call mem => ⟨sound.target_of_mem mem, call.returned_iff, ?_, call.step_of_not_returned, ?_⟩,
    fun more _ _ => kept_of_run clock _ more,
    fun operation host before after => sound.logBound_of_perform ⟨globals, host⟩ before after,
    Nat.le_trans tallied.logged_le (length_logCalls_run_le clock operations)⟩
  · intro level message name text
    exact call.step_of_entry (call.logged?_eq_some_iff.mpr ⟨level, message, name, text, rfl⟩)
  · intro name text unknown
    rw [← Bool.not_eq_true, call.returned_iff]
    rintro ⟨level, _, named, _⟩
    cases text.symm.trans named
    cases level <;> exact unknown (by decide)

-- A function of the first cycle is called in the second one. The count has started anew, and a call
-- with an unknown level does not count.
example :
    let started := [.register { version := "1" }, .initializeAll]
    let bound := (run 0 started).registry.shared.resolve ["host", "log"]
    let calls := [.call bound [.string "info", .string "first"], .shutdownAll, .initializeAll,
      .call bound [.string "warn", .string "second"], .call bound [.string "loud", .string "third"]]
    CoreModule.messagesLogged (run 0 (started ++ calls)).registry.shared = 1 := by
  decide +kernel

end CoreHistory

end LuaHost
