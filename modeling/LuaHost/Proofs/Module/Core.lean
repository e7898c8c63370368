import LuaHost.Module.Core
import LuaHost.Proofs.Lua.LogCall
import LuaHost.Proofs.Registry.Names

/-!
# Hooks of the core module

What the hooks of the core module do to the interpreter: an initialization sets the count of
messages back, binding makes a function that logs, which scripts find under `host` (`LogBound`).
Together with the calls of such functions the hooks are all that matters to the count (`Happening`),
and what they leave behind is consistent with what has happened (`Tallied`).
-/

namespace LuaHost

open Lua

/-! ### Hooks -/

namespace CoreModule

/-- The targets of a module: its own, unless that is empty. -/
def targets (core : CoreModule) : List String :=
  if core.logTarget.isEmpty then [] else [core.logTarget]

/-- The functions that a module binds. -/
def natives (core : CoreModule) : List Native :=
  [.log core.logTarget, .time, .nowMillis]

/-- Opening a table makes at most this table. -/
lemma registerTable_keeps (engine : Engine) (name : String) :
    engine.heap.Keeps (engine.registerTable name).engine.heap := by
  unfold Engine.registerTable
  split
  case h_2 => exact (engine.heap.newTable_keeps {}).trans (Heap.setGlobal_keeps _ _ _)
  all_goals exact .refl _

/-- Binding a function makes it, and does not touch the count. -/
lemma bindMethod_heap (engine : Engine) (table : Nat) (name : String) (native : Native) :
    engine.heap.Grows [native] (bindMethod engine table name native).heap ∧
      (bindMethod engine table name native).heap.logged = engine.heap.logged :=
  ⟨(Heap.Grows.newNative engine.heap native).trans (.of_keeps (Heap.set_keeps _ _ _ _)), rfl⟩

/-- Binding makes the functions of the module and does not touch the count. -/
lemma bindApi_heap (core : CoreModule) (engine : Engine) :
    engine.heap.Grows core.natives (core.bindApi engine).shared.heap ∧
      (core.bindApi engine).shared.heap.logged = engine.heap.logged := by
  have keeps := registerTable_keeps engine tableName
  generalize ran : engine.registerTable tableName = opened at keeps
  unfold bindApi
  simp only [ran]
  split
  case h_1 => exact ⟨(Heap.Grows.of_keeps keeps).mono (List.nil_subset _), keeps.logged⟩
  case h_2 table _ =>
    have log := bindMethod_heap opened.engine table "log" (.log core.logTarget)
    generalize bindMethod opened.engine table "log" (.log core.logTarget) = logging at log ⊢
    have time := bindMethod_heap logging table "time" .time
    generalize bindMethod logging table "time" .time = timing at time ⊢
    have millis := bindMethod_heap timing table "now_millis" .nowMillis
    generalize bindMethod timing table "now_millis" .nowMillis = bound at millis ⊢
    refine ⟨?_, millis.2.trans (time.2.trans (log.2.trans keeps.logged))⟩
    have methods := ((Heap.Grows.of_keeps keeps).trans log.1).trans time.1
    exact methods.trans (millis.1.trans (.of_keeps (Heap.set_keeps _ _ _ _)))

/-- Binding does not change the target. -/
lemma bindApi_logTarget (core : CoreModule) (engine : Engine) :
    (core.bindApi engine).module.logTarget = core.logTarget := by
  unfold bindApi
  dsimp only
  split <;> rfl

/-- A module that is initialized has a target. -/
lemma not_isEmpty_of_prepare {core : CoreModule} {engine : Engine}
    (succeeded : (core.prepare engine).outcome = .succeeded) : core.logTarget.isEmpty = false := by
  unfold prepare at succeeded
  split at succeeded
  case isTrue => cases succeeded
  case isFalse filled => exact eq_false_of_ne_true filled

/-- The functions that a module binds log in the name of its target. -/
lemma log_mem_natives {core : CoreModule} {target : String} (mem : .log target ∈ core.natives) :
    target = core.logTarget := by
  simpa [natives] using mem

/-! ### Where functions are bound -/

/-- There is a table of global variables, and if the variable of the module leads to a table, there
is that one too. -/
structure Bindable (engine : Engine) : Prop where
  globals : Heap.globals < engine.heap.tables.size
  host : ∀ table, engine.global tableName = .table table → table < engine.heap.tables.size

/-- Scripts find a function that logs in the name of a target. -/
def LogBound (engine : Engine) (target : String) : Prop :=
  ∃ address, engine.resolve [tableName, "log"] = .function address ∧
    engine.heap.callable? address = some (.native (.log target))

/-- A table that is opened is there, and the variable leads to it. -/
lemma registerTable_global {engine : Engine} (bindable : Bindable engine) {table : Nat}
    (opened : (engine.registerTable tableName).result = .ok table) :
    (engine.registerTable tableName).engine.global tableName = .table table ∧
      table < (engine.registerTable tableName).engine.heap.tables.size := by
  unfold Engine.registerTable at opened ⊢
  split at opened
  case h_1 found =>
    cases opened
    rw [found]
    exact ⟨rfl, bindable.host _ found⟩
  case h_2 found =>
    cases opened
    have made : (engine.heap.newTable {}).2.tables.size = engine.heap.tables.size + 1 :=
      Array.size_push _
    constructor
    · refine Heap.get_set_self _ _ _ ?_
      rw [made]
      exact Nat.lt_succ_of_lt bindable.globals
    · change engine.heap.tables.size < ((engine.heap.newTable {}).2.setGlobal _ _).tables.size
      rw [Heap.setGlobal, Heap.set_tables_size, made]
      exact Nat.lt_succ_self _
  case h_3 => cases opened

/-- A function that is bound is found in its field, if the table is there. -/
lemma bindMethod_get {engine : Engine} {table : Nat} (there : table < engine.heap.tables.size)
    (name : String) (native : Native) :
    ∃ address, (bindMethod engine table name native).heap.get table (.string name) =
      .function address ∧
      (bindMethod engine table name native).heap.callable? address = some (.native native) := by
  refine ⟨engine.heap.functions.size, Heap.get_set_self _ _ _ there, ?_⟩
  exact (Heap.Grows.callable?_newFunction engine.heap (.native native) _).trans (if_pos rfl)

/-- What is in other fields stays there, in whatever table. -/
lemma bindMethod_get_ne (engine : Engine) (table : Nat) (name : String) (native : Native)
    (address : Nat) {other : String} (ne : other ≠ name) :
    (bindMethod engine table name native).heap.get address (.string other) =
      engine.heap.get address (.string other) :=
  Heap.get_set_ne _ _ fun same => ne (Key.string.inj same)

/-- After a binding that succeeds, scripts find the function that logs. -/
lemma bindApi_logBound {core : CoreModule} {engine : Engine} (bindable : Bindable engine)
    (succeeded : (core.bindApi engine).outcome = .succeeded) :
    LogBound (core.bindApi engine).shared core.logTarget := by
  have found := @registerTable_global engine bindable
  generalize ran : engine.registerTable tableName = opened at found
  unfold bindApi at succeeded ⊢
  simp only [ran] at succeeded ⊢
  split at succeeded
  case h_1 => cases succeeded
  case h_2 table e =>
    obtain ⟨leads, there⟩ := found e
    dsimp only
    obtain ⟨address, log, made⟩ := bindMethod_get there "log" (.log core.logTarget)
    have elsewhere : tableName ≠ "log" := by decide
    have leads' :=
      bindMethod_get_ne opened.engine table "log" (.log core.logTarget) Heap.globals elsewhere
    generalize bindMethod opened.engine table "log" (.log core.logTarget) = logging
      at log made leads' ⊢
    have time := bindMethod_heap logging table "time" .time
    have millis :=
      bindMethod_heap (bindMethod logging table "time" .time) table "now_millis" .nowMillis
    refine ⟨address, ?_, millis.1.kept (time.1.kept made)⟩
    -- The other functions and the version are put into other fields.
    have kept (name : String) (address : Nat) (ne : name ∉ ["time", "now_millis", "version"]) :
        ((bindMethod (bindMethod logging table "time" .time) table "now_millis" .nowMillis).setField
            table "version" (.string core.version)).heap.get address (.string name) =
          logging.heap.get address (.string name) := by
      simp only [List.mem_cons, List.not_mem_nil, or_false, not_or] at ne
      rw [Engine.setField, Heap.get_set_ne _ _ fun same => ne.2.2 (Key.string.inj same),
        bindMethod_get_ne _ _ _ _ _ ne.2.1, bindMethod_get_ne _ _ _ _ _ ne.1]
    have host : logging.heap.get Heap.globals (.string tableName) = .table table :=
      leads'.trans leads
    simp only [Engine.resolve, List.foldl_cons, List.foldl_nil]
    rw [kept tableName _ (by decide), host]
    exact (kept "log" table (by decide)).trans log

/-- An initialization leaves all tables and variables alone. -/
lemma prepare_bindable {core : CoreModule} {engine : Engine} (bindable : Bindable engine) :
    Bindable (core.prepare engine).shared := by
  unfold prepare
  split
  case isTrue => exact bindable
  case isFalse => exact ⟨bindable.globals, bindable.host⟩

/-- Once a module has come up, scripts find the function that logs in its name. -/
lemma bringUp_logBound {entry : Entry CoreModule} {engine : Engine} (bindable : Bindable engine)
    (up : (entry.bringUp engine).state = .initialized) :
    LogBound (entry.bringUp engine).shared (entry.bringUp engine).module.logTarget := by
  obtain ⟨_, bound, module, shared⟩ := Entry.bringUp_of_initialized up
  have target : (entry.bringUp engine).module.logTarget =
      (entry.module.prepare engine).module.logTarget := by
    rw [module]
    exact bindApi_logTarget _ _
  rw [shared, target]
  exact bindApi_logBound (prepare_bindable bindable) bound

end CoreModule

/-! ### Histories -/

/-- What happens to a registry with a core module: a hook is called, or a script calls a function
that logs. -/
inductive Happening where
  | hook (call : HookCall)
  | logCall (call : LogCall)

namespace Happening

/-- The call, if it is one of a function that logs. -/
def logCall? : Happening → Option LogCall
  | .hook _ => none
  | .logCall call => some call

/-- All calls of functions that log. -/
def logCalls (past : List Happening) : List LogCall :=
  past.filterMap logCall?

/-- The calls of functions that log, without those before an initialization of the core module. -/
def add (calls : List LogCall) : Happening → List LogCall
  | .hook call => if call.module = CoreModule.name ∧ call.stage = .initialization then [] else calls
  | .logCall call => calls ++ [call]

/-- The calls of functions that log since the core module was last initialized. -/
def sinceInitialization (past : List Happening) : List LogCall :=
  past.foldl add []

/-- What happens last is added last. -/
lemma sinceInitialization_concat (past : List Happening) (happening : Happening) :
    sinceInitialization (past ++ [happening]) = add (sinceInitialization past) happening := by
  rw [sinceInitialization, List.foldl_append]
  rfl

/-- Calls that come last are all among those since the initialization. -/
lemma sinceInitialization_append (past : List Happening) (calls : List LogCall) :
    sinceInitialization (past ++ calls.map .logCall) = sinceInitialization past ++ calls := by
  induction calls generalizing past with
  | nil => rw [List.map_nil, List.append_nil, List.append_nil]
  | cons call calls ih =>
    rw [List.map_cons, ← List.singleton_append, ← List.append_assoc, ih, sinceInitialization_concat]
    exact List.append_assoc _ [call] calls

/-- Hooks are no calls of functions that log. -/
lemma logCalls_append_hooks (past : List Happening) (calls : List HookCall) :
    logCalls (past ++ calls.map .hook) = logCalls past := by
  have none : (calls.map Happening.hook).filterMap logCall? = [] := by
    rw [List.filterMap_map, List.filterMap_eq_nil_iff]
    exact fun _ _ => rfl
  rw [logCalls, List.filterMap_append, none, List.append_nil]
  rfl

/-- A run of a script adds its calls. -/
lemma logCalls_append (past : List Happening) (calls : List LogCall) :
    logCalls (past ++ calls.map .logCall) = logCalls past ++ calls := by
  have all : (calls.map Happening.logCall).filterMap logCall? = calls := by
    rw [List.filterMap_map]
    exact List.filterMap_some
  rw [logCalls, List.filterMap_append, all]
  rfl

/-- The calls since the last initialization are the last ones. -/
lemma sinceInitialization_suffix (past : List Happening) :
    sinceInitialization past <:+ logCalls past := by
  induction past using List.reverseRecOn with
  | nil => exact List.suffix_rfl
  | append_singleton past happening ih =>
    rw [sinceInitialization_concat]
    cases happening with
    | hook hook =>
      have same : logCalls (past ++ [.hook hook]) = logCalls past :=
        logCalls_append_hooks past [hook]
      rw [same, add]
      split
      case isTrue => exact List.nil_suffix
      case isFalse => exact ih
    | logCall call =>
      have more : logCalls (past ++ [.logCall call]) = logCalls past ++ [call] :=
        logCalls_append past [call]
      obtain ⟨before, e⟩ := ih
      rw [more, add, ← e, List.append_assoc]
      exact List.suffix_append _ _

end Happening

open Happening

/-- The count is that of the calls that returned since the last initialization. Functions that log
do so in the name of given targets, and so they did before. The native functions of an older heap
are still there, and its tables. -/
structure Tallied (old : Heap) (targets : List String) (heap : Heap) (past : List Happening) :
    Prop where
  counted : heap.logged = ((sinceInitialization past).filter LogCall.returned).length
  bound : ∀ {address target}, heap.callable? address = some (.native (.log target)) →
    target ∈ targets
  called : ∀ call ∈ logCalls past, call.target ∈ targets
  kept : ∀ {address native}, old.callable? address = some (.native native) →
    heap.callable? address = some (.native native)
  tables : old.tables.size ≤ heap.tables.size

namespace Tallied

variable {old heap after : Heap} {targets : List String} {past : List Happening}

/-- A hook comes last that is no initialization. -/
lemma hook (tallied : Tallied old targets heap past) {natives : List Native}
    (grows : heap.Grows natives after) (logged : after.logged = heap.logged)
    (allowed : ∀ target, .log target ∈ natives → target ∈ targets) {call : HookCall}
    (other : call.stage ≠ .initialization) : Tallied old targets after (past ++ [.hook call]) where
  counted := by
    rw [logged, tallied.counted, sinceInitialization_concat, add,
      if_neg fun initialization => other initialization.2]
  bound known := by
    obtain before | new := grows.origin known
    · exact tallied.bound before
    · exact allowed _ new
  called call mem := by
    rw [← List.map_singleton, logCalls_append_hooks] at mem
    exact tallied.called call mem
  kept known := grows.kept (tallied.kept known)
  tables := Nat.le_trans tallied.tables grows.tables

/-- An initialization comes last. -/
lemma initialization (tallied : Tallied old targets heap past)
    (same : after.functions = heap.functions) (tables : heap.tables.size ≤ after.tables.size)
    (zero : after.logged = 0) (outcome : HookOutcome) :
    Tallied old targets after (past ++ [.hook ⟨CoreModule.name, .initialization, outcome⟩]) where
  counted := by
    rw [zero, sinceInitialization_concat]
    rfl
  bound known := by
    rw [Heap.callable?, same] at known
    exact tallied.bound known
  called call mem := by
    rw [← List.map_singleton, logCalls_append_hooks] at mem
    exact tallied.called call mem
  kept known := by
    rw [Heap.callable?, same]
    exact tallied.kept known
  tables := Nat.le_trans tallied.tables tables

/-- A script has run. -/
lemma ran (tallied : Tallied old targets heap past) {calls : List LogCall} {events : List Event}
    (logs : Logs calls heap after events) (found : ∀ call ∈ calls, heap.Grows [] call.heap) :
    Tallied old targets after (past ++ calls.map .logCall) where
  counted := by
    rw [logs.counted, tallied.counted, sinceInitialization_append, List.filter_append,
      List.length_append]
  bound known := tallied.bound ((logs.grows.origin known).resolve_right List.not_mem_nil)
  called call mem := by
    rw [logCalls_append] at mem
    obtain before | now := List.mem_append.mp mem
    · exact tallied.called call before
    · exact tallied.bound (((found call now).origin call.bound).resolve_right List.not_mem_nil)
  kept known := logs.grows.kept (tallied.kept known)
  tables := Nat.le_trans tallied.tables logs.grows.tables

/-- The targets may be said to be among more. -/
lemma mono (tallied : Tallied old targets heap past) {more : List String} (sub : targets ⊆ more) :
    Tallied old more heap past where
  counted := tallied.counted
  bound known := sub (tallied.bound known)
  called call mem := sub (tallied.called call mem)
  kept := tallied.kept
  tables := tallied.tables

/-- The tally may be compared with itself. -/
lemma rebase (tallied : Tallied old targets heap past) : Tallied heap targets heap past where
  counted := tallied.counted
  bound := tallied.bound
  called := tallied.called
  kept known := known
  tables := Nat.le_refl _

/-- Not more has been logged than was called. -/
lemma logged_le (tallied : Tallied old targets heap past) :
    heap.logged ≤ (logCalls past).length := by
  rw [tallied.counted]
  have since := (sinceInitialization_suffix past).length_le
  exact Nat.le_trans (List.length_filter_le _ _) since

/-- Without targets nothing has been logged. -/
lemma logged_eq_zero (tallied : Tallied old [] heap past) : heap.logged = 0 := by
  have none : sinceInitialization past = [] := by
    rw [List.eq_nil_iff_forall_not_mem]
    intro call mem
    cases tallied.called call ((sinceInitialization_suffix past).subset mem)
  rw [tallied.counted, none]
  rfl

end Tallied

/-- A core module has been handled: its target is the same, and the tally goes on with the hooks
that were called. -/
structure Entry.Keeps (old : Heap) (entry : Entry CoreModule) (past : List Happening)
    (handled : Handled CoreModule Engine) : Prop where
  target : handled.module.logTarget = entry.module.logTarget
  tallied : Tallied old entry.module.targets handled.shared.heap
    (past ++ (RegistryEvent.calls handled.trace).map .hook)

/-- A module with the same target has the same targets. -/
lemma CoreModule.targets_congr {core core' : CoreModule} (same : core.logTarget = core'.logTarget) :
    core.targets = core'.targets := by
  rw [targets, targets, same]

namespace Tallied

variable {old : Heap} {entry : Entry CoreModule} {engine : Engine} {past : List Happening}

/-- A module that is left alone keeps its tally. -/
lemma idle (tallied : Tallied old entry.module.targets engine.heap past) :
    entry.Keeps old past (entry.idle engine) :=
  ⟨rfl, (List.append_nil past).symm ▸ tallied⟩

/-- A hook of a core module is called; functions are bound only if there is a target. -/
lemma callHook (tallied : Tallied old entry.module.targets engine.heap past)
    (named : entry.name = CoreModule.name) (stage : Stage)
    (allowed : stage = .binding → entry.module.logTarget.isEmpty = false) :
    entry.Keeps old past (entry.callHook stage engine) := by
  obtain ⟨module, shared, -, calls⟩ := entry.callHook_eq stage engine
  suffices kept : (HostModule.runHook stage entry.module engine).module.logTarget =
        entry.module.logTarget ∧
      Tallied old entry.module.targets (HostModule.runHook stage entry.module engine).shared.heap
        (past ++ [.hook ⟨entry.name, stage,
          (HostModule.runHook stage entry.module engine).outcome⟩]) by
    refine ⟨module ▸ kept.1, ?_⟩
    rw [shared, calls]
    exact kept.2
  cases stage with
  | initialization =>
    change (CoreModule.prepare _ _).module.logTarget = _ ∧
      Tallied old _ (CoreModule.prepare _ _).shared.heap
        (past ++ [.hook ⟨entry.name, .initialization, (CoreModule.prepare _ _).outcome⟩])
    rw [named, CoreModule.prepare]
    split
    case isTrue empty =>
      rw [CoreModule.targets, if_pos empty] at tallied ⊢
      exact ⟨rfl, tallied.initialization rfl (Nat.le_refl _) tallied.logged_eq_zero _⟩
    case isFalse =>
      refine ⟨rfl, tallied.initialization ?_ ?_ ?_ _⟩
      · rfl
      · exact Nat.le_refl _
      · rfl
  | binding =>
    obtain ⟨grows, logged⟩ := entry.module.bindApi_heap engine
    refine ⟨entry.module.bindApi_logTarget engine,
      tallied.hook grows logged (fun target mem => ?_) (by nofun)⟩
    rw [CoreModule.targets, allowed rfl]
    exact (CoreModule.log_mem_natives mem).symm ▸ List.mem_cons_self
  | shutdown => exact ⟨rfl, tallied.hook (.of_keeps (.refl _)) rfl nofun (by nofun)⟩

/-- A core module that waits is brought up, as far as that succeeds. -/
lemma bringUpPending (tallied : Tallied old entry.module.targets engine.heap past)
    (named : entry.name = CoreModule.name) :
    entry.Keeps old past (entry.bringUpPending engine) := by
  unfold Entry.bringUpPending
  split
  case isFalse => exact tallied.idle
  have first := tallied.callHook named .initialization nofun
  obtain ⟨-, -, failure, -⟩ := entry.callHook_eq .initialization engine
  unfold Entry.bringUp
  generalize entry.callHook .initialization engine = prepared at first failure
  dsimp only
  split
  case h_1 => exact first
  case h_2 none =>
    have filled :=
      CoreModule.not_isEmpty_of_prepare (HookCall.failure?_eq_none.mp (failure.symm.trans none))
    have same : (entry.after prepared).module.targets = entry.module.targets :=
      CoreModule.targets_congr first.target
    have named' : (entry.after prepared).name = CoreModule.name := named
    have second := (same ▸ first.tallied).callHook named' .binding
      fun _ => (congrArg String.isEmpty first.target).trans filled
    generalize (entry.after prepared).callHook .binding prepared.shared = bound at second
    have target := second.target.trans first.target
    have tally := second.tallied
    rw [same, List.append_assoc, ← List.map_append, ← RegistryEvent.calls_append] at tally
    split
    case h_1 => exact ⟨target, tally⟩
    case h_2 => exact ⟨target, by simpa using tally⟩

/-- A core module is shut down if it is up. -/
lemma takeDown (tallied : Tallied old entry.module.targets engine.heap past)
    (named : entry.name = CoreModule.name) :
    entry.Keeps old past (entry.takeDown engine) := by
  have called := tallied.callHook named .shutdown nofun
  unfold Entry.takeDown
  split
  case isTrue =>
    generalize entry.callHook .shutdown engine = stopped at called
    dsimp only
    split
    case h_1 => exact called
    case h_2 => exact ⟨called.target, by simpa using called.tallied⟩
  case isFalse => exact tallied.idle

end Tallied

end LuaHost
