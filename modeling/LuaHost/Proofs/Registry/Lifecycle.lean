import LuaHost.Module.Planned
import LuaHost.Proofs.Registry.Names

/-!
# Lifecycle of a module

The hooks of a module are called in complete cycles: initialization, binding, shutdown. A hook that
fails ends this for good. So the calls of a module are a word of a small language (`InCycles`), and
between operations the last of them tells the state of the module (`stateAfter?`). The main
statement is `callsOf_run`; the invariant behind it, `Lived`, says which words belong to which
state.
-/

namespace LuaHost

namespace HookCall

/-- The calls that open a cycle. -/
def opening (name : String) : List HookCall :=
  [⟨name, .initialization, .succeeded⟩, ⟨name, .binding, .succeeded⟩]

/-- The calls of one complete cycle. -/
def cycle (name : String) : List HookCall :=
  opening name ++ [⟨name, .shutdown, .succeeded⟩]

/-- The calls of several complete cycles. -/
def cycles (name : String) (n : Nat) : List HookCall :=
  (List.replicate n (cycle name)).flatten

/-- The calls begin some complete cycles. The last one may also fail, in place of one that
succeeds. -/
def InCycles (name : String) (calls : List HookCall) : Prop :=
  (∃ n, calls <+: cycles name n) ∨
  ∃ past call n, calls = past ++ [call] ∧ call.outcome ≠ .succeeded ∧
    past ++ [{ call with outcome := .succeeded }] <+: cycles name n

/-- The state that its calls leave a module in between operations. After an initialization that
succeeded there is none: its binding follows in the same operation. -/
def stateAfter? (calls : List HookCall) : Option ModuleState :=
  match calls.getLast? with
  | none => some .registered
  | some call =>
    if call.outcome = .succeeded then
      match call.stage with
      | .initialization => none
      | .binding => some .initialized
      | .shutdown => some .shutDown
    else some (.failed call.stage)

/-- One more cycle comes last. -/
lemma cycles_succ (name : String) (n : Nat) :
    cycles name (n + 1) = cycles name n ++ cycle name := by
  simp [cycles, List.replicate_succ']

/-- All calls of complete cycles succeed. -/
lemma succeeded_of_mem_cycles {name n call} (mem : call ∈ cycles name n) :
    call.outcome = .succeeded := by
  obtain ⟨calls, same, mem⟩ := List.mem_flatten.mp mem
  rw [List.eq_of_mem_replicate same] at mem
  simp [cycle, opening] at mem
  obtain rfl | rfl | rfl := mem <;> rfl

/-- Where a call has failed, no further one is in the language. -/
lemma InCycles.eq_nil {name calls more} (h : InCycles name (calls ++ more)) {call}
    (mem : call ∈ calls) (fails : call.outcome ≠ .succeeded) : more = [] := by
  obtain ⟨n, pre⟩ | ⟨past, last, n, e, _, pre⟩ := h
  · exact absurd (succeeded_of_mem_cycles (pre.subset (List.mem_append_left _ mem))) fails
  · induction more using List.reverseRecOn with
    | nil => rfl
    | append_singleton more _ _ =>
      -- The failed call would come before the last one.
      rw [← List.append_assoc] at e
      obtain ⟨rfl, _⟩ := List.append_inj' e rfl
      have earlier :=
        List.mem_append_left [{ last with outcome := .succeeded }] (List.mem_append_left more mem)
      exact absurd (succeeded_of_mem_cycles (pre.subset earlier)) fails

end HookCall

open HookCall Entry

/-- The calls of a module so far and its state now. -/
inductive Lived (name : String) : List HookCall → ModuleState → Prop where
  | registered :
    Lived name [] .registered
  | startup {n calls state} :
    Startup name calls state →
    Lived name (cycles name n ++ calls) state
  | teardown {n calls state} :
    Teardown name calls state →
    Lived name (cycles name n ++ (opening name ++ calls)) state

/-- A module that waits has lived through complete cycles. -/
lemma Lived.of_pending {name calls state} (lived : Lived name calls state)
    (pending : state.isPending = true) : ∃ n, calls = cycles name n := by
  cases lived with
  | registered => exact ⟨0, rfl⟩
  | startup startup => cases startup <;> cases pending
  | @teardown n _ _ teardown =>
    cases teardown with
    | stuck _ => cases pending
    | down => exact ⟨n + 1, (cycles_succ name n).symm⟩

/-- A module that is up has lived through complete cycles and a startup. -/
lemma Lived.of_initialized {name calls} (lived : Lived name calls .initialized) :
    ∃ n, calls = cycles name n ++ opening name := by
  cases lived with
  | @startup n _ _ startup => cases startup with | up => exact ⟨n, rfl⟩
  | teardown teardown => cases teardown

/-- A visit goes on with the life of a module. -/
lemma Lived.visit {name calls before more after} (lived : Lived name calls before)
    (visit : Visit name before more after) : Lived name (calls ++ more) after := by
  cases visit with
  | idle =>
    rw [List.append_nil]
    exact lived
  | startup pending startup =>
    obtain ⟨n, rfl⟩ := lived.of_pending pending
    exact .startup startup
  | teardown teardown =>
    obtain ⟨n, rfl⟩ := lived.of_initialized
    rw [List.append_assoc]
    exact .teardown teardown

/-- A life stays in the language. -/
lemma Lived.inCycles {name calls state} (lived : Lived name calls state) : InCycles name calls := by
  -- In each case the calls begin one cycle more than the complete ones.
  cases lived with
  | registered => exact .inl ⟨0, List.prefix_rfl⟩
  | @startup n _ _ startup =>
    cases startup with
    | unprepared fails =>
      refine .inr ⟨cycles name n, _, n + 1, rfl, fails, ?_⟩
      rw [cycles_succ, List.prefix_append_right_inj]
      exact ⟨_, rfl⟩
    | @unbound outcome fails =>
      refine .inr ⟨cycles name n ++ [⟨name, .initialization, .succeeded⟩],
        ⟨name, .binding, outcome⟩, n + 1, ?_, fails, ?_⟩
      · rw [List.append_assoc]; rfl
      · rw [cycles_succ, List.append_assoc, List.prefix_append_right_inj]
        exact ⟨_, rfl⟩
    | up =>
      refine .inl ⟨n + 1, ?_⟩
      rw [cycles_succ, List.prefix_append_right_inj]
      exact ⟨_, rfl⟩
  | @teardown n _ _ teardown =>
    cases teardown with
    | @stuck outcome fails =>
      refine .inr ⟨cycles name n ++ opening name, ⟨name, .shutdown, outcome⟩, n + 1, ?_, fails, ?_⟩
      · rw [List.append_assoc]
      · rw [cycles_succ, List.append_assoc, List.prefix_append_right_inj]
        exact ⟨_, rfl⟩
    | down =>
      refine .inl ⟨n + 1, ?_⟩
      rw [cycles_succ]
      exact List.prefix_rfl

/-- The last call of a life tells the state. -/
lemma Lived.stateAfter {name calls state} (lived : Lived name calls state) :
    stateAfter? calls = some state := by
  cases lived with
  | registered => rfl
  | startup startup =>
    cases startup with
    | unprepared fails => simp [stateAfter?, fails]
    | unbound fails => simp [stateAfter?, fails]
    | up => simp [stateAfter?]
  | teardown teardown =>
    cases teardown with
    | stuck fails => simp [stateAfter?, fails]
    | down => simp [stateAfter?]

variable {M E : Type}

/-- Names are distinct, calls are of known modules, and each module has lived through its calls. -/
structure Registry.Coherent (registry : Registry M E) (calls : List HookCall) : Prop where
  distinct : registry.names.Nodup
  known : ∀ call ∈ calls, call.module ∈ registry.names
  lived : ∀ entry ∈ registry.entries,
    Lived entry.name (calls.filter (·.module = entry.name)) entry.state

namespace Registry.Coherent

/-- A visit adds calls of one module and none of the others. -/
lemma handle {registry : Registry M E} {calls} (h : registry.Coherent calls)
    {act : Entry M → E → Handled M E} (visits : Visits act) (i : Nat) :
    (registry.handle act i).1.Coherent
      (calls ++ RegistryEvent.calls (registry.handle act i).2) := by
  cases e : registry.entries[i]? with
  | none =>
    rw [handle_of_none e]
    exact (List.append_nil calls).symm ▸ h
  | some before =>
    have visit := visits.visit before registry.shared
    have mem := List.mem_of_getElem? e
    refine ⟨?_, ?_, ?_⟩
    · rw [names_handle]
      exact h.distinct
    · intro call called
      rw [names_handle]
      rw [handle_of_some e] at called
      obtain called | called := List.mem_append.mp called
      · exact h.known call called
      · rw [visit.named call called]
        exact List.mem_map_of_mem mem
    · intro entry mem'
      rw [handle_of_some e, List.filter_append]
      obtain rfl | ⟨other, old⟩ := mem_handle_cases h.distinct e mem'
      · rw [after_name, visit.filter_self]
        exact (h.lived before mem).visit visit
      · rw [visit.filter_other other, List.append_nil]
        exact h.lived entry old

/-- Changing a module adds no calls. -/
lemma modify {registry : Registry M E} {calls} (h : registry.Coherent calls) (name : String)
    (change : M → M) : (registry.modify name change).Coherent calls := by
  refine ⟨?_, ?_, ?_⟩
  · rw [names_modify]
    exact h.distinct
  · rw [names_modify]
    exact h.known
  · intro entry mem
    obtain ⟨before, known, _, rfl⟩ := mem_modify mem
    exact h.lived before known

variable [HostModule M E]

/-- A new module has no calls yet. -/
lemma add {registry : Registry M E} {calls module} (h : registry.Coherent calls)
    (free : registry.contains (HostModule.name E module) = false) :
    (registry.add (.fresh E module)).Coherent calls where
  distinct := nodup_add free h.distinct
  known call mem := by
    rw [names_add]
    exact List.mem_append_left _ (h.known call mem)
  lived entry mem := by
    obtain mem | mem := List.mem_append.mp mem
    · exact h.lived entry mem
    · rw [List.mem_singleton.mp mem]
      have none : calls.filter (·.module = HostModule.name E module) = [] := by
        rw [List.filter_eq_nil_iff]
        intro call mem e
        exact not_mem_names free (of_decide_eq_true e ▸ h.known call mem)
      change Lived _ (calls.filter (·.module = HostModule.name E module)) .registered
      rw [none]
      exact .registered

end Registry.Coherent

namespace History

variable [HostModule M E]

/-- Every run is coherent. -/
lemma run_coherent (shared : E) (operations : List (Operation M E)) :
    (run shared operations).registry.Coherent (run shared operations).calls := by
  refine run_keeps (P := Registry.Coherent) ⟨List.nodup_nil, nofun, nofun⟩ ?_ operations
  intro registry calls operation h
  refine Registry.perform_keeps (P := Registry.Coherent) ?add ?handle ?modify ?rest
    calls operation h
  case add => exact fun _ _ _ free h => h.add free
  case handle => exact fun _ _ _ i visits h => h.handle visits i
  case modify => exact fun _ _ name change h => h.modify name change
  case rest => exact fun _ _ _ _ h => ⟨h.distinct, h.known, h.lived⟩

/-- After every run, the calls of each module go through the cycles of its lifecycle, the last of
them tells its state, and once a call has failed no further one comes. -/
theorem callsOf_run (shared : E) (operations : List (Operation M E)) {name : String}
    (known : name ∈ (run shared operations).registry.names) :
    InCycles name ((run shared operations).callsOf name) ∧
    stateAfter? ((run shared operations).callsOf name) =
      some ((run shared operations).registry.stateOf name) ∧
    ∀ call ∈ (run shared operations).callsOf name, call.outcome ≠ .succeeded →
      ∀ more, (run shared (operations ++ more)).callsOf name =
        (run shared operations).callsOf name := by
  have lived (operations : List (Operation M E))
      (known : name ∈ (run shared operations).registry.names) :
      Lived name ((run shared operations).callsOf name)
        ((run shared operations).registry.stateOf name) := by
    obtain ⟨entry, mem, rfl⟩ := List.mem_map.mp known
    have h := run_coherent shared operations
    rw [Registry.stateOf_of_mem h.distinct mem]
    exact h.lived entry mem
  refine ⟨(lived operations known).inCycles, (lived operations known).stateAfter, ?_⟩
  intro call mem fails more
  obtain ⟨⟨later, calls⟩, names⟩ := run_append shared operations more
  -- The calls of the longer run are in the language too, so nothing can follow the failed one.
  have longer := (lived (operations ++ more) (names.subset known)).inCycles
  unfold callsOf at mem longer ⊢
  rw [← calls, List.filter_append] at longer ⊢
  rw [longer.eq_nil mem fails, List.append_nil]

/-- A module whose second shutdown panics. -/
def stumbling : Drill :=
  { name := "stumbling"
    plan := fun stage => if stage = .shutdown then ⟨[.succeeded, .panicked none]⟩ else {} }

/-- It is brought up and shut down twice, and asked to come up once more. -/
def stumblingRun : List (Operation Drill Unit) :=
  [.register stumbling, .initializeAll, .shutdownAll, .initializeAll, .shutdownAll, .initializeAll]

/-- After its failure nothing more happens to it. -/
theorem callsOf_run_stumbling :
    "stumbling" ∈ (run () stumblingRun).registry.names ∧
    (run () stumblingRun).callsOf "stumbling" =
      cycle "stumbling" ++ opening "stumbling" ++ [⟨"stumbling", .shutdown, .panicked none⟩] ∧
    InCycles "stumbling" ((run () stumblingRun).callsOf "stumbling") ∧
    stateAfter? ((run () stumblingRun).callsOf "stumbling") = some (.failed .shutdown) ∧
    (run () (stumblingRun ++ [.shutdownAll, .initializeAll])).callsOf "stumbling" =
      (run () stumblingRun).callsOf "stumbling" := by
  have known : "stumbling" ∈ (run () stumblingRun).registry.names := by decide
  obtain ⟨inCycles, state, ended⟩ := callsOf_run () stumblingRun known
  refine ⟨known, by decide, inCycles, ?_, ?_⟩
  · rw [state]
    decide
  · exact ended ⟨"stumbling", .shutdown, .panicked none⟩ (by decide) (by decide) _

end History

end LuaHost
