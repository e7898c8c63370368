import LuaHost.Proofs.Registry.Isolation

/-!
# Late registration

If hooks take no notice of what modules share, it makes no difference whether a module is registered
before all are brought up or afterwards. For a pass over all modules does the same to each of them
in any order (`handleAll_isolated`), and a late registration does it to one. So what a registry
becomes is told by the modules that it has taken (`Took`). The main statement is `run_registering`.
-/

namespace LuaHost

variable {M E : Type}

/-- The modules that were accepted, the first of each name, and what was answered each time. -/
structure Intake (M : Type) where
  accepted : List M := []
  answers : List Bool := []

/-- One more module asks to be registered. -/
def Intake.ask (E : Type) [HostModule M E] (intake : Intake M) (module : M) : Intake M :=
  if HostModule.name E module ∈ intake.accepted.map (HostModule.name E) then
    { intake with answers := intake.answers ++ [false] }
  else { accepted := intake.accepted ++ [module], answers := intake.answers ++ [true] }

/-- Registrations of modules, with all modules brought up after the first few of them. -/
def Operation.registering (modules : List M) (n : Nat) : List (Operation M E) :=
  (modules.take n).map .register ++ .initializeAll :: (modules.drop n).map .register

/-! ### Passes over all modules -/

/-- A pass over all positions, in any order, does to each module what the act does to it alone. -/
lemma Registry.handleAll_isolated {act : Entry M → E → Handled M E}
    (alike : ∀ entry shared shared', (act entry shared).Alike (act entry shared'))
    (registry : Registry M E) {positions : List Nat}
    (all : positions.Perm (List.range registry.entries.length)) (shared : E) :
    (registry.handleAll act positions).1.entries =
        registry.entries.map (fun entry => entry.after (act entry shared)) ∧
      (RegistryEvent.calls (registry.handleAll act positions).2).Perm
        (registry.entries.flatMap fun entry => RegistryEvent.calls (act entry shared).trace) := by
  have distinct : positions.Nodup := all.nodup_iff.mpr List.nodup_range
  -- Each module sees what those before it have left in `seen`, and takes no notice of it.
  obtain ⟨seen, entries, trace, _⟩ := handleAll_spec act registry distinct
  constructor
  · apply List.ext_getElem?
    intro i
    rw [entries i, List.getElem?_map]
    split
    case isTrue =>
      congr 1
      funext entry
      exact (alike entry _ _).after entry
    case isFalse left =>
      have none : registry.entries[i]? = none := by
        rw [List.getElem?_eq_none_iff]
        by_contra lt
        exact left (all.mem_iff.mpr (List.mem_range.mpr (Nat.lt_of_not_le lt)))
      rw [none]
      rfl
  · have each (i : Nat) :
        (registry.entries[i]?.toList.flatMap fun entry =>
          RegistryEvent.calls (act entry (seen i)).trace) =
        registry.entries[i]?.toList.flatMap fun entry =>
          RegistryEvent.calls (act entry shared).trace := by
      congr 1
      funext entry
      exact (alike entry _ _).calls
    simp only [trace, RegistryEvent.calls_flatMap, each]
    refine (all.flatMap_right _).trans ?_
    rw [← List.flatMap_assoc, flatMap_range_getElem?]

/-- A startup prepares its module once. -/
lemma Startup.prepared {name calls after} (startup : Startup name calls after) :
    (calls.filter (·.stage = .initialization)).map HookCall.module = [name] := by
  cases startup <;> rfl

variable [HostModule M E]

/-! ### What a registry takes -/

/-- What happens to a module when it is registered, by whether the modules have been brought up. -/
def Entry.introduce (up : Bool) (entry : Entry M) (shared : E) : Handled M E :=
  if up then entry.bringUp shared else entry.idle shared

/-- Introducing a module is alike whatever is shared. -/
lemma Entry.introduce_alike (isolated : HostModule.Isolated M E) (up : Bool) (entry : Entry M)
    (shared shared' : E) : (entry.introduce up shared).Alike (entry.introduce up shared') := by
  unfold introduce
  split
  · exact bringUp_alike isolated entry shared shared'
  · exact idle_alike entry shared shared'

/-- A registered module is introduced at once. -/
lemma Registry.late_eq (registry : Registry M E) (module : M) :
    let fresh := Entry.fresh E module
    let late := (registry.add fresh).handleAll Entry.bringUpPending registry.latePositions
    late.1.entries =
        registry.entries ++ [fresh.after (fresh.introduce registry.initialized registry.shared)] ∧
      late.2 = (fresh.introduce registry.initialized registry.shared).trace := by
  intro fresh late
  cases flag : registry.initialized with
  | false =>
    have positions : registry.latePositions = [] := if_neg (by simp [flag])
    unfold late
    rw [positions, handleAll_nil]
    exact ⟨rfl, rfl⟩
  | true =>
    have positions : registry.latePositions = [registry.entries.length] := if_pos flag
    unfold late
    rw [positions, handleAll_singleton]
    refine ⟨handle_added_entries registry fresh, ?_⟩
    rw [handle_of_some (registry.add_getElem? fresh)]
    rfl

/-- A registry has taken modules, and has given these answers: each accepted module has been
introduced, and no other hook has been called. -/
structure History.Took (shared : E) (intake : Intake M) (up : Bool) (history : History M E) :
    Prop where
  answers : history.answers = intake.answers
  initialized : history.registry.initialized = up
  entries : history.registry.entries = intake.accepted.map fun module =>
    (Entry.fresh E module).after ((Entry.fresh E module).introduce up shared)
  calls : history.calls.Perm (intake.accepted.flatMap fun module =>
    RegistryEvent.calls ((Entry.fresh E module).introduce up shared).trace)

namespace History.Took

variable {shared : E} {intake : Intake M} {up : Bool} {history : History M E}

/-- The names are those of the accepted modules. -/
lemma names (h : history.Took shared intake up) :
    history.registry.names = intake.accepted.map (HostModule.name E) := by
  rw [Registry.names, h.entries, List.map_map]
  rfl

/-- One more registration is one more module that asks. -/
lemma register (isolated : HostModule.Isolated M E) (h : history.Took shared intake up)
    (module : M) :
    (history.perform (.register module)).Took shared (intake.ask E module) up := by
  have answered : (history.perform (.register module)).answers =
      intake.answers ++ [(history.registry.register module).1] := by
    rw [← h.answers]
    rfl
  have after : (history.perform (.register module)).registry =
      (history.registry.register module).2.1 := rfl
  have made : (history.perform (.register module)).calls =
      history.calls ++ RegistryEvent.calls (history.registry.register module).2.2 :=
    perform_calls history _
  obtain ⟨taken, answer, same, none⟩ | ⟨free, answer, added, visited⟩ :=
    history.registry.register_cases module
  · have known : HostModule.name E module ∈ intake.accepted.map (HostModule.name E) :=
      h.names ▸ Registry.contains_iff.mp taken
    rw [Intake.ask, if_pos known]
    rw [answer] at answered
    rw [same] at after
    rw [none, List.append_nil] at made
    exact ⟨answered, after ▸ h.initialized, after ▸ h.entries, made ▸ h.calls⟩
  · have unknown : HostModule.name E module ∉ intake.accepted.map (HostModule.name E) :=
      h.names ▸ Registry.not_mem_names free
    rw [Intake.ask, if_neg unknown]
    have alike := Entry.introduce_alike isolated up (.fresh E module) history.registry.shared shared
    obtain ⟨entries, trace⟩ := history.registry.late_eq module
    rw [h.initialized] at entries trace
    rw [answer] at answered
    rw [added] at after
    refine ⟨answered, ?_, ?_, ?_⟩
    · rw [after, Registry.handleAll_initialized]
      exact h.initialized
    · rw [after, entries, h.entries, alike.after, List.map_append]
      rfl
    · rw [made, visited, trace, alike.calls, List.flatMap_append]
      refine h.calls.append ?_
      simp

/-- Bringing up all modules introduces those that were accepted so far. -/
lemma initializeAll (isolated : HostModule.Isolated M E) (h : history.Took shared intake false) :
    (history.perform .initializeAll).Took shared intake true := by
  have positions : history.registry.upPositions = history.registry.order :=
    if_neg (by simp [h.initialized])
  obtain ⟨result, visited⟩ := history.registry.initializeAll_eq
  rw [positions] at result visited
  obtain ⟨entries, calls⟩ := Registry.handleAll_isolated (Entry.bringUpPending_alike isolated)
    history.registry history.registry.order_perm shared
  rw [← visited] at calls
  -- So far the modules have only been entered.
  have entered : history.registry.entries = intake.accepted.map (Entry.fresh E) := h.entries
  have silent : history.calls = [] := by
    apply List.Perm.eq_nil
    refine h.calls.trans (.of_eq ?_)
    exact List.flatMap_eq_nil_iff.mpr fun _ _ => rfl
  refine ⟨?_, ?_, ?_, ?_⟩
  · exact (List.append_nil _).trans h.answers
  · exact congrArg Registry.initialized result
  · have after : (history.perform .initializeAll).registry = history.registry.initializeAll.1 := rfl
    rw [after, result]
    refine entries.trans ?_
    rw [entered, List.map_map]
    rfl
  · rw [perform_calls, silent, List.nil_append]
    refine calls.trans (.of_eq ?_)
    rw [entered, List.flatMap_map]
    rfl

/-- Further registrations are further modules that ask. -/
lemma registerAll (isolated : HostModule.Isolated M E) (h : history.Took shared intake up)
    (modules : List M) :
    ((modules.map .register).foldl perform history).Took shared
      (modules.foldl (Intake.ask E) intake)
      up := by
  induction modules generalizing history intake with
  | nil => exact h
  | cons module modules ih => exact ih (h.register isolated module)

/-- The modules that a registry has taken are those that were prepared. -/
lemma prepared (h : history.Took shared intake true) :
    ((history.calls.filter (·.stage = .initialization)).map HookCall.module).Perm
      history.registry.names := by
  refine ((h.calls.filter _).map _).trans (.of_eq ?_)
  rw [List.filter_flatMap, List.map_flatMap, h.names, List.map_eq_flatMap]
  apply List.flatMap_congr
  intro module _
  exact ((Entry.fresh E module).bringUp_startup shared).1.prepared

/-- Each module that a registry has taken was prepared once. -/
lemma prepared_once (h : history.Took shared intake true) (distinct : history.registry.names.Nodup)
    {name} (known : name ∈ history.registry.names) :
    ((history.callsOf name).filter (·.stage = .initialization)).length = 1 := by
  have counted : ((history.callsOf name).filter (·.stage = .initialization)).length =
      ((history.calls.filter (·.stage = .initialization)).map HookCall.module).count name := by
    unfold callsOf
    rw [← List.countP_eq_length_filter, List.count, List.countP_map, List.countP_filter,
      List.countP_filter]
    apply List.countP_congr
    intro call _
    simp [and_comm]
  rw [counted, h.prepared.count_eq, List.count_eq_one_of_mem distinct known]

end History.Took

namespace History

/-- Registering modules takes them, wherever all are brought up meanwhile. -/
lemma run_took (isolated : HostModule.Isolated M E) (shared shared' : E) (modules : List M)
    (n : Nat) :
    (run shared' (Operation.registering modules n)).Took shared
      (modules.foldl (Intake.ask E) {}) true := by
  have start : Took (M := M) shared {} false { registry := { shared := shared' } } :=
    ⟨rfl, rfl, rfl, .nil⟩
  have early := start.registerAll isolated (modules.take n)
  have late := (early.initializeAll isolated).registerAll isolated (modules.drop n)
  rw [← List.foldl_append, List.take_append_drop] at late
  unfold run Operation.registering
  rw [List.foldl_append]
  exact late

/-- If hooks take no notice of what modules share, it makes no difference to a new registry when all
modules are brought up while they are registered: the answers, the names, the order, what is told of
the modules and the flag are the same, and so are the failures but for their order. Each accepted
module is prepared once. -/
theorem run_registering (isolated : HostModule.Isolated M E) (shared shared' : E) (modules : List M)
    (n n' : Nat) :
    let history := run shared (Operation.registering modules n)
    let history' := run shared' (Operation.registering modules n')
    history.answers = history'.answers ∧
    history.registry.names = history'.registry.names ∧
    history.registry.initializationOrder = history'.registry.initializationOrder ∧
    history.registry.listing = history'.registry.listing ∧
    history.registry.initialized = history'.registry.initialized ∧
    history.registry.failures.Perm history'.registry.failures ∧
    ∀ name ∈ history.registry.names,
      ((history.callsOf name).filter (·.stage = .initialization)).length = 1 := by
  intro history history'
  have took : history.Took shared (modules.foldl (Intake.ask E) {}) true :=
    run_took isolated shared shared modules n
  have took' : history'.Took shared (modules.foldl (Intake.ask E) {}) true :=
    run_took isolated shared shared' modules n'
  have entries : history.registry.entries = history'.registry.entries :=
    took.entries.trans took'.entries.symm
  have names : history.registry.names = history'.registry.names :=
    congrArg (List.map Entry.name) entries
  refine ⟨?_, names, ?_, ?_, ?_, ?_, ?_⟩
  · exact took.answers.trans took'.answers.symm
  · exact Registry.initializationOrder_congr names (congrArg (List.map Entry.priority) entries)
  · exact congrArg (List.map Entry.info) entries
  · exact took.initialized.trans took'.initialized.symm
  · rw [run_failures, run_failures]
    exact (took.calls.trans took'.calls.symm).filterMap _
  · exact fun name known => took.prepared_once (run_coherent shared _).distinct known

/-- Four modules, two of which fail and one of which has a name that is taken. -/
def rivals : List Drill :=
  [{ name := "plain" },
    { name := "unbound", plan := fun stage => if stage = .binding then ⟨[.panicked none]⟩ else {} },
    { name := "plain", priority := 7 },
    { name := "unprepared", priority := 0, plan := fun _ => ⟨[.failed (.failed "no")]⟩ }]

/-- The failures come in another order if all four are registered before modules are brought up. -/
theorem run_registering_rivals :
    let early := run () (Operation.registering rivals 4)
    let late := run () (Operation.registering rivals 1)
    HostModule.Isolated Drill Unit ∧
    early.answers = [true, true, false, true] ∧ late.answers = early.answers ∧
    early.registry.initializationOrder = ["unprepared", "plain", "unbound"] ∧
    late.registry.initializationOrder = early.registry.initializationOrder ∧
    early.registry.failures.map HookFailure.module = ["unprepared", "unbound"] ∧
    late.registry.failures.map HookFailure.module = ["unbound", "unprepared"] ∧
    late.registry.listing = early.registry.listing ∧
    late.registry.failures.Perm early.registry.failures ∧
    ((late.callsOf "unprepared").filter (·.stage = .initialization)).length = 1 := by
  intro early late
  obtain ⟨answers, _, order, listing, _, failures, once⟩ :=
    run_registering Drill.isolated () () rivals 1 4
  exact ⟨Drill.isolated, by decide, answers, by decide, order, by decide, by decide,
    listing, failures, once "unprepared" (by decide)⟩

end History

end LuaHost
