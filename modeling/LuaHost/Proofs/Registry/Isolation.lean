import LuaHost.Proofs.Registry.Failures
import LuaHost.Proofs.Registry.Lifecycle
import Mathlib.Data.List.Forall2

/-!
# Isolation of modules

What the hooks of one module do, be it success, failure or panic, makes no difference to the others,
as long as hooks take no notice of what modules share. Two runs that differ in the hooks of one
module stay in a relation (`History.AgreeExcept`) that each operation keeps. The main statement is
`run_agree`.
-/

namespace LuaHost

variable {M E : Type}

/-! ### Hooks that take no notice of what is shared -/

/-- How a hook ends and what it makes of its module depends on the module alone. -/
def HostModule.Isolated (M E : Type) [HostModule M E] : Prop :=
  ∀ stage (module : M) (shared shared' : E),
    (runHook stage module shared).outcome = (runHook stage module shared').outcome ∧
    (runHook stage module shared).module = (runHook stage module shared').module

/-- Drills take no notice of what is shared. -/
lemma Drill.isolated : HostModule.Isolated Drill E := by
  intro stage drill shared shared'
  cases stage <;> exact ⟨rfl, rfl⟩

/-- Two results of handling a module are the same for it: they differ in what is shared and in the
events that hooks cause at most. -/
structure Handled.Alike (handled handled' : Handled M E) : Prop where
  module : handled.module = handled'.module
  state : handled.state = handled'.state
  failure : handled.failure = handled'.failure
  calls : RegistryEvent.calls handled.trace = RegistryEvent.calls handled'.trace

/-- The entry is the same after results that are alike. -/
lemma Handled.Alike.after {handled handled' : Handled M E} (alike : handled.Alike handled')
    (entry : Entry M) : entry.after handled = entry.after handled' := by
  unfold Entry.after
  rw [alike.module, alike.state]

namespace Entry

/-- Leaving a module alone is alike whatever is shared. -/
lemma idle_alike (entry : Entry M) (shared shared' : E) :
    (entry.idle shared).Alike (entry.idle shared') :=
  ⟨rfl, rfl, rfl, rfl⟩

variable [HostModule M E]

/-- Calling a hook is alike whatever is shared. -/
lemma callHook_alike (isolated : HostModule.Isolated M E) (stage : Stage) (entry : Entry M)
    (shared shared' : E) : (entry.callHook stage shared).Alike (entry.callHook stage shared') := by
  obtain ⟨outcome, module⟩ := isolated stage entry.module shared shared'
  unfold callHook
  simp only [outcome, module]
  split <;> exact ⟨rfl, rfl, rfl, rfl⟩

/-- Bringing a module up is alike whatever is shared. -/
lemma bringUp_alike (isolated : HostModule.Isolated M E) (entry : Entry M) (shared shared' : E) :
    (entry.bringUp shared).Alike (entry.bringUp shared') := by
  have first := callHook_alike isolated .initialization entry shared shared'
  unfold bringUp
  generalize entry.callHook .initialization shared = prepared at first
  generalize entry.callHook .initialization shared' = prepared' at first
  have second :=
    callHook_alike isolated .binding (entry.after prepared) prepared.shared prepared'.shared
  simp only [← first.failure, ← first.after entry, ← second.failure]
  split
  · exact first
  · split
    · exact ⟨second.module, second.state, rfl, by simp [first.calls, second.calls]⟩
    · exact ⟨second.module, rfl, rfl, by simp [first.calls, second.calls]⟩

/-- Bringing a module up if it waits is alike whatever is shared. -/
lemma bringUpPending_alike (isolated : HostModule.Isolated M E) (entry : Entry M)
    (shared shared' : E) :
    (entry.bringUpPending shared).Alike (entry.bringUpPending shared') := by
  unfold bringUpPending
  split
  · exact bringUp_alike isolated entry shared shared'
  · exact idle_alike entry shared shared'

/-- Shutting a module down is alike whatever is shared. -/
lemma takeDown_alike (isolated : HostModule.Isolated M E) (entry : Entry M) (shared shared' : E) :
    (entry.takeDown shared).Alike (entry.takeDown shared') := by
  have call := callHook_alike isolated .shutdown entry shared shared'
  unfold takeDown
  split
  · simp only [← call.failure]
    split
    · exact call
    · exact ⟨call.module, rfl, rfl, by simp [call.calls]⟩
  · exact idle_alike entry shared shared'

end Entry

/-! ### Registries that differ in one module -/

/-- Entries that have the same name and priority, and are the same unless the name is `k`. -/
structure Entry.AgreeExcept (k : String) (entry entry' : Entry M) : Prop where
  name : entry.name = entry'.name
  priority : entry.priority = entry'.priority
  same : entry.name ≠ k → entry = entry'

/-- Registries that differ in the module with a name at most, besides what is shared and the
failures. -/
structure Registry.AgreeExcept (k : String) (registry registry' : Registry M E) : Prop where
  initialized : registry.initialized = registry'.initialized
  entries (i : Nat) : Option.Rel (Entry.AgreeExcept k) registry.entries[i]? registry'.entries[i]?

/-- The calls of all modules but one. -/
def HookCall.others (k : String) (calls : List HookCall) : List HookCall :=
  calls.filter (·.module ≠ k)

open HookCall

/-- The calls of the others among more calls come last. -/
@[simp] lemma HookCall.others_append (k : String) (calls more : List HookCall) :
    others k (calls ++ more) = others k calls ++ others k more :=
  List.filter_append ..

/-- A visit of the module itself makes no call of the others. -/
lemma Visit.others_eq_nil {name before calls after} (visit : Visit name before calls after) :
    others name calls = [] := by
  rw [others, List.filter_eq_nil_iff]
  intro call mem ne
  exact of_decide_eq_true ne (visit.named call mem)

namespace Registry.AgreeExcept

variable {k : String} {registry registry' : Registry M E}

/-- At each position there is a module in both registries or in none. -/
lemma cases (h : registry.AgreeExcept k registry') (i : Nat) :
    (registry.entries[i]? = none ∧ registry'.entries[i]? = none) ∨
    ∃ entry entry', registry.entries[i]? = some entry ∧ registry'.entries[i]? = some entry' ∧
      Entry.AgreeExcept k entry entry' := by
  have rel := h.entries i
  generalize registry.entries[i]? = found at rel ⊢
  generalize registry'.entries[i]? = found' at rel ⊢
  cases rel with
  | none => exact .inl ⟨rfl, rfl⟩
  | some rel => exact .inr ⟨_, _, rfl, rfl, rel⟩

/-- What agrees on entries agrees on what they are mapped to. -/
lemma map {α : Type} {f : Entry M → α} (h : registry.AgreeExcept k registry')
    (agree : ∀ entry entry', Entry.AgreeExcept k entry entry' → f entry = f entry') :
    registry.entries.map f = registry'.entries.map f := by
  apply List.ext_getElem?
  intro i
  rw [List.getElem?_map, List.getElem?_map]
  obtain ⟨e, e'⟩ | ⟨entry, entry', e, e', rel⟩ := h.cases i
  · rw [e, e']
  · rw [e, e']
    exact congrArg some (agree entry entry' rel)

/-- The names agree. -/
lemma names (h : registry.AgreeExcept k registry') : registry.names = registry'.names :=
  h.map fun _ _ rel => rel.name

/-- The orders agree. -/
lemma order (h : registry.AgreeExcept k registry') : registry.order = registry'.order :=
  order_congr (h.map fun _ _ rel => rel.priority)

/-- There are equally many modules. -/
lemma length (h : registry.AgreeExcept k registry') :
    registry.entries.length = registry'.entries.length := by
  have e := congrArg List.length h.names
  rwa [Registry.names, Registry.names, List.length_map, List.length_map] at e

/-- The same names are taken. -/
lemma contains (h : registry.AgreeExcept k registry') (name : String) :
    registry.contains name = registry'.contains name := by
  rw [Bool.eq_iff_iff, contains_iff, contains_iff, h.names]

/-- Handling modules at the same position, alike for those that agree, keeps the agreement. -/
lemma handle {act : Entry M → E → Handled M E} (visits : Visits act)
    (alike : ∀ entry shared shared', (act entry shared).Alike (act entry shared'))
    (h : registry.AgreeExcept k registry') (i : Nat) :
    (registry.handle act i).1.AgreeExcept k (registry'.handle act i).1 ∧
      others k (RegistryEvent.calls (registry.handle act i).2) =
        others k (RegistryEvent.calls (registry'.handle act i).2) := by
  refine ⟨⟨?_, fun j => ?_⟩, ?_⟩
  · rw [handle_initialized, handle_initialized]
    exact h.initialized
  · by_cases here : i = j
    · subst here
      rw [handle_getElem?_self, handle_getElem?_self]
      obtain ⟨e, e'⟩ | ⟨entry, entry', e, e', rel⟩ := h.cases i
      · rw [e, e']
        exact .none
      · rw [e, e']
        refine .some ⟨rel.name, rel.priority, fun ne => ?_⟩
        obtain rfl := rel.same ne
        exact (alike entry _ _).after entry
    · rw [handle_getElem?_ne here, handle_getElem?_ne here]
      exact h.entries j
  · rw [handle_trace, handle_trace]
    obtain ⟨e, e'⟩ | ⟨entry, entry', e, e', rel⟩ := h.cases i
    · rw [e, e']
      rfl
    · rw [e, e']
      simp only [Option.toList_some, List.flatMap_cons, List.flatMap_nil, List.append_nil]
      by_cases named : entry.name = k
      · -- The two visits may differ, but neither makes a call of the others.
        have visit := visits.visit entry registry.shared
        have visit' := visits.visit entry' registry'.shared
        rw [named] at visit
        rw [← rel.name, named] at visit'
        rw [visit.others_eq_nil, visit'.others_eq_nil]
      · obtain rfl := rel.same named
        rw [(alike entry _ _).calls]

/-- A pass over the same positions keeps the agreement. -/
lemma handleAll {act : Entry M → E → Handled M E} (visits : Visits act)
    (alike : ∀ entry shared shared', (act entry shared).Alike (act entry shared'))
    (h : registry.AgreeExcept k registry') (positions : List Nat) :
    (registry.handleAll act positions).1.AgreeExcept k (registry'.handleAll act positions).1 ∧
      others k (RegistryEvent.calls (registry.handleAll act positions).2) =
        others k (RegistryEvent.calls (registry'.handleAll act positions).2) := by
  induction positions generalizing registry registry' with
  | nil => exact ⟨h, rfl⟩
  | cons i rest ih =>
    obtain ⟨first, calls⟩ := h.handle visits alike i
    obtain ⟨later, more⟩ := ih first
    refine ⟨later, ?_⟩
    simp only [Registry.handleAll, RegistryEvent.calls_append, others_append, calls, more]

/-- Adding modules that agree keeps the agreement. -/
lemma add (h : registry.AgreeExcept k registry') {entry entry'}
    (rel : Entry.AgreeExcept k entry entry') :
    (registry.add entry).AgreeExcept k (registry'.add entry') := by
  refine ⟨h.initialized, fun i => ?_⟩
  by_cases old : i < registry.entries.length
  · have old' : i < registry'.entries.length := h.length ▸ old
    simp only [Registry.add, List.getElem?_append_left old, List.getElem?_append_left old']
    exact h.entries i
  · have new := Nat.le_of_not_lt old
    have new' : registry'.entries.length ≤ i := h.length ▸ new
    simp only [Registry.add, List.getElem?_append_right new,
      List.getElem?_append_right new', h.length]
    cases i - registry'.entries.length with
    | zero => exact .some rel
    | succ _ => exact .none

/-- Changing modules in the same way, or the one in which registries differ in any way, keeps the
agreement. -/
lemma modify {name} {change change' : M → M} (h : registry.AgreeExcept k registry')
    (same : name = k ∨ change = change') :
    (registry.modify name change).AgreeExcept k (registry'.modify name change') := by
  refine ⟨h.initialized, fun i => ?_⟩
  simp only [Registry.modify, List.getElem?_map]
  obtain ⟨e, e'⟩ | ⟨entry, entry', e, e', rel⟩ := h.cases i
  · rw [e, e']
    exact .none
  · rw [e, e']
    refine .some ?_
    simp only [← rel.name]
    by_cases named : entry.name = name
    · rw [if_pos named, if_pos named]
      refine ⟨rfl, rel.priority, fun ne => ?_⟩
      obtain rfl := rel.same ne
      obtain rfl | rfl := same
      · exact absurd named ne
      · rfl
    · rw [if_neg named, if_neg named]
      exact rel

end Registry.AgreeExcept

/-- Histories of registries that differ in the module with a name at most: it has been answered the
same, and the calls of the other modules are the same. -/
structure History.AgreeExcept (k : String) (history history' : History M E) : Prop where
  registry : history.registry.AgreeExcept k history'.registry
  answers : history.answers = history'.answers
  calls : others k history.calls = others k history'.calls

/-- The states of the other modules are the same. -/
lemma Registry.AgreeExcept.stateOf {k : String} {registry registry' : Registry M E}
    (h : registry.AgreeExcept k registry') (distinct : registry.names.Nodup) {name}
    (ne : name ≠ k) :
    registry.stateOf name = registry'.stateOf name := by
  have distinct' : registry'.names.Nodup := h.names ▸ distinct
  by_cases known : name ∈ registry.names
  · obtain ⟨entry, mem, rfl⟩ := List.mem_map.mp known
    obtain ⟨i, found⟩ := List.mem_iff_getElem?.mp mem
    obtain ⟨e, _⟩ | ⟨_, entry', e, e', rel⟩ := h.cases i
    · rw [e] at found
      cases found
    · rw [e] at found
      cases found
      obtain rfl := rel.same ne
      rw [stateOf_of_mem distinct mem, stateOf_of_mem distinct' (List.mem_of_getElem? e')]
  · rw [stateOf_of_not_mem known, stateOf_of_not_mem (h.names ▸ known)]

variable [HostModule M E]

/-- Operations that are the same, or that differ in what the module with a name does and what is
shared. -/
inductive Operation.AgreeExcept (k : String) : Operation M E → Operation M E → Prop where
  | same (operation) :
    AgreeExcept k operation operation
  | register {module module'} :
    HostModule.name E module = k →
    HostModule.name E module' = k →
    HostModule.priority E module = HostModule.priority E module' →
    AgreeExcept k (.register module) (.register module')
  | modify (change change') :
    AgreeExcept k (.modify k change) (.modify k change')
  | share (change change') :
    AgreeExcept k (.share change) (.share change')

namespace Registry.AgreeExcept

variable {k : String} {registry registry' : Registry M E}

/-- Registering modules that agree keeps the agreement. -/
lemma register (isolated : HostModule.Isolated M E) (h : registry.AgreeExcept k registry')
    {module module'} (rel : Entry.AgreeExcept k (.fresh E module) (.fresh E module')) :
    (registry.perform (.register module)).AgreeExcept k
      (registry'.perform (.register module')) := by
  have name : HostModule.name E module = HostModule.name E module' := rel.name
  have late : registry.latePositions = registry'.latePositions := by
    unfold latePositions
    rw [h.initialized, h.length]
  -- The name is taken in both registries or in none.
  obtain ⟨taken, answer, same, none⟩ | ⟨free, answer, added, visited⟩ :=
    registry.register_cases module
  · obtain ⟨_, answer', same', none'⟩ | ⟨free', _⟩ := registry'.register_cases module'
    · refine ⟨?_, congrArg (fun answer => [answer]) (answer.trans answer'.symm), ?_⟩
      · change (registry.register module).2.1.AgreeExcept k (registry'.register module').2.1
        rw [same, same']
        exact h
      · exact congrArg (others k) (none.trans none'.symm)
    · rw [h.contains, name, free'] at taken
      cases taken
  · obtain ⟨taken', _⟩ | ⟨_, answer', added', visited'⟩ := registry'.register_cases module'
    · rw [h.contains, name, taken'] at free
      cases free
    · obtain ⟨agree, calls⟩ := (h.add rel).handleAll Visits.bringUpPending
        (Entry.bringUpPending_alike isolated) registry.latePositions
      refine ⟨?_, congrArg (fun answer => [answer]) (answer.trans answer'.symm), ?_⟩
      · change (registry.register module).2.1.AgreeExcept k (registry'.register module').2.1
        rw [added, added', ← late]
        exact agree
      · change others k (RegistryEvent.calls (registry.register module).2.2) =
          others k (RegistryEvent.calls (registry'.register module').2.2)
        rw [visited, visited', ← late]
        exact calls

/-- Bringing up all modules keeps the agreement. -/
lemma initializeAll (isolated : HostModule.Isolated M E) (h : registry.AgreeExcept k registry') :
    (registry.perform .initializeAll).AgreeExcept k (registry'.perform .initializeAll) := by
  have positions : registry.upPositions = registry'.upPositions := by
    unfold upPositions
    rw [h.initialized, h.order]
  obtain ⟨agree, calls⟩ := h.handleAll Visits.bringUpPending
    (Entry.bringUpPending_alike isolated) registry.upPositions
  obtain ⟨visited, seen⟩ := registry.initializeAll_eq
  obtain ⟨visited', seen'⟩ := registry'.initializeAll_eq
  refine ⟨?_, rfl, ?_⟩
  · change registry.initializeAll.1.AgreeExcept k registry'.initializeAll.1
    rw [visited, visited', ← positions]
    exact ⟨rfl, agree.entries⟩
  · change others k (RegistryEvent.calls registry.initializeAll.2) =
      others k (RegistryEvent.calls registry'.initializeAll.2)
    rw [seen, seen', ← positions]
    exact calls

/-- Shutting down all modules keeps the agreement. -/
lemma shutdownAll (isolated : HostModule.Isolated M E) (h : registry.AgreeExcept k registry') :
    (registry.perform .shutdownAll).AgreeExcept k (registry'.perform .shutdownAll) := by
  have positions : registry.downPositions = registry'.downPositions := by
    unfold downPositions
    rw [h.initialized, h.order]
  obtain ⟨agree, calls⟩ := h.handleAll Visits.takeDown
    (Entry.takeDown_alike isolated) registry.downPositions
  obtain ⟨visited, seen⟩ := registry.shutdownAll_eq
  obtain ⟨visited', seen'⟩ := registry'.shutdownAll_eq
  refine ⟨?_, rfl, ?_⟩
  · change registry.shutdownAll.1.AgreeExcept k registry'.shutdownAll.1
    rw [visited, visited', ← positions]
    exact ⟨rfl, agree.entries⟩
  · change others k (RegistryEvent.calls registry.shutdownAll.2) =
      others k (RegistryEvent.calls registry'.shutdownAll.2)
    rw [seen, seen', ← positions]
    exact calls

/-- Operations that agree keep the agreement. -/
lemma perform (isolated : HostModule.Isolated M E) (h : registry.AgreeExcept k registry')
    {operation operation'} (rel : Operation.AgreeExcept k operation operation') :
    (registry.perform operation).AgreeExcept k (registry'.perform operation') := by
  cases rel with
  | same operation =>
    cases operation with
    | register module => exact h.register isolated ⟨rfl, rfl, fun _ => rfl⟩
    | initializeAll => exact h.initializeAll isolated
    | shutdownAll => exact h.shutdownAll isolated
    | modify name change => exact ⟨h.modify (.inr rfl), rfl, rfl⟩
    | share change => exact ⟨⟨h.initialized, h.entries⟩, rfl, rfl⟩
  | register name name' priority =>
    exact h.register isolated ⟨name.trans name'.symm, priority, fun ne => absurd name ne⟩
  | modify change change' => exact ⟨h.modify (.inl rfl), rfl, rfl⟩
  | share change change' => exact ⟨⟨h.initialized, h.entries⟩, rfl, rfl⟩

end Registry.AgreeExcept

namespace History

variable {k : String}

/-- Further operations that agree keep the agreement of histories. -/
lemma AgreeExcept.foldl (isolated : HostModule.Isolated M E) {history history' : History M E}
    (h : history.AgreeExcept k history') {operations operations' : List (Operation M E)}
    (agree : List.Forall₂ (Operation.AgreeExcept k) operations operations') :
    (operations.foldl perform history).AgreeExcept k (operations'.foldl perform history') := by
  induction agree generalizing history history' with
  | nil => exact h
  | cons rel _ ih =>
    have next := h.registry.perform isolated rel
    apply ih
    refine ⟨next.registry, ?_, ?_⟩
    · exact congrArg₂ (· ++ ·) h.answers next.answers
    · rw [perform_calls, perform_calls, others_append, others_append, h.calls, next.calls]

/-- If hooks take no notice of what modules share, two runs that differ in one module agree on the
others after each operation: on what `register` has answered, on the flag, the names and the order,
and on the states, calls and failures of all other modules. -/
theorem run_agree (isolated : HostModule.Isolated M E)
    {operations operations' : List (Operation M E)}
    (agree : List.Forall₂ (Operation.AgreeExcept k) operations operations') (shared shared' : E)
    (n : Nat) :
    let history := run shared (operations.take n)
    let history' := run shared' (operations'.take n)
    history.answers = history'.answers ∧
    history.registry.initialized = history'.registry.initialized ∧
    history.registry.names = history'.registry.names ∧
    history.registry.initializationOrder = history'.registry.initializationOrder ∧
    (∀ name ≠ k, history.registry.stateOf name = history'.registry.stateOf name) ∧
    history.calls.filter (·.module ≠ k) = history'.calls.filter (·.module ≠ k) ∧
    history.registry.failures.filter (·.module ≠ k) =
      history'.registry.failures.filter (·.module ≠ k) := by
  intro history history'
  have start :
      AgreeExcept (M := M) k { registry := { shared } } { registry := { shared := shared' } } :=
    ⟨⟨rfl, fun _ => .none⟩, rfl, rfl⟩
  have h : history.AgreeExcept k history' := start.foldl isolated (List.forall₂_take n agree)
  have coherent : history.registry.Coherent history.calls := run_coherent shared _
  refine ⟨h.answers, h.registry.initialized, h.registry.names, ?_, ?_, h.calls, ?_⟩
  · exact Registry.initializationOrder_congr h.registry.names
      (h.registry.map fun _ _ rel => rel.priority)
  · exact fun name ne => h.registry.stateOf coherent.distinct ne
  · rw [run_failures, run_failures]
    have only := HookCall.filter_failures (fun name => decide (name ≠ k))
    exact (only _).trans ((congrArg _ h.calls).trans (only _).symm)

/-- A module that works and one that does as planned are brought up and shut down. -/
def mixedRun (plan : Stage → Plan) : List (Operation Drill Unit) :=
  [.register { name := "steady" }, .register { name := "faulty", priority := 0, plan },
    .initializeAll, .shutdownAll]

/-- Whether the one panics or works, the other is brought up and shut down. -/
theorem run_agree_mixed :
    let working := run () (mixedRun fun _ => {})
    let panicking := run () (mixedRun fun _ => ⟨[.panicked none]⟩)
    HostModule.Isolated Drill Unit ∧
    List.Forall₂ (Operation.AgreeExcept "faulty") (mixedRun fun _ => {})
      (mixedRun fun _ => ⟨[.panicked none]⟩) ∧
    working.registry.stateOf "faulty" = .shutDown ∧
    panicking.registry.stateOf "faulty" = .failed .initialization ∧
    working.registry.stateOf "steady" = panicking.registry.stateOf "steady" ∧
    working.calls.filter (·.module ≠ "faulty") = panicking.calls.filter (·.module ≠ "faulty") ∧
    working.registry.failures.filter (·.module ≠ "faulty") =
      panicking.registry.failures.filter (·.module ≠ "faulty") := by
  intro working panicking
  have agree : List.Forall₂ (Operation.AgreeExcept "faulty") (mixedRun fun _ => {})
      (mixedRun fun _ => ⟨[.panicked none]⟩) :=
    .cons (.same _) (.cons (.register rfl rfl rfl) (.cons (.same _) (.cons (.same _) .nil)))
  obtain ⟨_, _, _, _, states, calls, failures⟩ := run_agree Drill.isolated agree () () 4
  exact ⟨Drill.isolated, agree, by decide, by decide, states "steady" (by decide), calls, failures⟩

end History

end LuaHost
