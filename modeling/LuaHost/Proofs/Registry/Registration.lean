import LuaHost.Proofs.Registry.Lifecycle

/-!
# Registration

What a module says of itself when it is registered holds from then on. A module whose name is free
takes its place among the others, and neither changes the order of these (`Placed`); apart from that
nothing changes the names, the orders or what is told of the modules besides their states. The main
statement is `registration_of_run`.
-/

namespace LuaHost

/-- What is told of a module apart from its state. -/
def ModuleInfo.captured (info : ModuleInfo) : String × Int × Bool :=
  (info.name, info.priority, info.deprecated)

namespace Registry

variable {M E : Type}

/-- The names in the order of the modules, cut where a module with a priority takes its place: after
those whose priority is not higher and before those whose priority is. -/
structure Placed (registry : Registry M E) (priority : Int) (before after : List String) :
    Prop where
  order : registry.initializationOrder = before ++ after
  before_iff : ∀ entry ∈ registry.entries, entry.name ∈ before ↔ entry.priority ≤ priority
  after_iff : ∀ entry ∈ registry.entries, entry.name ∈ after ↔ priority < entry.priority

/-- The names of the modules at some positions. -/
def namesAt (registry : Registry M E) (positions : List Nat) : List String :=
  positions.filterMap fun i => registry.entries[i]?.map Entry.name

/-- A module is named at positions if its own is among them. -/
lemma mem_namesAt {registry : Registry M E} (distinct : registry.names.Nodup) {entry}
    (mem : entry ∈ registry.entries) {positions : List Nat} :
    entry.name ∈ registry.namesAt positions ↔
      ∃ i ∈ positions, registry.entries[i]? = some entry := by
  unfold namesAt
  rw [List.mem_filterMap]
  constructor
  · rintro ⟨i, here, named⟩
    obtain ⟨found, e, name⟩ := Option.map_eq_some_iff.mp named
    rw [eq_of_name distinct (List.mem_of_getElem? e) mem name] at e
    exact ⟨i, here, e⟩
  · rintro ⟨i, here, e⟩
    exact ⟨i, here, by rw [e]; rfl⟩

/-- The names at old positions are not changed by an added module. -/
lemma namesAt_add {registry : Registry M E} (entry : Entry M) {positions : List Nat}
    (old : ∀ i ∈ positions, i < registry.entries.length) :
    (registry.add entry).namesAt positions = registry.namesAt positions := by
  apply List.filterMap_congr
  intro i mem
  rw [add, List.getElem?_append_left (old i mem)]

/-- Where the order of the positions is cut at a priority, that of the names is. -/
lemma Placed.of_order {registry : Registry M E} (distinct : registry.names.Nodup) {priority : Int}
    {before after : List Nat} (split : registry.order = before ++ after)
    (le : ∀ i ∈ before, priorityAt registry.entries i ≤ priority)
    (gt : ∀ i ∈ after, priority < priorityAt registry.entries i) :
    registry.Placed priority (registry.namesAt before) (registry.namesAt after) := by
  have stored {i : Nat} {entry : Entry M} (e : registry.entries[i]? = some entry) :
      priorityAt registry.entries i = entry.priority := by
    rw [priorityAt, e]
    rfl
  -- Names are distinct, so what the positions tell of the modules, their names do.
  have not_higher {entry} (mem : entry ∈ registry.entries)
      (named : entry.name ∈ registry.namesAt before) : entry.priority ≤ priority := by
    obtain ⟨i, here, e⟩ := (mem_namesAt distinct mem).mp named
    exact stored e ▸ le i here
  have higher {entry} (mem : entry ∈ registry.entries)
      (named : entry.name ∈ registry.namesAt after) : priority < entry.priority := by
    obtain ⟨i, here, e⟩ := (mem_namesAt distinct mem).mp named
    exact stored e ▸ gt i here
  have named {entry} (mem : entry ∈ registry.entries) :
      entry.name ∈ registry.namesAt before ∨ entry.name ∈ registry.namesAt after := by
    obtain ⟨i, e⟩ := List.mem_iff_getElem?.mp mem
    have here := mem_order_of_some e
    rw [split] at here
    refine (List.mem_append.mp here).imp ?_ ?_
    · exact fun here => (mem_namesAt distinct mem).mpr ⟨i, here, e⟩
    · exact fun here => (mem_namesAt distinct mem).mpr ⟨i, here, e⟩
  refine ⟨?_, ?_, ?_⟩
  · unfold initializationOrder
    rw [split]
    exact List.filterMap_append
  · intro entry mem
    refine ⟨not_higher mem, fun le => (named mem).resolve_right fun right => ?_⟩
    exact absurd le (Int.not_le.mpr (higher mem right))
  · intro entry mem
    refine ⟨higher mem, fun gt => (named mem).resolve_left fun left => ?_⟩
    exact absurd gt (Int.not_lt.mpr (not_higher mem left))

/-- An added module's name stands among the names of the others where its position stands among
theirs. -/
lemma namesAt_placed {registry : Registry M E} (entry : Entry M) {before after : List Nat}
    (old : ∀ i ∈ before ++ after, i < registry.entries.length) :
    (registry.add entry).namesAt (before ++ registry.entries.length :: after) =
      registry.namesAt before ++ entry.name :: registry.namesAt after := by
  have last : (registry.add entry).entries[registry.entries.length]?.map Entry.name =
      some entry.name := by
    rw [add_getElem?]
    rfl
  calc (registry.add entry).namesAt (before ++ registry.entries.length :: after)
      = (registry.add entry).namesAt before ++ entry.name ::
        (registry.add entry).namesAt after := by
        unfold namesAt
        rw [List.filterMap_append]
        exact congrArg _ (List.filterMap_cons_some last)
    _ = registry.namesAt before ++ entry.name :: registry.namesAt after := by
        rw [namesAt_add entry fun i mem => old i (List.mem_append_left after mem),
          namesAt_add entry fun i mem => old i (List.mem_append_right before mem)]

/-- An added module takes its place among the others. -/
lemma initializationOrder_add {registry : Registry M E} (distinct : registry.names.Nodup)
    (entry : Entry M) :
    ∃ before after, registry.Placed entry.priority before after ∧
      (registry.add entry).initializationOrder = before ++ entry.name :: after := by
  obtain ⟨before, after, split, placed, le, gt⟩ := registry.order_add_split entry
  refine ⟨registry.namesAt before, registry.namesAt after, .of_order distinct split le gt, ?_⟩
  have old (i : Nat) (mem : i ∈ before ++ after) : i < registry.entries.length :=
    registry.mem_order.mp (split ▸ mem)
  rw [← namesAt_placed entry old, ← placed]
  rfl

variable [HostModule M E]

/-- A registration adds what no hook changes. -/
lemma register_map {α : Type} {f : Entry M → α} (fixed : ∀ entry (handled : Handled M E),
    f (entry.after handled) = f entry) {registry : Registry M E} {module : M}
    (accepted : (registry.register module).1 = true) :
    (registry.register module).2.1.entries.map f =
      (registry.add (.fresh E module)).entries.map f := by
  obtain ⟨_, refused, _⟩ | ⟨_, _, added, _⟩ := registry.register_cases module
  · rw [refused] at accepted
    cases accepted
  · rw [added]
    exact handleAll_map fixed _ _

/-- A module is registered if and only if its name is free. -/
lemma register_iff (registry : Registry M E) (module : M) :
    (registry.register module).1 = true ↔ HostModule.name E module ∉ registry.names := by
  obtain ⟨taken, refused, _⟩ | ⟨free, accepted, _⟩ := registry.register_cases module
  · rw [refused]
    exact ⟨nofun, fun free => absurd (contains_iff.mp taken) free⟩
  · rw [accepted]
    exact ⟨fun _ => not_mem_names free, fun _ => rfl⟩

/-- A refused registration has no effect and calls no hook. -/
lemma register_refused {registry : Registry M E} {module : M}
    (refused : (registry.register module).1 = false) :
    (registry.register module).2.1 = registry ∧
      RegistryEvent.calls (registry.register module).2.2 = [] := by
  obtain ⟨_, _, same, none⟩ | ⟨_, accepted, _⟩ := registry.register_cases module
  · exact ⟨same, none⟩
  · rw [accepted] at refused
    cases refused

end Registry

namespace History

variable {M E : Type} [HostModule M E]

/-- After every run, names are distinct and the orders have each of them once. A module is
registered if and only if its name is free; otherwise there is no effect and no hook is called. A
registered module gets the last name and takes its place in the order. No other operation changes
the names, the orders or what modules have said when they were registered. -/
theorem registration_of_run (shared : E) (operations : List (Operation M E)) :
    let registry := (run shared operations).registry
    registry.names.Nodup ∧
    registry.initializationOrder.Perm registry.names ∧
    registry.shutdownOrder = registry.initializationOrder.reverse ∧
    (∀ module,
      let name := HostModule.name E module
      let next := (registry.register module).2.1
      ((registry.register module).1 = true ↔ name ∉ registry.names) ∧
      ((registry.register module).1 = false →
        next = registry ∧ RegistryEvent.calls (registry.register module).2.2 = []) ∧
      ((registry.register module).1 = true →
        next.names = registry.names ++ [name] ∧
        next.listing.map ModuleInfo.captured = registry.listing.map ModuleInfo.captured ++
          [(name, HostModule.priority E module, HostModule.deprecated E module)] ∧
        ∃ before after, registry.Placed (HostModule.priority E module) before after ∧
          next.initializationOrder = before ++ name :: after)) ∧
    ∀ operation, (∀ module, operation ≠ .register module) →
      let next := (registry.perform operation).registry
      next.names = registry.names ∧
      next.initializationOrder = registry.initializationOrder ∧
      next.shutdownOrder = registry.shutdownOrder ∧
      next.listing.map ModuleInfo.captured = registry.listing.map ModuleInfo.captured := by
  intro registry
  have distinct : registry.names.Nodup := (run_coherent shared operations).distinct
  refine ⟨distinct, registry.initializationOrder_perm, rfl, fun module => ⟨?_, ?_, ?_⟩, ?_⟩
  · exact registry.register_iff module
  · exact Registry.register_refused
  · intro accepted
    have names := Registry.register_map (f := Entry.name) (fun _ _ => rfl) accepted
    have priorities := Registry.register_map (f := Entry.priority) (fun _ _ => rfl) accepted
    obtain ⟨before, after, placed, order⟩ :=
      Registry.initializationOrder_add distinct (.fresh E module)
    refine ⟨names.trans (registry.names_add _), ?_, before, after, placed, ?_⟩
    · have captured := Registry.register_map (f := ModuleInfo.captured ∘ Entry.info)
        (fun _ _ => rfl) accepted
      unfold Registry.listing
      rw [List.map_map, List.map_map, captured]
      exact List.map_append
    · exact (Registry.initializationOrder_congr names priorities).trans order
  · intro operation other
    have names := registry.perform_map (f := Entry.name) (fun _ _ => rfl) other
    have priorities := registry.perform_map (f := Entry.priority) (fun _ _ => rfl) other
    have order := Registry.initializationOrder_congr names priorities
    refine ⟨names, order, congrArg List.reverse order, ?_⟩
    unfold Registry.listing
    rw [List.map_map, List.map_map]
    exact registry.perform_map (fun _ _ => rfl) other

end History

end LuaHost
