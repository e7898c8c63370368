import LuaHost.Proofs.Registry.Run

/-!
# Names of modules

A name is given once. So an entry is told by its name, and what is kept by the name is kept by the
module.
-/

namespace LuaHost

variable {M E : Type}

namespace Registry

/-- A name is taken if a module has it. -/
lemma contains_iff {registry : Registry M E} {name} :
    registry.contains name = true ↔ name ∈ registry.names := by
  simp [contains, find?, names]

/-- A free name is no module's. -/
lemma not_mem_names {registry : Registry M E} {name} (free : registry.contains name = false) :
    name ∉ registry.names := by
  intro mem
  rw [contains_iff.mpr mem] at free
  cases free

/-- An added module has the last name. -/
@[simp] lemma names_add (registry : Registry M E) (entry : Entry M) :
    (registry.add entry).names = registry.names ++ [entry.name] :=
  List.map_append

/-- Handling a module keeps the names. -/
@[simp] lemma names_handle (act : Entry M → E → Handled M E) (registry : Registry M E) (i : Nat) :
    (registry.handle act i).1.names = registry.names :=
  handle_map (fun _ _ => rfl) registry i

/-- Changing a module keeps the names. -/
@[simp] lemma names_modify (registry : Registry M E) (name : String) (change : M → M) :
    (registry.modify name change).names = registry.names :=
  modify_map (fun _ _ => rfl) registry name change

/-- Entries with the same name are the same. -/
lemma eq_of_name {registry : Registry M E} (distinct : registry.names.Nodup) {entry entry'}
    (mem : entry ∈ registry.entries) (mem' : entry' ∈ registry.entries)
    (e : entry.name = entry'.name) :
    entry = entry' :=
  List.inj_on_of_nodup_map distinct mem mem' e

/-- An entry is found by its name. -/
lemma find?_of_mem {registry : Registry M E} (distinct : registry.names.Nodup) {entry}
    (mem : entry ∈ registry.entries) : registry.find? entry.name = some entry := by
  cases e : registry.find? entry.name with
  | none =>
    have h := List.find?_eq_none.mp e entry mem
    simp at h
  | some found =>
    have name : found.name = entry.name := by simpa using List.find?_some e
    rw [eq_of_name distinct (List.mem_of_find?_eq_some e) mem name]

/-- The state under a name is that of the entry. -/
lemma stateOf_of_mem {registry : Registry M E} (distinct : registry.names.Nodup) {entry}
    (mem : entry ∈ registry.entries) : registry.stateOf entry.name = entry.state := by
  rw [stateOf, find?_of_mem distinct mem]

/-- Under a name that is not given, there is no module. -/
lemma stateOf_of_not_mem {registry : Registry M E} {name} (unknown : name ∉ registry.names) :
    registry.stateOf name = .unregistered := by
  have none : registry.find? name = none := by
    rw [← Option.not_isSome_iff_eq_none]
    exact fun found => unknown (contains_iff.mp found)
  rw [stateOf, none]

/-- After a module was handled, the entry with its name is what became of it, and the others are
old. -/
lemma mem_handle_cases {registry : Registry M E} (distinct : registry.names.Nodup)
    {act : Entry M → E → Handled M E} {i before} (e : registry.entries[i]? = some before) {entry}
    (mem : entry ∈ (registry.handle act i).1.entries) :
    entry = before.after (act before registry.shared) ∨
      entry.name ≠ before.name ∧ entry ∈ registry.entries := by
  by_cases same : entry.name = before.name
  · have self : before.after (act before registry.shared) ∈ (registry.handle act i).1.entries := by
      apply List.mem_of_getElem? (i := i)
      rw [handle_getElem?_self, e]
      rfl
    rw [← names_handle act registry i] at distinct
    exact .inl (eq_of_name distinct mem self same)
  · obtain old | rfl := mem_handle e mem
    · exact .inr ⟨same, old⟩
    · exact absurd rfl same

variable [HostModule M E]

/-- Every operation keeps the names and may add further ones. -/
lemma names_perform (registry : Registry M E) (operation : Operation M E) :
    registry.names <+: (registry.perform operation).registry.names := by
  refine perform_keeps (P := fun other _ => registry.names <+: other.names)
    ?add ?handle ?modify ?rest [] operation List.prefix_rfl
  case add =>
    intro other _ module _ h
    rw [names_add]
    exact h.trans (List.prefix_append _ _)
  case handle =>
    intro act other _ i _ h
    rw [names_handle]
    exact h
  case modify =>
    intro other _ name change h
    rw [names_modify]
    exact h
  case rest => exact fun _ _ _ _ h => h

/-- Adding a module whose name is free keeps the names distinct. -/
lemma nodup_add {registry : Registry M E} {module : M}
    (free : registry.contains (HostModule.name E module) = false)
    (distinct : registry.names.Nodup) :
    (registry.add (.fresh E module)).names.Nodup := by
  rw [names_add, List.nodup_append]
  refine ⟨distinct, List.nodup_singleton _, ?_⟩
  rintro name mem name' mem' rfl
  rw [List.mem_singleton.mp mem'] at mem
  exact not_mem_names free mem

end Registry

namespace History

variable [HostModule M E]

/-- A longer run only adds calls and names. -/
lemma run_append (shared : E) (operations more : List (Operation M E)) :
    (run shared operations).calls <+: (run shared (operations ++ more)).calls ∧
    (run shared operations).registry.names <+:
        (run shared (operations ++ more)).registry.names := by
  induction more using List.reverseRecOn with
  | nil =>
    rw [List.append_nil]
    exact ⟨List.prefix_rfl, List.prefix_rfl⟩
  | append_singleton more operation ih =>
    rw [← List.append_assoc, run_concat, perform_calls]
    exact ⟨ih.1.trans (List.prefix_append _ _), ih.2.trans (Registry.names_perform _ operation)⟩

end History

end LuaHost
