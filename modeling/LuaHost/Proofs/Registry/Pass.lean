import LuaHost.Proofs.Registry.Visit
import Mathlib.Data.List.Nodup

/-!
# Passes

A pass handles the modules at several positions, one after the other. It sees each module as the
pass found it, for no module is touched on behalf of another one (`handleAll_spec`); so to choose
the positions before the pass or to decide at each position comes to the same (`handleAll_filter`).
-/

namespace LuaHost

/-- The calls of several traces, one after the other. -/
lemma RegistryEvent.calls_flatMap {α : Type} (xs : List α) (trace : α → List RegistryEvent) :
    calls (xs.flatMap trace) = xs.flatMap fun x => calls (trace x) :=
  List.filterMap_flatMap

/-- Something goes through the members of a list, one after the other: what `step` leaves of it at
one member is found at the next. -/
inductive Threads {α E : Type} (step : α → E → E → Prop) : E → List α → E → Prop where
  | done {found} :
    Threads step found [] found
  | next {x xs found left last} :
    step x found left →
    Threads step left xs last →
    Threads step found (x :: xs) last

/-- The steps of those that it goes through may be told otherwise. -/
lemma Threads.imp {α E : Type} {step step' : α → E → E → Prop} {xs : List α} {found last : E}
    (threads : Threads step found xs last)
    (told : ∀ x ∈ xs, ∀ found left, step x found left → step' x found left) :
    Threads step' found xs last := by
  induction threads with
  | done => exact .done
  | next here _ ih =>
    refine .next (told _ List.mem_cons_self _ _ here) (ih fun x mem => ?_)
    exact told x (List.mem_cons_of_mem _ mem)

namespace Registry

variable {M E : Type} {act : Entry M → E → Handled M E}

/-! ### One position -/

/-- A position without a module is passed over. -/
lemma handle_of_none {registry : Registry M E} {i} (e : registry.entries[i]? = none) :
    registry.handle act i = (registry, []) := by
  simp only [handle, e]

/-- What handling the module at a position leads to. -/
lemma handle_of_some {registry : Registry M E} {i entry} (e : registry.entries[i]? = some entry) :
    registry.handle act i =
      ({ registry with
          shared := (act entry registry.shared).shared
          entries := registry.entries.set i (entry.after (act entry registry.shared))
          failures := registry.failures ++ (act entry registry.shared).failure.toList },
        (act entry registry.shared).trace) := by
  simp only [handle, e]

/-- Handling a module does not touch the flag. -/
@[simp] lemma handle_initialized (registry : Registry M E) (i : Nat) :
    (registry.handle act i).1.initialized = registry.initialized := by
  unfold handle
  split <;> rfl

/-- Handling a module leaves alone what no act changes. -/
lemma handle_map {α : Type} {f : Entry M → α} (fixed : ∀ entry (handled : Handled M E),
    f (entry.after handled) = f entry) (registry : Registry M E) (i : Nat) :
    (registry.handle act i).1.entries.map f = registry.entries.map f := by
  cases e : registry.entries[i]? with
  | none => rw [handle_of_none e]
  | some entry =>
    obtain ⟨lt, eq⟩ := List.getElem?_eq_some_iff.mp e
    rw [handle_of_some e, List.map_set, fixed, ← eq, ← List.getElem_map f, List.set_getElem_self]
    simpa using lt

/-- Handling the module at a position leaves the others alone. -/
lemma handle_getElem?_ne {registry : Registry M E} {i j} (ne : i ≠ j) :
    (registry.handle act i).1.entries[j]? = registry.entries[j]? := by
  cases e : registry.entries[i]? with
  | none => rw [handle_of_none e]
  | some entry => rw [handle_of_some e, List.getElem?_set_ne ne]

/-- Handling the module at a position changes it as the act says. -/
lemma handle_getElem?_self {registry : Registry M E} {i} :
    (registry.handle act i).1.entries[i]? =
      registry.entries[i]?.map fun entry => entry.after (act entry registry.shared) := by
  cases e : registry.entries[i]? with
  | none => rw [handle_of_none e, e]; rfl
  | some entry =>
    obtain ⟨lt, _⟩ := List.getElem?_eq_some_iff.mp e
    rw [handle_of_some e, List.getElem?_set_self lt]; rfl

/-- An entry after a module was handled is an old one, or what became of that module. -/
lemma mem_handle {registry : Registry M E} {i before} (e : registry.entries[i]? = some before)
    {entry} (mem : entry ∈ (registry.handle act i).1.entries) :
    entry ∈ registry.entries ∨ entry = before.after (act before registry.shared) := by
  rw [handle_of_some e] at mem
  exact List.mem_or_eq_of_mem_set mem

/-- The module that was added is at the last position. -/
@[simp] lemma add_getElem? (registry : Registry M E) (entry : Entry M) :
    (registry.add entry).entries[registry.entries.length]? = some entry := by
  simp [add]

/-- Handling the module that was added leaves the others alone. -/
lemma handle_added_entries (registry : Registry M E) (added : Entry M) :
    ((registry.add added).handle act registry.entries.length).1.entries =
      registry.entries ++ [added.after (act added registry.shared)] := by
  rw [handle_of_some (registry.add_getElem? added)]
  simp [add]

/-- After the module that was added was handled, an entry is an old one, or what became of that
module. -/
lemma mem_handle_added {registry : Registry M E} {added entry}
    (mem : entry ∈ ((registry.add added).handle act registry.entries.length).1.entries) :
    entry ∈ registry.entries ∨ entry = added.after (act added registry.shared) := by
  rw [handle_added_entries] at mem
  exact (List.mem_append.mp mem).imp_right List.mem_singleton.mp

/-- The trace of handling the module at a position. -/
lemma handle_trace {registry : Registry M E} {i} :
    (registry.handle act i).2 =
      registry.entries[i]?.toList.flatMap fun entry => (act entry registry.shared).trace := by
  cases e : registry.entries[i]? with
  | none => rw [handle_of_none e]; rfl
  | some entry => rw [handle_of_some e]; simp

/-- Handling a module under a condition. -/
lemma handle_if (act : Entry M → E → Handled M E) (p : Entry M → Bool) (registry : Registry M E)
    (i : Nat) :
    registry.handle (fun entry shared => if p entry then act entry shared
      else entry.idle shared) i =
      if registry.entries[i]?.any p = true then registry.handle act i else (registry, []) := by
  cases e : registry.entries[i]? with
  | none => simp [handle_of_none e]
  | some entry =>
    obtain ⟨lt, eq⟩ := List.getElem?_eq_some_iff.mp e
    by_cases chosen : p entry = true
    · simp [handle_of_some e, chosen]
    · rw [handle_of_some e]
      simp only [if_neg chosen, Entry.after_idle]
      subst eq
      simp [chosen, Entry.idle]

/-- Handling the module at a position changes what is shared as the act says. -/
lemma handle_shared {registry : Registry M E} {i} :
    (registry.handle act i).1.shared =
    (registry.entries[i]?.map fun entry => (act entry registry.shared).shared).getD
        registry.shared := by
  cases e : registry.entries[i]? with
  | none => rw [handle_of_none e]; rfl
  | some entry => rw [handle_of_some e]; rfl

/-! ### Several positions -/

/-- A pass over no position does nothing. -/
@[simp] lemma handleAll_nil (registry : Registry M E) :
    registry.handleAll act [] = (registry, []) := rfl

/-- A pass over one position handles the module there. -/
@[simp] lemma handleAll_singleton (registry : Registry M E) (i : Nat) :
    registry.handleAll act [i] = registry.handle act i := by
  simp [handleAll]

/-- What one act keeps, a pass keeps. The property may tell of the calls so far. -/
lemma handleAll_induction {P : Registry M E → List HookCall → Prop}
    (step : ∀ registry calls i, P registry calls →
      P (registry.handle act i).1 (calls ++ RegistryEvent.calls (registry.handle act i).2))
    {registry : Registry M E} {calls} (start : P registry calls) (positions : List Nat) :
    P (registry.handleAll act positions).1
      (calls ++ RegistryEvent.calls (registry.handleAll act positions).2) := by
  induction positions generalizing registry calls with
  | nil => simpa [handleAll] using start
  | cons i rest ih =>
    have h := ih (step registry calls i start)
    rw [List.append_assoc, ← RegistryEvent.calls_append] at h
    exact h

/-- So it does if the property does not tell of calls. -/
lemma handleAll_preserves {P : Registry M E → Prop}
    (step : ∀ registry i, P registry → P (registry.handle act i).1)
    {registry : Registry M E} (start : P registry) (positions : List Nat) :
    P (registry.handleAll act positions).1 := by
  induction positions generalizing registry with
  | nil => exact start
  | cons i rest ih => exact ih (step registry i start)

/-- A pass does not touch the flag. -/
@[simp] lemma handleAll_initialized (registry : Registry M E) (positions : List Nat) :
    (registry.handleAll act positions).1.initialized = registry.initialized := by
  induction positions generalizing registry with
  | nil => rfl
  | cons i rest ih => exact (ih _).trans (handle_initialized registry i)

/-- A pass leaves alone what no act changes. -/
lemma handleAll_map {α : Type} {f : Entry M → α} (fixed : ∀ entry (handled : Handled M E),
    f (entry.after handled) = f entry) (registry : Registry M E) (positions : List Nat) :
    (registry.handleAll act positions).1.entries.map f = registry.entries.map f := by
  induction positions generalizing registry with
  | nil => rfl
  | cons i rest ih => exact (ih _).trans (handle_map fixed registry i)

/-- A pass over distinct positions handles each module as it was before the pass. Only what the
modules share has changed meanwhile: `seen` says what it is when the module at a position is
handled, and it goes on from there to the next position. -/
lemma handleAll_spec (act : Entry M → E → Handled M E) (registry : Registry M E)
    {positions : List Nat} (distinct : positions.Nodup) :
    ∃ seen : Nat → E,
      (∀ i, (registry.handleAll act positions).1.entries[i]? =
        if i ∈ positions then
          registry.entries[i]?.map fun entry => entry.after (act entry (seen i))
        else registry.entries[i]?) ∧
      (registry.handleAll act positions).2 =
        positions.flatMap (fun i =>
          registry.entries[i]?.toList.flatMap fun entry => (act entry (seen i)).trace) ∧
      Threads (fun i shared left => shared = seen i ∧
          left = (registry.entries[i]?.map fun entry => (act entry (seen i)).shared).getD (seen i))
        registry.shared positions (registry.handleAll act positions).1.shared := by
  induction positions generalizing registry with
  | nil => exact ⟨fun _ => registry.shared, fun i => by simp [handleAll], rfl, .done⟩
  | cons j rest ih =>
    obtain ⟨fresh, distinct⟩ := List.nodup_cons.mp distinct
    obtain ⟨seen, entries, trace, threads⟩ := ih (registry.handle act j).1 distinct
    -- The rest of the pass sees `seen`; the first position sees what is shared at the start.
    refine ⟨Function.update seen j registry.shared, fun i => ?_, ?_, ?_⟩
    · change ((registry.handle act j).1.handleAll act rest).1.entries[i]? = _
      rw [entries i]
      by_cases e : i = j
      · subst e
        rw [if_neg fresh, if_pos List.mem_cons_self, handle_getElem?_self, Function.update_self]
      · rw [handle_getElem?_ne (Ne.symm e), Function.update_of_ne e]
        simp [e]
    · change (registry.handle act j).2 ++ ((registry.handle act j).1.handleAll act rest).2 = _
      rw [trace, handle_trace, List.flatMap_cons, Function.update_self]
      congr 1
      apply List.flatMap_congr
      intro i mem
      have ne : i ≠ j := fun e => fresh (e ▸ mem)
      rw [handle_getElem?_ne (Ne.symm ne), Function.update_of_ne ne]
    · refine .next ⟨by rw [Function.update_self], ?_⟩ (threads.imp fun i mem shared left step => ?_)
      · rw [handle_shared, Function.update_self]
      · have ne : i ≠ j := fun e => fresh (e ▸ mem)
        rw [handle_getElem?_ne (Ne.symm ne)] at step
        rw [Function.update_of_ne ne]
        exact step

/-- An entry after a pass is one that the pass left out, or what became of one. -/
lemma mem_handleAll {registry : Registry M E} {positions : List Nat} (distinct : positions.Nodup)
    {entry} (mem : entry ∈ (registry.handleAll act positions).1.entries) :
    (∃ i, i ∉ positions ∧ registry.entries[i]? = some entry) ∨
    ∃ i before shared, i ∈ positions ∧ registry.entries[i]? = some before ∧
      entry = before.after (act before shared) := by
  obtain ⟨seen, entries, _, _⟩ := handleAll_spec act registry distinct
  obtain ⟨i, e⟩ := List.mem_iff_getElem?.mp mem
  rw [entries i] at e
  split at e
  case isTrue visited =>
    obtain ⟨before, e, eq⟩ := Option.map_eq_some_iff.mp e
    exact .inr ⟨i, before, seen i, visited, e, eq.symm⟩
  case isFalse left => exact .inl ⟨i, left, e⟩

/-- To handle those of several modules that are chosen beforehand is to choose when their turn
comes. -/
lemma handleAll_filter (p : Entry M → Bool) (registry : Registry M E) {positions : List Nat}
    (distinct : positions.Nodup) :
    registry.handleAll act (positions.filter fun i => registry.entries[i]?.any p) =
      registry.handleAll (fun entry shared => if p entry then act entry shared
        else entry.idle shared)
        positions := by
  induction positions generalizing registry with
  | nil => rfl
  | cons j rest ih =>
    obtain ⟨fresh, distinct⟩ := List.nodup_cons.mp distinct
    rw [List.filter_cons]
    by_cases chosen : registry.entries[j]?.any p = true
    · -- Handling the module at `j` does not change which of the others are chosen.
      have same : (rest.filter fun i => registry.entries[i]?.any p) =
          rest.filter fun i => (registry.handle act j).1.entries[i]?.any p := by
        apply List.filter_congr
        intro i mem
        have ne : j ≠ i := fun e => fresh (e ▸ mem)
        rw [handle_getElem?_ne ne]
      simp only [if_pos chosen, handleAll, handle_if, same, ih _ distinct]
    · simp only [if_neg chosen, handleAll, handle_if, ih _ distinct, List.nil_append]

end Registry

end LuaHost
