import LuaHost.Module.Registry
import Mathlib.Data.List.Nodup

/-!
# Order of modules

The order of the modules is sorted by priority, then by registration (`order_pairwise`), and has
each of them once (`order_perm`). It depends on nothing but the priorities (`order_congr`).
-/

namespace LuaHost.Registry

variable {M E : Type}

/-- The module at one position comes up before the one at another: its priority is lower, or it is
the same and the module was registered earlier. -/
def Precedes (entries : List (Entry M)) (i j : Nat) : Prop :=
  priorityAt entries i < priorityAt entries j ∨
    priorityAt entries i = priorityAt entries j ∧ i < j

/-- Placing a position goes on as long as priorities are not higher. -/
lemma place_cons (entries : List (Entry M)) (j : Nat) (order : List Nat) (i : Nat) :
    place entries (j :: order) i =
      if priorityAt entries j ≤ priorityAt entries i then j :: place entries order i
      else i :: j :: order := by
  unfold place
  split <;> simp [*]

/-- Placing adds the position and nothing else. -/
lemma place_perm (entries : List (Entry M)) (order : List Nat) (i : Nat) :
    (place entries order i).Perm (i :: order) := by
  induction order with
  | nil => exact .refl _
  | cons j order ih =>
    rw [place_cons]
    split
    · exact (ih.cons j).trans (.swap i j order)
    · exact .refl _

/-- Placing a position that is higher than all others keeps an order sorted. -/
lemma place_pairwise {entries : List (Entry M)} {order i}
    (sorted : order.Pairwise (Precedes entries)) (later : ∀ j ∈ order, j < i) :
    (place entries order i).Pairwise (Precedes entries) := by
  induction order with
  | nil => exact List.pairwise_singleton _ _
  | cons j order ih =>
    obtain ⟨first, sorted⟩ := List.pairwise_cons.mp sorted
    rw [place_cons]
    split
    case isTrue le =>
      refine List.pairwise_cons.mpr ⟨?_, ih sorted fun k mem =>
        later k (List.mem_cons_of_mem _ mem)⟩
      intro k mem
      obtain rfl | mem := List.mem_cons.mp ((place_perm entries order i).mem_iff.mp mem)
      · have lt := later j List.mem_cons_self
        unfold Precedes
        omega
      · exact first k mem
    case isFalse gt =>
      refine List.pairwise_cons.mpr ⟨?_, List.pairwise_cons.mpr ⟨first, sorted⟩⟩
      intro k mem
      obtain rfl | mem := List.mem_cons.mp mem
      · exact .inl (by omega)
      · have h := first k mem
        unfold Precedes at h ⊢
        omega

/-- Placing a position depends on the priorities at it and at the positions that are there. -/
lemma place_congr {entries entries' : List (Entry M)} {order i}
    (same : ∀ j ∈ i :: order, priorityAt entries j = priorityAt entries' j) :
    place entries order i = place entries' order i := by
  induction order with
  | nil => rfl
  | cons j order ih =>
    obtain ⟨here, same⟩ := List.forall_mem_cons.mp same
    obtain ⟨there, same⟩ := List.forall_mem_cons.mp same
    rw [place_cons, place_cons, here, there, ih (List.forall_mem_cons.mpr ⟨here, same⟩)]

/-- Placing the first positions one after the other gives a sorted order of them. -/
lemma foldl_place (entries : List (Entry M)) (n : Nat) :
    ((List.range n).foldl (place entries) []).Perm (List.range n) ∧
    ((List.range n).foldl (place entries) []).Pairwise (Precedes entries) := by
  induction n with
  | zero => exact ⟨.refl _, .nil⟩
  | succ n ih =>
    obtain ⟨perm, sorted⟩ := ih
    rw [List.range_succ, List.foldl_append]
    constructor
    · refine (place_perm entries _ n).trans ?_
      exact (perm.cons n).trans (List.perm_append_singleton n _).symm
    · apply place_pairwise sorted
      intro j mem
      exact List.mem_range.mp (perm.mem_iff.mp mem)

variable (registry : Registry M E)

/-- The order has each position once. -/
lemma order_perm : registry.order.Perm (List.range registry.entries.length) :=
  (foldl_place registry.entries registry.entries.length).1

/-- The order is sorted by priority, then by registration. -/
lemma order_pairwise : registry.order.Pairwise (Precedes registry.entries) :=
  (foldl_place registry.entries registry.entries.length).2

/-- No position is twice in the order. -/
lemma order_nodup : registry.order.Nodup :=
  registry.order_perm.nodup_iff.mpr List.nodup_range

/-- The positions in the order are those of the modules. -/
lemma mem_order {i} : i ∈ registry.order ↔ i < registry.entries.length := by
  rw [registry.order_perm.mem_iff, List.mem_range]

/-- Positions of modules are in the order. -/
lemma mem_order_of_some {registry : Registry M E} {i entry}
    (e : registry.entries[i]? = some entry) :
    i ∈ registry.order :=
  registry.mem_order.mpr (List.getElem?_eq_some_iff.mp e).1

/-- An added module does not change the priorities of the others. -/
lemma priorityAt_add (entry : Entry M) {i} (old : i < registry.entries.length) :
    priorityAt (registry.add entry).entries i = priorityAt registry.entries i := by
  unfold priorityAt add
  rw [List.getElem?_append_left old]

/-- An added module is placed into the order of the others. -/
lemma order_add (entry : Entry M) :
    (registry.add entry).order =
      place (registry.add entry).entries registry.order registry.entries.length := by
  have same (n : Nat) (le : n ≤ registry.entries.length) :
      (List.range n).foldl (place (registry.add entry).entries) [] =
        (List.range n).foldl (place registry.entries) [] := by
    induction n with
    | zero => rfl
    | succ n ih =>
      rw [List.range_succ, List.foldl_append, List.foldl_append, ih (Nat.le_of_succ_le le)]
      apply place_congr
      intro j mem
      apply priorityAt_add
      obtain rfl | mem := List.mem_cons.mp mem
      · exact le
      · have lt := List.mem_range.mp ((foldl_place registry.entries n).1.mem_iff.mp mem)
        exact Nat.lt_trans lt le
  have length : (registry.add entry).entries.length = registry.entries.length + 1 :=
    List.length_append
  unfold order
  rw [length, List.range_succ, List.foldl_append, same _ (Nat.le_refl _)]
  rfl

/-- An added module comes after those whose priority is not higher and before those whose priority
is. -/
lemma order_add_split (entry : Entry M) :
    ∃ before after, registry.order = before ++ after ∧
      (registry.add entry).order = before ++ registry.entries.length :: after ∧
      (∀ i ∈ before, priorityAt registry.entries i ≤ entry.priority) ∧
      ∀ i ∈ after, entry.priority < priorityAt registry.entries i := by
  have new : priorityAt (registry.add entry).entries registry.entries.length = entry.priority := by
    simp [priorityAt, add]
  have sorted := (registry.add entry).order_pairwise
  have placed := registry.order_add entry
  unfold place at placed
  have split := @List.takeWhile_append_dropWhile _
    (fun i => decide (priorityAt (registry.add entry).entries i ≤
      priorityAt (registry.add entry).entries registry.entries.length)) registry.order
  generalize registry.order.takeWhile _ = before at placed split
  generalize registry.order.dropWhile _ = after at placed split
  -- Both bounds are read off the new order, which is sorted as well.
  rw [placed, List.pairwise_append] at sorted
  obtain ⟨_, later, first⟩ := sorted
  refine ⟨before, after, split.symm, placed, fun i mem => ?_, fun i mem => ?_⟩
  · have old : i < registry.entries.length :=
      registry.mem_order.mp (split ▸ List.mem_append_left after mem)
    have precedes := first i mem _ List.mem_cons_self
    rw [Precedes, new, priorityAt_add registry entry old] at precedes
    omega
  · have old : i < registry.entries.length :=
      registry.mem_order.mp (split ▸ List.mem_append_right before mem)
    have precedes := (List.pairwise_cons.mp later).1 i mem
    rw [Precedes, new, priorityAt_add registry entry old] at precedes
    omega

/-- Registries with the same priorities have the same order. -/
lemma order_congr {registry registry' : Registry M E}
    (e : registry.entries.map Entry.priority = registry'.entries.map Entry.priority) :
    registry.order = registry'.order := by
  have lengths : registry.entries.length = registry'.entries.length := by
    simpa using congrArg List.length e
  have priorities : priorityAt registry.entries = priorityAt registry'.entries := by
    funext i
    unfold priorityAt
    rw [← List.getElem?_map, ← List.getElem?_map, e]
  unfold order
  rw [lengths]
  unfold place
  rw [priorities]

/-- Registries with the same names and priorities come up in the same order. -/
lemma initializationOrder_congr {registry registry' : Registry M E}
    (names : registry.names = registry'.names)
    (priorities : registry.entries.map Entry.priority = registry'.entries.map Entry.priority) :
    registry.initializationOrder = registry'.initializationOrder := by
  unfold initializationOrder
  rw [order_congr priorities]
  unfold Registry.names at names
  simp only [← List.getElem?_map, names]

/-- The positions of a list lead through the list. -/
lemma flatMap_range_getElem? {α : Type} (xs : List α) :
    (List.range xs.length).flatMap (fun i => xs[i]?.toList) = xs := by
  have each : (List.range xs.length).map (fun i => xs[i]?) = xs.map some := by
    apply List.ext_getElem
    · simp
    · intro i _ _
      simp
  rw [← List.flatMap_map (fun i => xs[i]?) Option.toList, each, List.flatMap_map]
  simp

/-- All modules come up, each once. -/
lemma initializationOrder_perm : registry.initializationOrder.Perm registry.names := by
  have names := flatMap_range_getElem? registry.names
  rw [← List.filterMap_eq_flatMap_toList, Registry.names, List.length_map] at names
  rw [Registry.names, ← names]
  unfold initializationOrder
  simp only [← List.getElem?_map]
  exact registry.order_perm.filterMap _

end LuaHost.Registry
