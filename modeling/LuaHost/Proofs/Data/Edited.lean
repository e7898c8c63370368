import LuaHost.Data.Basic
import Mathlib.Data.List.Nodup
import Mathlib.Tactic.Common

/-!
# Edited documents

A document is edited by deleting fields, by adding fields that are not known, and by bringing the
fields of an object into another order (`Edited`). What is found in a known field is then nothing,
if it is deleted, and otherwise what was there before, edited in turn.
-/

namespace LuaHost.Data

/-- A place in a document: the names of the fields that lead there. -/
abbrev Place := List String

/-- What a document at a place may become if the fields at some places are deleted and others, at
places that are not known, are added. -/
inductive Edited (known deleted : Place → Bool) : Place → Data → Data → Prop where
  | leaf {place data} :
    (∀ fields, data ≠ .object fields) →
    Edited known deleted place data data
  | object {place fields edited} :
    ((edited.map Prod.fst).filter fun name => known (place ++ [name])).Perm
      ((fields.map Prod.fst).filter fun name => !deleted (place ++ [name])) →
    (∀ name data data', (name, data) ∈ fields → (name, data') ∈ edited →
      Edited known deleted (place ++ [name]) data data') →
    Edited known deleted place (.object fields) (.object edited)

variable {name : String} {data : Data} {fields : List (String × Data)}

/-- Nothing is found under a name if and only if no field has it. -/
lemma lookup?_eq_none_iff : lookup? name fields = none ↔ name ∉ fields.map Prod.fst := by
  induction fields with
  | nil => exact ⟨fun _ => List.not_mem_nil, fun _ => rfl⟩
  | cons field fields ih =>
    obtain ⟨key, value⟩ := field
    rw [lookup?, List.map_cons, List.mem_cons, not_or, ← ih]
    by_cases same : key = name
    · rw [if_pos (beq_iff_eq.mpr same)]
      exact ⟨nofun, fun other => absurd same.symm other.1⟩
    · rw [if_neg (fun e => same (beq_iff_eq.mp e))]
      exact (and_iff_right (Ne.symm same)).symm

/-- What is found under a name is a field. -/
lemma mem_of_lookup? (found : lookup? name fields = some data) : (name, data) ∈ fields := by
  induction fields with
  | nil => cases found
  | cons field fields ih =>
    obtain ⟨key, value⟩ := field
    rw [lookup?] at found
    split at found
    case isTrue same =>
      cases found
      rw [beq_iff_eq.mp same]
      exact List.mem_cons_self
    case isFalse => exact List.mem_cons_of_mem _ (ih found)

namespace Edited

variable {known deleted : Place → Bool} {place : Place} {data' : Data}
  {edited : List (String × Data)}

/-- What is no object stays what it is. -/
lemma eq_of_leaf (leaf : ∀ fields, data ≠ .object fields)
    (h : Edited known deleted place data data') : data' = data := by
  cases h with
  | leaf _ => rfl
  | object _ _ => exact absurd rfl (leaf _)

/-- An object stays an object. -/
lemma exists_object (h : Edited known deleted place (.object fields) data') :
    ∃ edited, data' = .object edited := by
  cases h with
  | leaf leaf => exact absurd rfl (leaf fields)
  | object _ _ => exact ⟨_, rfl⟩

/-- An object may stay as it is, if its fields are known by different names and hold no objects. -/
lemma of_leaves (names : List String) (named : fields.map Prod.fst = names)
    (distinct : names.Nodup) (all : ∀ name ∈ names, known (place ++ [name]) = true)
    (leaves : ∀ field ∈ fields, ∀ inner, field.2 ≠ .object inner) :
    Edited known (fun _ => false) place (.object fields) (.object fields) := by
  subst named
  refine .object ?_ ?_
  · rw [List.filter_eq_self.mpr all]
    exact .of_eq (List.filter_eq_self.mpr fun _ _ => rfl).symm
  · intro name data data' mem mem'
    cases List.inj_on_of_nodup_map distinct mem mem' rfl
    exact .leaf (leaves _ mem)

/-- A known field is there if and only if it was there before and is not deleted. -/
lemma mem_names_iff (h : Edited known deleted place (.object fields) (.object edited))
    (is_known : known (place ++ [name]) = true) :
    name ∈ edited.map Prod.fst ↔
      name ∈ fields.map Prod.fst ∧ deleted (place ++ [name]) = false := by
  cases h with
  | leaf leaf => exact absurd rfl (leaf fields)
  | object names _ =>
    have mem := names.mem_iff (a := name)
    rw [List.mem_filter, List.mem_filter, is_known, Bool.not_eq_true'] at mem
    rw [← mem]
    exact (and_iff_left rfl).symm

/-- What was in no field, or in a deleted one, is in none. -/
lemma lookup?_eq_none (h : Edited known deleted place (.object fields) (.object edited))
    (is_known : known (place ++ [name]) = true)
    (gone : deleted (place ++ [name]) = true ∨ lookup? name fields = none) :
    lookup? name edited = none := by
  rw [lookup?_eq_none_iff, h.mem_names_iff is_known]
  rintro ⟨mem, kept⟩
  obtain gone | none := gone
  · rw [gone] at kept
    cases kept
  · exact lookup?_eq_none_iff.mp none mem

/-- What is in a field is what was there, edited. -/
lemma value (h : Edited known deleted place (.object fields) (.object edited))
    (mem : (name, data) ∈ fields) (mem' : (name, data') ∈ edited) :
    Edited known deleted (place ++ [name]) data data' := by
  cases h with
  | leaf leaf => exact absurd rfl (leaf fields)
  | object _ values => exact values name data data' mem mem'

/-- Where every name is known, nothing but the fields that are not deleted is there, in some
order. -/
lemma names_perm (h : Edited known deleted place (.object fields) (.object edited))
    (all : ∀ name, known (place ++ [name]) = true) :
    (edited.map Prod.fst).Perm
      ((fields.map Prod.fst).filter fun name => !deleted (place ++ [name])) := by
  cases h with
  | leaf leaf => exact absurd rfl (leaf fields)
  | object names _ =>
    rw [List.filter_eq_self.mpr fun name _ => all name] at names
    exact names

/-- What was in a field that is not deleted is in it, edited. -/
lemma lookup?_eq_some (h : Edited known deleted place (.object fields) (.object edited))
    (is_known : known (place ++ [name]) = true) (kept : deleted (place ++ [name]) = false)
    (found : lookup? name fields = some data) :
    ∃ data', lookup? name edited = some data' ∧
      Edited known deleted (place ++ [name]) data data' := by
  have mem : name ∈ edited.map Prod.fst := by
    rw [h.mem_names_iff is_known]
    exact ⟨List.mem_map_of_mem (mem_of_lookup? found), kept⟩
  cases found' : lookup? name edited with
  | none => exact absurd mem (lookup?_eq_none_iff.mp found')
  | some data' => exact ⟨data', rfl, h.value (mem_of_lookup? found) (mem_of_lookup? found')⟩

end Edited

end LuaHost.Data
