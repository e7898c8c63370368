import LuaHost.Proofs.Lua.Quiet

/-!
# Native functions

Which native functions there are in a heap. They are never replaced (`Heap.Grows`), and a new
interpreter has none that logs (`start_silent`). A function is found in the field of a table where
it was put, until another value is put there (`Table.get_set`, `Heap.get_set_self`).
-/

namespace LuaHost.Lua

/-! ### Fields -/

namespace Table

/-- The first entry has the value of its key, and the others those of other keys. -/
lemma lookup_cons_eq (key known : Key) (old : Value) (entries : List (Key × Value)) :
    ((known, old) :: entries).lookup key =
      if key = known then some old else entries.lookup key := by
  rw [List.lookup_cons]
  by_cases same : key = known
  · rw [if_pos same, beq_iff_eq.mpr same]
  · rw [if_neg same, beq_eq_false_iff_ne.mpr same]

/-- Entries have a new value for a key after it was put there, and the old ones for the others. -/
lemma lookup_put (key other : Key) (value : Value) (entries : List (Key × Value)) :
    (put key value entries).lookup other =
      if other = key then some value else entries.lookup other := by
  induction entries with
  | nil => rw [put, lookup_cons_eq]
  | cons entry entries ih =>
    obtain ⟨known, old⟩ := entry
    rw [put]
    by_cases here : known = key
    · rw [if_pos here, lookup_cons_eq, lookup_cons_eq, here]
      grind
    · rw [if_neg here, lookup_cons_eq, lookup_cons_eq, ih]
      grind

/-- Entries without a key have no value for it, and the old ones for the others. -/
lemma lookup_filter_ne (key other : Key) (entries : List (Key × Value)) :
    (entries.filter fun entry => entry.1 ≠ key).lookup other =
      if other = key then none else entries.lookup other := by
  induction entries with
  | nil => exact (ite_self _).symm
  | cons entry entries ih =>
    obtain ⟨known, old⟩ := entry
    rw [List.filter_cons]
    by_cases here : known = key
    · rw [if_neg (by simpa using here), ih, lookup_cons_eq, here]
      grind
    · rw [if_pos (by simpa using here), lookup_cons_eq, lookup_cons_eq, ih]
      grind

/-- A key has the value that it was given, and the others keep theirs. -/
lemma get_set (table : Table) (key other : Key) (value : Value) :
    (table.set key value).get other = if other = key then value else table.get other := by
  have removed : (⟨table.entries.filter fun entry => entry.1 ≠ key⟩ : Table).get other =
      if other = key then .nil else table.get other := by
    rw [get, lookup_filter_ne]
    split <;> rfl
  have given : (⟨put key value table.entries⟩ : Table).get other =
      if other = key then value else table.get other := by
    rw [get, lookup_put]
    split <;> rfl
  cases value with
  | nil => exact removed
  | _ => exact given

end Table

namespace Heap

variable (heap : Heap) {address other : Nat} (key : Key) (value : Value)

/-- A key of a table that is there has the value that it was given. -/
lemma get_set_self (there : address < heap.tables.size) :
    (heap.set address key value).get address key = value := by
  rw [get, set, Array.getElem?_modify, if_pos rfl, Array.getElem?_eq_getElem there, Option.map_some]
  exact (Table.get_set _ _ _ _).trans (if_pos rfl)

/-- Another key keeps its value, in whatever table. -/
lemma get_set_ne {key key' : Key} (ne : key' ≠ key) :
    (heap.set address key value).get other key' = heap.get other key' := by
  rw [get, get, set, Array.getElem?_modify]
  by_cases same : address = other
  · rw [if_pos same]
    cases heap.tables[other]? with
    | none => rfl
    | some table => exact (table.get_set _ _ _).trans (if_neg ne)
  · rw [if_neg same]

end Heap

/-! ### Native functions -/

/-- A heap that comes after another one: native functions stay at their addresses, and the others
are some of those given. No table is lost. -/
structure Heap.Grows (natives : List Native) (before after : Heap) : Prop where
  kept : ∀ {address native}, before.callable? address = some (.native native) →
    after.callable? address = some (.native native)
  origin : ∀ {address native}, after.callable? address = some (.native native) →
    before.callable? address = some (.native native) ∨ native ∈ natives
  tables : before.tables.size ≤ after.tables.size

namespace Heap.Grows

variable {natives more : List Native} {heap before after last : Heap}

/-- The same functions are no new ones. -/
lemma of_functions (same : after.functions = before.functions)
    (tables : before.tables.size ≤ after.tables.size) : Grows [] before after where
  kept known := by rwa [callable?, same]
  origin known := .inl (by rwa [callable?, same] at known)
  tables := tables

/-- What keeps all functions makes none. -/
lemma of_keeps (keeps : before.Keeps after) : Grows [] before after :=
  .of_functions keeps.functions keeps.tables

/-- One heap comes after another one, and a third one after that. -/
lemma trans (first : Grows natives before after) (second : Grows more after last) :
    Grows (natives ++ more) before last where
  kept known := second.kept (first.kept known)
  origin known := by
    obtain old | new := second.origin known
    · exact (first.origin old).imp_right (List.mem_append_left _)
    · exact .inr (List.mem_append_right _ new)
  tables := Nat.le_trans first.tables second.tables

/-- What is made may be said to be among more. -/
lemma mono (grows : Grows natives before after) (sub : natives ⊆ more) :
    Grows more before after where
  kept := grows.kept
  origin known := (grows.origin known).imp_right fun mem => sub mem
  tables := grows.tables

/-- Making a function changes no other one. -/
lemma callable?_newFunction (heap : Heap) (callable : Callable) (address : Nat) :
    (heap.newFunction callable).2.callable? address =
      if address = heap.functions.size then some callable else heap.callable? address :=
  Array.getElem?_push

/-- A native function is still there after another function was made. -/
lemma kept_newFunction {callable : Callable} {address : Nat} {native : Native}
    (known : heap.callable? address = some (.native native)) :
    (heap.newFunction callable).2.callable? address = some (.native native) := by
  have inside : address < heap.functions.size := by
    by_contra outside
    rw [callable?, Array.getElem?_eq_none (Nat.le_of_not_lt outside)] at known
    cases known
  rw [callable?_newFunction, if_neg (Nat.ne_of_lt inside)]
  exact known

/-- Making a closure makes no native function. -/
lemma newClosure (heap : Heap) (code : Function) (source : String) (outer : List Nat) :
    Grows [] heap (heap.newFunction (.closure code source outer)).2 where
  kept := kept_newFunction
  origin known := by
    rw [callable?_newFunction] at known
    split at known
    case isTrue => cases known
    case isFalse => exact .inl known
  tables := Nat.le_refl _

/-- Making a native function makes this one. -/
lemma newNative (heap : Heap) (native : Native) :
    Grows [native] heap (heap.newFunction (.native native)).2 where
  kept := kept_newFunction
  origin known := by
    rw [callable?_newFunction] at known
    split at known
    case isTrue =>
      cases known
      exact .inr List.mem_cons_self
    case isFalse => exact .inl known
  tables := Nat.le_refl _

end Heap.Grows

/-! ### New interpreters -/

/-- Whether a function logs. -/
def Native.logs : Native → Bool
  | .log _ => true
  | _ => false

namespace Library

/-- Putting functions into a table makes them. -/
lemma install_grows (heap : Heap) (table : Nat) (natives : List (String × Native)) :
    heap.Grows (natives.map Prod.snd) (install heap table natives) := by
  induction natives generalizing heap with
  | nil => exact .of_keeps (.refl heap)
  | cons entry natives ih =>
    have made := Heap.Grows.newNative heap entry.2
    have named : heap.Grows [entry.2]
        ((heap.newFunction (.native entry.2)).2.set table (.string entry.1)
          (.function heap.functions.size)) :=
      made.trans (.of_keeps (Heap.set_keeps _ _ _ _))
    exact named.trans (ih _)

/-- A library is a new table with its functions, under its name. -/
def installLibrary (heap : Heap) (library : String × List (String × Native)) : Heap :=
  install ((heap.newTable {}).2.setGlobal library.1 (.table (heap.newTable {}).1))
    (heap.newTable {}).1 library.2

/-- Making a library makes its functions. -/
lemma installLibrary_grows (heap : Heap) (library : String × List (String × Native)) :
    heap.Grows (library.2.map Prod.snd) (installLibrary heap library) := by
  have named :
      heap.Keeps ((heap.newTable {}).2.setGlobal library.1 (.table (heap.newTable {}).1)) :=
    (heap.newTable_keeps {}).trans (Heap.setGlobal_keeps _ _ _)
  exact (Heap.Grows.of_keeps named).trans (install_grows _ _ library.2)

/-- Making several libraries makes all of their functions. -/
lemma installLibraries_grows (heap : Heap) (libraries : List (String × List (String × Native))) :
    heap.Grows (libraries.flatMap fun library => library.2.map Prod.snd)
      (libraries.foldl installLibrary heap) := by
  induction libraries generalizing heap with
  | nil => exact .of_keeps (.refl heap)
  | cons library libraries ih => exact (installLibrary_grows heap library).trans (ih _)

/-- An interpreter without any functions. -/
def blank (clock : Nat) : Heap :=
  { tables := #[{}], functions := #[], cells := #[], failures := #[], logged := 0, clock }

/-- The native functions of a new interpreter. -/
def natives : List Native :=
  functions.map Prod.snd ++ libraries.flatMap fun library => library.2.map Prod.snd

/-- A new interpreter is a blank one with the functions of the library. -/
lemma start_eq (clock : Nat) :
    start clock = ((libraries.foldl installLibrary
      (install (blank clock) Heap.globals functions)).setGlobal "_G"
      (.table Heap.globals)).setGlobal "_VERSION" (.string version) := rfl

/-- These functions are all that it has. -/
lemma start_grows (clock : Nat) : (blank clock).Grows (natives ++ []) (start clock) := by
  have filled : (blank clock).Grows natives
      (libraries.foldl installLibrary (install (blank clock) Heap.globals functions)) :=
    (install_grows (blank clock) Heap.globals functions).trans (installLibraries_grows _ libraries)
  rw [start_eq]
  generalize libraries.foldl installLibrary (install (blank clock) Heap.globals functions) =
    heap at filled
  exact filled.trans (.of_keeps ((heap.setGlobal_keeps _ _).trans (Heap.setGlobal_keeps _ _ _)))

/-- There is a table of global variables. -/
lemma globals_lt_start (clock : Nat) : Heap.globals < (start clock).tables.size :=
  (start_grows clock).tables

/-- No function of the library logs. -/
lemma logs_of_mem_natives : ∀ native ∈ natives, native.logs = false := by
  decide +kernel

/-- No function of a new interpreter logs. -/
lemma start_silent (clock : Nat) (address : Nat) (target : String) :
    (start clock).callable? address ≠ some (.native (.log target)) := by
  intro bound
  obtain old | new := (start_grows clock).origin bound
  · cases old
  · rw [List.append_nil] at new
    cases logs_of_mem_natives _ new

end Library

end LuaHost.Lua
