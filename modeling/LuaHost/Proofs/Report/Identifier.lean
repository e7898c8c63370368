import LuaHost.Proofs.Text.Search
import LuaHost.Report.Hint

/-!
# Names in messages

A message qualifies a name by its kind, as in `(global 'x')`. Kinds are tried in a fixed order, and
of each kind only the first mark is looked at (`quotedAfter?_eq_some_iff`,
`qualified?_eq_some_iff`). So the name that is found always stands in the message, but it is the
first one there only under a condition, which is told exactly (`qualified?_first_iff`): in front of
it no mark of its own kind lacks a name, and no kind that is tried earlier finds one. A message that
was passed on inside another one need not meet it (`qualified?_rethrown`).
-/

namespace LuaHost.Identifier

open LuaHost.Text

/-- At a position of a text stand a mark, a name and the quote that ends it. -/
structure NamedAt (mark cs : List Char) (position : Nat) (name : String) : Prop where
  stands : mark ++ (name.toList ++ ['\'']) <+: cs.drop position
  some_name : name ≠ ""
  quoteless : '\'' ∉ name.toList

/-- The first mark in a text stands in front of a name. -/
def FirstNames (mark cs : List Char) (name : String) : Prop :=
  ∃ position, NamedAt mark cs position name ∧ ∀ earlier < position, ¬ mark <+: cs.drop earlier

/-- A name that is found is the one behind the first mark. -/
lemma quotedAfter?_eq_some_iff {mark cs : List Char} {name : String} :
    quotedAfter? mark cs = some name ↔ FirstNames mark cs name := by
  simp only [quotedAfter?, Option.bind_eq_some_iff, Prod.exists, splitFirst?_eq_some_iff,
    splitAtFirst?_eq_some_iff]
  constructor
  · rintro ⟨before, _, ⟨rfl, first⟩, letters, after, ⟨rfl, quoteless⟩, named⟩
    split at named
    case isTrue => cases named
    case isFalse some_letter =>
      cases named
      rw [List.isEmpty_iff] at some_letter
      refine ⟨before.length, ⟨⟨after, ?_⟩, ?_, ?_⟩, first⟩
      · rw [List.drop_left, String.toList_ofList, List.append_assoc, List.append_assoc,
          List.singleton_append]
      · rwa [Ne, ← String.toList_eq_nil_iff, String.toList_ofList]
      · rwa [String.toList_ofList]
  · rintro ⟨position, ⟨⟨after, stands⟩, some_name, quoteless⟩, first⟩
    have inside : position ≤ cs.length := by
      refine Nat.le_of_not_lt fun beyond => ?_
      rw [List.drop_of_length_le (Nat.le_of_lt beyond)] at stands
      simp at stands
    have e : cs = cs.take position ++ (mark ++ (name.toList ++ '\'' :: after)) := by
      rw [List.append_assoc, List.append_assoc, List.singleton_append] at stands
      rw [stands, List.take_append_drop]
    refine ⟨cs.take position, _, ⟨e, ?_⟩, name.toList, after, ⟨rfl, quoteless⟩, ?_⟩
    · rwa [List.length_take, Nat.min_eq_left inside]
    · rw [if_neg, String.ofList_toList]
      rwa [List.isEmpty_iff, String.toList_eq_nil_iff]

/-- No name is found if and only if none stands behind the first mark. -/
lemma quotedAfter?_eq_none_iff {mark cs : List Char} :
    quotedAfter? mark cs = none ↔ ∀ name, ¬ FirstNames mark cs name := by
  simp only [Option.eq_none_iff_forall_ne_some, Ne, quotedAfter?_eq_some_iff]

/-! ### Kinds -/

/-- The kinds that are tried before another one. -/
def kindsBefore (kind : String) : List String :=
  kinds.takeWhile (· != kind)

/-- The kinds before another one are those in front of it, for each kind is tried once. -/
lemma kindsBefore_of_split {kind : String} {before after : List String}
    (e : kinds = before ++ kind :: after) : kindsBefore kind = before := by
  have other : kind ∉ before := by
    have distinct : kinds.Nodup := by decide
    rw [e, List.nodup_append] at distinct
    exact fun mem => distinct.2.2 kind mem kind List.mem_cons_self rfl
  have all : ∀ earlier ∈ before, (earlier != kind) = true := by
    intro earlier mem
    rw [bne_iff_ne]
    rintro rfl
    exact other mem
  rw [kindsBefore, e, List.takeWhile_append_of_pos all, List.takeWhile_cons_of_neg (by simp),
    List.append_nil]

/-- The variable that is found has a name behind the first mark of its kind, and no kind that is
tried earlier does. -/
lemma qualified?_eq_some_iff {message : String} {found : Identifier} :
    qualified? message = some found ↔
      found.kind ∈ kinds ∧ FirstNames (marker found.kind) message.toList found.name ∧
        ∀ kind ∈ kindsBefore found.kind, ∀ name,
          ¬ FirstNames (marker kind) message.toList name := by
  simp only [qualified?, List.findSome?_eq_some_iff, Option.map_eq_some_iff, Option.map_eq_none_iff,
    quotedAfter?_eq_some_iff, quotedAfter?_eq_none_iff]
  constructor
  · rintro ⟨before, kind, after, e, ⟨name, names, rfl⟩, unnamed⟩
    refine ⟨?_, names, ?_⟩
    · rw [e]
      exact List.mem_append_right before List.mem_cons_self
    · rw [kindsBefore_of_split e]
      exact unnamed
  · rintro ⟨mem, names, unnamed⟩
    obtain ⟨before, after, e⟩ := List.append_of_mem mem
    rw [kindsBefore_of_split e] at unnamed
    exact ⟨before, found.kind, after, e, ⟨found.name, names, rfl⟩, unnamed⟩

/-! ### The first name of a message -/

/-- At a position of a message a name is qualified, as in `(global 'x'`. -/
def QualifiedAt (message : String) (position : Nat) (found : Identifier) : Prop :=
  found.kind ∈ kinds ∧ NamedAt (marker found.kind) message.toList position found.name

/-- A qualified name is the first one of a message. -/
def FirstAt (message : String) (position : Nat) (found : Identifier) : Prop :=
  QualifiedAt message position found ∧
    ∀ earlier < position, ∀ other, ¬ QualifiedAt message earlier other

variable {message : String} {position : Nat} {found : Identifier}

/-- A qualifier begins with a bracket. -/
lemma QualifiedAt.opens (qualified : QualifiedAt message position found) :
    (message.toList.drop position).head? = some '(' := by
  obtain ⟨_, stands⟩ := qualified.2.stands
  rw [← stands]
  rfl

/-- Where a name is qualified, there is a first one. -/
lemma exists_firstAt (qualified : QualifiedAt message position found) :
    ∃ first position, FirstAt message position first := by
  induction position using Nat.strongRecOn generalizing found with
  | ind position ih =>
    by_cases before : ∃ earlier < position, ∃ other, QualifiedAt message earlier other
    · obtain ⟨earlier, lt, other, qualified⟩ := before
      exact ih earlier lt qualified
    · push Not at before
      exact ⟨found, position, qualified, before⟩

/-- What is found stands in the message. -/
lemma qualifiedAt_of_qualified? (e : qualified? message = some found) :
    ∃ position, QualifiedAt message position found := by
  obtain ⟨mem, ⟨position, named, _⟩, _⟩ := qualified?_eq_some_iff.mp e
  exact ⟨position, mem, named⟩

/-- The first name of a message is behind the first mark of its kind if and only if there is no such
mark before. -/
lemma FirstAt.firstNames_iff (first : FirstAt message position found) :
    FirstNames (marker found.kind) message.toList found.name ↔
      ∀ earlier < position, ¬ marker found.kind <+: message.toList.drop earlier := by
  constructor
  · rintro ⟨marked, named, none⟩ earlier lt
    have le : position ≤ marked := by
      refine Nat.le_of_not_lt fun lt => ?_
      exact first.2 marked lt found ⟨first.1.1, named⟩
    exact none earlier (Nat.lt_of_lt_of_le lt le)
  · intro none
    exact ⟨position, first.1.2, none⟩

/-- The first name of a message is found if and only if neither a mark of its kind is in front of it
nor a kind that is tried earlier finds a name. -/
lemma FirstAt.qualified?_iff (first : FirstAt message position found) :
    qualified? message = some found ↔
      (∀ earlier < position, ¬ marker found.kind <+: message.toList.drop earlier) ∧
        ∀ kind ∈ kindsBefore found.kind, ∀ name,
          ¬ FirstNames (marker kind) message.toList name := by
  rw [qualified?_eq_some_iff, first.firstNames_iff]
  exact and_iff_right first.1.1

/-- If the first name is found, nothing else is. -/
lemma qualified?_of_finds
    (finds : ∀ first position, FirstAt message position first → qualified? message = some first) :
    (∀ found, qualified? message = some found ↔ ∃ position, FirstAt message position found) ∧
      (qualified? message = none ↔ ∀ position found, ¬ QualifiedAt message position found) := by
  constructor
  · intro found
    constructor
    · intro e
      obtain ⟨_, qualified⟩ := qualifiedAt_of_qualified? e
      obtain ⟨first, position, firstAt⟩ := exists_firstAt qualified
      obtain rfl := Option.some.inj (e.symm.trans (finds first position firstAt))
      exact ⟨position, firstAt⟩
    · rintro ⟨position, firstAt⟩
      exact finds found position firstAt
  · constructor
    · intro none position found qualified
      obtain ⟨first, position, firstAt⟩ := exists_firstAt qualified
      rw [finds first position firstAt] at none
      cases none
    · intro unqualified
      rw [Option.eq_none_iff_forall_ne_some]
      intro found e
      obtain ⟨position, qualified⟩ := qualifiedAt_of_qualified? e
      exact unqualified position found qualified

/-- What is found stands behind the first mark of its kind, and no kind that is tried earlier finds
a name; so it is a name that the message qualifies. It is the first one there, and nothing is found
only if there is none, exactly for the messages with no mark of the same kind in front of their
first name, and with no name behind the first mark of a kind that is tried earlier. -/
theorem qualified?_first_iff (message : String) :
    (∀ found, qualified? message = some found ↔
      found.kind ∈ kinds ∧ FirstNames (marker found.kind) message.toList found.name ∧
        ∀ kind ∈ kindsBefore found.kind, ∀ name, ¬ FirstNames (marker kind) message.toList name) ∧
    (∀ found, qualified? message = some found → ∃ position, QualifiedAt message position found) ∧
    ((∀ found, qualified? message = some found ↔ ∃ position, FirstAt message position found) ∧
        (qualified? message = none ↔ ∀ position found, ¬ QualifiedAt message position found) ↔
      ∀ first position, FirstAt message position first →
        (∀ earlier < position, ¬ marker first.kind <+: message.toList.drop earlier) ∧
        ∀ kind ∈ kindsBefore first.kind, ∀ name,
          ¬ FirstNames (marker kind) message.toList name) := by
  refine ⟨fun _ => qualified?_eq_some_iff, fun _ => qualifiedAt_of_qualified?, ?_, ?_⟩
  · rintro ⟨documented, _⟩ first position firstAt
    exact firstAt.qualified?_iff.mp ((documented first).mpr ⟨position, firstAt⟩)
  · intro unmasked
    apply qualified?_of_finds
    intro first position firstAt
    exact firstAt.qualified?_iff.mpr (unmasked first position firstAt)

/-- A message that holds another one, with a local variable in front of a global one. -/
def rethrown : String :=
  "a.lua:4: no value (local 'x'): b.lua:1: attempt to call a nil value (global 'f')"

/-- The global variable is found, though the message names the local one first. -/
theorem qualified?_rethrown :
    (∃ position, FirstAt rethrown position ⟨"local", "x"⟩) ∧
      qualified? rethrown = some ⟨"global", "f"⟩ := by
  have unopened : ∀ earlier < 18, (rethrown.toList.drop earlier).head? ≠ some '(' := by
    decide +kernel
  have named : NamedAt (marker "local") rethrown.toList 18 "x" :=
    ⟨by decide +kernel, by decide, by decide⟩
  refine ⟨⟨18, ⟨by decide, named⟩, ?_⟩, by decide +kernel⟩
  intro earlier lt other qualified
  exact unopened earlier lt qualified.opens

end LuaHost.Identifier
