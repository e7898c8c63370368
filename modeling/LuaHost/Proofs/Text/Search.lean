import LuaHost.Text.Search
import Mathlib.Data.List.Infix

/-!
# Laws of searching

Where a text is cut by a search: at the first or the last separator, or at the first occurrence of a
needle. A needle is found in front of which no other begins; one that cannot overlap with itself
(`Unbordered`) is found behind every text that does not hold it.
-/

namespace LuaHost.Text

/-! ### One character -/

section

variable {sep : Char} {cs before after : List Char}

/-- Without a separator there is no cut. -/
lemma splitAtFirst?_of_not_mem (free : sep ∉ cs) : splitAtFirst? sep cs = none := by
  induction cs with
  | nil => rfl
  | cons c cs ih =>
    rw [List.mem_cons, not_or] at free
    rw [splitAtFirst?, if_neg (Ne.symm free.1), ih free.2, Option.map_none]

/-- A text is cut at a separator that has none before it. -/
lemma splitAtFirst?_append (free : sep ∉ before) (after : List Char) :
    splitAtFirst? sep (before ++ sep :: after) = some (before, after) := by
  induction before with
  | nil => rw [List.nil_append, splitAtFirst?, if_pos rfl]
  | cons c before ih =>
    rw [List.mem_cons, not_or] at free
    rw [List.cons_append, splitAtFirst?, if_neg (Ne.symm free.1), ih free.2, Option.map_some]

/-- A text is cut at its first separator, and nowhere else. -/
lemma splitAtFirst?_eq_some_iff :
    splitAtFirst? sep cs = some (before, after) ↔ cs = before ++ sep :: after ∧ sep ∉ before := by
  constructor
  · intro found
    by_cases mem : sep ∈ cs
    · obtain ⟨front, back, rfl, free⟩ := List.eq_append_cons_of_mem mem
      rw [splitAtFirst?_append free, Option.some.injEq, Prod.mk.injEq] at found
      obtain ⟨rfl, rfl⟩ := found
      exact ⟨rfl, free⟩
    · rw [splitAtFirst?_of_not_mem mem] at found
      cases found
  · rintro ⟨rfl, free⟩
    exact splitAtFirst?_append free after

/-- Without a separator there is no cut. -/
lemma splitAtLast?_of_not_mem (free : sep ∉ cs) : splitAtLast? sep cs = none := by
  induction cs with
  | nil => rfl
  | cons c cs ih =>
    rw [List.mem_cons, not_or] at free
    rw [splitAtLast?, ih free.2]
    exact if_neg (Ne.symm free.1)

/-- A text is cut at a separator that has none after it. -/
lemma splitAtLast?_append (before : List Char) (free : sep ∉ after) :
    splitAtLast? sep (before ++ sep :: after) = some (before, after) := by
  induction before with
  | nil =>
    rw [List.nil_append, splitAtLast?, splitAtLast?_of_not_mem free]
    exact if_pos rfl
  | cons c before ih => rw [List.cons_append, splitAtLast?, ih]

/-- A text is cut at a separator, whichever it is. -/
lemma eq_of_splitAtLast? (found : splitAtLast? sep cs = some (before, after)) :
    cs = before ++ sep :: after := by
  induction cs generalizing before with
  | nil => cases found
  | cons c cs ih =>
    rw [splitAtLast?] at found
    split at found
    case h_1 e =>
      cases found
      rw [ih e, List.cons_append]
    case h_2 =>
      split at found
      case isTrue same =>
        cases found
        rw [same, List.nil_append]
      case isFalse => cases found

end

/-! ### A needle -/

/-- A text of which no proper end is a beginning, so that two occurrences of it do not overlap. -/
def Unbordered (needle : List Char) : Prop :=
  ∀ n < needle.length, 0 < n → ¬ needle.drop n <+: needle

instance (needle : List Char) : Decidable (Unbordered needle) :=
  inferInstanceAs (Decidable (∀ n < needle.length, 0 < n → ¬ needle.drop n <+: needle))

variable {needle cs before : List Char}

/-- What begins one text after another ends in the first or reaches into the second. -/
lemma prefix_append_cases {front back : List Char} (h : needle <+: front ++ back) :
    needle <+: front ∨ ∃ beyond, beyond ≠ [] ∧ beyond <+: back ∧ needle = front ++ beyond := by
  obtain inside | ⟨beyond, rfl⟩ := List.prefix_or_prefix_of_prefix h (List.prefix_append front back)
  · exact .inl inside
  · cases beyond with
    | nil => exact .inl (by rw [List.append_nil])
    | cons c beyond =>
      exact .inr ⟨c :: beyond, nofun, (List.prefix_append_right_inj front).mp h, rfl⟩

/-- What occurs in one text after another occurs in the first if its last character is not in the
second. -/
lemma infix_of_append {front back : List Char} {c : Char} (last : needle.getLast? = some c)
    (free : c ∉ back) (h : needle <:+: front ++ back) : needle <:+: front := by
  obtain ⟨before, after, e⟩ := h
  obtain ⟨rest, e', _⟩ | ⟨beyond, e', rfl⟩ := List.append_eq_append_iff.mp e
  · exact ⟨before, rest, e'.symm⟩
  · cases beyond using List.reverseRecOn with
    | nil => exact ⟨before, [], by rw [e', List.append_nil, List.append_nil]⟩
    | append_singleton beyond d =>
      have ends : (before ++ needle).getLast? = some c := by
        rw [List.getLast?_append, last]
        rfl
      rw [e', ← List.append_assoc, List.getLast?_concat, Option.some.injEq] at ends
      exact absurd (by simp [ends]) free

/-- A needle at the beginning is found there. -/
lemma splitFirst?_self (needle after : List Char) :
    splitFirst? needle (needle ++ after) = some ([], after) := by
  have found : needle.isPrefixOf? (needle ++ after) = some after :=
    List.isPrefixOf?_eq_some_iff_append_eq.mpr rfl
  cases e : needle ++ after with
  | nil =>
    obtain ⟨rfl, rfl⟩ := List.append_eq_nil_iff.mp e
    rfl
  | cons c cs =>
    rw [e] at found
    rw [splitFirst?, found]

/-- A needle that is not at the beginning is looked for behind the first character. -/
lemma splitFirst?_cons {c : Char} (other : ¬ needle <+: c :: cs) :
    splitFirst? needle (c :: cs) =
      (splitFirst? needle cs).map fun (before, after) => (c :: before, after) := by
  have none : needle.isPrefixOf? (c :: cs) = none := by
    rw [Option.eq_none_iff_forall_ne_some]
    intro rest found
    exact other ⟨rest, List.isPrefixOf?_eq_some_iff_append_eq.mp found⟩
  rw [splitFirst?, none]

/-- A needle is not found in a text that does not hold it, and only there. -/
lemma splitFirst?_eq_none_iff : splitFirst? needle cs = none ↔ ¬ needle <:+: cs := by
  induction cs with
  | nil =>
    rw [List.infix_nil]
    cases needle <;> simp [splitFirst?]
  | cons c cs ih =>
    rw [List.infix_cons_iff, not_or]
    by_cases here : needle <+: c :: cs
    · obtain ⟨after, e⟩ := here
      rw [← e, splitFirst?_self]
      simp
    · rw [splitFirst?_cons here, Option.map_eq_none_iff, ih]
      exact (and_iff_right here).symm

/-- A text is cut at a needle in front of which no other begins. -/
lemma splitFirst?_eq_some_iff {after : List Char} :
    splitFirst? needle cs = some (before, after) ↔
      cs = before ++ (needle ++ after) ∧ ∀ n < before.length, ¬ needle <+: cs.drop n := by
  constructor
  · intro found
    induction cs generalizing before with
    | nil =>
      cases needle with
      | nil =>
        cases found
        exact ⟨rfl, nofun⟩
      | cons _ _ => cases found
    | cons c cs ih =>
      by_cases here : needle <+: c :: cs
      · obtain ⟨rest, e⟩ := here
        rw [← e, splitFirst?_self] at found
        cases found
        exact ⟨e.symm, nofun⟩
      · rw [splitFirst?_cons here, Option.map_eq_some_iff] at found
        obtain ⟨⟨front, back⟩, found, same⟩ := found
        cases same
        obtain ⟨rfl, first⟩ := ih found
        refine ⟨rfl, fun n lt => ?_⟩
        cases n with
        | zero => exact here
        | succ n => exact first n (Nat.lt_of_succ_lt_succ lt)
  · rintro ⟨rfl, first⟩
    induction before with
    | nil => exact splitFirst?_self needle after
    | cons c before ih =>
      have other : ¬ needle <+: c :: (before ++ (needle ++ after)) := first 0 (Nat.succ_pos _)
      have later := ih fun n lt => first (n + 1) (Nat.succ_lt_succ lt)
      rw [List.cons_append, splitFirst?_cons other, later, Option.map_some]

/-- A needle that cannot overlap with itself is found behind a text that does not hold it. -/
lemma splitFirst?_append (unbordered : Unbordered needle) (free : ¬ needle <:+: before)
    (after : List Char) :
    splitFirst? needle (before ++ (needle ++ after)) = some (before, after) := by
  rw [splitFirst?_eq_some_iff]
  refine ⟨rfl, fun n lt here => ?_⟩
  rw [List.drop_append_of_le_length (Nat.le_of_lt lt)] at here
  -- It would end in the text, or in the needle behind it.
  obtain inside | ⟨beyond, some_beyond, beyond_begins, e⟩ := prefix_append_cases here
  · exact free (inside.isInfix.trans (List.drop_suffix n before).isInfix)
  · have some_front : 0 < (before.drop n).length := by
      rw [List.length_drop]
      exact Nat.sub_pos_of_lt lt
    have longer : beyond.length ≤ needle.length := by
      rw [e, List.length_append]
      exact Nat.le_add_left _ _
    have border : beyond <+: needle :=
      List.prefix_of_prefix_length_le beyond_begins (List.prefix_append _ _) longer
    refine unbordered (before.drop n).length ?_ some_front ?_
    · rw [e, List.length_append]
      exact Nat.lt_add_of_pos_right (List.length_pos_of_ne_nil some_beyond)
    · rw [e, List.drop_left, ← e]
      exact border

end LuaHost.Text
