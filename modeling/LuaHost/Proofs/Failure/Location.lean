import LuaHost.Failure.Location
import LuaHost.Proofs.Text.Numeral
import LuaHost.Proofs.Text.Search
import Mathlib.Tactic.Common

/-!
# Writing and reading locations

A location is written as its source, with its line behind a colon if it has one. What reading that
text gives is the location again if and only if the text does not say something else
(`Recoverable`): its source may have colons anywhere, but blanks around the text are dropped, and a
numeral behind the last colon is a line. Every location that is read from a text is recoverable, so
a location is read back after it was read once (`parse_text_iff`).
-/

namespace LuaHost

open LuaHost.Text

namespace Location

/-- A location is written as its source, or as its source, a colon and the digits of its line. -/
lemma text_cases (location : Location) :
    (location.line = none ∧ location.text = location.source) ∨
    ∃ n, location.line = some n ∧
      location.text.toList = location.source.toList ++ ':' :: digits n.toNat := by
  unfold text
  cases location.line with
  | none => exact .inl ⟨rfl, rfl⟩
  | some n => exact .inr ⟨n, rfl, by simp⟩

/-- A text that ends in digits does not end with a blank. -/
lemma solid_of_getLast?_digits {front : List Char} {n : Nat} {c}
    (last : c ∈ (front ++ ':' :: digits n).getLast?) : isBlank c = false := by
  have some_digit : digits n ≠ [] := Nat.toDigits_ne_nil
  rw [List.getLast?_append_of_ne_nil _ (List.cons_ne_nil _ _), List.getLast?_cons,
    List.getLast?_eq_some_getLast some_digit] at last
  cases last
  exact isBlank_of_isDigit (isDigit_of_mem_digits (List.getLast_mem some_digit))

/-- A location with a line is read back if its source does not begin with a blank. -/
lemma parse_text_of_some {source : String} (solid : ∀ c ∈ source.toList.head?, isBlank c = false)
    (n : UInt32) : parse (text ⟨source, some n⟩) = ⟨source, some n⟩ := by
  have chars : (text ⟨source, some n⟩).toList = source.toList ++ ':' :: digits n.toNat := by
    simp [text]
  have trimmed : Trimmed (source.toList ++ ':' :: digits n.toNat) := by
    refine ⟨?_, fun c => solid_of_getLast?_digits⟩
    intro c head
    cases e : source.toList with
    | nil =>
      rw [e] at head
      cases head
      rfl
    | cons d rest =>
      rw [e] at head solid
      exact solid c head
  rw [parse, chars, trimmed.trim_eq, splitAtLast?_append _ (not_mem_digits rfl _)]
  simp [wordValue?_digits]

/-- A location without a line is read back if its source has no blanks around it and does not end as
if it had a line. -/
lemma parse_text_of_none {source : String} (trimmed : Trimmed source.toList)
    (unlined : ∀ front numeral, source.toList = front ++ ':' :: numeral →
      wordValue? numeral = none) :
    parse (text ⟨source, none⟩) = ⟨source, none⟩ := by
  change parse source = ⟨source, none⟩
  rw [parse, trimmed.trim_eq]
  cases found : splitAtLast? ':' source.toList with
  | none => simp
  | some parts =>
    obtain ⟨front, numeral⟩ := parts
    simp [unlined front numeral (eq_of_splitAtLast? found)]

/-- A text ends with a colon and the number of a line. -/
def EndsInLine (cs : List Char) : Prop :=
  ∃ front numeral n, cs = front ++ ':' :: numeral ∧ Numeral numeral n ∧ n < UInt32.size

/-- A location whose text says no more and no less than the location does. -/
inductive Recoverable : Location → Prop where
  | lined {source n} :
    (∀ c ∈ source.toList.head?, isBlank c = false) →
    Recoverable ⟨source, some n⟩
  | unlined {source} :
    Trimmed source.toList →
    ¬ EndsInLine source.toList →
    Recoverable ⟨source, none⟩

/-- A recoverable location is read back. -/
lemma Recoverable.parse_text {location : Location} (recoverable : location.Recoverable) :
    parse location.text = location := by
  cases recoverable with
  | lined solid => exact parse_text_of_some solid _
  | unlined trimmed open_end =>
    apply parse_text_of_none trimmed
    intro front numeral e
    rw [wordValue?_eq_none_iff]
    rintro ⟨n, small, denotes⟩
    exact open_end ⟨front, numeral, n, e, denotes, small⟩

/-- A text that ends in a line is cut in front of it. -/
lemma EndsInLine.split {cs : List Char} (ends : EndsInLine cs) :
    ∃ front numeral line, splitAtLast? ':' cs = some (front, numeral) ∧
      wordValue? numeral = some line := by
  obtain ⟨front, numeral, n, rfl, denotes, small⟩ := ends
  obtain ⟨line, value, _⟩ :=
    Option.map_eq_some_iff.mp (map_wordValue?_eq_some_iff.mpr ⟨denotes, small⟩)
  exact ⟨front, numeral, line, splitAtLast?_append front denotes.colon_not_mem, value⟩

/-- What is read from a text is recoverable. -/
lemma recoverable_parse (text : String) : (parse text).Recoverable := by
  have trimmed : Trimmed (trim text.toList) := trimmed_trim text.toList
  rw [parse]
  dsimp only
  split
  case h_1 source line found =>
    obtain ⟨⟨front, numeral⟩, cut, value⟩ := Option.bind_eq_some_iff.mp found
    obtain ⟨_, _, e⟩ := Option.map_eq_some_iff.mp value
    cases e
    apply Recoverable.lined
    intro c head
    rw [String.toList_ofList] at head
    apply trimmed.1
    rw [eq_of_splitAtLast? cut]
    cases front with
    | nil => cases head
    | cons _ _ => exact head
  case h_2 found =>
    apply Recoverable.unlined
    · rw [String.toList_ofList]
      exact trimmed
    · rw [String.toList_ofList]
      intro ends
      obtain ⟨front, numeral, line, cut, value⟩ := ends.split
      rw [cut, Option.bind_some, value] at found
      cases found

/-- A location is read back from its text if and only if it is recoverable, and what is read from a
text always is. -/
theorem parse_text_iff :
    (∀ location : Location, parse location.text = location ↔ location.Recoverable) ∧
    ∀ text : String, parse (parse text).text = parse text := by
  constructor
  · intro location
    constructor
    · intro same
      rw [← same]
      exact recoverable_parse location.text
    · exact Recoverable.parse_text
  · intro text
    exact (recoverable_parse text).parse_text

end Location

end LuaHost
