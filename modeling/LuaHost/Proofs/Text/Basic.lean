import LuaHost.Text.Basic
import LuaHost.Text.Search
import Mathlib.Data.List.Basic

/-!
# Laws of text

How text is cut into pieces and into lines, which texts trimming leaves alone, and that the digits
of a number denote it.
-/

namespace LuaHost.Text

/-! ### Pieces -/

/-- There is a first piece. -/
lemma splitAll_ne_nil (sep : Char) (cs : List Char) : splitAll sep cs ≠ [] := by
  cases cs with
  | nil => exact nofun
  | cons c cs =>
    unfold splitAll
    split
    · exact nofun
    · split <;> exact nofun

/-- A character that is not the separator begins the first piece. -/
lemma splitAll_cons_of_ne {sep c : Char} {cs piece : List Char} {pieces} (ne : c ≠ sep)
    (e : splitAll sep cs = piece :: pieces) : splitAll sep (c :: cs) = (c :: piece) :: pieces := by
  rw [splitAll, if_neg ne, e]

/-- A separator comes between the pieces of what is before it and of what is after it. -/
lemma splitAll_append (sep : Char) (cs rest : List Char) :
    splitAll sep (cs ++ sep :: rest) = splitAll sep cs ++ splitAll sep rest := by
  induction cs with
  | nil => simp [splitAll]
  | cons c cs ih =>
    by_cases e : c = sep
    · rw [List.cons_append, splitAll, splitAll, if_pos e, if_pos e, ih, List.cons_append]
    · obtain ⟨piece, pieces, found⟩ := List.exists_cons_of_ne_nil (splitAll_ne_nil sep cs)
      rw [found, List.cons_append] at ih
      rw [List.cons_append, splitAll_cons_of_ne e ih, splitAll_cons_of_ne e found, List.cons_append]

/-- Without a separator there is one piece. -/
lemma splitAll_of_not_mem {sep : Char} {cs : List Char} (free : sep ∉ cs) :
    splitAll sep cs = [cs] := by
  induction cs with
  | nil => rfl
  | cons c cs ih =>
    have ne : c ≠ sep := fun e => free (e ▸ List.mem_cons_self)
    exact splitAll_cons_of_ne ne (ih fun mem => free (List.mem_cons_of_mem c mem))

/-! ### Lines -/

/-- A piece of a text without the carriage return at its end. -/
def chomp (piece : List Char) : List Char :=
  if piece.getLast? = some '\r' then piece.dropLast else piece

/-- A character that is not in front of the end of its line begins the line. -/
lemma lines_cons {c : Char} {cs : List Char} (ne : c ≠ '\n')
    (inner : c = '\r' → cs.head? ≠ some '\n') :
    lines (c :: cs) =
      match lines cs with
      | [] => [[c]]
      | line :: rest => (c :: line) :: rest := by
  rw [lines.eq_def]
  split
  case h_1 e => cases e
  case h_2 e =>
    obtain ⟨rfl, _⟩ := List.cons.inj e
    exact absurd rfl ne
  case h_3 e =>
    obtain ⟨rfl, rfl⟩ := List.cons.inj e
    exact absurd rfl (inner rfl)
  case h_4 e =>
    obtain ⟨rfl, rfl⟩ := List.cons.inj e
    rfl

/-- A text with one piece is a line, unless it is empty. -/
lemma lines_of_not_mem {piece : List Char} (free : '\n' ∉ piece) :
    lines piece = if piece = [] then [] else [piece] := by
  induction piece with
  | nil => rfl
  | cons c piece ih =>
    rw [List.mem_cons, not_or] at free
    have inner : c = '\r' → piece.head? ≠ some '\n' := fun _ head =>
      free.2 (List.mem_of_mem_head? head)
    rw [lines_cons (Ne.symm free.1) inner, ih free.2]
    cases piece with
    | nil => rfl
    | cons d piece => rfl

/-- The first line ends at the first newline, less a carriage return before it. -/
lemma lines_append {piece : List Char} (free : '\n' ∉ piece) (rest : List Char) :
    lines (piece ++ '\n' :: rest) = chomp piece :: lines rest := by
  induction piece with
  | nil => rw [List.nil_append, lines, chomp, if_neg (by simp)]
  | cons c piece ih =>
    rw [List.mem_cons, not_or] at free
    have next := ih free.2
    by_cases last : c = '\r' ∧ piece = []
    · obtain ⟨rfl, rfl⟩ := last
      rfl
    · have inner : c = '\r' → (piece ++ '\n' :: rest).head? ≠ some '\n' := by
        rintro rfl
        cases piece with
        | nil => exact absurd ⟨rfl, rfl⟩ last
        | cons d piece => exact fun head => free.2 (by rw [← Option.some.inj head]; simp)
      rw [List.cons_append, lines_cons (Ne.symm free.1) inner, next]
      cases piece with
      | nil =>
        have other : some c ≠ some '\r' := fun e => last ⟨Option.some.inj e, rfl⟩
        simp [chomp, other]
      | cons d piece =>
        simp only [chomp, List.getLast?_cons_cons, List.dropLast_cons_cons]
        split <;> rfl

/-- A text that neither begins nor ends with a blank. -/
def Trimmed (cs : List Char) : Prop :=
  (∀ c ∈ cs.head?, isBlank c = false) ∧ ∀ c ∈ cs.getLast?, isBlank c = false

instance (cs : List Char) : Decidable (Trimmed cs) :=
  decidable_of_iff
    (cs.head?.all (fun c => !isBlank c) = true ∧ cs.getLast?.all (fun c => !isBlank c) = true) (by
      simp only [Option.all_eq_true, Bool.not_eq_true', Trimmed, Option.mem_def])

/-- A text that begins with a solid character is not trimmed at its start. -/
lemma trimStart_of_head {cs : List Char} (solid : ∀ c ∈ cs.head?, isBlank c = false) :
    trimStart cs = cs := by
  cases cs with
  | nil => rfl
  | cons c cs => exact List.dropWhile_cons_of_neg (by simp [solid c rfl])

/-- A text that ends with a solid character is not trimmed at its end. -/
lemma trimEnd_of_getLast {cs : List Char} (solid : ∀ c ∈ cs.getLast?, isBlank c = false) :
    trimEnd cs = cs := by
  rw [← List.head?_reverse] at solid
  have same := trimStart_of_head solid
  rw [trimStart] at same
  rw [trimEnd, same, List.reverse_reverse]

/-- Trimming leaves a trimmed text alone. -/
lemma Trimmed.trim_eq {cs : List Char} (trimmed : Trimmed cs) : trim cs = cs := by
  rw [trim, trimStart_of_head trimmed.1, trimEnd_of_getLast trimmed.2]

/-- What is trimmed at its end begins as before. -/
lemma prefix_trimEnd (cs : List Char) : trimEnd cs <+: cs := by
  rw [trimEnd, ← List.reverse_suffix, List.reverse_reverse]
  exact List.dropWhile_suffix isBlank

/-- Trimming leaves a part of a text. -/
lemma infix_trim (cs : List Char) : trim cs <:+: cs :=
  (prefix_trimEnd (trimStart cs)).isInfix.trans (List.dropWhile_suffix isBlank).isInfix

/-- What is trimmed at its start does not begin with a blank. -/
lemma solid_of_trimStart (cs : List Char) : ∀ c ∈ (trimStart cs).head?, isBlank c = false := by
  intro c head
  have first := List.head?_dropWhile_not isBlank cs
  rw [trimStart] at head
  rw [Option.mem_def.mp head] at first
  exact first

/-- What trimming leaves is trimmed. -/
lemma trimmed_trim (cs : List Char) : Trimmed (trim cs) := by
  constructor
  · intro c head
    obtain ⟨behind, e⟩ : trim cs <+: trimStart cs := prefix_trimEnd _
    apply solid_of_trimStart cs
    rw [← e, List.head?_append, Option.mem_def.mp head]
    rfl
  · intro c last
    rw [trim, trimEnd, List.getLast?_reverse] at last
    exact solid_of_trimStart _ c last

/-- A blank at the start is trimmed. -/
lemma trim_cons {c : Char} (blank : isBlank c = true) (cs : List Char) :
    trim (c :: cs) = trim cs := by
  rw [trim, trimStart, List.dropWhile_cons_of_pos blank]
  rfl

/-- A blank at the end is trimmed. -/
lemma trimEnd_concat {c : Char} (blank : isBlank c = true) (cs : List Char) :
    trimEnd (cs ++ [c]) = trimEnd cs := by
  rw [trimEnd, List.reverse_append, List.reverse_singleton, List.singleton_append,
    List.dropWhile_cons_of_pos blank]
  rfl

/-- A blank at the end is trimmed, whatever is before it. -/
lemma trim_concat {c : Char} (blank : isBlank c = true) (cs : List Char) :
    trim (cs ++ [c]) = trim cs := by
  rw [trim, trimStart, List.dropWhile_append]
  split
  case isTrue empty =>
    -- Only blanks are before it, so nothing is left in either case.
    rw [List.isEmpty_iff] at empty
    rw [List.dropWhile_cons_of_pos blank, trim, trimStart, empty]
    rfl
  case isFalse => rw [trimEnd_concat blank, trim, trimStart]

/-- Trimming makes up for a carriage return. -/
lemma trim_chomp (piece : List Char) : trim (chomp piece) = trim piece := by
  unfold chomp
  split
  case isTrue last =>
    obtain ⟨front, rfl⟩ := List.getLast?_eq_some_iff.mp last
    rw [List.dropLast_concat, trim_concat rfl]
  case isFalse => rfl

/-- Trimming leaves a text alone that has no blanks. -/
lemma trim_of_not_blank {cs : List Char} (solid : ∀ c ∈ cs, isBlank c = false) : trim cs = cs :=
  Trimmed.trim_eq ⟨fun c head => solid c (List.mem_of_mem_head? head),
    fun c last => solid c (List.mem_of_mem_getLast? last)⟩

/-! ### Digits -/

/-- Digits are characters that are digits. -/
lemma isDigit_of_mem_digits {n : Nat} {c} (mem : c ∈ digits n) : c.isDigit = true :=
  Nat.isDigit_of_mem_toDigits (by decide) (by decide) mem

/-- The codes of digits. -/
lemma isDigit_iff {c : Char} : c.isDigit = true ↔ 48 ≤ c.toNat ∧ c.toNat ≤ 57 := by
  simp only [Char.isDigit, ge_iff_le, Bool.and_eq_true, decide_eq_true_eq, UInt32.le_iff_toNat_le]
  rfl

/-- A digit is not blank. -/
lemma isBlank_of_isDigit {c : Char} (digit : c.isDigit = true) : isBlank c = false := by
  have code := isDigit_iff.mp digit
  simp only [isBlank, Bool.or_eq_false_iff, Bool.and_eq_false_iff, decide_eq_false_iff_not,
    beq_eq_false_iff_ne]
  omega

/-- Trimming leaves digits alone. -/
lemma trim_digits (n : Nat) : trim (digits n) = digits n :=
  trim_of_not_blank fun _ mem => isBlank_of_isDigit (isDigit_of_mem_digits mem)

/-- What is no digit is not among digits. -/
lemma not_mem_digits {c : Char} (other : c.isDigit = false) (n : Nat) : c ∉ digits n := by
  intro mem
  rw [isDigit_of_mem_digits mem] at other
  cases other

/-- Digits denote their number. -/
lemma digitsValue?_digits (n : Nat) : digitsValue? (digits n) = some n := by
  have all : (digits n).all Char.isDigit = true := by
    rw [List.all_eq_true]
    exact fun _ mem => isDigit_of_mem_digits mem
  have some_digit : (digits n).isEmpty = false := by
    rw [List.isEmpty_eq_false_iff]
    exact Nat.toDigits_ne_nil
  rw [digitsValue?, all, some_digit]
  exact congrArg some Nat.ofDigitChars_ten_toDigits

/-- The digits of a 32-bit number denote it. -/
lemma wordValue?_digits (n : UInt32) : wordValue? (digits n.toNat) = some n := by
  have natural : naturalValue? (digits n.toNat) = some n.toNat := by
    unfold naturalValue?
    split
    case h_1 cs e =>
      have plus : '+' ∈ digits n.toNat := e ▸ List.mem_cons_self
      exact absurd plus (not_mem_digits rfl _)
    case h_2 => exact digitsValue?_digits _
  rw [wordValue?, natural, Option.bind_some, if_pos n.toNat_lt, UInt32.ofNat_toNat]

end LuaHost.Text
