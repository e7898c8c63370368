import LuaHost.Proofs.Text.Basic
import Mathlib.Data.List.Induction

/-!
# Numerals

What a decimal numeral is, by rules that do not say how it is read: a digit is one, and one digit
more makes another. A text is read as a number if and only if it is a numeral of it
(`naturalValue?_eq_some_iff`), and as a 32-bit number if that is one (`map_wordValue?_eq_some_iff`).
-/

namespace LuaHost.Text

/-- Digits that denote a number, each worth ten times the one behind it. -/
inductive Digits : List Char → Nat → Prop where
  | single {d} :
    d < 10 →
    Digits [Nat.digitChar d] d
  | concat {cs n d} :
    Digits cs n →
    d < 10 →
    Digits (cs ++ [Nat.digitChar d]) (10 * n + d)

/-- Digits that denote a number, or a plus sign and such digits. -/
inductive Numeral : List Char → Nat → Prop where
  | bare {cs n} :
    Digits cs n →
    Numeral cs n
  | signed {cs n} :
    Digits cs n →
    Numeral ('+' :: cs) n

variable {cs : List Char} {n : Nat}

/-- A digit is the one of its value. -/
lemma exists_digitChar {c : Char} (digit : c.isDigit = true) :
    ∃ d < 10, c = Nat.digitChar d ∧ c.toNat - '0'.toNat = d := by
  have code := isDigit_iff.mp digit
  have zero : '0'.toNat = 48 := rfl
  refine ⟨c.toNat - '0'.toNat, by omega, ?_, rfl⟩
  apply Char.toNat_inj.mp
  rw [Nat.toNat_digitChar_of_lt_ten (by omega)]
  omega

/-- There is at least one digit. -/
lemma Digits.ne_nil (digits : Digits cs n) : cs ≠ [] := by
  cases digits with
  | single _ => exact List.cons_ne_nil _ _
  | concat _ _ => exact List.append_ne_nil_of_right_ne_nil _ (List.cons_ne_nil _ _)

/-- Digits are nothing but digits. -/
lemma Digits.isDigit (digits : Digits cs n) : ∀ c ∈ cs, c.isDigit = true := by
  induction digits with
  | single small =>
    intro c mem
    rw [List.mem_singleton.mp mem, Nat.isDigit_digitChar]
    exact decide_eq_true small
  | concat _ small ih =>
    intro c mem
    obtain mem | mem := List.mem_append.mp mem
    · exact ih c mem
    · rw [List.mem_singleton.mp mem, Nat.isDigit_digitChar]
      exact decide_eq_true small

/-- So nothing else is among them. -/
lemma Digits.not_mem {c : Char} (other : c.isDigit = false) (digits : Digits cs n) : c ∉ cs := by
  intro mem
  rw [digits.isDigit c mem] at other
  cases other

/-- Digits are read as what they denote. -/
lemma Digits.ofDigitChars (digits : Digits cs n) : Nat.ofDigitChars 10 cs 0 = n := by
  have value {d : Nat} (small : d < 10) (init : Nat) :
      Nat.ofDigitChars 10 [Nat.digitChar d] init = 10 * init + d := by
    rw [Nat.ofDigitChars_cons, Nat.ofDigitChars_nil, Nat.toNat_digitChar_of_lt_ten small]
    exact congrArg (10 * init + ·) (Nat.add_sub_cancel_left 48 d)
  induction digits with
  | single small =>
    rw [value small]
    exact Nat.zero_add _
  | concat _ small ih => rw [Nat.ofDigitChars_append, ih, value small]

/-- Some digits denote what they are read as. -/
lemma digits_ofDigitChars (some_digit : cs ≠ []) (all : ∀ c ∈ cs, c.isDigit = true) :
    Digits cs (Nat.ofDigitChars 10 cs 0) := by
  -- From the last digit, which is the one that the number ends with.
  induction cs using List.reverseRecOn with
  | nil => exact absurd rfl some_digit
  | append_singleton cs c ih =>
    obtain ⟨d, small, rfl, value⟩ := exists_digitChar (all c (by simp))
    rw [Nat.ofDigitChars_append, Nat.ofDigitChars_cons, Nat.ofDigitChars_nil, value]
    cases cs with
    | nil =>
      rw [Nat.ofDigitChars_nil, Nat.mul_zero, Nat.zero_add]
      exact .single small
    | cons first cs =>
      refine .concat (ih (List.cons_ne_nil _ _) fun c mem => ?_) small
      exact all c (List.mem_append_left _ mem)

/-- A text is read as digits if and only if it is digits of that number. -/
lemma digitsValue?_eq_some_iff : digitsValue? cs = some n ↔ Digits cs n := by
  rw [digitsValue?, Option.ite_none_right_eq_some, Option.some.injEq, Bool.and_eq_true,
    Bool.not_eq_true', List.isEmpty_eq_false_iff, List.all_eq_true]
  constructor
  · rintro ⟨⟨some_digit, all⟩, rfl⟩
    exact digits_ofDigitChars some_digit all
  · intro digits
    exact ⟨⟨digits.ne_nil, digits.isDigit⟩, digits.ofDigitChars⟩

/-- A sign is no digit, so a numeral is either signed or not. -/
lemma naturalValue?_eq_some_iff : naturalValue? cs = some n ↔ Numeral cs n := by
  unfold naturalValue?
  split
  case h_1 cs =>
    rw [digitsValue?_eq_some_iff]
    constructor
    · exact .signed
    · intro numeral
      cases numeral with
      | bare digits => exact absurd List.mem_cons_self (digits.not_mem rfl)
      | signed digits => exact digits
  case h_2 unsigned =>
    rw [digitsValue?_eq_some_iff]
    constructor
    · exact .bare
    · intro numeral
      cases numeral with
      | bare digits => exact digits
      | signed _ => exact absurd rfl (unsigned _)

/-- A numeral does not go over a colon. -/
lemma Numeral.colon_not_mem (numeral : Numeral cs n) : ':' ∉ cs := by
  cases numeral with
  | bare digits => exact digits.not_mem rfl
  | signed digits =>
    rw [List.mem_cons, not_or]
    exact ⟨by decide, digits.not_mem rfl⟩

/-- A 32-bit number is read from a numeral if and only if it is not too large. -/
lemma map_wordValue?_eq_some_iff :
    (wordValue? cs).map UInt32.toNat = some n ↔ Numeral cs n ∧ n < UInt32.size := by
  rw [← naturalValue?_eq_some_iff, wordValue?]
  cases naturalValue? cs with
  | none =>
    constructor
    · intro found
      cases found
    · rintro ⟨found, _⟩
      cases found
  | some m =>
    by_cases small : m < UInt32.size
    · rw [Option.bind_some, if_pos small, Option.map_some, UInt32.toNat_ofNat_of_lt' small]
      constructor
      · rintro ⟨⟩
        exact ⟨rfl, small⟩
      · exact And.left
    · rw [Option.bind_some, if_neg small]
      constructor
      · intro found
        cases found
      · rintro ⟨⟨⟩, small'⟩
        exact absurd small' small

/-- None is read from any other text. -/
lemma wordValue?_eq_none_iff : wordValue? cs = none ↔ ¬ ∃ n < UInt32.size, Numeral cs n := by
  constructor
  · rintro none ⟨n, small, numeral⟩
    have value := map_wordValue?_eq_some_iff.mpr ⟨numeral, small⟩
    rw [none] at value
    cases value
  · intro other
    cases value : wordValue? cs with
    | none => rfl
    | some line =>
      have found : (wordValue? cs).map UInt32.toNat = some line.toNat := by
        rw [value, Option.map_some]
      obtain ⟨numeral, small⟩ := map_wordValue?_eq_some_iff.mp found
      exact absurd ⟨line.toNat, small, numeral⟩ other

end LuaHost.Text
