import LuaHost.Data.Json
import LuaHost.Proofs.Text.Basic

/-!
# Reading documents back

A document that has been written as JSON is read back as it was, as long as it has no literals of
real numbers, which may be any texts (`parse?_prettyText`). Strings come first, then numbers, then
documents by induction on their parts.
-/

namespace LuaHost.Json

open LuaHost.Text

/-! ### Strings -/

/-- A hexadecimal digit is read back. -/
lemma hexValue?_hexDigit : ∀ n < 16, hexValue? (hexDigit n) = some n := by
  decide

/-- Two hexadecimal digits behind zeros denote a number below 256. -/
lemma unitValue?_hexDigit {n : Nat} (small : n < 256) :
    unitValue? '0' '0' (hexDigit (n / 16)) (hexDigit (n % 16)) = some n := by
  have zero : hexValue? '0' = some 0 := by decide
  rw [unitValue?, zero, hexValue?_hexDigit _ (by omega), hexValue?_hexDigit _ (by omega)]
  simp only [Option.bind_eq_bind, Option.bind_some]
  congr 1
  omega

/-- A control character is read back from its number. -/
lemma unitChar?_toNat {c : Char} (control : c.toNat < 0x20) : unitChar? c.toNat = some c := by
  rw [unitChar?, if_neg (by simp; omega), Char.ofNat_toNat]

/-- Reading undoes the escape of a character. -/
lemma readString_escape (c : Char) (rest : List Char) :
    readString (escape c ++ rest) = (readString rest).map fun (s, after) => (c :: s, after) := by
  unfold escape
  split
  case isTrue quote => simp [quote, readString, shortEscape?]
  split
  case isTrue backslash => simp [backslash, readString, shortEscape?]
  split
  case isTrue newline => simp [newline, readString, shortEscape?]
  split
  case isTrue carriage => simp [carriage, readString, shortEscape?]
  split
  case isTrue tab => simp [tab, readString, shortEscape?]
  split
  case isTrue backspace => simp [backspace, readString, shortEscape?]
  split
  case isTrue feed => simp [feed, readString, shortEscape?]
  split
  case isTrue control =>
    simp only [List.cons_append, List.nil_append]
    rw [readString]
    simp only [unitValue?_hexDigit (n := c.toNat) (by omega), unitChar?_toNat control]
  case isFalse quote backslash _ _ _ _ _ plain =>
    simp only [List.cons_append, List.nil_append]
    rw [readString, if_neg (by simp [plain, backslash])]
    · exact quote
    · exact fun _ _ _ _ _ e _ => backslash e
    · exact fun _ _ e _ => backslash e

/-- A string is read back up to its closing quote. -/
lemma readString_flatMap (s rest : List Char) :
    readString (s.flatMap escape ++ '"' :: rest) = some (s, rest) := by
  induction s with
  | nil => rw [List.flatMap_nil, List.nil_append, readString]
  | cons c s ih => rw [List.flatMap_cons, List.append_assoc, readString_escape, ih, Option.map_some]

/-! ### Numbers -/

/-- A number has a first digit, which is not zero unless the number is. -/
lemma digits_eq_cons (n : Nat) :
    ∃ c cs, digits n = c :: cs ∧ c.isDigit = true ∧ (0 < n → c ≠ '0') := by
  induction n using Nat.strongRecOn with
  | ind n ih =>
    unfold digits
    by_cases small : n < 10
    · rw [Nat.toDigits_of_lt_base small]
      refine ⟨n.digitChar, [], rfl, ?_⟩
      clear ih
      revert n
      decide
    · obtain ⟨c, cs, front, digit, leading⟩ := ih (n / 10) (Nat.div_lt_self (by omega) (by decide))
      unfold digits at front
      rw [Nat.toDigits_of_base_le (by decide) (by omega), front]
      exact ⟨c, _, List.cons_append, digit, fun _ => leading (by omega)⟩

/-- A text that does not go on with a number that ends there. -/
def EndsNumber (rest : List Char) : Prop :=
  ∀ c, rest.head? = some c → c.isDigit = false ∧ c ≠ '.' ∧ c ≠ 'e' ∧ c ≠ 'E'

variable {rest : List Char}

/-- The digits of a number are those ahead of what ends it. -/
lemma takeWhile_digits (ends : EndsNumber rest) (n : Nat) :
    (digits n ++ rest).takeWhile Char.isDigit = digits n := by
  rw [List.takeWhile_append_of_pos fun _ mem => isDigit_of_mem_digits mem]
  cases rest with
  | nil => simp
  | cons c rest => simp [(ends c rfl).1]

/-- What ends it comes behind them. -/
lemma dropWhile_digits (ends : EndsNumber rest) (n : Nat) :
    (digits n ++ rest).dropWhile Char.isDigit = rest := by
  rw [List.dropWhile_append_of_pos fun _ mem => isDigit_of_mem_digits mem]
  cases rest with
  | nil => rfl
  | cons c rest => rw [List.dropWhile_cons_of_neg (by simp [(ends c rfl).1])]

/-- The whole part of a number is its digits. -/
lemma readWhole_digits (ends : EndsNumber rest) (n : Nat) :
    readWhole (digits n ++ rest) = some (digits n, rest) := by
  by_cases positive : 0 < n
  · obtain ⟨c, cs, e, digit, leading⟩ := digits_eq_cons n
    rw [readWhole.eq_2, takeWhile_digits ends, dropWhile_digits ends, e]
    · rfl
    · rw [e]
      intro tail same
      exact leading positive (List.cons.inj same).1
  · rw [Nat.eq_zero_of_not_pos positive]
    rfl

/-- Where a number ends, there is no fraction. -/
lemma readFraction_of_ends (ends : EndsNumber rest) : readFraction rest = some ([], rest) := by
  unfold readFraction
  split
  case h_1 => exact absurd rfl (ends '.' rfl).2.1
  case h_2 => rfl

/-- Nor is there an exponent. -/
lemma readExponent_of_ends (ends : EndsNumber rest) : readExponent rest = some ([], rest) := by
  cases rest with
  | nil => rfl
  | cons c rest =>
    obtain ⟨-, -, lower, upper⟩ := ends c rfl
    simp [readExponent, lower, upper]

/-- A natural number is read back from its digits. -/
lemma readNumber_digits (ends : EndsNumber rest) (n : Nat) :
    readNumber (digits n ++ rest) = some (.integer n, rest) := by
  have whole := readWhole_digits ends n
  have value : Nat.ofDigitChars 10 (digits n) 0 = n := Nat.ofDigitChars_ten_toDigits
  obtain ⟨c, cs, e, digit, -⟩ := digits_eq_cons n
  have unsigned : c ≠ '-' := by
    rintro rfl
    cases digit
  rw [e] at value whole ⊢
  rw [List.cons_append] at whole ⊢
  simp [readNumber, unsigned, whole, readFraction_of_ends ends, readExponent_of_ends ends, value]

/-- A negative number is read back from a sign and its digits. -/
lemma readNumber_sign (ends : EndsNumber rest) {n : Nat} (positive : 0 < n) :
    readNumber ('-' :: (digits n ++ rest)) = some (.integer (-n), rest) := by
  have value : Nat.ofDigitChars 10 (digits n) 0 = n := Nat.ofDigitChars_ten_toDigits
  have nonzero : n ≠ 0 := Nat.ne_of_gt positive
  simp [readNumber, readWhole_digits ends, readFraction_of_ends ends, readExponent_of_ends ends,
    value, nonzero]

/-- An integer is read back up to where no number goes on. -/
lemma readNumber_writeInteger (ends : EndsNumber rest) (n : Int) :
    readNumber (writeInteger n ++ rest) = some (.integer n, rest) := by
  unfold writeInteger
  split
  case isTrue negative =>
    have opposite : -(n.natAbs : Int) = n := by omega
    rw [List.cons_append, readNumber_sign ends (by omega), opposite]
  case isFalse positive =>
    have same : (n.natAbs : Int) = n := by omega
    rw [readNumber_digits ends, same]

/-! ### Documents -/

/-- A document without literals of real numbers. -/
inductive Plain : Data → Prop where
  | null :
    Plain .null
  | boolean (value : Bool) :
    Plain (.boolean value)
  | integer (value : Int) :
    Plain (.integer value)
  | string (value : String) :
    Plain (.string value)
  | array {items : List Data} :
    (∀ item ∈ items, Plain item) →
    Plain (.array items)
  | object {fields : List (String × Data)} :
    (∀ field ∈ fields, Plain field.2) →
    Plain (.object fields)

/-- A character that a value may start with. -/
def Opens (c : Char) : Prop :=
  c ∉ [' ', '\n', '\r', '\t', ']', '\x7d']

/-- A number starts with a sign or a digit. -/
lemma writeInteger_eq_cons (n : Int) :
    ∃ c cs, writeInteger n = c :: cs ∧ (c = '-' ∨ c.isDigit = true) := by
  unfold writeInteger
  split
  case isTrue => exact ⟨'-', _, rfl, .inl rfl⟩
  case isFalse =>
    obtain ⟨c, cs, e, digit, -⟩ := digits_eq_cons n.natAbs
    exact ⟨c, cs, e, .inr digit⟩

/-- A sign or a digit is no blank and no closing bracket. -/
lemma opens_of_number {c : Char} (number : c = '-' ∨ c.isDigit = true) : Opens c := by
  intro mem
  simp only [List.mem_cons, List.not_mem_nil, or_false] at mem
  rcases mem with rfl | rfl | rfl | rfl | rfl | rfl <;>
    obtain number | number := number <;> cases number

/-- No value starts like the end of its surroundings. -/
lemma pretty_eq_cons {data : Data} (plain : Plain data) (depth : Nat) :
    ∃ c cs, pretty depth data = c :: cs ∧ Opens c := by
  cases plain with
  | null => exact ⟨'n', _, rfl, by unfold Opens; decide⟩
  | boolean value => cases value <;> exact ⟨_, _, rfl, by unfold Opens; decide⟩
  | integer value =>
    obtain ⟨c, cs, e, number⟩ := writeInteger_eq_cons value
    exact ⟨c, cs, e, opens_of_number number⟩
  | string value => exact ⟨'"', _, rfl, by unfold Opens; decide⟩
  | @array items _ => cases items <;> exact ⟨'[', _, rfl, by unfold Opens; decide⟩
  | @object fields _ => cases fields <;> exact ⟨'\x7b', _, rfl, by unfold Opens; decide⟩

/-- In front of a value there are no more blanks to skip. -/
lemma skipBlanks_of_opens {c : Char} (opens : Opens c) (cs : List Char) :
    skipBlanks (c :: cs) = c :: cs := by
  refine List.dropWhile_cons_of_neg ?_
  simp only [Opens, List.mem_cons, not_or] at opens
  simp [opens]

/-- A blank is skipped. -/
lemma skipBlanks_blank (cs : List Char) : skipBlanks (' ' :: cs) = skipBlanks cs := rfl

/-- So is a new line with its indentation. -/
lemma skipBlanks_newline (depth : Nat) (cs : List Char) :
    skipBlanks (newline depth ++ cs) = skipBlanks cs := by
  refine List.dropWhile_append_of_pos ?_
  intro c mem
  obtain rfl | mem := List.mem_cons.mp mem
  · rfl
  · rw [List.eq_of_mem_replicate mem]
    rfl

/-- A value is read from its first character on. -/
lemma readValue_of_skipBlanks {cs cs' : List Char} (same : skipBlanks cs = skipBlanks cs')
    (fuel : Nat) :
    readValue fuel cs = readValue fuel cs' := by
  cases fuel with
  | zero => rfl
  | succ fuel => rw [readValue, readValue, same]

/-- What starts like a number is read as one. -/
lemma readValue_number {c : Char} (number : c = '-' ∨ c.isDigit = true) (fuel : Nat)
    (cs : List Char) :
    readValue (fuel + 1) (c :: cs) = readNumber (c :: cs) := by
  have other : c ∉ ['n', 't', 'f', '"', '[', '\x7b'] := by
    intro mem
    simp only [List.mem_cons, List.not_mem_nil, or_false] at mem
    rcases mem with rfl | rfl | rfl | rfl | rfl | rfl <;>
      obtain number | number := number <;> cases number
  simp only [List.mem_cons, not_or] at other
  rw [readValue, skipBlanks_of_opens (opens_of_number number)]
  simp [other]

/-- What is written behind a value does not go on with it. -/
lemma endsNumber_cons {c : Char} (mem : c ∈ [',', '\n']) (cs : List Char) :
    EndsNumber (c :: cs) := by
  intro first same
  cases same
  simp only [List.mem_cons, List.not_mem_nil, or_false] at mem
  obtain rfl | rfl := mem <;> decide

/-- Behind an item of an array come a comma or a new line. -/
lemma endsNumber_prettyItems (depth : Nat) (items : List Data) (rest : List Char) :
    EndsNumber (prettyItems depth items ++ rest) := by
  cases items with
  | nil => exact endsNumber_cons (by decide) _
  | cons item items => exact endsNumber_cons (by decide) _

/-- So they do behind a field of an object. -/
lemma endsNumber_prettyFields (depth : Nat) (fields : List (String × Data)) (rest : List Char) :
    EndsNumber (prettyFields depth fields ++ rest) := by
  cases fields with
  | nil => exact endsNumber_cons (by decide) _
  | cons field fields => exact endsNumber_cons (by decide) _

/-- A document is read back from its text at every depth, whatever follows, with calls for each of
its characters. -/
def Reads (data : Data) : Prop :=
  ∀ depth fuel rest, 2 * (pretty depth data).length ≤ fuel → EndsNumber rest →
    readValue fuel (pretty depth data ++ rest) = some (data, rest)

/-- The items of an array are read back up to its bracket. -/
lemma readItems_pretty {items : List Data} {depth fuel : Nat} {first : Data}
    (reads : ∀ item ∈ first :: items, Reads item)
    (enough : 2 * (pretty (depth + 1) first ++ prettyItems depth items).length < fuel)
    (rest : List Char) :
    readItems fuel (newline (depth + 1) ++
        (pretty (depth + 1) first ++ (prettyItems depth items ++ ']' :: rest))) =
      some (first :: items, rest) := by
  induction items generalizing first fuel with
  | nil =>
    obtain ⟨fuel, rfl⟩ : ∃ more, fuel = more + 1 := ⟨fuel - 1, by omega⟩
    rw [List.length_append] at enough
    have item := reads first List.mem_cons_self (depth + 1) fuel _ (by omega)
      (endsNumber_prettyItems depth [] (']' :: rest))
    have bracket : skipBlanks (prettyItems depth [] ++ ']' :: rest) = ']' :: rest :=
      skipBlanks_newline depth _
    rw [readItems, readValue_of_skipBlanks (skipBlanks_newline _ _), item]
    simp only [bracket]
  | cons next items ih =>
    obtain ⟨fuel, rfl⟩ : ∃ more, fuel = more + 1 := ⟨fuel - 1, by omega⟩
    rw [List.length_append] at enough
    have item := reads first List.mem_cons_self (depth + 1) fuel _ (by omega)
      (endsNumber_prettyItems depth (next :: items) (']' :: rest))
    have comma : skipBlanks (prettyItems depth (next :: items) ++ ']' :: rest) =
        ',' :: (newline (depth + 1) ++ (pretty (depth + 1) next ++
          (prettyItems depth items ++ ']' :: rest))) := by
      rw [prettyItems]
      simp only [List.cons_append, List.append_assoc]
      rfl
    have fits : 2 * (pretty (depth + 1) next ++ prettyItems depth items).length < fuel := by
      rw [prettyItems] at enough
      simp only [List.length_append, List.length_cons] at enough ⊢
      omega
    have others := ih (fun item mem => reads item (List.mem_cons_of_mem _ mem)) fits
    rw [readItems, readValue_of_skipBlanks (skipBlanks_newline _ _), item]
    simp only [comma, others, Option.map_some]

/-- The text of a field ahead of what follows it. -/
lemma writeString_append (s : String) (rest : List Char) :
    writeString s ++ rest = '"' :: (s.toList.flatMap escape ++ '"' :: rest) := by
  rw [writeString, List.append_assoc, List.cons_append]
  rfl

/-- The fields of an object are read back up to its brace. -/
lemma readFields_pretty {fields : List (String × Data)} {depth fuel : Nat} {key : String}
    {first : Data} (reads : ∀ field ∈ (key, first) :: fields, Reads field.2)
    (enough : 2 * (writeString key ++ ':' :: ' ' :: pretty (depth + 1) first ++
      prettyFields depth fields).length < fuel) (rest : List Char) :
    readFields fuel (newline (depth + 1) ++ (writeString key ++ ':' :: ' ' ::
        (pretty (depth + 1) first ++ (prettyFields depth fields ++ '\x7d' :: rest)))) =
      some ((key, first) :: fields, rest) := by
  have opening (key : String) (tail : List Char) :
      skipBlanks (newline (depth + 1) ++ (writeString key ++ tail)) =
        '"' :: (key.toList.flatMap escape ++ '"' :: tail) := by
    rw [skipBlanks_newline, writeString_append]
    rfl
  have colon (tail : List Char) : skipBlanks (':' :: tail) = ':' :: tail := rfl
  induction fields generalizing key first fuel with
  | nil =>
    obtain ⟨fuel, rfl⟩ : ∃ more, fuel = more + 1 := ⟨fuel - 1, by omega⟩
    simp only [List.length_append, List.length_cons] at enough
    have own : Reads first := reads (key, first) List.mem_cons_self
    have item := own (depth + 1) fuel _ (by omega)
      (endsNumber_prettyFields depth [] ('\x7d' :: rest))
    have brace : skipBlanks (prettyFields depth [] ++ '\x7d' :: rest) = '\x7d' :: rest :=
      skipBlanks_newline depth _
    rw [readFields, opening]
    simp only [readString_flatMap, colon, readValue_of_skipBlanks (skipBlanks_blank _), item, brace,
      String.ofList_toList]
  | cons next fields ih =>
    obtain ⟨name, value⟩ := next
    obtain ⟨fuel, rfl⟩ : ∃ more, fuel = more + 1 := ⟨fuel - 1, by omega⟩
    have own : Reads first := reads (key, first) List.mem_cons_self
    have comma : skipBlanks (prettyFields depth ((name, value) :: fields) ++ '\x7d' :: rest) =
        ',' :: (newline (depth + 1) ++ (writeString name ++ ':' :: ' ' ::
          (pretty (depth + 1) value ++ (prettyFields depth fields ++ '\x7d' :: rest)))) := by
      rw [prettyFields]
      simp only [List.cons_append, List.append_assoc]
      rfl
    simp only [prettyFields, List.length_append, List.length_cons] at enough
    have fits :
        2 * (writeString name ++ ':' :: ' ' :: pretty (depth + 1) value ++
          prettyFields depth fields).length < fuel := by
      simp only [List.length_append, List.length_cons]
      omega
    have item := own (depth + 1) fuel _ (by omega)
      (endsNumber_prettyFields depth ((name, value) :: fields) ('\x7d' :: rest))
    have others := ih (fun field mem => reads field (List.mem_cons_of_mem _ mem)) fits
    rw [readFields, opening]
    simp only [readString_flatMap, colon, readValue_of_skipBlanks (skipBlanks_blank _), item, comma,
      others, Option.map_some, String.ofList_toList]

/-- A text has a first character, so there is a call to read it. -/
lemma reads_of_succ {data : Data} (plain : Plain data)
    (read : ∀ depth fuel rest, 2 * (pretty depth data).length ≤ fuel + 1 → EndsNumber rest →
      readValue (fuel + 1) (pretty depth data ++ rest) = some (data, rest)) : Reads data := by
  intro depth fuel rest enough ends
  obtain ⟨c, cs, opened, -⟩ := pretty_eq_cons plain depth
  obtain ⟨fuel, rfl⟩ : ∃ more, fuel = more + 1 :=
    ⟨fuel - 1, by rw [opened, List.length_cons] at enough; omega⟩
  exact read depth fuel rest enough ends

/-- An array that is not empty is read back if its items are. -/
lemma reads_array {first : Data} {items : List Data} (plain : ∀ item ∈ first :: items, Plain item)
    (reads : ∀ item ∈ first :: items, Reads item) : Reads (.array (first :: items)) := by
  refine reads_of_succ (.array plain) fun depth fuel rest enough _ => ?_
  obtain ⟨c, cs, opened, opens⟩ := pretty_eq_cons (plain first List.mem_cons_self) (depth + 1)
  have item : c ≠ ']' := fun e => opens (by simp [e])
  have opening (tail : List Char) : skipBlanks ('[' :: tail) = '[' :: tail := rfl
  have inner (tail : List Char) :
      skipBlanks (newline (depth + 1) ++ (pretty (depth + 1) first ++ tail)) =
        c :: (cs ++ tail) := by
    rw [skipBlanks_newline, opened, List.cons_append, skipBlanks_of_opens opens]
  rw [pretty] at enough ⊢
  have fits : 2 * (pretty (depth + 1) first ++ prettyItems depth items).length < fuel := by
    simp only [List.length_append, List.length_cons] at enough ⊢
    omega
  have back := readItems_pretty reads fits rest
  simp only [List.cons_append, List.append_assoc, List.nil_append]
  rw [readValue]
  simp [opening, inner, item, back]

/-- An object that is not empty is read back if its fields are. -/
lemma reads_object {key : String} {first : Data} {fields : List (String × Data)}
    (plain : ∀ field ∈ (key, first) :: fields, Plain field.2)
    (reads : ∀ field ∈ (key, first) :: fields, Reads field.2) :
    Reads (.object ((key, first) :: fields)) := by
  refine reads_of_succ (.object plain) fun depth fuel rest enough _ => ?_
  have opening (tail : List Char) : skipBlanks ('\x7b' :: tail) = '\x7b' :: tail := rfl
  have inner (tail : List Char) : skipBlanks (newline (depth + 1) ++ (writeString key ++ tail)) =
      '"' :: (key.toList.flatMap escape ++ '"' :: tail) := by
    rw [skipBlanks_newline, writeString_append]
    rfl
  rw [pretty] at enough ⊢
  have fits :
      2 * (writeString key ++ ':' :: ' ' :: pretty (depth + 1) first ++
        prettyFields depth fields).length < fuel := by
    simp only [List.length_append, List.length_cons] at enough ⊢
    omega
  have back := readFields_pretty reads fits rest
  simp only [List.cons_append, List.append_assoc, List.nil_append]
  rw [readValue]
  simp [opening, inner, back]

/-- Every plain document is read back. -/
lemma reads_of_plain {data : Data} (plain : Plain data) : Reads data := by
  induction plain with
  | null =>
    refine reads_of_succ .null fun depth fuel rest _ _ => ?_
    rw [readValue]
    rfl
  | boolean value =>
    refine reads_of_succ (.boolean value) fun depth fuel rest _ _ => ?_
    rw [readValue]
    cases value <;> rfl
  | integer value =>
    refine reads_of_succ (.integer value) fun depth fuel rest _ ends => ?_
    obtain ⟨c, cs, e, number⟩ := writeInteger_eq_cons value
    change readValue (fuel + 1) (writeInteger value ++ rest) = _
    rw [e, List.cons_append, readValue_number number, ← List.cons_append, ← e,
      readNumber_writeInteger ends]
  | string value =>
    refine reads_of_succ (.string value) fun depth fuel rest _ _ => ?_
    have opening (tail : List Char) : skipBlanks ('"' :: tail) = '"' :: tail := rfl
    change readValue (fuel + 1) (writeString value ++ rest) = _
    rw [writeString_append, readValue]
    simp only [opening, readString_flatMap, Option.map_some, String.ofList_toList]
  | @array items plain ih =>
    cases items with
    | nil =>
      refine reads_of_succ (.array plain) fun depth fuel rest _ _ => ?_
      rw [readValue]
      rfl
    | cons first items => exact reads_array plain ih
  | @object fields plain ih =>
    cases fields with
    | nil =>
      refine reads_of_succ (.object plain) fun depth fuel rest _ _ => ?_
      rw [readValue]
      rfl
    | cons field fields => exact reads_object plain ih

/-- The text of a plain document denotes it. -/
theorem parse?_prettyText {data : Data} (plain : Plain data) :
    parse? (prettyText data) = some data := by
  have read := reads_of_plain plain 0 (2 * (pretty 0 data).length + 2) [] (by omega) nofun
  rw [List.append_nil] at read
  rw [parse?, prettyText, String.toList_ofList]
  simp only [read]
  rfl

end LuaHost.Json
