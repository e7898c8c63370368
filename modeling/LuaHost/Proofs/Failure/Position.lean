import LuaHost.Proofs.Failure.Decoration
import LuaHost.Proofs.Text.Numeral
import LuaHost.Proofs.Text.Search

/-!
# Positions in front of messages

What it is for a message to begin with a position (`Positioned`). The two ways in which positions
are looked for both find exactly this (`messageLine?_eq_some_iff`, `isDecorated_iff`): two parts
without colons, of which the second is a numeral between blanks (`position_found_iff`). So a
position that decoration puts there is read back if its source has no colon (`positioned_text`), and
a label is taken for a source if a number follows (`positioned_label_iff`). An error that went
through a callback has the position of its caller (`ofError_message_of_caller`).
-/

namespace LuaHost

open LuaHost.Text

/-- A message begins with a source and a line, each ended by the first colon after it. -/
def Positioned (message : String) (line : UInt32) : Prop :=
  ∃ source numeral rest, message.toList = source ++ ':' :: (numeral ++ ':' :: rest) ∧
    ':' ∉ source ∧ ':' ∉ numeral ∧ wordValue? (trim numeral) = some line

/-- What stands between the first two colons of a message has no colon, and nothing before it
has. -/
lemma betweenColons?_eq_some_iff {message : String} {numeral : List Char} :
    betweenColons? message = some numeral ↔
      ∃ source rest, message.toList = source ++ ':' :: (numeral ++ ':' :: rest) ∧
        ':' ∉ source ∧ ':' ∉ numeral := by
  simp only [betweenColons?, Option.bind_eq_some_iff, Option.map_eq_some_iff, Prod.exists,
    splitAtFirst?_eq_some_iff]
  constructor
  · rintro ⟨source, _, ⟨e, free⟩, _, rest, ⟨rfl, free'⟩, rfl⟩
    exact ⟨source, rest, e, free, free'⟩
  · rintro ⟨source, rest, e, free, free'⟩
    exact ⟨source, _, ⟨e, free⟩, numeral, rest, ⟨rfl, free'⟩, rfl⟩

/-- The line of a message is that of the position in front of it. -/
lemma messageLine?_eq_some_iff {message : String} {line : UInt32} :
    messageLine? message = some line ↔ Positioned message line := by
  simp only [messageLine?, Option.bind_eq_some_iff, betweenColons?_eq_some_iff]
  constructor
  · rintro ⟨numeral, ⟨source, rest, e, free, free'⟩, value⟩
    exact ⟨source, numeral, rest, e, free, free', value⟩
  · rintro ⟨source, numeral, rest, e, free, free', value⟩
    exact ⟨numeral, ⟨source, rest, e, free, free'⟩, value⟩

/-- A message is decorated if and only if it has a line. -/
lemma isDecorated_eq (message : String) : isDecorated message = (messageLine? message).isSome := by
  unfold isDecorated messageLine? betweenColons?
  by_cases first : ':' ∈ message.toList
  · obtain ⟨source, after, e, free⟩ := List.eq_append_cons_of_mem first
    rw [e, splitAll_append, splitAll_of_not_mem free, splitAtFirst?_append free]
    by_cases second : ':' ∈ after
    · obtain ⟨numeral, rest, rfl, free'⟩ := List.eq_append_cons_of_mem second
      obtain ⟨piece, pieces, found⟩ := List.exists_cons_of_ne_nil (splitAll_ne_nil ':' rest)
      rw [splitAll_append, splitAll_of_not_mem free', found]
      simp [splitAtFirst?_append free']
    · rw [splitAll_of_not_mem second]
      simp [splitAtFirst?_of_not_mem second]
  · rw [splitAll_of_not_mem first, splitAtFirst?_of_not_mem first]
    rfl

/-- A message is decorated if and only if it begins with a position. -/
lemma isDecorated_iff {message : String} :
    isDecorated message = true ↔ ∃ line, Positioned message line := by
  rw [isDecorated_eq, Option.isSome_iff_exists]
  simp only [messageLine?_eq_some_iff]

/-- A message is decorated if and only if it names a line, which is the number between its first two
colons, less the blanks around it. -/
theorem position_found_iff (message : String) :
    (isDecorated message = true ↔ (messageLine? message).isSome = true) ∧
    ∀ n : Nat, (messageLine? message).map UInt32.toNat = some n ↔
      ∃ source numeral rest, message.toList = source ++ ':' :: (numeral ++ ':' :: rest) ∧
        ':' ∉ source ∧ ':' ∉ numeral ∧ Numeral (trim numeral) n ∧ n < UInt32.size := by
  constructor
  · rw [isDecorated_eq]
  · intro n
    constructor
    · intro found
      obtain ⟨line, named, e⟩ := Option.map_eq_some_iff.mp found
      obtain ⟨source, numeral, rest, chars, free, free', value⟩ := messageLine?_eq_some_iff.mp named
      have denotes : (wordValue? (trim numeral)).map UInt32.toNat = some n := by
        rw [value, Option.map_some, e]
      exact ⟨source, numeral, rest, chars, free, free', map_wordValue?_eq_some_iff.mp denotes⟩
    · rintro ⟨source, numeral, rest, chars, free, free', denotes⟩
      obtain ⟨line, value, e⟩ := Option.map_eq_some_iff.mp (map_wordValue?_eq_some_iff.mpr denotes)
      have named : messageLine? message = some line :=
        messageLine?_eq_some_iff.mpr ⟨source, numeral, rest, chars, free, free', value⟩
      rw [named, Option.map_some, e]

/-- A location whose source has no colon is the position of a message that it is in front of. -/
lemma positioned_text {source : String} (free : ':' ∉ source.toList) (line : UInt32)
    (rest : String) :
    Positioned ((Location.mk source (some line)).text ++ ": " ++ rest) line :=
  ⟨source.toList, digits line.toNat, ' ' :: rest.toList, by simp [Location.text], free,
    not_mem_digits rfl _, by rw [trim_digits, wordValue?_digits]⟩

/-- A text begins with the number of a line, ended by its first colon. -/
def Numbered (text : String) (line : UInt32) : Prop :=
  ∃ numeral rest, text.toList = numeral ++ ':' :: rest ∧ ':' ∉ numeral ∧
    wordValue? (trim numeral) = some line

/-- A text behind a label makes a message with a position if and only if it begins with a number. -/
lemma positioned_label_iff {label text : String} {line : UInt32} (free : ':' ∉ label.toList) :
    Positioned (label ++ ": " ++ text) line ↔ Numbered text line := by
  have cut : (label ++ ": " ++ text).toList = label.toList ++ ':' :: (' ' :: text.toList) := by simp
  constructor
  · rintro ⟨source, numeral, rest, e, free', free'', value⟩
    -- The first colon is that of the label.
    have same := splitAtFirst?_append free' (numeral ++ ':' :: rest)
    rw [← e, cut, splitAtFirst?_append free, Option.some.injEq, Prod.mk.injEq] at same
    obtain ⟨_, same⟩ := same
    cases numeral with
    | nil => exact absurd (List.cons.inj same).1 (by decide)
    | cons c numeral =>
      obtain ⟨rfl, behind⟩ := List.cons.inj same
      rw [List.mem_cons, not_or] at free''
      rw [trim_cons rfl] at value
      exact ⟨numeral, rest, behind, free''.2, value⟩
  · rintro ⟨numeral, rest, e, free', value⟩
    refine ⟨label.toList, ' ' :: numeral, rest, ?_, free, ?_, ?_⟩
    · rw [cut, e, List.cons_append]
    · rw [List.mem_cons, not_or]
      exact ⟨by decide, free'⟩
    · rwa [trim_cons rfl]

/-! ### Callers -/

namespace Location

/-- A location in a script, with its line. -/
def Scripted (location : Location) : Prop :=
  location.isNative = false ∧ location.line.isSome = true

/-- A location is the first one in a script that a stack names with its line. -/
def FirstIn (location : Location) (frames : List Frame) : Prop :=
  location.Scripted ∧
    ∃ before after, frames.filterMap Frame.location = before ++ location :: after ∧
      ∀ other ∈ before, ¬ other.Scripted

end Location

/-- The tracebacks of the callbacks that an error went through, the last callback first. -/
def Lua.Error.tracebacks : Lua.Error → List String
  | .callback traceback cause => traceback :: tracebacks cause
  | .context _ cause => tracebacks cause
  | _ => []

namespace Failure

/-- A location is in a script if and only if the test for it passes. -/
lemma scripted_iff {location : Location} :
    (!location.isNative && location.line.isSome) = true ↔ location.Scripted := by
  rw [Bool.and_eq_true, Bool.not_eq_true', Location.Scripted]

/-- The caller is the first location in a script. -/
lemma callerLocation?_eq_some_iff {failure : Failure} {location} :
    failure.callerLocation? = some location ↔ location.FirstIn failure.frames := by
  simp only [callerLocation?, List.find?_eq_some_iff_append, Bool.not_eq_true', ← Bool.not_eq_true,
    scripted_iff, Location.FirstIn]

/-- Without a location in a script no caller is known. -/
lemma callerLocation?_eq_none {failure : Failure}
    (unscripted : ∀ location ∈ failure.frames.filterMap Frame.location, ¬ location.Scripted) :
    failure.callerLocation? = none := by
  rw [callerLocation?, List.find?_eq_none]
  intro location mem
  rw [scripted_iff]
  exact unscripted location mem

/-- A caller that is known in the end is known to a callback, if there was one. -/
lemma knownCallers_pos {error : Lua.Error} (called : error.tracebacks ≠ []) {location}
    (caller : (ofError error).callerLocation? = some location) : 0 < knownCallers error := by
  induction error with
  | callback traceback cause ih =>
    rw [knownCallers, caller]
    exact Nat.succ_pos _
  | context _ cause ih => exact ih called caller
  | _ => exact absurd rfl called

/-- A message without a position gets that of its caller, once, if the error went through a
callback. -/
lemma ofError_message_of_caller {error : Lua.Error} (called : error.tracebacks ≠ []) {location}
    (caller : (ofError error).callerLocation? = some location)
    (unpositioned : ∀ line, ¬ Positioned (ofError error.leaf).message line)
    (free : ':' ∉ location.source.toList) :
    (ofError error).message = location.text ++ ": " ++ (ofError error.leaf).message := by
  have undecorated : ¬ isDecorated (ofError error.leaf).message = true := by
    rw [isDecorated_iff, not_exists]
    exact unpositioned
  have marked := ofError_marked error
  have known := knownCallers_pos called caller
  generalize knownCallers error = n at marked known
  cases marked with
  | unknown none _ =>
    rw [none] at caller
    cases caller
  | known caller' e =>
    obtain rfl := Option.some.inj (caller.symm.trans caller')
    have once : copies location (ofError error.leaf).message n = 1 := by
      rw [copies, if_neg undecorated, if_pos (Location.recognised_of_not_mem free)]
      exact Nat.min_eq_left known
    rw [e, once]
    rfl

/-- Without a caller, the message of an error is that of its leaf. -/
lemma ofError_message_of_none {error : Lua.Error} (none : (ofError error).callerLocation? = none) :
    (ofError error).message = (ofError error.leaf).message := by
  have marked := ofError_marked error
  generalize knownCallers error = n at marked
  cases marked with
  | unknown _ e => exact e
  | known caller _ =>
    rw [none] at caller
    cases caller

end Failure

end LuaHost
