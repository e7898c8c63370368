import LuaHost.Failure.Basic
import LuaHost.Proofs.Text.Basic
import Mathlib.Tactic.Common

/-!
# Decoration of messages

Each callback that an error went through puts the position of its caller in front of the message,
unless the message has one. A message is known to have one by its first two colons, so a position
whose source has colons of its own may not be seen (`Location.recognised`), and then it is put there
again by each further callback. `ofError_marked` says how often. The main statement is
`position_once_iff`: the position is there at most once, unless it is not seen and several callbacks
know it.
-/

namespace LuaHost

open LuaHost.Text

/-! ### Positions in messages -/

namespace Location

/-- Whether a message with the location in front of it is seen to be decorated: the source has no
colon, or what follows the first one reads as a line. -/
def recognised (location : Location) : Bool :=
  match splitAll ':' location.source.toList with
  | _ :: piece :: _ => (wordValue? (trim piece)).isSome
  | _ => true

/-- A message with the location in front of it, some number of times. -/
def marked (location : Location) (message : String) : Nat → String
  | 0 => message
  | n + 1 => location.text ++ ": " ++ location.marked message n

/-- A source without a colon is seen. -/
lemma recognised_of_not_mem {location : Location} (free : ':' ∉ location.source.toList) :
    location.recognised = true := by
  rw [recognised, splitAll_of_not_mem free]

/-- Whether a message with a position in front of it is decorated depends on the source alone. -/
lemma isDecorated_text {location : Location} (line : location.line.isSome = true)
    (message : String) :
    isDecorated (location.text ++ ": " ++ message) = location.recognised := by
  obtain ⟨n, e⟩ := Option.isSome_iff_exists.mp line
  have chars : (location.text ++ ": " ++ message).toList =
      location.source.toList ++ ':' :: (digits n.toNat ++ ':' :: ' ' :: message.toList) := by
    simp [text, e]
  obtain ⟨last, others, rest⟩ :=
    List.exists_cons_of_ne_nil (splitAll_ne_nil ':' (' ' :: message.toList))
  obtain ⟨first, pieces, found⟩ :=
    List.exists_cons_of_ne_nil (splitAll_ne_nil ':' location.source.toList)
  have one : splitAll ':' (digits n.toNat) = [digits n.toNat] :=
    splitAll_of_not_mem (not_mem_digits rfl _)
  rw [isDecorated, chars, splitAll_append, splitAll_append, one, rest, recognised, found]
  -- The piece after the first colon is the line of the position only if the source has no colon.
  match pieces with
  | [] => simp [trim_digits, wordValue?_digits]
  | [_] => rfl
  | _ :: _ :: _ => rfl

/-- A message that is not decorated is so after a position was put in front of it, if that is
seen. -/
lemma isDecorated_marked {location : Location} (line : location.line.isSome = true)
    {message : String} (undecorated : isDecorated message = false) (n : Nat) :
    isDecorated (location.marked message n) = (decide (0 < n) && location.recognised) := by
  cases n with
  | zero => exact undecorated
  | succ n => simp [marked, isDecorated_text line]

/-- Each time makes a message longer. -/
lemma length_marked (location : Location) (message : String) (n : Nat) :
    (location.marked message n).length = n * (location.text.length + 2) + message.length := by
  induction n with
  | zero => simp [marked]
  | succ n ih =>
    have two : ": ".length = 2 := rfl
    rw [marked, String.length_append, String.length_append, ih, two, Nat.succ_mul]
    omega

/-- The message tells how often the location is in front of it. -/
lemma marked_inj {location : Location} {message : String} {n n' : Nat} :
    location.marked message n = location.marked message n' ↔ n = n' := by
  constructor
  · intro same
    have lengths := congrArg String.length same
    rw [length_marked, length_marked, Nat.add_right_cancel_iff] at lengths
    exact Nat.eq_of_mul_eq_mul_right (Nat.zero_lt_succ _) lengths
  · rintro rfl
    rfl

end Location

/-- The error below all callbacks and contexts. -/
def Lua.Error.leaf : Lua.Error → Lua.Error
  | .callback _ cause => leaf cause
  | .context _ cause => leaf cause
  | error => error

namespace Failure

/-! ### One decoration -/

/-- Decoration changes no frames. -/
lemma decorate_frames (failure : Failure) : failure.decorate.frames = failure.frames := by
  unfold decorate
  split
  · rfl
  · split <;> rfl

/-- Decoration keeps the caller. -/
lemma decorate_callerLocation? (failure : Failure) :
    failure.decorate.callerLocation? = failure.callerLocation? := by
  unfold callerLocation?
  rw [decorate_frames]

/-- The position of a caller has a line. -/
lemma callerLocation?_line {failure : Failure} {location}
    (caller : failure.callerLocation? = some location) : location.line.isSome = true := by
  have found := List.find?_some caller
  rw [Bool.and_eq_true] at found
  exact found.2

/-- Where a caller is known, there are frames. -/
lemma frames_ne_nil {failure : Failure} {location}
    (caller : failure.callerLocation? = some location) : failure.frames ≠ [] := by
  intro none
  rw [callerLocation?, none] at caller
  cases caller

/-- Frames are kept if there are any. -/
lemma orFrames_of_ne_nil {failure : Failure} (frames : failure.frames ≠ []) (traceback : String) :
    failure.orFrames traceback = failure := by
  rw [orFrames, if_neg (by simpa using frames)]

/-- A traceback does not change the message. -/
lemma orFrames_message (failure : Failure) (traceback : String) :
    (failure.orFrames traceback).message = failure.message := by
  unfold orFrames
  split <;> rfl

/-- A decorated message is left alone. -/
lemma decorate_of_decorated {failure : Failure} (decorated : isDecorated failure.message = true) :
    failure.decorate = failure := by
  rw [decorate, if_pos decorated]

/-- Without a caller, the message is left alone. -/
lemma decorate_of_none {failure : Failure} (none : failure.callerLocation? = none) :
    failure.decorate = failure := by
  unfold decorate
  split
  · rfl
  · rw [none]

/-- A message that is not decorated gets the position of the caller. -/
lemma decorate_message {failure : Failure} {location}
    (caller : failure.callerLocation? = some location)
    (undecorated : isDecorated failure.message = false) :
    failure.decorate.message = location.text ++ ": " ++ failure.message := by
  rw [decorate, if_neg (by simp [undecorated]), caller]

/-- Decoration does nothing if the message is decorated or there is no caller, and only then. -/
lemma decorate_eq_self_iff (failure : Failure) :
    failure.decorate = failure ↔
      ∀ location, failure.callerLocation? = some location → isDecorated failure.message = true := by
  constructor
  · intro same location caller
    -- A position in front of it would make the message longer.
    by_contra undecorated
    have longer := decorate_message caller (Bool.eq_false_iff.mpr undecorated)
    rw [same] at longer
    have twice : location.marked failure.message 0 = location.marked failure.message 1 := longer
    exact absurd (Location.marked_inj.mp twice) (by decide)
  · intro decorated
    cases caller : failure.callerLocation? with
    | none => exact decorate_of_none caller
    | some location => exact decorate_of_decorated (decorated location caller)

/-! ### Several decorations -/

/-- How many of the callbacks that an error went through know the position of their caller. -/
def knownCallers : Lua.Error → Nat
  | .callback traceback cause =>
    knownCallers cause +
      if (ofError (.callback traceback cause)).callerLocation?.isSome then 1 else 0
  | .context _ cause => knownCallers cause
  | _ => 0

/-- How often a position comes in front of a message if several callbacks know it: never, if the
message is decorated; once at most, if the position is seen; else each time. -/
def copies (location : Location) (message : String) (n : Nat) : Nat :=
  if isDecorated message then 0 else if location.recognised then min 1 n else n

/-- No callback puts no position there. -/
lemma copies_zero (location : Location) (message : String) : copies location message 0 = 0 := by
  unfold copies
  split
  · rfl
  · split <;> rfl

/-- A message with its positions is decorated if it was so before or if a position was put there and
is seen. -/
lemma isDecorated_copies {location : Location} (line : location.line.isSome = true)
    (message : String) (n : Nat) :
    isDecorated (location.marked message (copies location message n)) =
      (isDecorated message || decide (0 < n) && location.recognised) := by
  unfold copies
  cases decorated : isDecorated message with
  | true => simp [decorated, Location.marked]
  | false =>
    have seen := Location.isDecorated_marked line decorated
    cases recognised : location.recognised with
    | true =>
      have once : 0 < min 1 n ↔ 0 < n := by omega
      simp [seen, recognised, once]
    | false => simp [seen, recognised]

/-- One more callback puts the position there, unless it is seen that it has been. -/
lemma copies_succ {location : Location} (line : location.line.isSome = true) (message : String)
    (n : Nat) :
    copies location message (n + 1) =
      copies location message n +
        if isDecorated (location.marked message (copies location message n)) then 0 else 1 := by
  rw [isDecorated_copies line]
  unfold copies
  cases isDecorated message with
  | true => rfl
  | false =>
    cases location.recognised with
    | true =>
      simp only [Bool.false_eq_true, if_false, if_true, Bool.false_or, Bool.and_true,
        decide_eq_true_eq]
      split <;> omega
    | false => simp

/-- A position comes once at most, unless it is not seen and several callbacks know it. -/
lemma copies_le_one_iff {location : Location} {message : String} {n : Nat} :
    copies location message n ≤ 1 ↔
      isDecorated message = true ∨ location.recognised = true ∨ n ≤ 1 := by
  unfold copies
  split
  case isTrue decorated => simp [decorated]
  case isFalse undecorated =>
    split
    case isTrue recognised => exact ⟨fun _ => .inr (.inl recognised), fun _ => Nat.min_le_left 1 n⟩
    case isFalse unseen => simp [undecorated, unseen]

/-- The message of a failure is another message, with the position of the caller in front of it as
often as it is put there by a number of callbacks that know it. -/
inductive Marked (failure : Failure) (message : String) : Nat → Prop where
  | unknown :
    failure.callerLocation? = none →
    failure.message = message →
    Marked failure message 0
  | known {location n} :
    failure.callerLocation? = some location →
    failure.message = location.marked message (copies location message n) →
    Marked failure message n

/-- Nothing is in front of a message that no callback has put there. -/
lemma Marked.zero {failure : Failure} {message} (e : failure.message = message) :
    failure.Marked message 0 := by
  cases caller : failure.callerLocation? with
  | none => exact .unknown caller e
  | some location =>
    refine .known caller ?_
    rw [copies_zero]
    exact e

/-- Decoration is one more callback that knows the position of its caller. -/
lemma Marked.decorate {failure : Failure} {message n} (h : failure.Marked message n) {location}
    (caller : failure.callerLocation? = some location) :
    failure.decorate.Marked message (n + 1) := by
  cases h with
  | unknown none _ =>
    rw [none] at caller
    cases caller
  | known caller' e =>
    obtain rfl := Option.some.inj (caller'.symm.trans caller)
    refine .known ((decorate_callerLocation? failure).trans caller) ?_
    rw [copies_succ (callerLocation?_line caller), ← e]
    cases decorated : isDecorated failure.message with
    | true =>
      rw [decorate_of_decorated decorated]
      exact e
    | false =>
      rw [decorate_message caller decorated, e]
      rfl

/-- How often the position of the caller is in front of the message of an error. -/
lemma ofError_marked (error : Lua.Error) :
    (ofError error).Marked (ofError error.leaf).message (knownCallers error) := by
  induction error with
  | callback traceback cause ih =>
    change (ofError (.callback traceback cause)).Marked (ofError cause.leaf).message
      (knownCallers (.callback traceback cause))
    have after : (ofError (.callback traceback cause)).callerLocation? =
        ((ofError cause).orFrames traceback).callerLocation? :=
      decorate_callerLocation? _
    rw [knownCallers, after, ofError]
    -- Either the frames were there before, or they come from the traceback of this callback.
    cases known : (ofError cause).callerLocation? with
    | some location =>
      rw [orFrames_of_ne_nil (frames_ne_nil known), known]
      exact ih.decorate known
    | none =>
      generalize knownCallers cause = n at ih ⊢
      cases ih with
      | known caller _ =>
        rw [known] at caller
        cases caller
      | unknown _ e =>
        rw [← orFrames_message _ traceback] at e
        cases caller : ((ofError cause).orFrames traceback).callerLocation? with
        | none =>
          rw [decorate_of_none caller]
          exact .unknown caller e
        | some location => exact (Marked.zero e).decorate caller
  | context _ cause ih => exact ih
  | _ => exact .zero rfl

/-- The position of the caller is in front of a message once at most. -/
def CarriesOnce (failure : Failure) (message : String) : Prop :=
  failure.message = message ∨
    ∃ location, failure.callerLocation? = some location ∧
      failure.message = location.text ++ ": " ++ message

/-- A marked message carries the position once at most if it is seen or put there once at most. -/
lemma Marked.carriesOnce_iff {failure : Failure} {message n} (h : failure.Marked message n) :
    failure.CarriesOnce message ↔ ∀ location, failure.callerLocation? = some location →
      isDecorated message = true ∨ location.recognised = true ∨ n ≤ 1 := by
  cases h with
  | unknown none e =>
    refine ⟨fun _ location caller => ?_, fun _ => .inl e⟩
    rw [none] at caller
    cases caller
  | known caller e =>
    rename_i location
    have only {location'} (caller' : failure.callerLocation? = some location') :
        location' = location :=
      Option.some.inj (caller'.symm.trans caller)
    have times : failure.CarriesOnce message ↔ copies location message n ≤ 1 := by
      have never := @Location.marked_inj location message (copies location message n) 0
      have single := @Location.marked_inj location message (copies location message n) 1
      rw [CarriesOnce, e, Nat.le_one_iff_eq_zero_or_eq_one, ← never, ← single]
      refine or_congr Iff.rfl ⟨?_, fun marked => ⟨location, caller, marked⟩⟩
      rintro ⟨location', caller', marked⟩
      rw [only caller'] at marked
      exact marked
    rw [times, copies_le_one_iff]
    constructor
    · rintro seen location' caller'
      rw [only caller']
      exact seen
    · exact fun seen => seen location caller

/-- One more callback around one that has frames changes nothing if the message is decorated or the
position is seen, and only then. -/
lemma ofError_callback_eq_iff {outer : String} {cause : Lua.Error}
    (frames : (ofError (.callback outer cause)).frames ≠ []) (traceback : String) :
    ofError (.callback traceback (.callback outer cause)) = ofError (.callback outer cause) ↔
      ∀ location, (ofError (.callback outer cause)).callerLocation? = some location →
        isDecorated (ofError cause.leaf).message = true ∨ location.recognised = true := by
  have marked := ofError_marked (.callback outer cause)
  have counted : knownCallers (.callback outer cause) = knownCallers cause +
      if (ofError (.callback outer cause)).callerLocation?.isSome then 1 else 0 := rfl
  rw [ofError, orFrames_of_ne_nil frames, decorate_eq_self_iff]
  generalize ofError (.callback outer cause) = failure at marked counted ⊢
  refine forall₂_congr fun location caller => ?_
  rw [caller, Option.isSome_some, if_pos rfl] at counted
  rw [counted] at marked
  cases marked with
  | known caller' e =>
    obtain rfl := Option.some.inj (caller'.symm.trans caller)
    rw [e, isDecorated_copies (callerLocation?_line caller), Bool.or_eq_true, Bool.and_eq_true]
    exact or_congr Iff.rfl (and_iff_right (decide_eq_true (Nat.succ_pos _)))

/-- The message of an error is that of its leaf, with the position of the caller in front of it once
at most: exactly if one callback at most knows the position, or if it is seen, be it in front of the
message or in the message of the leaf. And exactly if it is seen, one more callback around another
one that has frames changes nothing. A position whose source has no colon is seen. -/
theorem position_once_iff (error : Lua.Error) :
    let failure := ofError error
    let message := (ofError error.leaf).message
    (failure.CarriesOnce message ↔ ∀ location, failure.callerLocation? = some location →
      isDecorated message = true ∨ location.recognised = true ∨ knownCallers error ≤ 1) ∧
    (∀ traceback outer cause, error = .callback outer cause → failure.frames ≠ [] →
      (ofError (.callback traceback error) = failure ↔
        ∀ location, failure.callerLocation? = some location →
          isDecorated message = true ∨ location.recognised = true)) ∧
    ∀ location : Location, ':' ∉ location.source.toList → location.recognised = true := by
  intro failure message
  refine ⟨(ofError_marked error).carriesOnce_iff, ?_, fun _ => Location.recognised_of_not_mem⟩
  rintro traceback outer cause rfl frames
  exact ofError_callback_eq_iff frames traceback

/-- A callback fails in a chunk whose name has a colon, and another callback fails with it. -/
def refusal : Lua.Error :=
  .callback "stack traceback:\n\t[C]: in function 'pcall'\n\tmain.lua:9: in main chunk"
    (.callback "stack traceback:\n\t[C]: in function 'host.fail'\n\t[string \"a:b\"]:4: in main chunk"
      (.external "host refused"))

/-- The position of the caller comes twice. -/
theorem position_twice :
    (ofError refusal).message = "[string \"a:b\"]:4: [string \"a:b\"]:4: host refused" ∧
    (ofError refusal).callerLocation? = some ⟨"[string \"a:b\"]", some 4⟩ ∧
    ¬ (ofError refusal).CarriesOnce (ofError refusal.leaf).message := by
  have message : (ofError refusal).message =
      "[string \"a:b\"]:4: [string \"a:b\"]:4: host refused" := by
    decide
  have caller : (ofError refusal).callerLocation? = some ⟨"[string \"a:b\"]", some 4⟩ := by decide
  refine ⟨message, caller, ?_⟩
  rintro (same | ⟨location, caller', same⟩)
  · rw [message] at same
    exact absurd same (by decide)
  · obtain rfl := Option.some.inj (caller.symm.trans caller')
    rw [message] at same
    exact absurd same (by decide)

end Failure

end LuaHost
