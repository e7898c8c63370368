import LuaHost.Proofs.Failure.Position

/-!
# The stack of an error

An error collects tracebacks on its way out of callbacks. The frames of its failure are those of the
first stack that has any, from the innermost outwards: a traceback without frames leaves the choice
to the next one. Contexts change nothing, and positions are only put in front of the message
(`ofError_layers`).
-/

namespace LuaHost

/-- The stacks that an error may be reported with, the innermost first: that of its leaf, then one
for each callback that it went through. -/
def Lua.Error.candidateStacks (error : Lua.Error) : List (List Frame) :=
  (Failure.ofError error.leaf).frames :: error.tracebacks.reverse.map Traceback.parse

namespace Failure

/-- The first stack that has frames; no frames if there is none. -/
def firstStack (candidates : List (List Frame)) : List Frame :=
  (candidates.find? fun frames => !frames.isEmpty).getD []

/-- Of one stack it is that one, be it empty or not. -/
lemma firstStack_singleton (frames : List Frame) : firstStack [frames] = frames := by
  cases frames with
  | nil => rfl
  | cons _ _ => rfl

/-- A stack after all others counts only if none of them has frames. -/
lemma firstStack_concat (candidates : List (List Frame)) (last : List Frame) :
    firstStack (candidates ++ [last]) =
      if (firstStack candidates).isEmpty then last else firstStack candidates := by
  induction candidates with
  | nil => exact firstStack_singleton last
  | cons frames candidates ih =>
    cases frames with
    | nil => exact ih
    | cons _ _ => rfl

/-- The frames of a traceback are taken where there are none. -/
lemma orFrames_frames (failure : Failure) (traceback : String) :
    (failure.orFrames traceback).frames =
      if failure.frames.isEmpty then Traceback.parse traceback else failure.frames := by
  unfold orFrames
  split <;> rfl

/-- A callback is one more stack, outside all others. -/
lemma candidateStacks_callback (traceback : String) (cause : Lua.Error) :
    (Lua.Error.callback traceback cause).candidateStacks =
      cause.candidateStacks ++ [Traceback.parse traceback] := by
  have layers :
      (Lua.Error.callback traceback cause).tracebacks = traceback :: cause.tracebacks := rfl
  have leaf : (Lua.Error.callback traceback cause).leaf = cause.leaf := rfl
  rw [Lua.Error.candidateStacks, layers, leaf, List.reverse_cons,
    List.map_append, ← List.cons_append]
  rfl

/-- The frames are those of the first stack that has any. -/
lemma ofError_frames (error : Lua.Error) :
    (ofError error).frames = firstStack error.candidateStacks := by
  induction error with
  | callback traceback cause ih =>
    rw [candidateStacks_callback, firstStack_concat, ← ih, ofError, decorate_frames,
      orFrames_frames]
  | context _ cause ih => exact ih
  | _ => exact (firstStack_singleton _).symm

/-- Decoration puts something in front of the message, or nothing. -/
lemma decorate_message_ends (failure : Failure) :
    ∃ front, failure.decorate.message = front ++ failure.message := by
  cases decorated : isDecorated failure.message with
  | true => exact ⟨"", by rw [decorate_of_decorated decorated, String.empty_append]⟩
  | false =>
    cases caller : failure.callerLocation? with
    | none => exact ⟨"", by rw [decorate_of_none caller, String.empty_append]⟩
    | some location => exact ⟨_, decorate_message caller decorated⟩

/-- Layers put something in front of the message of the leaf, or nothing. -/
lemma ofError_message_ends (error : Lua.Error) :
    ∃ front, (ofError error).message = front ++ (ofError error.leaf).message := by
  induction error with
  | callback traceback cause ih =>
    obtain ⟨front, e⟩ := ih
    obtain ⟨position, e'⟩ := decorate_message_ends ((ofError cause).orFrames traceback)
    refine ⟨position ++ front, ?_⟩
    rw [orFrames_message, e] at e'
    rw [ofError, e', String.append_assoc]
    rfl
  | context _ cause ih => exact ih
  | _ => exact ⟨"", String.empty_append.symm⟩

/-- An error that went through callbacks and contexts has the frames of the first stack that has
any, from that of its leaf to that of the last callback, and its message ends with that of its
leaf. -/
theorem ofError_layers (error : Lua.Error) :
    (ofError error).frames = firstStack error.candidateStacks ∧
    ∃ front, (ofError error).message = front ++ (ofError error.leaf).message :=
  ⟨ofError_frames error, ofError_message_ends error⟩

/-- A traceback of skipped lines only does not keep an outer one from being used. -/
example :
    (ofError
      (.callback "stack traceback:\n\tmain.lua:9: in main chunk"
        (.context "while buying" (.callback "stack traceback:\n\t(...tail calls...)"
          (.external "no gold"))))).frames =
      [{ name := some "main chunk", location := some ⟨"main.lua", some 9⟩ }] := by
  decide

end Failure

end LuaHost
