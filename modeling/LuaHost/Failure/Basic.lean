import LuaHost.Lua.Error

/-!
# Script failures

A failure is a message and the stack at the time, innermost frame first. Failures are made from
decorated texts and from interpreter errors; a message without a position gets that of its caller.
-/

namespace LuaHost

open LuaHost.Text

/-- A script failed. -/
structure Failure where
  message : String
  frames : List Frame := []
  deriving DecidableEq, Repr

namespace Failure

/-- The failure that a text with an optional traceback describes. -/
def ofDecorated (text : String) : Failure :=
  match splitFirst? Traceback.header.toList text.toList with
  | some (before, after) =>
    { message := String.ofList (trimEnd before)
      frames := Traceback.parse (String.ofList (Traceback.header.toList ++ after)) }
  | none => { message := String.ofList (trimEnd text.toList) }

/-- The position of the innermost script frame with a line. -/
def callerLocation? (failure : Failure) : Option Location :=
  (failure.frames.filterMap Frame.location).find? fun location =>
    !location.isNative && location.line.isSome

/-- The failure with the position of its caller in front of the message, unless it has a
position. -/
def decorate (failure : Failure) : Failure :=
  if isDecorated failure.message then failure
  else
    match failure.callerLocation? with
    | some location => { failure with message := location.text ++ ": " ++ failure.message }
    | none => failure

/-- The frames of the failure, or else those of a traceback. -/
def orFrames (failure : Failure) (traceback : String) : Failure :=
  if failure.frames.isEmpty then { failure with frames := Traceback.parse traceback } else failure

/-- The failure that an interpreter error amounts to. -/
def ofError : Lua.Error → Failure
  | .runtime message => ofDecorated message
  | .malformed message _ => ofDecorated message
  | .callback traceback cause => ((ofError cause).orFrames traceback).decorate
  | .context _ cause => ofError cause
  | other => { message := other.text }

end Failure

end LuaHost
