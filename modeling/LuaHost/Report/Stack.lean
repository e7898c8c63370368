import LuaHost.Failure.Frame

/-!
# The stack section of a report

Captured frames are shown as they are; without any, the failing line makes one frame; without that
the stack is unavailable.
-/

namespace LuaHost

/-- A frame ready for display. -/
structure ShownFrame where
  function : String
  location : String
  isErrorSite : Bool
  deriving DecidableEq, Repr

/-- The display form of a frame. -/
def ShownFrame.text (frame : ShownFrame) : String :=
  frame.function ++ " (" ++ frame.location ++ ")"

/-- The stack section. -/
inductive StackTrace where
  | captured (frames : List ShownFrame)
  | synthesized (frame : ShownFrame)
  | unavailable
  deriving DecidableEq, Repr

namespace StackTrace

/-- Shown for functions without a name. -/
def anonymousFunction : String := "<anonymous_function>"

/-- Shown for frames without a location. -/
def unknownLocation : String := "<unknown_location>"

/-- Shown as the function when only the line is known. -/
def scriptScope : String := "<script_scope>"

/-- The frames in display order. -/
def frames : StackTrace → List ShownFrame
  | .captured frames => frames
  | .synthesized frame => [frame]
  | .unavailable => []

/-- The frame where the error happened. -/
def errorSite? (trace : StackTrace) : Option ShownFrame :=
  trace.frames.find? ShownFrame.isErrorSite

/-- The display form of a captured frame. -/
def showFrame (isErrorSite : Bool) (frame : Frame) : ShownFrame :=
  { function := frame.name.getD anonymousFunction
    location := (frame.location.map Location.text).getD unknownLocation
    isErrorSite }

/-- The stack section for captured frames, or else for the failing line of a script. -/
def reconstruct (frames : List Frame) (line : Option UInt32) (script : String) : StackTrace :=
  match frames with
  | site :: callers => .captured (showFrame true site :: callers.map (showFrame false))
  | [] =>
    match line with
    | some line =>
      .synthesized
        { function := scriptScope
          location := (Location.mk script (some line)).text
          isErrorSite := true }
    | none => .unavailable

end StackTrace

end LuaHost
